import VerifiedBuild.Toolchain
import VerifiedBuild.Metrics
import VerifiedBuild.Console
/-!
# Jobs

A job is what a run does, as a tree of requests: each request says what is wanted, and the rest of
the job depends on the answer. Requests go to the collaborators, to the console, to the files and to
the metrics. Nothing here decides how they are answered; that is left to the machine a job runs on.
-/

namespace VerifiedBuild

inductive Request (K : Toolkit) where
  | call (toCall : Call K)
  | write (text : String)
  /-- Put a line on the error stream and on the log. -/
  | errorLine (line : String)
  | look
  | errorCount
  /-- Begin to count diagnostics from zero. -/
  | restartTally
  | saveFile (path text : String)
  | copyFile (source destination : String)
  /-- Open a file that gets a copy of all error lines. -/
  | openLog (path : String)
  | startPhase (phase : Phase)
  | stopPhase
  | count (key : String) (amount : UInt64)
  /-- Read the clock, in nanoseconds. -/
  | clock

@[reducible] def Request.Answer {K : Toolkit} : Request K → Type
  | .call toCall => toCall.Answer
  | .write _ => Unit
  | .errorLine _ => Unit
  | .look => Host
  | .errorCount => Nat
  | .restartTally => Unit
  | .saveFile _ _ => Option WriteError
  | .copyFile _ _ => Option FileError
  | .openLog _ => Bool
  | .startPhase _ => Unit
  | .stopPhase => Unit
  | .count _ _ => Unit
  | .clock => Nat

inductive Job (K : Toolkit) (α : Type) where
  | done (value : α)
  | fail (failure : Failure)
  | ask (request : Request K) (next : request.Answer → Job K α)

namespace Job

variable {K : Toolkit} {α β γ : Type}

def andThen (job : Job K α) (next : α → Job K β) : Job K β :=
  match job with
  | .done value => next value
  | .fail failure => .fail failure
  | .ask request rest => .ask request fun answer => (rest answer).andThen next

instance : Monad (Job K) where
  pure := .done
  bind := andThen

theorem andThen_done (job : Job K α) : job.andThen .done = job := by
  induction job with
  | done value => rfl
  | fail failure => rfl
  | ask request next ih => exact congrArg (Job.ask request) (funext ih)

theorem andThen_assoc (job : Job K α) (first : α → Job K β) (second : β → Job K γ) :
    (job.andThen first).andThen second = job.andThen fun value => (first value).andThen second := by
  induction job with
  | done value => rfl
  | fail failure => rfl
  | ask request next ih => exact congrArg (Job.ask request) (funext ih)

instance : LawfulMonad (Job K) :=
  LawfulMonad.mk' _ andThen_done (fun _ _ => rfl) andThen_assoc

/-! ## Single requests -/

def request (request : Request K) : Job K request.Answer :=
  .ask request .done

def call (toCall : Call K) : Job K toCall.Answer :=
  request (.call toCall)

def write (text : String) : Job K Unit :=
  request (.write text)

def writeLine (line : String) : Job K Unit :=
  write (line ++ "\n")

def errorLine (line : String) : Job K Unit :=
  request (.errorLine line)

def errorLines (lines : List String) : Job K Unit :=
  lines.forM errorLine

def look : Job K Host :=
  request .look

def errorCount : Job K Nat :=
  request .errorCount

def clock : Job K Nat :=
  request .clock

def countOne (key : String) : Job K Unit :=
  request (.count key 1)

/-- Do a job as a timed phase. A failure ends the phase as well. -/
def timed (phase : Phase) (job : Job K α) : Job K α := do
  request (.startPhase phase)
  let value ← job
  request .stopPhase
  pure value

end Job

end VerifiedBuild
