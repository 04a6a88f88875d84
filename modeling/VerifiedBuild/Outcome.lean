import VerifiedBuild.Statistics
/-!
# Outcomes and exit statuses

How far the proof engine got with one verification unit, and how a whole run ended. An engine can
give a code that stands for nothing; it is kept as a value of its own.
-/

namespace VerifiedBuild

inductive Outcome where
  | done
  | unresolved
  | illTyped
  /-- The unit is in order and can be put to the solver. -/
  | checked
  /-- The solver has answered. -/
  | solved
  | other (code : Int)
deriving DecidableEq, Repr, Inhabited

namespace Outcome

def name : Outcome → String
  | .done => "Done"
  | .unresolved => "ResolutionError"
  | .illTyped => "TypeCheckingError"
  | .checked => "ResolvedAndTypeChecked"
  | .solved => "VerificationCompleted"
  | .other _ => "Unknown"

/-- The engine finished its work: there was nothing to prove, or it was put to the solver. -/
def isFinished (outcome : Outcome) : Bool :=
  outcome = .done || outcome = .solved

/-- The outcome of several units so far, joined by that of the next: the first one that is not
finished stays. -/
def merge (current next : Outcome) : Outcome :=
  if current.isFinished ∧ next ≠ .solved then next else current

end Outcome

/-- A unit is verified when the engine finished and no fresh result is a failure. -/
def isProved (outcome : Outcome) (statistics : Statistics) : Bool :=
  outcome.isFinished && !statistics.anyFailure

inductive ExitStatus where
  | verified
  /-- The run did not get as far as the programs. -/
  | notStarted
  /-- The sources are in error, or the generated code was not built. -/
  | notCompiled
  | notVerified
  | notWritten
  | other (code : Int)
deriving DecidableEq, Repr, Inhabited

namespace ExitStatus

def ordinal : ExitStatus → Int
  | .verified => 0
  | .notStarted => 1
  | .notCompiled => 2
  | .notVerified => 3
  | .notWritten => 4
  | .other code => code

/-- The status of several programs so far, joined by that of the next: the last failure stays. -/
def merge (current next : ExitStatus) : ExitStatus :=
  if current ≠ next ∧ next ≠ .verified then next else current

def ofResults (verified fulfilled unwritten : Bool) : ExitStatus :=
  if !verified then .notVerified
  else if fulfilled then .verified
  else if unwritten then .notWritten
  else .notCompiled

/-- The exit code of the process. Unless verification errors count, only a run that did not get as
far as the programs has one other than zero. -/
def exitCode (status : ExitStatus) (countErrors : Bool) : Int :=
  if !countErrors && status ≠ .notStarted then 0 else status.ordinal

end ExitStatus

end VerifiedBuild
