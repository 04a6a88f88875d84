import VerifiedBuild.Job
import VerifiedBuild.Store.Writer
/-!
# Machines

A machine answers the requests of a job. It holds the console, the host, the metrics and a clock,
and keeps the history of all requests with their answers. After each request the error lines that it
brought go to the log, if one is open. A job runs until it ends or a collaborator raises a failure;
either way a phase that is still being timed ends there.
-/

namespace VerifiedBuild

/-- An open log of error lines: the writer of its file, which is the one that the store holds open,
and how much of the transcript it has taken in. -/
structure OpenLog where
  writer : Writer := {}
  seen : Nat
deriving DecidableEq, Repr, Inhabited

structure Event (K : Toolkit) where
  request : Request K
  result : Except Failure request.Answer

structure Machine (K : Toolkit) where
  console : Console := {}
  host : Host
  metrics : Metrics := {}
  /-- The time passed in calls, in nanoseconds. -/
  clock : Nat := 0
  /-- The phase being timed, with the time it began. -/
  timing : Option (Phase × Nat) := none
  log : Option OpenLog := none
  history : List (Event K) := []

def Request.call? {K : Toolkit} : Request K → Option (Call K)
  | .call toCall => some toCall
  | _ => none

def Event.calls {K : Toolkit} (events : List (Event K)) : List (Call K) :=
  events.filterMap (·.request.call?)

namespace Machine

variable {K : Toolkit} {α : Type}

def calls (machine : Machine K) : List (Call K) :=
  Event.calls machine.history

def display (console : Console) : Channel × Diagnostic → Console
  | (.source, diagnostic) => console.report diagnostic
  | (.engine, diagnostic) => console.reportFromEngine diagnostic

def absorb (machine : Machine K) {toCall : Call K} (reply : Reply toCall) : Machine K :=
  let shown := reply.reports.foldl display machine.console
  let texts : List Emission := [⟨.out, reply.printed⟩, ⟨.childOut, reply.childOut⟩,
    ⟨.childErr, reply.childErr⟩]
  { machine with
    console := (texts.filter (·.text ≠ "")).foldl Console.add shown
    host := reply.host
    clock := machine.clock + reply.nanoseconds }

def stopPhase (machine : Machine K) : Machine K :=
  match machine.timing with
  | none => machine
  | some (phase, start) =>
      { machine with
        timing := none
        metrics := machine.metrics.recordPhase phase (UInt64.ofNat (machine.clock - start)) }

def setStore (machine : Machine K) (store : Store) : Machine K :=
  { machine with host := { machine.host with store } }

/-- Hand bytes of the log to the store, if the file is still there. -/
def withLog (machine : Machine K) (log : OpenLog)
    (action : Writer → Store → Place → Writer × Store) : Machine K :=
  let store := machine.host.store
  let (writer, after) := match store.held with
    | some place => action log.writer store place
    | none => (log.writer, store)
  { machine.setStore after with
    log := some { writer, seen := machine.console.transcript.length } }

def updateLog (machine : Machine K) : Machine K :=
  match machine.log with
  | none => machine
  | some log =>
      let fresh := machine.console.transcript.drop log.seen
      let lines := (fresh.filter (·.stream = .log 0)).map fun emission =>
        Octets.ofText emission.text
      machine.withLog log fun writer store place =>
        lines.foldl (fun (writer, store) line => writer.putLine store place line) (writer, store)

def closeLog (machine : Machine K) : Machine K :=
  match machine.log with
  | none => machine
  | some log =>
      let flushed := machine.withLog log fun writer store place => writer.handOver store place []
      { flushed.setStore { flushed.host.store with held := none } with
        log := none
        console := { machine.console with errorLog := none } }

def answer (machine : Machine K) (collaborators : Collaborators K) :
    (request : Request K) → Except Failure request.Answer × Machine K
  | .call toCall =>
      let reply := collaborators machine.calls toCall machine.host
      (reply.result, machine.absorb reply)
  | .write text => (.ok (), { machine with console := machine.console.write text })
  | .errorLine line => (.ok (), { machine with console := machine.console.errorLine line })
  | .look => (.ok machine.host, machine)
  | .errorCount => (.ok machine.console.tally.errors, machine)
  | .restartTally => (.ok (), { machine with console := { machine.console with tally := {} } })
  | .saveFile path text =>
      let (error, store) := machine.host.store.write path text
      (.ok error, machine.setStore store)
  | .copyFile source destination =>
      let (error, store) := machine.host.store.copy source destination
      (.ok error, machine.setStore store)
  | .openLog path =>
      match machine.host.store.openForWriting path with
      | .error _ => (.ok false, machine)
      | .ok (store, place) =>
          (.ok true, { machine.setStore { store with held := some place } with
            log := some { seen := machine.console.transcript.length }
            console := { machine.console with errorLog := some 0 } })
  | .startPhase phase =>
      (.ok (), { machine.stopPhase with timing := some (phase, machine.clock) })
  | .stopPhase => (.ok (), machine.stopPhase)
  | .count key amount =>
      (.ok (), { machine with metrics := machine.metrics.increment key amount })
  | .clock => (.ok machine.clock, machine)

def perform (machine : Machine K) (collaborators : Collaborators K) (request : Request K) :
    Except Failure request.Answer × Machine K :=
  let (result, answered) := machine.answer collaborators request
  let after := answered.updateLog
  (result, { after with history := machine.history ++ [⟨request, result⟩] })

end Machine

namespace Job

variable {K : Toolkit} {α β : Type}

def run (collaborators : Collaborators K) (job : Job K α) (machine : Machine K) :
    Except Failure α × Machine K :=
  match job with
  | .done value => (.ok value, machine)
  | .fail failure => (.error failure, machine.stopPhase)
  | .ask request next =>
      match machine.perform collaborators request with
      | (.ok answer, after) => (next answer).run collaborators after
      | (.error failure, after) => (.error failure, after.stopPhase)

theorem run_pure (collaborators : Collaborators K) (value : α) (machine : Machine K) :
    (pure value : Job K α).run collaborators machine = (.ok value, machine) :=
  rfl

theorem run_bind (collaborators : Collaborators K) (job : Job K α) (next : α → Job K β)
    (machine : Machine K) :
    (job >>= next).run collaborators machine =
      match job.run collaborators machine with
      | (.ok value, after) => (next value).run collaborators after
      | (.error failure, after) => (.error failure, after) := by
  change (job.andThen next).run collaborators machine = _
  induction job generalizing machine with
  | done value => rfl
  | fail failure => rfl
  | ask request rest ih =>
      simp only [andThen, run]
      split
      · exact ih _ _
      · rfl

end Job

end VerifiedBuild
