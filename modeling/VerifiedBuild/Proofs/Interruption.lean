import VerifiedBuild.Proofs.Make.Flat
import VerifiedBuild.Proofs.Reaching
import VerifiedBuild.Worker

/-!
# Interrupted runs

What becomes of a run when one of its calls raises a failure as soon as it is made. No part of a run
stops such a failure: up to the call the run is the one that would have gone on, and with the call
it is over. Nothing is shown or written on the way out, and no other program or unit is begun.
-/

namespace VerifiedBuild

variable {K : Toolkit} {α : Type} {collaborators : Collaborators K} {index : Nat}
  {failure : Failure}

/-- The collaborators, but the call that comes after `index` others raises a failure at once. -/
def Collaborators.interrupted (collaborators : Collaborators K) (index : Nat)
    (failure : Failure) : Collaborators K :=
  fun earlier toCall host =>
    if earlier.length = index then { host, result := .error failure }
    else collaborators earlier toCall host

/-! ## One request -/

namespace Machine

/-- The machine after a call that fails at once. -/
def failing (machine : Machine K) (toCall : Call K) (failure : Failure) : Machine K :=
  { machine.updateLog with history := machine.history ++ [⟨.call toCall, .error failure⟩] }

theorem perform_interrupted_of_ne {machine : Machine K} {request : Request K}
    (apart : request.call? = none ∨ machine.calls.length ≠ index) :
    machine.perform (collaborators.interrupted index failure) request =
      machine.perform collaborators request := by
  cases request with
  | call toCall =>
      have other : machine.calls.length ≠ index := by simpa [Request.call?] using apart
      simp only [perform, answer, Collaborators.interrupted, if_neg other]
  | _ => rfl

theorem perform_interrupted {machine : Machine K} (turn : machine.calls.length = index)
    (toCall : Call K) :
    machine.perform (collaborators.interrupted index failure) (.call toCall) =
      (.error failure, machine.failing toCall failure) := by
  simp only [perform, answer, Collaborators.interrupted, if_pos turn]
  rfl

@[simp] theorem console_failing (machine : Machine K) (toCall : Call K) (failure : Failure) :
    (machine.failing toCall failure).console = machine.console :=
  machine.console_updateLog

end Machine

/-! ## The way to the call -/

namespace Job

variable {job rest : Job K α} {before there : Machine K}

/-- Before the call is made the interrupted run takes the same way. -/
theorem Reaches.interrupted (reaches : job.Reaches collaborators before rest there)
    (within : there.calls.length ≤ index) :
    job.Reaches (collaborators.interrupted index failure) before rest there := by
  induction reaches with
  | here job machine => exact .here job machine
  | @ask request next machine after _ _ _ answered later ih =>
      have apart : request.call? = none ∨ machine.calls.length ≠ index := by
        have step := machine.calls_perform collaborators request
        rw [answered] at step
        have bound := later.calls_isPrefix.length_le
        cases called : request.call? with
        | none => exact .inl rfl
        | some toCall =>
            rw [called] at step
            simp only [Option.toList_some] at step
            rw [step, List.length_append, List.length_singleton] at bound
            exact .inr (by omega)
      refine .ask ?_ (ih within)
      rw [Machine.perform_interrupted_of_ne apart]
      exact answered

end Job

/-! ## The cut -/

/-- Requests of the run itself to put something into a file. -/
def Request.isFileWrite : Request K → Bool
  | .saveFile _ _ | .copyFile _ _ => true
  | _ => false

def Machine.fileWrites (machine : Machine K) : List (Event K) :=
  machine.history.filter (·.request.isFileWrite)

/-- `halt` is what is left of a run that comes to `full` when the call after `index` others raises
a failure: the calls up to this one, the text shown and the files written before it; and nothing is
requested after it. -/
structure Machine.CutFrom (halt full : Machine K) (index : Nat) (failure : Failure) : Prop where
  calls : halt.calls = full.calls.take (index + 1)
  shown : ∀ stream : Stream, ∃ rest, stream.text full.console.transcript =
    stream.text halt.console.transcript ++ rest
  written : halt.fileWrites <+: full.fileWrites
  last : ∃ earlier toCall answer later,
    full.history = earlier ++ ⟨.call toCall, answer⟩ :: later ∧
      halt.history = earlier ++ [⟨.call toCall, .error failure⟩]

theorem Console.Grows.text {before after : Console} (grows : before.Grows after)
    (stream : Stream) :
    ∃ rest, stream.text after.transcript = stream.text before.transcript ++ rest := by
  obtain ⟨more, whole⟩ := grows
  exact ⟨stream.text more, by rw [← whole, Stream.text_append]⟩

namespace Job

variable {job : Job K α} {before there : Machine K}

theorem Reaches.cutFrom {toCall : Call K} {next : toCall.Answer → Job K α}
    (reaches : job.Reaches collaborators before (.ask (.call toCall) next) there)
    (turn : there.calls.length = index) (failure : Failure) :
    (there.failing toCall failure).stopPhase.CutFrom (job.run collaborators before).2 index
      failure := by
  obtain ⟨answer, later, whole⟩ := history_ask collaborators there (.call toCall) next
  have ended : (there.failing toCall failure).stopPhase.history =
      there.history ++ [⟨.call toCall, .error failure⟩] :=
    (there.failing toCall failure).history_stopPhase
  rw [reaches.run_eq]
  constructor
  case calls =>
    rw [Machine.calls, Machine.calls, ended, whole]
    simp only [Event.calls, List.filterMap_append, ← turn, Machine.calls]
    simp [Request.call?, List.take_append]
  case shown =>
    rw [Machine.console_stopPhase, Machine.console_failing]
    exact (grows_run collaborators (.ask (.call toCall) next) there).text
  case written =>
    rw [Machine.fileWrites, Machine.fileWrites, ended, whole]
    simp [Request.isFileWrite]
  case last => exact ⟨there.history, toCall, answer, later, whole, ended⟩

theorem run_interrupted (failure : Failure) (begun : before.calls.length ≤ index)
    (reached : index < (job.run collaborators before).2.calls.length) :
    ∃ halt, job.run (collaborators.interrupted index failure) before = (.error failure, halt) ∧
      halt.CutFrom (job.run collaborators before).2 index failure := by
  obtain ⟨toCall, next, there, reaches, turn⟩ := exists_reaches_call begun reached
  refine ⟨(there.failing toCall failure).stopPhase, ?_, reaches.cutFrom turn failure⟩
  rw [(reaches.interrupted turn.le).run_eq, run, Machine.perform_interrupted turn]

end Job

/-! ## Interrupted runs -/

variable {config : Config} {files others : List Source} {before : Machine K}

theorem runRow_of_error {halt : Machine K}
    (ended : (makeAll config files others).run collaborators before = (.error failure, halt)) :
    RunRow collaborators config files others before (.error failure) halt := by
  obtain ⟨statuses, after, run, row⟩ := makeAll_runs collaborators config files others before
  obtain ⟨same, rfl⟩ := Prod.mk.inj (run.symm.trans ended)
  cases statuses with
  | ok values => cases same
  | error other =>
      cases same
      exact row

/-- When a call of a run raises a failure as it is made, this failure ends the run and the worker
around it; what is left is the run up to this call, and the row of programs ends with the one being
made. -/
theorem makeAll_cut (collaborators : Collaborators K) (config : Config)
    (files others : List Source) (before : Machine K) (failure : Failure) {index : Nat}
    (begun : before.calls.length ≤ index)
    (reached : index < ((makeAll config files others).run collaborators before).2.calls.length) :
    ∃ halt,
      (makeAll config files others).run (collaborators.interrupted index failure) before =
        (.error failure, halt) ∧
      (∀ stackSize, Worker.setUp stackSize = .ok () →
        Worker.run stackSize ((makeAll config files others).run
          (collaborators.interrupted index failure)) before = (.error failure, halt)) ∧
      halt.CutFrom ((makeAll config files others).run collaborators before).2 index failure ∧
      RunRow (collaborators.interrupted index failure) config files others before (.error failure)
        halt := by
  obtain ⟨halt, ended, cut⟩ := Job.run_interrupted failure begun reached
  refine ⟨halt, ended, ?_, cut, runRow_of_error ended⟩
  intro stackSize ready
  rw [Worker.run, ready]
  exact ended

/-- Two files, each verified on its own. -/
def Rehearsal.pairRun (collaborators : Collaborators toolkit) :
    Except Failure ExitStatus × Machine toolkit :=
  (makeAll { separately := true, compile := false }
    [{ path := "a.prf" }, { path := "b.prf" }] []).run collaborators
      { host := { store := .standard } }

/-- The second file is given up while it is translated. -/
theorem pairRun_cut :
    10 < (Rehearsal.pairRun (Rehearsal.collaborators .single)).2.calls.length ∧
      ∃ halt, Rehearsal.pairRun ((Rehearsal.collaborators .single).interrupted 10
          (.raised .general "no memory")) = (.error (.raised .general "no memory"), halt) ∧
        halt.CutFrom (Rehearsal.pairRun (Rehearsal.collaborators .single)).2 10
          (.raised .general "no memory") := by
  have reached : 10 < (Rehearsal.pairRun (Rehearsal.collaborators .single)).2.calls.length := by
    decide
  obtain ⟨halt, ended, -, cut, -⟩ := makeAll_cut (Rehearsal.collaborators .single)
    { separately := true, compile := false } [{ path := "a.prf" }, { path := "b.prf" }] []
    { host := { store := .standard } } (.raised .general "no memory") (Nat.zero_le 10) reached
  exact ⟨reached, halt, ended, cut⟩

end VerifiedBuild
