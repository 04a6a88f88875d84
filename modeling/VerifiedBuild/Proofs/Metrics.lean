import VerifiedBuild.Proofs.Run

/-!
# The registry of metrics

What requests do to the registry. A disabled one stays as it is; in an enabled one counters are raised
by the requests that count, and durations are recorded when a phase ends.
-/

namespace VerifiedBuild

variable {K : Toolkit} {α : Type} {collaborators : Collaborators K}

/-! ## Counters -/

namespace NameMap

def raise (counters : NameMap UInt64) (key : String) (amount : UInt64) : NameMap UInt64 :=
  counters.alter key fun value => value.getD 0 + amount

/-- The value of a counter; one that does not exist counts nothing. -/
def count (counters : NameMap UInt64) (key : String) : UInt64 :=
  (counters.find? key).getD 0

theorem count_raise (counters : NameMap UInt64) (key other : String) (amount : UInt64) :
    (counters.raise key amount).count other =
      counters.count other + if other = key then amount else 0 := by
  rw [count, raise, find?_alter, count]
  split
  next same => rw [same, Option.getD_some]
  next => rw [UInt64.add_zero]

theorem find?_raise_of_ne {counters : NameMap UInt64} {key other : String} (apart : other ≠ key)
    (amount : UInt64) : (counters.raise key amount).find? other = counters.find? other := by
  rw [raise, find?_alter, if_neg apart]

end NameMap

theorem Metrics.increment_of_enabled {metrics : Metrics} (enabled : metrics.enabled) (key : String)
    (amount : UInt64) :
    metrics.increment key amount = { metrics with counters := metrics.counters.raise key amount } :=
  if_pos enabled

theorem Metrics.increment_of_disabled {metrics : Metrics} (disabled : metrics.enabled = false)
    (key : String) (amount : UInt64) : metrics.increment key amount = metrics := by
  simp [increment, disabled]

theorem Metrics.recordPhase_of_disabled {metrics : Metrics} (disabled : metrics.enabled = false)
    (phase : Phase) (nanoseconds : UInt64) : metrics.recordPhase phase nanoseconds = metrics := by
  simp [recordPhase, disabled]

/-! ## Requests -/

def Request.isUnmeasured : Request K → Bool
  | .startPhase _ | .stopPhase | .count _ _ => false
  | _ => true

namespace Machine

variable (machine : Machine K)

@[simp] theorem metrics_updateLog : machine.updateLog.metrics = machine.metrics := by
  unfold updateLog
  split <;> rfl

@[simp] theorem timing_updateLog : machine.updateLog.timing = machine.timing := by
  unfold updateLog
  split <;> rfl

theorem metrics_perform (collaborators : Collaborators K) (request : Request K) :
    (machine.perform collaborators request).2.metrics =
      (machine.answer collaborators request).2.metrics :=
  metrics_updateLog _

theorem timing_perform (collaborators : Collaborators K) (request : Request K) :
    (machine.perform collaborators request).2.timing =
      (machine.answer collaborators request).2.timing :=
  timing_updateLog _

theorem stopPhase_of_idle {machine : Machine K} (idle : machine.timing = none) :
    machine.stopPhase = machine := by
  rw [stopPhase, idle]

theorem metrics_stopPhase_of_disabled {machine : Machine K}
    (disabled : machine.metrics.enabled = false) : machine.stopPhase.metrics = machine.metrics := by
  unfold stopPhase
  split
  · rfl
  · exact Metrics.recordPhase_of_disabled disabled _ _

theorem unmeasured_perform (collaborators : Collaborators K) {request : Request K}
    (unmeasured : request.isUnmeasured) :
    (machine.perform collaborators request).2.metrics = machine.metrics ∧
      (machine.perform collaborators request).2.timing = machine.timing := by
  rw [metrics_perform, timing_perform]
  cases request with
  | openLog path =>
      unfold answer
      dsimp only
      split <;> exact ⟨rfl, rfl⟩
  | startPhase phase => cases unmeasured
  | stopPhase => cases unmeasured
  | count key amount => cases unmeasured
  | _ => exact ⟨rfl, rfl⟩

theorem metrics_perform_of_disabled {machine : Machine K}
    (disabled : machine.metrics.enabled = false) (collaborators : Collaborators K)
    (request : Request K) :
    (machine.perform collaborators request).2.metrics = machine.metrics := by
  cases request with
  | startPhase phase =>
      rw [metrics_perform]
      exact metrics_stopPhase_of_disabled disabled
  | stopPhase =>
      rw [metrics_perform]
      exact metrics_stopPhase_of_disabled disabled
  | count key amount =>
      rw [metrics_perform]
      exact Metrics.increment_of_disabled disabled key amount
  | _ => exact (machine.unmeasured_perform collaborators rfl).1

end Machine

theorem Job.metrics_run_of_disabled (job : Job K α) {before : Machine K}
    (disabled : before.metrics.enabled = false) :
    (job.run collaborators before).2.metrics = before.metrics := by
  induction job generalizing before with
  | done value => rfl
  | fail failure => exact Machine.metrics_stopPhase_of_disabled disabled
  | ask request next ih =>
      have step := Machine.metrics_perform_of_disabled disabled collaborators request
      rw [run]
      generalize before.perform collaborators request = performed at step ⊢
      rw [← step] at disabled
      obtain ⟨failure | answer, middle⟩ := performed
      · exact (Machine.metrics_stopPhase_of_disabled disabled).trans step
      · exact (ih answer disabled).trans step

/-! ## Phases -/

def Metrics.phases (metrics : Metrics) : List Phase :=
  metrics.durations.map (·.1)

def Request.isSteady : Request K → Bool
  | .startPhase _ | .stopPhase => false
  | _ => true

theorem Metrics.phases_increment (metrics : Metrics) (key : String) (amount : UInt64) :
    (metrics.increment key amount).phases = metrics.phases ∧
      (metrics.increment key amount).enabled = metrics.enabled := by
  unfold increment
  split <;> exact ⟨rfl, rfl⟩

namespace Machine

variable (machine : Machine K)

theorem steady_perform (collaborators : Collaborators K) {request : Request K}
    (steady : request.isSteady) :
    (machine.perform collaborators request).2.timing = machine.timing ∧
      (machine.perform collaborators request).2.metrics.phases = machine.metrics.phases ∧
      (machine.perform collaborators request).2.metrics.enabled = machine.metrics.enabled := by
  by_cases unmeasured : request.isUnmeasured
  case pos =>
    obtain ⟨metrics, timing⟩ := machine.unmeasured_perform collaborators unmeasured
    exact ⟨timing, congrArg Metrics.phases metrics, congrArg Metrics.enabled metrics⟩
  case neg =>
    cases request with
    | count key amount =>
        obtain ⟨phases, enabled⟩ := machine.metrics.phases_increment key amount
        rw [metrics_perform, timing_perform]
        exact ⟨rfl, phases, enabled⟩
    | startPhase phase => cases steady
    | stopPhase => cases steady
    | _ => exact absurd rfl unmeasured

theorem perform_startPhase {machine : Machine K} (idle : machine.timing = none)
    (collaborators : Collaborators K) (phase : Phase) :
    (machine.perform collaborators (.startPhase phase)).2.timing = some (phase, machine.clock) ∧
      (machine.perform collaborators (.startPhase phase)).2.metrics = machine.metrics := by
  rw [metrics_perform, timing_perform]
  refine ⟨rfl, ?_⟩
  change machine.stopPhase.metrics = machine.metrics
  rw [stopPhase_of_idle idle]

theorem stopPhase_of_timing {machine : Machine K} {phase : Phase} {start : Nat}
    (timing : machine.timing = some (phase, start)) (enabled : machine.metrics.enabled) :
    machine.stopPhase.timing = none ∧
      machine.stopPhase.metrics.phases = machine.metrics.phases ++ [phase] ∧
      machine.stopPhase.metrics.enabled := by
  rw [stopPhase, timing]
  simp [Metrics.recordPhase, enabled, Metrics.addDuration, Metrics.phases]

theorem perform_stopPhase (collaborators : Collaborators K) :
    (machine.perform collaborators .stopPhase).2.timing = machine.stopPhase.timing ∧
      (machine.perform collaborators .stopPhase).2.metrics = machine.stopPhase.metrics := by
  rw [metrics_perform, timing_perform]
  exact ⟨rfl, rfl⟩

end Machine

/-! ## Jobs that count nothing -/

def Request.isCount : Request K → Bool
  | .count _ _ => true
  | _ => false

def Machine.SameCounters (before after : Machine K) : Prop :=
  after.metrics.counters = before.metrics.counters ∧
    after.metrics.enabled = before.metrics.enabled

namespace Machine

theorem sameCounters_self (machine : Machine K) : machine.SameCounters machine :=
  ⟨rfl, rfl⟩

theorem SameCounters.trans {first middle last : Machine K} (earlier : first.SameCounters middle)
    (later : middle.SameCounters last) : first.SameCounters last :=
  ⟨later.1.trans earlier.1, later.2.trans earlier.2⟩

theorem sameCounters_stopPhase (machine : Machine K) :
    machine.SameCounters machine.stopPhase := by
  unfold stopPhase
  split
  · exact machine.sameCounters_self
  · simp only [SameCounters, Metrics.recordPhase]
    split <;> exact ⟨rfl, rfl⟩

theorem sameCounters_perform (machine : Machine K) (collaborators : Collaborators K)
    {request : Request K} (uncounted : request.isCount = false) :
    machine.SameCounters (machine.perform collaborators request).2 := by
  rw [SameCounters, metrics_perform]
  cases request with
  | startPhase phase => exact machine.sameCounters_stopPhase
  | stopPhase => exact machine.sameCounters_stopPhase
  | count key amount => cases uncounted
  | _ =>
      rw [← metrics_perform, (machine.unmeasured_perform collaborators rfl).1]
      exact ⟨rfl, rfl⟩

end Machine

theorem Job.sameCounters_run {failures : Failure → Prop} {job : Job K α}
    (confined : job.Confined (·.isCount = false) failures) (before : Machine K) :
    before.SameCounters (job.run collaborators before).2 := by
  induction job generalizing before with
  | done value => exact before.sameCounters_self
  | fail failure => exact before.sameCounters_stopPhase
  | ask request next ih =>
      have step := before.sameCounters_perform collaborators confined.1
      rw [run]
      generalize before.perform collaborators request = performed at step ⊢
      obtain ⟨failure | answer, middle⟩ := performed
      · exact step.trans middle.sameCounters_stopPhase
      · exact step.trans (ih answer (confined.2 answer) middle)

end VerifiedBuild
