import VerifiedBuild.Proofs.Make.Completion
import VerifiedBuild.Proofs.Make.Counters

/-!
# What the metrics of a run say

The phases recorded are those that the calls open, and each counter counts what it is named after,
modulo `2 ^ 64`: the units of the translations and the runs of units that were completed, and the
builds that went well. That holds of every run, also of one that a failure ends.
-/

namespace VerifiedBuild

variable {K : Toolkit} {collaborators : Collaborators K} {config : Config}

/-! ## Sums over stages -/

def Increment.amount (key : String) : Option Increment → Nat
  | some (raised, amount) => if raised = key then amount else 0
  | none => 0

theorem NameMap.count_raiseBy (counters : NameMap UInt64) (increment : Option Increment)
    (key : String) :
    (counters.raiseBy increment).count key =
      counters.count key + UInt64.ofNat (Increment.amount key increment) := by
  cases increment with
  | none => exact (UInt64.add_zero _).symm
  | some raise =>
      obtain ⟨raised, amount⟩ := raise
      rw [raiseBy, count_raise, Increment.amount]
      by_cases same : raised = key
      · rw [if_pos same.symm, if_pos same]
      · rw [if_neg (Ne.symm same), if_neg same]
        rfl

namespace Stage

theorem count_countAll (stages : List Stage) (counters : NameMap UInt64) (key : String) :
    (countAll stages counters).count key = counters.count key +
      UInt64.ofNat ((stages.map fun stage => Increment.amount key stage.increment?).sum) := by
  induction stages generalizing counters with
  | nil => exact (UInt64.add_zero _).symm
  | cons stage rest ih =>
      have step := ih (counters.raiseBy stage.increment?)
      rw [counters.count_raiseBy, UInt64.add_assoc, ← UInt64.ofNat_add] at step
      exact step

def counterNames : List String :=
  ["units.verified", "units.failed", "translate.units", "native.builds"]

theorem mem_counterNames {stage : Stage} {increment : Increment}
    (raises : stage.increment? = some increment) : increment.1 ∈ counterNames := by
  cases stage with
  | translation result =>
      cases result with
      | error failure => cases raises
      | ok units =>
          cases raises
          simp [counterNames]
  | verification result =>
      cases result with
      | error failure => cases raises
      | ok report =>
          cases raises
          cases report.verified <;> simp [counterNames]
  | build result =>
      cases result with
      | error failure => cases raises
      | ok report =>
          simp only [increment?, ofBuild] at raises
          split at raises
          · cases raises
            simp [counterNames]
          · cases raises

theorem find?_countAll_of_not_mem {key : String} (other : key ∉ counterNames)
    (stages : List Stage) (counters : NameMap UInt64) :
    (countAll stages counters).find? key = counters.find? key := by
  induction stages generalizing counters with
  | nil => rfl
  | cons stage rest ih =>
      refine (ih (counters.raiseBy stage.increment?)).trans ?_
      cases raises : stage.increment? with
      | none => rfl
      | some increment =>
          have member := mem_counterNames raises
          obtain ⟨raised, amount⟩ := increment
          refine NameMap.find?_raise_of_ne ?_ _
          rintro rfl
          exact other member

theorem amounts (stage : Stage) :
    Increment.amount "units.verified" stage.increment? = stage.verified?.toList.count true ∧
      Increment.amount "units.failed" stage.increment? = stage.verified?.toList.count false ∧
      Increment.amount "translate.units" stage.increment? = stage.units?.toList.sum ∧
      Increment.amount "native.builds" stage.increment? = if stage.isBuilt then 1 else 0 := by
  rcases stage with (_ | units) | (_ | report) | (_ | report)
  case translation.ok => exact ⟨rfl, rfl, rfl, rfl⟩
  case verification.ok =>
    cases verified : report.verified <;>
      simp [increment?, ofReport, verified?, units?, isBuilt, verified, Increment.amount,
        Except.toOption]
  case build.ok =>
    cases ok : report.ok <;>
      simp [increment?, ofBuild, verified?, units?, isBuilt, ok, Increment.amount]
  all_goals exact ⟨rfl, rfl, rfl, rfl⟩

/-- The stages counted under a name are those of their kind. -/
theorem sums (stages : List Stage) :
    (stages.map fun stage => Increment.amount "units.verified" stage.increment?).sum =
        (stages.filterMap (·.verified?)).count true ∧
      (stages.map fun stage => Increment.amount "units.failed" stage.increment?).sum =
        (stages.filterMap (·.verified?)).count false ∧
      (stages.map fun stage => Increment.amount "translate.units" stage.increment?).sum =
        (stages.filterMap (·.units?)).sum ∧
      (stages.map fun stage => Increment.amount "native.builds" stage.increment?).sum =
        stages.countP (·.isBuilt) := by
  simp only [List.filterMap_eq_flatMap_toList]
  induction stages with
  | nil => exact ⟨rfl, rfl, rfl, rfl⟩
  | cons stage rest ih =>
      obtain ⟨verified, failed, units, builds⟩ := ih
      obtain ⟨verifies, fails, translates, built⟩ := stage.amounts
      simp only [List.map_cons, List.sum_cons, List.flatMap_cons, List.count_append, List.sum_append,
        List.countP_cons]
      refine ⟨?_, ?_, ?_, ?_⟩
      · rw [verifies, verified]
      · rw [fails, failed]
      · rw [translates, units]
      · rw [built, builds, Nat.add_comm]

end Stage

/-! ## Whole runs -/

/-- What the metrics say of a run that makes these calls. -/
structure Metrics.Account (metrics : Metrics) (made : List (Exchange K)) : Prop where
  phases : metrics.phases = Exchange.phases made
  verified : metrics.counters.count "units.verified" =
    UInt64.ofNat ((Exchange.verdicts made).count true)
  failed : metrics.counters.count "units.failed" =
    UInt64.ofNat ((Exchange.verdicts made).count false)
  units : metrics.counters.count "translate.units" = UInt64.ofNat (Exchange.translations made).sum
  builds : metrics.counters.count "native.builds" = UInt64.ofNat (made.countP (·.isBuilt))
  others : ∀ key ∉ Stage.counterNames, metrics.counters.find? key = none

theorem Proceeds.account {before after : Machine K} {made : List (Exchange K)}
    {stages : List Stage} (proceeds : Proceeds collaborators config before made stages after)
    (reset : before.metrics = { enabled := true })
    (phases : after.metrics.phases = Exchange.phases made) : after.metrics.Account made := by
  have enabled : before.metrics.enabled := by rw [reset]
  have counted (key : String) : after.metrics.counters.count key =
      UInt64.ofNat ((stages.map fun stage => Increment.amount key stage.increment?).sum) := by
    rw [proceeds.counters enabled, Stage.count_countAll, reset]
    exact UInt64.zero_add _
  have attests := proceeds.attests
  obtain ⟨translations, verdicts⟩ := attests.readings
  obtain ⟨verified, failed, units, builds⟩ := Stage.sums stages
  constructor
  case phases => exact phases
  case verified => rw [counted, verdicts, verified]
  case failed => rw [counted, verdicts, failed]
  case units => rw [counted, translations, units]
  case builds => rw [counted, attests.builds, builds]
  case others =>
    intro key other
    rw [proceeds.counters enabled, Stage.find?_countAll_of_not_mem other, reset]
    rfl

def Machine.metered (machine : Machine K) : Machine K :=
  { machine with metrics := { enabled := true }, timing := none }

/-- After a run, however it ends, an enabled registry holds the phases that its calls opened and
counts its completed stages, which its calls show; a disabled one is what it was. -/
theorem makeAll_account (collaborators : Collaborators K) (config : Config)
    (files others : List Source) (before : Machine K) :
    (∃ result after made stages,
      (makeAll config files others).Runs collaborators before.metered result made after ∧
      Proceeds collaborators config before.metered made stages after ∧
      Exchange.translations made = stages.filterMap (·.units?) ∧
      Exchange.verdicts made = stages.filterMap (·.verified?) ∧
      after.metrics.Account made) ∧
    ∀ metrics : Metrics,
      ((makeAll config files others).run collaborators
        { before with metrics := { metrics with enabled := false } }).2.metrics =
        { metrics with enabled := false } := by
  constructor
  · obtain ⟨result, after, made, stages, runs, proceeds⟩ :=
      staged_makeAll collaborators config files others before.metered
    obtain ⟨phases, moves, -⟩ := clocked_makeAll collaborators config files others
      (rfl : before.metered.timing = none) rfl
    rw [runs.ends] at moves
    obtain ⟨others, makes, rfl⟩ := moves.opened
    obtain rfl := List.append_cancel_left (runs.makes.symm.trans makes)
    have account := proceeds.account rfl (moves.recorded.trans (List.nil_append _))
    obtain ⟨translations, verdicts⟩ := proceeds.attests.readings
    exact ⟨result, after, made, stages, runs, proceeds, translations, verdicts, account⟩
  · intro metrics
    exact Job.metrics_run_of_disabled _ rfl

end VerifiedBuild
