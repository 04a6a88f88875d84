import VerifiedBuild.Proofs.Aggregate.Order
import VerifiedBuild.Proofs.Make.Gate

/-!
# Verdicts and totals

A program is verified if all its units are, and its trailer shows the sums of what their results
counted. Sums of no failures show no failure. Sums of failures do as long as they do not wrap around
to zero, so below 2^64 what is shown is also what was decided.
-/

namespace VerifiedBuild

/-! ## Failures that are counted -/

namespace Statistics

def failureCounters : List (Statistics → UInt64) :=
  [(·.fresh.errors), (·.fresh.inconclusive), (·.fresh.timeouts), (·.fresh.outOfMemory)]

def freshCounters : List (Statistics → UInt64) :=
  (·.fresh.verified) :: failureCounters

theorem freshCounters_subset : freshCounters ⊆ counters := by
  simp [freshCounters, failureCounters, counters]

theorem failureCounters_subset : failureCounters ⊆ counters :=
  List.Subset.trans (List.subset_cons_self _ _) freshCounters_subset

theorem anyFailure_eq_false_iff_counters (statistics : Statistics) :
    statistics.anyFailure = false ↔ ∀ counter ∈ failureCounters, counter statistics = 0 := by
  simp [anyFailure_eq_false_iff, failureCounters]

theorem fresh_eq_iff (a b : Statistics) :
    a.fresh = b.fresh ↔ ∀ counter ∈ freshCounters, counter a = counter b := by
  obtain ⟨⟨⟩, _⟩ := a
  obtain ⟨⟨⟩, _⟩ := b
  simp [freshCounters, failureCounters]

/-- The line about cached results, if there are any. -/
def cachedLine (statistics : Statistics) : String :=
  if statistics.anyCached then "  cached: " ++ statistics.cached.describe ++ "\n" else ""

theorem trailer_eq (statistics : Statistics) :
    statistics.trailer = "\nproofc finished with " ++ statistics.fresh.describe ++ "\n" ++
      statistics.cachedLine :=
  rfl

theorem describe_of_unfailed {statistics : Statistics} (unfailed : statistics.anyFailure = false) :
    statistics.fresh.describe =
      toString statistics.fresh.verified.toNat ++ " verified, 0 errors" := by
  obtain ⟨errors, inconclusive, timeouts, outOfMemory⟩ :=
    (anyFailure_eq_false_iff statistics).mp unfailed
  have joined (count : String) : count ++ " verified, " ++ VerdictCounts.counted 0 "error" =
      count ++ " verified, 0 errors" := by
    rw [String.append_assoc]
    rfl
  rw [VerdictCounts.describe, errors, inconclusive, timeouts, outOfMemory, joined]
  simp [VerdictCounts.optionalPart]

theorem trailer_of_unfailed {statistics : Statistics} (unfailed : statistics.anyFailure = false) :
    statistics.trailer = "\nproofc finished with " ++ toString statistics.fresh.verified.toNat ++
      " verified, 0 errors" ++ "\n" ++ statistics.cachedLine := by
  rw [trailer_eq, describe_of_unfailed unfailed, ← String.append_assoc]

end Statistics

/-! ## Results of the engine -/

/-- The reports about units on which the engine gave these verdicts. -/
def UnitReport.ofVerdicts (verdicts : List (String × Verdict)) : List UnitReport :=
  verdicts.map fun (name, verdict) => .ofEngine name verdict.outcome verdict.statistics

/-- A verdict without what was taken from the cache. -/
def Verdict.uncached (verdict : Verdict) : Verdict :=
  { verdict with statistics.cached := {} }

namespace Aggregate

variable {verdicts others : List (String × Verdict)}

theorem names_ofVerdicts (verdicts : List (String × Verdict)) :
    (UnitReport.ofVerdicts verdicts).map (·.name) = verdicts.map (·.1) := by
  rw [UnitReport.ofVerdicts, List.map_map]
  rfl

theorem isFinished_ofVerdicts : (ofReports (UnitReport.ofVerdicts verdicts)).outcome.isFinished ↔
    ∀ verdict ∈ verdicts, verdict.2.outcome.isFinished := by
  rw [ofReports, UnitReport.ofVerdicts, Outcome.isFinished_foldl_merge, List.map_map,
    List.all_map]
  simp [Outcome.isFinished, UnitReport.ofEngine]

theorem verified_ofVerdicts : (ofReports (UnitReport.ofVerdicts verdicts)).verified ↔
    (ofReports (UnitReport.ofVerdicts verdicts)).outcome.isFinished ∧
      ∀ verdict ∈ verdicts, verdict.2.statistics.anyFailure = false := by
  rw [isFinished_ofVerdicts, ← forall₂_and, ofReports, UnitReport.ofVerdicts, List.all_map]
  simp [UnitReport.ofEngine, isProved_iff]

/-! ## Sums of failures -/

theorem counter_total_ofVerdicts {counter : Statistics → UInt64}
    (listed : counter ∈ Statistics.counters) (distinct : (verdicts.map (·.1)).Nodup) :
    (counter (ofReports (UnitReport.ofVerdicts verdicts)).total).toNat =
      (verdicts.map fun verdict => (counter verdict.2.statistics).toNat).sum % 2 ^ 64 := by
  rw [← names_ofVerdicts] at distinct
  rw [counter_total_ofReports listed distinct, UnitReport.ofVerdicts, List.map_map]
  rfl

theorem anyFailure_total_of_unfailed (distinct : (verdicts.map (·.1)).Nodup)
    (unfailed : ∀ verdict ∈ verdicts, verdict.2.statistics.anyFailure = false) :
    (ofReports (UnitReport.ofVerdicts verdicts)).total.anyFailure = false := by
  rw [Statistics.anyFailure_eq_false_iff_counters]
  intro counter listed
  have zero : (verdicts.map fun verdict => (counter verdict.2.statistics).toNat).sum = 0 := by
    rw [List.sum_eq_zero_iff_forall_eq_nat, List.forall_mem_map]
    intro verdict member
    have none := (Statistics.anyFailure_eq_false_iff_counters _).mp (unfailed verdict member)
    rw [none counter listed, UInt64.toNat_zero]
  apply UInt64.toNat_inj.mp
  rw [counter_total_ofVerdicts (Statistics.failureCounters_subset listed) distinct, zero,
    Nat.zero_mod, UInt64.toNat_zero]

/-- Sums that do not wrap around show every failure. -/
theorem unfailed_of_anyFailure_total (distinct : (verdicts.map (·.1)).Nodup)
    (exact : ∀ counter ∈ Statistics.failureCounters,
      (verdicts.map fun verdict => (counter verdict.2.statistics).toNat).sum < 2 ^ 64)
    (unfailed : (ofReports (UnitReport.ofVerdicts verdicts)).total.anyFailure = false) :
    ∀ verdict ∈ verdicts, verdict.2.statistics.anyFailure = false := by
  intro verdict member
  rw [Statistics.anyFailure_eq_false_iff_counters] at unfailed ⊢
  intro counter listed
  have zero := congrArg UInt64.toNat (unfailed counter listed)
  rw [counter_total_ofVerdicts (Statistics.failureCounters_subset listed) distinct,
    Nat.mod_eq_of_lt (exact counter listed), UInt64.toNat_zero,
    List.sum_eq_zero_iff_forall_eq_nat, List.forall_mem_map] at zero
  exact UInt64.toNat_inj.mp (zero verdict member)

example :
    let verdict : Verdict := { statistics.fresh.errors := 9223372036854775808 }
    let aggregate := ofReports (UnitReport.ofVerdicts [("fib.pv", verdict), ("sum.pv", verdict)])
    aggregate.total.anyFailure = false ∧ aggregate.verified = false := by
  decide

/-! ## Cached results -/

def SameFresh (verdicts others : List (String × Verdict)) : Prop :=
  others.map (Prod.map id Verdict.uncached) = verdicts.map (Prod.map id Verdict.uncached)

/-- What does not see cached results is the same of both lists. -/
theorem SameFresh.map_eq (same : SameFresh verdicts others) {α : Type}
    {seen : String × Verdict → α}
    (unseen : ∀ verdict, seen (Prod.map id Verdict.uncached verdict) = seen verdict) :
    others.map seen = verdicts.map seen := by
  have each (verdicts : List (String × Verdict)) :
      (verdicts.map (Prod.map id Verdict.uncached)).map seen = verdicts.map seen := by
    rw [List.map_map]
    exact List.map_congr_left fun verdict _ => unseen verdict
  rw [← each others, same, each]

theorem counter_uncached {counter : Statistics → UInt64}
    (listed : counter ∈ Statistics.freshCounters) (verdict : Verdict) :
    counter verdict.uncached.statistics = counter verdict.statistics := by
  simp only [Statistics.freshCounters, Statistics.failureCounters, List.mem_cons,
    List.not_mem_nil, or_false] at listed
  rcases listed with rfl | rfl | rfl | rfl | rfl <;> rfl

theorem SameFresh.verified (same : SameFresh verdicts others) :
    (ofReports (UnitReport.ofVerdicts others)).verified =
      (ofReports (UnitReport.ofVerdicts verdicts)).verified := by
  have verdict (verdicts : List (String × Verdict)) :
      (ofReports (UnitReport.ofVerdicts verdicts)).verified =
        (verdicts.map fun verdict => isProved verdict.2.outcome verdict.2.statistics).all id := by
    rw [ofReports, UnitReport.ofVerdicts, List.all_map, List.all_map]
    rfl
  rw [verdict, verdict, same.map_eq fun _ => rfl]

theorem SameFresh.outcome (same : SameFresh verdicts others) :
    (ofReports (UnitReport.ofVerdicts others)).outcome =
      (ofReports (UnitReport.ofVerdicts verdicts)).outcome := by
  have outcomes (verdicts : List (String × Verdict)) :
      (UnitReport.ofVerdicts verdicts).map (·.outcome) = verdicts.map (·.2.outcome) := by
    rw [UnitReport.ofVerdicts, List.map_map]
    rfl
  rw [ofReports, ofReports, outcomes, outcomes, same.map_eq fun _ => rfl]

theorem SameFresh.names (same : SameFresh verdicts others) :
    others.map (·.1) = verdicts.map (·.1) :=
  same.map_eq fun _ => rfl

theorem SameFresh.total (same : SameFresh verdicts others) (distinct : (verdicts.map (·.1)).Nodup) :
    (ofReports (UnitReport.ofVerdicts others)).total.fresh =
      (ofReports (UnitReport.ofVerdicts verdicts)).total.fresh := by
  have alsoDistinct : (others.map (·.1)).Nodup := same.names ▸ distinct
  rw [Statistics.fresh_eq_iff]
  intro counter listed
  apply UInt64.toNat_inj.mp
  have counted := Statistics.freshCounters_subset listed
  rw [counter_total_ofVerdicts counted alsoDistinct, counter_total_ofVerdicts counted distinct,
    same.map_eq fun verdict => congrArg UInt64.toNat (counter_uncached listed verdict.2)]

/-! ## Agreement -/

/-- The verdict of an aggregate and the total that is shown for it. -/
structure Agrees (verdicts : List (String × Verdict)) (aggregate : Aggregate) : Prop where
  finished : aggregate.verified → aggregate.outcome = .done ∨ aggregate.outcome = .solved
  unfailed : aggregate.verified → aggregate.total.anyFailure = false
  shown : aggregate.verified → ∀ {K : Toolkit} config (program : K.Program) fileName others,
    ∃ rest, concludeProgram config aggregate.outcome aggregate.byUnit program aggregate.verified
      fileName others = (do
        Job.write ("\nproofc finished with " ++
          toString aggregate.total.fresh.verified.toNat ++ " verified, 0 errors" ++ "\n" ++
          aggregate.total.cachedLine)
        rest)
  verified : aggregate.outcome = .done ∨ aggregate.outcome = .solved →
    aggregate.total.anyFailure = false →
    (∀ counter ∈ Statistics.failureCounters,
      (verdicts.map fun verdict => (counter verdict.2.statistics).toNat).sum < 2 ^ 64) →
    aggregate.verified

theorem isFinished_iff (outcome : Outcome) :
    outcome.isFinished ↔ outcome = .done ∨ outcome = .solved := by
  simp [Outcome.isFinished]

theorem concludeProgram_finished {K : Toolkit} {aggregate : Aggregate}
    (finished : aggregate.outcome.isFinished) (config : Config) (program : K.Program)
    (verified : Bool) (fileName : String) (others : List Source) :
    ∃ rest, concludeProgram config aggregate.outcome aggregate.byUnit program verified fileName
      others = (do Job.write aggregate.total.trailer; rest) := by
  rw [concludeProgram, finished]
  exact ⟨_, rfl⟩

theorem agrees_ofVerdicts (distinct : (verdicts.map (·.1)).Nodup) :
    Agrees verdicts (ofReports (UnitReport.ofVerdicts verdicts)) := by
  have unfailed (verified : (ofReports (UnitReport.ofVerdicts verdicts)).verified) :
      (ofReports (UnitReport.ofVerdicts verdicts)).total.anyFailure = false :=
    anyFailure_total_of_unfailed distinct (verified_ofVerdicts.mp verified).2
  constructor
  case finished =>
    exact fun verified => (isFinished_iff _).mp (verified_ofVerdicts.mp verified).1
  case unfailed => exact unfailed
  case shown =>
    intro verified K config program fileName others
    rw [← Statistics.trailer_of_unfailed (unfailed verified)]
    exact concludeProgram_finished (verified_ofVerdicts.mp verified).1 config program _ fileName
      others
  case verified =>
    intro finished unfailed exact
    exact verified_ofVerdicts.mpr
      ⟨(isFinished_iff _).mpr finished, unfailed_of_anyFailure_total distinct exact unfailed⟩

/-- The aggregate of what the engine found out about units of different names is verified exactly if
it is finished and its total shows no failure, as long as no sum of failures wraps around. What was
taken from a cache has no part in it. -/
theorem foldlM_add_agrees (distinct : (verdicts.map (·.1)).Nodup) :
    ∃ aggregate, (UnitReport.ofVerdicts verdicts).foldlM add {} = .ok aggregate ∧
      Agrees verdicts aggregate ∧
      ∀ others, SameFresh verdicts others →
        ∃ another, (UnitReport.ofVerdicts others).foldlM add {} = .ok another ∧
          another.verified = aggregate.verified ∧ another.outcome = aggregate.outcome ∧
          another.total.fresh = aggregate.total.fresh := by
  have added {verdicts : List (String × Verdict)} (distinct : (verdicts.map (·.1)).Nodup) :
      (UnitReport.ofVerdicts verdicts).foldlM add {} =
        .ok (ofReports (UnitReport.ofVerdicts verdicts)) := by
    rw [← names_ofVerdicts] at distinct
    exact foldlM_add_ofReports [] distinct
  refine ⟨_, added distinct, agrees_ofVerdicts distinct, fun others same => ?_⟩
  have alsoDistinct : (others.map (·.1)).Nodup := same.names ▸ distinct
  exact ⟨_, added alsoDistinct, same.verified, same.outcome, same.total distinct⟩

/-- Verified units with failures in the cache and a count of proofs that wraps around. -/
def provedVerdicts : List (String × Verdict) :=
  [("fib.pv", { statistics.fresh.verified := 18446744073709551615 }),
    ("max.pv", { outcome := .done, statistics.cached.timeouts := 2 }),
    ("sum.pv", { statistics.fresh.verified := 3, statistics.cached.errors := 1 })]

theorem provedVerdicts_agree :
    (provedVerdicts.map (·.1)).Nodup ∧
    ∃ aggregate, (UnitReport.ofVerdicts provedVerdicts).foldlM add {} = .ok aggregate ∧
      Agrees provedVerdicts aggregate ∧
      ∀ others, SameFresh provedVerdicts others →
        ∃ another, (UnitReport.ofVerdicts others).foldlM add {} = .ok another ∧
          another.verified = aggregate.verified ∧ another.outcome = aggregate.outcome ∧
          another.total.fresh = aggregate.total.fresh :=
  have distinct : (provedVerdicts.map (·.1)).Nodup := by decide
  ⟨distinct, foldlM_add_agrees distinct⟩

end Aggregate

end VerifiedBuild
