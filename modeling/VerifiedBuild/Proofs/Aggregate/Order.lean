import Mathlib
import VerifiedBuild.Generation
import VerifiedBuild.Proofs.Aggregate

/-!
# The order of reports

Reports of different names come to aggregates that lead to the same decision, in whatever order they
are recorded. The outcome itself can differ: of several units that are not finished the first one
counts. No program with such an outcome is built, and none has a trailer.
-/

namespace VerifiedBuild

/-! ## Counters -/

namespace Statistics

def counters : List (Statistics → UInt64) :=
  [(·.fresh.verified), (·.fresh.errors), (·.fresh.inconclusive), (·.fresh.timeouts),
    (·.fresh.outOfMemory), (·.cached.verified), (·.cached.errors), (·.cached.inconclusive),
    (·.cached.timeouts), (·.cached.outOfMemory)]

variable {counter : Statistics → UInt64}

theorem counter_empty (listed : counter ∈ counters) : counter {} = 0 := by
  simp only [counters, List.mem_cons, List.not_mem_nil, or_false] at listed
  rcases listed with rfl | rfl | rfl | rfl | rfl | rfl | rfl | rfl | rfl | rfl <;> rfl

theorem counter_add (listed : counter ∈ counters) (a b : Statistics) :
    counter (a + b) = counter a + counter b := by
  simp only [counters, List.mem_cons, List.not_mem_nil, or_false] at listed
  rcases listed with rfl | rfl | rfl | rfl | rfl | rfl | rfl | rfl | rfl | rfl <;> rfl

theorem counter_foldl_add (listed : counter ∈ counters) (all : List Statistics)
    (start : Statistics) : (counter (all.foldl (· + ·) start)).toNat =
      ((counter start).toNat + (all.map fun each => (counter each).toNat).sum) % 2 ^ 64 := by
  induction all generalizing start with
  | nil => exact (Nat.mod_eq_of_lt (counter start).toNat_lt).symm
  | cons each rest ih =>
      rw [List.foldl_cons, ih, counter_add listed, UInt64.toNat_add, Nat.mod_add_mod, Nat.add_assoc,
        List.map_cons, List.sum_cons]

theorem counter_total (listed : counter ∈ counters) (byUnit : NameMap Statistics) :
    (counter (total byUnit)).toNat =
      (byUnit.values.map fun each => (counter each).toNat).sum % 2 ^ 64 := by
  rw [total, counter_foldl_add listed, counter_empty listed, UInt64.toNat_zero, Nat.zero_add]

end Statistics

/-! ## Decisions -/

theorem CodeMode.select_of_unfinished {outcome : Outcome} (unfinished : outcome.isFinished = false)
    (verified : Bool) (config : Config) : select outcome verified config = .nothing := by
  cases outcome with
  | done | solved => cases unfinished
  | _ => rfl

namespace Aggregate

/-- Neither aggregate can be told from the other by what is done with the program. -/
structure Interchangeable (first second : Aggregate) : Prop where
  byUnit : first.byUnit = second.byUnit
  verified : first.verified = second.verified
  total : first.total = second.total
  outcome : first.outcome = second.outcome ∨
    first.outcome.isFinished = false ∧ second.outcome.isFinished = false
  mode : ∀ verified config,
    CodeMode.select first.outcome verified config = CodeMode.select second.outcome verified config
  conclusion : ∀ {K : Toolkit} config (program : K.Program) verified fileName others,
    concludeProgram config first.outcome first.byUnit program verified fileName others =
      concludeProgram config second.outcome second.byUnit program verified fileName others

theorem interchangeable_of_outcome {first second : Aggregate}
    (byUnit : first.byUnit = second.byUnit) (verified : first.verified = second.verified)
    (outcome : first.outcome = second.outcome ∨
      first.outcome.isFinished = false ∧ second.outcome.isFinished = false) :
    Interchangeable first second := by
  refine ⟨byUnit, verified, congrArg Statistics.total byUnit, outcome, ?mode, ?conclusion⟩
  case mode =>
    intro _ config
    rcases outcome with same | ⟨unfinished, alsoUnfinished⟩
    · rw [same]
    · rw [CodeMode.select_of_unfinished unfinished, CodeMode.select_of_unfinished alsoUnfinished]
  case conclusion =>
    intro _ config program _ fileName others
    rcases outcome with same | ⟨unfinished, alsoUnfinished⟩
    · rw [same, byUnit]
    · rw [concludeProgram, concludeProgram, unfinished, alsoUnfinished]
      rfl

variable {reports others : List UnitReport}

theorem byUnit_ofReports_eq_of_perm (distinct : (reports.map (·.name)).Nodup)
    (reordered : others.Perm reports) : (ofReports others).byUnit = (ofReports reports).byUnit := by
  refine NameMap.ofList_eq_of_perm ?_ (reordered.map _)
  rw [List.map_map]
  exact distinct

theorem outcome_ofReports_of_perm (reordered : others.Perm reports) :
    (ofReports others).outcome = (ofReports reports).outcome ∨
      (ofReports others).outcome.isFinished = false ∧
        (ofReports reports).outcome.isFinished = false := by
  have outcomes := reordered.map (·.outcome)
  have finished : (ofReports others).outcome.isFinished =
      (ofReports reports).outcome.isFinished := by
    rw [ofReports, ofReports, Outcome.isFinished_foldl_merge, Outcome.isFinished_foldl_merge,
      outcomes.all_eq]
  have solved : (ofReports others).outcome = .solved ↔ (ofReports reports).outcome = .solved := by
    rw [ofReports, ofReports, Outcome.foldl_merge_eq_solved_iff, Outcome.foldl_merge_eq_solved_iff]
    simp only [outcomes.mem_iff]
  -- Only two outcomes are finished, and they are told apart by whether they are `solved`.
  by_cases ended : (ofReports reports).outcome.isFinished
  case neg => exact .inr ⟨by simpa [finished] using ended, by simpa using ended⟩
  case pos =>
    left
    by_cases all : (ofReports reports).outcome = .solved
    · rw [all, solved.mpr all]
    · rw [(Outcome.eq_done_iff _).mpr ⟨ended, all⟩,
        (Outcome.eq_done_iff _).mpr ⟨finished.trans ended, mt solved.mp all⟩]

theorem interchangeable_ofReports (distinct : (reports.map (·.name)).Nodup)
    (reordered : others.Perm reports) : Interchangeable (ofReports others) (ofReports reports) :=
  interchangeable_of_outcome (byUnit_ofReports_eq_of_perm distinct reordered) reordered.all_eq
    (outcome_ofReports_of_perm reordered)

theorem counter_total_ofReports {counter : Statistics → UInt64}
    (listed : counter ∈ Statistics.counters) (distinct : (reports.map (·.name)).Nodup) :
    (counter (ofReports reports).total).toNat =
      (reports.map fun report => (counter report.statistics).toNat).sum % 2 ^ 64 := by
  have keys : ((reports.map fun report => (report.name, report.statistics)).map (·.1)).Nodup := by
    rw [List.map_map]
    exact distinct
  have entered := (NameMap.perm_entries_ofList keys).map (·.2)
  rw [List.map_map] at entered
  rw [total, Statistics.counter_total listed]
  congr 1
  exact ((entered.map fun each => (counter each).toNat).trans (by rw [List.map_map]; rfl)).sum_nat

/-- Of reports with different names neither the decision about the program nor what is said about it
depends on their order, and each counter is the sum over all of them, modulo 2^64. -/
theorem foldlM_add_interchangeable (distinct : (reports.map (·.name)).Nodup)
    (reordered : others.Perm reports) :
    ∃ first second, others.foldlM add {} = .ok first ∧ reports.foldlM add {} = .ok second ∧
      Interchangeable first second ∧
      ∀ order : List UnitReport, order.Perm reports → ∀ counter ∈ Statistics.counters,
        (counter first.total).toNat =
          (order.map fun report => (counter report.statistics).toNat).sum % 2 ^ 64 := by
  have alike {order : List UnitReport} (permuted : order.Perm reports) :
      (order.map (·.name)).Nodup := (permuted.map _).nodup_iff.mpr distinct
  have interchangeable := interchangeable_ofReports distinct reordered
  refine ⟨ofReports others, ofReports reports, foldlM_add_ofReports [] (alike reordered),
    foldlM_add_ofReports [] distinct, interchangeable, ?_⟩
  intro order permuted counter listed
  rw [interchangeable.total, ← (interchangeable_ofReports distinct permuted).total]
  exact counter_total_ofReports listed (alike permuted)

/-- Two units in error, of which the first one counts, and counters that wrap around. -/
def erroneousReports : List UnitReport :=
  [{ name := "fib.pv", outcome := .solved, statistics.fresh.verified := 3, verified := true },
    { name := "sum.pv", outcome := .illTyped, statistics.cached.errors := 1 },
    { name := "max.pv", outcome := .unresolved, statistics.fresh.verified := 18446744073709551615 }]

theorem erroneousReports_interchangeable :
    (erroneousReports.map (·.name)).Nodup ∧ erroneousReports.reverse.Perm erroneousReports ∧
    ∃ first second, erroneousReports.reverse.foldlM add {} = .ok first ∧
      erroneousReports.foldlM add {} = .ok second ∧ Interchangeable first second ∧
      ∀ order : List UnitReport, order.Perm erroneousReports → ∀ counter ∈ Statistics.counters,
        (counter first.total).toNat =
          (order.map fun report => (counter report.statistics).toNat).sum % 2 ^ 64 :=
  have distinct : (erroneousReports.map (·.name)).Nodup := by decide
  have reordered : erroneousReports.reverse.Perm erroneousReports := List.reverse_perm _
  ⟨distinct, reordered, foldlM_add_interchangeable distinct reordered⟩

end Aggregate

end VerifiedBuild
