import VerifiedBuild.Aggregate
import VerifiedBuild.Proofs.NameMap
import VerifiedBuild.Proofs.Outcome

/-!
# Aggregates of any reports

What an aggregate comes to when reports are recorded one after another, also when names occur
again. A report whose name is taken is refused and leaves no trace, so that the aggregate is that of
the first report of each name.
-/

namespace VerifiedBuild

/-! ## Reports with different names -/

namespace Aggregate

def ofReports (reports : List UnitReport) : Aggregate where
  verified := reports.all (·.verified)
  outcome := (reports.map (·.outcome)).foldl .merge .solved
  byUnit := .ofList (reports.map fun report => (report.name, report.statistics))

variable {reports : List UnitReport}

theorem contains_ofReports (past : List UnitReport) (name : String) :
    (ofReports past).byUnit.contains name ↔ name ∈ past.map (·.name) := by
  rw [ofReports, NameMap.contains_ofList, List.map_map]
  rfl

theorem ofReports_concat (past : List UnitReport) (report : UnitReport) :
    ofReports (past ++ [report]) =
      { ofReports past with
        verified := (ofReports past).verified && report.verified
        outcome := (ofReports past).outcome.merge report.outcome
        byUnit := (ofReports past).byUnit.insert report.name report.statistics } := by
  simp [ofReports, NameMap.ofList_concat]

theorem add_ofReports (past : List UnitReport) (report : UnitReport) :
    (ofReports past).add report =
      if report.name ∈ past.map (·.name) then .error (.duplicateUnit report.name)
      else .ok (ofReports (past ++ [report])) := by
  rw [add, ofReports_concat]
  by_cases known : report.name ∈ past.map (·.name)
  · rw [if_pos known, if_pos ((contains_ofReports past _).mpr known)]
  · rw [if_neg known, if_neg (mt (contains_ofReports past _).mp known)]

theorem foldlM_add_ofReports (past : List UnitReport)
    (distinct : ((past ++ reports).map (·.name)).Nodup) :
    reports.foldlM add (ofReports past) = .ok (ofReports (past ++ reports)) := by
  induction reports generalizing past with
  | nil =>
      rw [List.append_nil]
      rfl
  | cons report rest ih =>
      rw [List.append_cons] at distinct ⊢
      have fresh : report.name ∉ past.map (·.name) := by
        rw [List.map_append, List.map_append, List.nodup_append, List.nodup_append] at distinct
        exact fun member => distinct.1.2.2 _ member _ List.mem_cons_self rfl
      rw [List.foldlM_cons, add_ofReports, if_neg fresh]
      exact ih _ distinct

/-! ## Recording in place -/

end Aggregate

/-- Bind a name that is not bound yet; the answer is whether it was not. -/
def NameMap.emplace {α : Type} (map : NameMap α) (name : String) (value : α) : Bool × NameMap α :=
  if map.contains name then (false, map) else (true, map.insert name value)

namespace Aggregate

/-- Record a report in an aggregate that outlasts a failure: how that ends, and the aggregate
afterwards. The statistics are entered first, which tells whether the name is taken. -/
def record (aggregate : Aggregate) (report : UnitReport) : Except Failure Unit × Aggregate :=
  let (isNew, byUnit) := aggregate.byUnit.emplace report.name report.statistics
  let entered := { aggregate with byUnit }
  if !isNew then (.error (.duplicateUnit report.name), entered)
  else
    let judged := { entered with verified := entered.verified && report.verified }
    (.ok (), { judged with outcome := judged.outcome.merge report.outcome })

/-- A refused report leaves the aggregate as it is. -/
theorem record_eq (aggregate : Aggregate) (report : UnitReport) :
    aggregate.record report = match aggregate.add report with
      | .ok extended => (.ok (), extended)
      | .error failure => (.error failure, aggregate) := by
  cases known : aggregate.byUnit.contains report.name <;>
    simp [record, NameMap.emplace, add, known]

def recordAll (aggregate : Aggregate) (reports : List UnitReport) : Aggregate :=
  reports.foldl (fun current report => (current.record report).2) aggregate

end Aggregate

/-! ## The first report of each name -/

namespace UnitReport

def firsts : List UnitReport → List UnitReport
  | [] => []
  | report :: rest => report :: (firsts rest).filter (·.name ≠ report.name)

theorem distinct_firsts (reports : List UnitReport) : ((firsts reports).map (·.name)).Nodup := by
  induction reports with
  | nil => exact .nil
  | cons report rest ih =>
      rw [firsts, List.map_cons, List.nodup_cons]
      refine ⟨?_, ih.sublist (List.filter_sublist.map _)⟩
      simp

theorem find?_firsts (reports : List UnitReport) (name : String) :
    (firsts reports).find? (·.name = name) = reports.find? (·.name = name) := by
  induction reports with
  | nil => rfl
  | cons report rest ih =>
      rw [firsts, List.find?_cons, List.find?_cons]
      by_cases here : report.name = name
      · simp [here]
      · simp only [here, decide_false]
        rw [← ih, List.find?_filter]
        congr 1
        funext other
        by_cases there : other.name = name
        · simp [there, Ne.symm here]
        · simp [there]

theorem mem_names_firsts (reports : List UnitReport) (name : String) :
    name ∈ (firsts reports).map (·.name) ↔ name ∈ reports.map (·.name) := by
  have found (others : List UnitReport) : name ∈ others.map (·.name) ↔
      (others.find? (·.name = name)).isSome := by
    simp [List.find?_isSome]
  rw [found, find?_firsts, found]

end UnitReport

namespace Aggregate

variable {reports : List UnitReport}

theorem recordAll_ofReports (past reports : List UnitReport) :
    (ofReports past).recordAll reports =
      ofReports (past ++ (UnitReport.firsts reports).filter (·.name ∉ past.map (·.name))) := by
  -- The reports recorded so far grow along the list; only names that are new pass the filter.
  induction reports generalizing past with
  | nil => simp [recordAll, UnitReport.firsts]
  | cons report rest ih =>
      have step : (ofReports past).recordAll (report :: rest) =
          ((ofReports past).record report).2.recordAll rest := rfl
      rw [step, record_eq, add_ofReports, UnitReport.firsts, List.filter_cons, List.filter_filter]
      by_cases known : report.name ∈ past.map (·.name)
      case pos =>
        have others : (UnitReport.firsts rest).filter (·.name ∉ past.map (·.name)) =
            (UnitReport.firsts rest).filter fun other =>
              decide (other.name ∉ past.map (·.name)) && decide (other.name ≠ report.name) := by
          apply List.filter_congr
          intro other _
          by_cases same : other.name = report.name
          · simp [same, known]
          · simp [same]
        simp only [known, not_true_eq_false, decide_false, Bool.false_eq_true, if_true, if_false]
        rw [ih, others]
      case neg =>
        have others : (UnitReport.firsts rest).filter (·.name ∉ (past ++ [report]).map (·.name)) =
            (UnitReport.firsts rest).filter fun other =>
              decide (other.name ∉ past.map (·.name)) && decide (other.name ≠ report.name) := by
          apply List.filter_congr
          intro other _
          simp
        simp only [known, not_false_eq_true, decide_true, if_true, if_false]
        rw [ih, others, List.append_assoc, List.singleton_append]

theorem recordAll_eq (reports : List UnitReport) :
    recordAll {} reports = ofReports (UnitReport.firsts reports) := by
  have whole := recordAll_ofReports [] reports
  have all : (UnitReport.firsts reports).filter (·.name ∉ ([] : List UnitReport).map (·.name)) =
      UnitReport.firsts reports := List.filter_eq_self.mpr fun _ _ => by simp
  rw [all] at whole
  exact whole

/-- The aggregate is that of the first report of each name, and the closed form of each of its
parts. -/
structure FirstWins (reports : List UnitReport) (aggregate : Aggregate) : Prop where
  alone : (UnitReport.firsts reports).foldlM add {} = .ok aggregate
  statistics : ∀ name, aggregate.byUnit.find? name =
    (reports.find? (·.name = name)).map (·.statistics)
  verified : aggregate.verified = (UnitReport.firsts reports).all (·.verified)
  solved : aggregate.outcome = .solved ↔ ∀ report ∈ UnitReport.firsts reports,
    report.outcome = .solved
  done : aggregate.outcome = .done ↔
    (∀ report ∈ UnitReport.firsts reports, report.outcome.isFinished) ∧
      ∃ report ∈ UnitReport.firsts reports, report.outcome = .done
  unfinished : ∀ earlier report later, UnitReport.firsts reports = earlier ++ report :: later →
    (∀ other ∈ earlier, other.outcome.isFinished) → report.outcome.isFinished = false →
      aggregate.outcome = report.outcome

theorem firstWins_ofReports (reports : List UnitReport) :
    FirstWins reports (ofReports (UnitReport.firsts reports)) := by
  have distinct := UnitReport.distinct_firsts reports
  constructor
  case alone => exact foldlM_add_ofReports [] distinct
  case statistics =>
    intro name
    have keys : ((UnitReport.firsts reports).map fun report =>
        (report.name, report.statistics)).map (·.1) =
          (UnitReport.firsts reports).map (·.name) := List.map_map
    rw [ofReports, NameMap.find?_ofList (keys ▸ distinct), List.find?_map, Option.map_map]
    exact congrArg _ (UnitReport.find?_firsts reports name)
  case verified => rfl
  case solved =>
    rw [ofReports, Outcome.foldl_merge_eq_solved_iff]
    simp
  case done =>
    rw [ofReports, Outcome.foldl_merge_eq_done_iff, List.forall_mem_map, List.mem_map]
  case unfinished =>
    intro earlier report later split finished unfinished
    rw [ofReports, split, List.map_append, List.map_cons]
    exact Outcome.foldl_merge_first_unfinished (List.forall_mem_map.mpr finished) unfinished _

/-- Recording in place does what adding does. Whatever reports are recorded in turn, exactly those
are refused whose name occurred before, and these leave the aggregate as it is; what they come to in
the end is due to the first report of each name. -/
theorem recordAll_firstWins (reports : List UnitReport) :
    (∀ aggregate report, record aggregate report = match aggregate.add report with
      | .ok extended => (.ok (), extended)
      | .error failure => (.error failure, aggregate)) ∧
    (∀ earlier report later, reports = earlier ++ report :: later →
      (report.name ∈ earlier.map (·.name) →
        (recordAll {} earlier).record report =
          (.error (.duplicateUnit report.name), recordAll {} earlier)) ∧
      (report.name ∉ earlier.map (·.name) →
        ((recordAll {} earlier).record report).1 = .ok ())) ∧
    FirstWins reports (recordAll {} reports) := by
  refine ⟨record_eq, ?_, ?_⟩
  · intro earlier report later _
    have known := UnitReport.mem_names_firsts earlier report.name
    rw [recordAll_eq, record_eq, add_ofReports]
    constructor
    · intro again
      rw [if_pos (known.mpr again)]
    · intro fresh
      rw [if_neg (mt known.mp fresh)]
  · rw [recordAll_eq]
    exact firstWins_ofReports reports

end Aggregate

end VerifiedBuild
