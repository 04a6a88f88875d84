import VerifiedBuild.Outcome

/-!
# Outcomes and statuses of many

What the pairwise rules for outcomes and for exit statuses come to over a whole list: of outcomes
the first one that is not finished stays, of statuses the last failure.
-/

namespace VerifiedBuild

/-! ## Outcomes -/

namespace Outcome

theorem isFinished_merge (current next : Outcome) :
    (current.merge next).isFinished = (current.isFinished && next.isFinished) := by
  rw [merge]
  split
  next joined => rw [joined.1, Bool.true_and]
  next kept =>
    by_cases finished : current.isFinished
    · have solved : next = .solved := by simpa [finished] using kept
      rw [finished, solved]
      rfl
    · simp [finished]

theorem merge_eq_solved_iff (current next : Outcome) :
    current.merge next = .solved ↔ current = .solved ∧ next = .solved := by
  rw [merge]
  split
  next joined => simp [joined.2]
  next kept =>
    refine ⟨fun solved => ⟨solved, ?_⟩, And.left⟩
    subst solved
    simpa [isFinished] using kept

theorem isFinished_foldl_merge (outcomes : List Outcome) (start : Outcome) :
    (outcomes.foldl merge start).isFinished = (start.isFinished && outcomes.all isFinished) := by
  induction outcomes generalizing start with
  | nil => simp
  | cons outcome rest ih =>
      rw [List.foldl_cons, ih, isFinished_merge, List.all_cons, Bool.and_assoc]

theorem foldl_merge_eq_solved_iff (outcomes : List Outcome) (start : Outcome) :
    outcomes.foldl merge start = .solved ↔
      start = .solved ∧ ∀ outcome ∈ outcomes, outcome = .solved := by
  induction outcomes generalizing start with
  | nil => simp
  | cons outcome rest ih =>
      rw [List.foldl_cons, ih, merge_eq_solved_iff, List.forall_mem_cons, and_assoc]

theorem eq_done_iff (outcome : Outcome) :
    outcome = .done ↔ outcome.isFinished ∧ outcome ≠ .solved := by
  cases outcome <;> simp [isFinished]

theorem foldl_merge_eq_done_iff (outcomes : List Outcome) :
    outcomes.foldl merge .solved = .done ↔
      (∀ outcome ∈ outcomes, outcome.isFinished) ∧ .done ∈ outcomes := by
  have finished : (outcomes.foldl merge .solved).isFinished ↔
      ∀ outcome ∈ outcomes, outcome.isFinished := by
    rw [isFinished_foldl_merge]
    simp [isFinished]
  rw [eq_done_iff, finished]
  refine and_congr_right fun all => ?_
  rw [ne_eq, foldl_merge_eq_solved_iff]
  constructor
  · intro mixed
    obtain ⟨outcome, member, other⟩ : ∃ outcome ∈ outcomes, outcome ≠ .solved := by
      simpa using mixed
    exact (eq_done_iff outcome).mpr ⟨all outcome member, other⟩ ▸ member
  · rintro member ⟨-, solved⟩
    cases solved .done member

theorem foldl_merge_of_unfinished {current : Outcome} (unfinished : current.isFinished = false)
    (outcomes : List Outcome) : outcomes.foldl merge current = current := by
  induction outcomes with
  | nil => rfl
  | cons outcome rest ih =>
      have stays : current.merge outcome = current := by simp [merge, unfinished]
      rw [List.foldl_cons, stays, ih]

theorem foldl_merge_first_unfinished {earlier : List Outcome} {outcome : Outcome}
    (finished : ∀ other ∈ earlier, other.isFinished) (unfinished : outcome.isFinished = false)
    (later : List Outcome) : (earlier ++ outcome :: later).foldl merge .solved = outcome := by
  have before : (earlier.foldl merge .solved).isFinished := by
    rw [isFinished_foldl_merge, List.all_eq_true.mpr finished]
    rfl
  have unsolved : outcome ≠ .solved := by
    rintro rfl
    cases unfinished
  have joined : (earlier.foldl merge .solved).merge outcome = outcome := by
    simp [merge, before, unsolved]
  rw [List.foldl_append, List.foldl_cons, joined, foldl_merge_of_unfinished unfinished]

end Outcome

/-! ## Statuses -/

namespace ExitStatus

/-- The last status that is a failure, if there is one. -/
def lastFailure (statuses : List ExitStatus) : ExitStatus :=
  (statuses.filter (· ≠ .verified)).getLast?.getD .verified

theorem merge_eq (current next : ExitStatus) :
    current.merge next = if next = .verified then current else next := by
  rw [merge]
  by_cases verified : next = .verified
  · simp [verified]
  · by_cases same : current = next <;> simp [verified, same]

theorem foldl_merge (statuses : List ExitStatus) (current : ExitStatus) :
    statuses.foldl merge current = (statuses.filter (· ≠ .verified)).getLast?.getD current := by
  induction statuses generalizing current with
  | nil => rfl
  | cons status rest ih =>
      rw [List.foldl_cons, ih, merge_eq, List.filter_cons]
      by_cases verified : status = .verified
      · simp [verified]
      · simp [verified, List.getLast?_cons]

theorem foldl_merge_verified (statuses : List ExitStatus) :
    statuses.foldl merge .verified = lastFailure statuses :=
  foldl_merge statuses .verified

theorem merge_lastFailure (current : ExitStatus) (statuses : List ExitStatus) :
    current.merge (lastFailure statuses) = statuses.foldl merge current := by
  rw [foldl_merge, lastFailure, merge_eq]
  cases last : (statuses.filter (· ≠ .verified)).getLast? with
  | none => rfl
  | some status =>
      have failed := (List.mem_filter.mp (List.mem_of_getLast? last)).2
      rw [Option.getD_some, Option.getD_some, if_neg (of_decide_eq_true failed)]

theorem foldl_merge_flatten (groups : List (List ExitStatus)) (current : ExitStatus) :
    (groups.map lastFailure).foldl merge current = groups.flatten.foldl merge current := by
  induction groups generalizing current with
  | nil => rfl
  | cons group rest ih =>
      rw [List.map_cons, List.foldl_cons, ih, merge_lastFailure, List.flatten_cons,
        List.foldl_append]

theorem lastFailure_singleton (status : ExitStatus) : lastFailure [status] = status := by
  rw [← foldl_merge_verified, List.foldl_cons, List.foldl_nil, merge_eq]
  split
  next verified => exact verified.symm
  next => rfl

theorem lastFailure_flatten (groups : List (List ExitStatus)) :
    lastFailure (groups.map lastFailure) = lastFailure groups.flatten := by
  rw [← foldl_merge_verified, foldl_merge_flatten, foldl_merge_verified]

/-! ## The status of one program -/

theorem ofResults_eq_notVerified_iff (verified fulfilled unwritten : Bool) :
    ofResults verified fulfilled unwritten = .notVerified ↔ verified = false := by
  cases verified <;> cases fulfilled <;> cases unwritten <;> decide

end ExitStatus

end VerifiedBuild
