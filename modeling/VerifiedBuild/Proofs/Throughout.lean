import VerifiedBuild.Proofs.Reaching

/-!
# Rules along a run

What holds of every request of a run, on the machine on which it is made. Unlike the rules for the
requests of a job, these speak of one run only, and may speak of all that the machine holds.
-/

namespace VerifiedBuild

variable {K : Toolkit} {α β : Type} {collaborators : Collaborators K}

namespace Job

/-- Every request of the run that begins on the machine keeps the rule. -/
def Throughout (collaborators : Collaborators K) (rule : Machine K → Request K → Prop) :
    Job K α → Machine K → Prop
  | .done _, _ => True
  | .fail _, _ => True
  | .ask request next, machine =>
      rule machine request ∧ ∀ answer, (machine.perform collaborators request).1 = .ok answer →
        (next answer).Throughout collaborators rule (machine.perform collaborators request).2

variable {rule : Machine K → Request K → Prop}

instance decidableThroughout [∀ machine request, Decidable (rule machine request)] :
    (job : Job K α) → (machine : Machine K) → Decidable (job.Throughout collaborators rule machine)
  | .done _, _ => .isTrue trivial
  | .fail _, _ => .isTrue trivial
  | .ask request next, machine =>
      match answered : (machine.perform collaborators request).1 with
      | .ok answer =>
          have : Decidable ((next answer).Throughout collaborators rule
              (machine.perform collaborators request).2) := decidableThroughout _ _
          decidable_of_iff (rule machine request ∧ (next answer).Throughout collaborators rule
            (machine.perform collaborators request).2) (by simp [Throughout, answered])
      | .error _ => decidable_of_iff (rule machine request) (by simp [Throughout, answered])

variable {job : Job K α} {next : α → Job K β} {before after : Machine K}

theorem throughout_of_forall (always : ∀ machine request, rule machine request) (job : Job K α)
    (before : Machine K) : job.Throughout collaborators rule before := by
  induction job generalizing before with
  | done value => trivial
  | fail failure => trivial
  | ask request next ih => exact ⟨always before request, fun answer _ => ih answer _⟩

theorem Throughout.bind (whole : (job >>= next).Throughout collaborators rule before) :
    job.Throughout collaborators rule before ∧ ∀ value middle,
      job.run collaborators before = (.ok value, middle) →
        (next value).Throughout collaborators rule middle := by
  change (job.andThen next).Throughout collaborators rule before at whole
  induction job generalizing before with
  | done value =>
      refine ⟨trivial, fun _ _ ended => ?_⟩
      obtain ⟨same, rfl⟩ := Prod.mk.inj ended
      cases same
      exact whole
  | fail failure => exact ⟨trivial, fun _ _ ended => nomatch (Prod.mk.inj ended).1⟩
  | ask request rest ih =>
      refine ⟨⟨whole.1, fun answer answered => (ih answer (whole.2 answer answered)).1⟩, ?_⟩
      intro value middle ended
      rw [run] at ended
      cases performed : before.perform collaborators request with
      | mk result after =>
          rw [performed] at ended
          cases result with
          | error failure => cases (Prod.mk.inj ended).1
          | ok answer =>
              have later := (ih answer (whole.2 answer (congrArg Prod.fst performed))).2
              rw [performed] at later
              exact later value middle ended

theorem Throughout.confined {requests : Request K → Prop} {failures : Failure → Prop}
    (whole : job.Throughout collaborators rule before) (confined : job.Confined requests failures) :
    job.Throughout collaborators (fun machine request => rule machine request ∧ requests request)
      before := by
  induction job generalizing before with
  | done value => trivial
  | fail failure => trivial
  | ask request next ih =>
      exact ⟨⟨whole.1, confined.1⟩, fun answer answered =>
        ih answer (whole.2 answer answered) (confined.2 answer)⟩

/-- What each request keeps that obeys the rule, a run keeps. -/
theorem Throughout.invariant {holds : Machine K → Prop}
    (whole : job.Throughout collaborators rule before)
    (step : ∀ machine request, rule machine request → holds machine →
      holds (machine.perform collaborators request).2)
    (stop : ∀ machine, holds machine → holds machine.stopPhase) (start : holds before) :
    holds (job.run collaborators before).2 := by
  induction job generalizing before with
  | done value => exact start
  | fail failure => exact stop before start
  | ask request next ih =>
      have kept := step before request whole.1 start
      rw [run]
      cases performed : before.perform collaborators request with
      | mk result after =>
          rw [performed] at kept
          cases result with
          | error failure => exact stop after kept
          | ok answer =>
              have later := whole.2 answer (congrArg Prod.fst performed)
              rw [performed] at later
              exact ih answer later kept

end Job

end VerifiedBuild
