import VerifiedBuild.Proofs.Run

/-!
# Jobs in succession

A run that does one job after another, with nothing in between that a collaborator or a file could
notice. `Succession` lists such jobs with the machine on which each one's turn comes; the next starts
from where the one before ended.
-/

namespace VerifiedBuild

variable {K : Toolkit} {α β γ ι : Type} {collaborators : Collaborators K}

/-- Requests that only put text on the output stream or look at the host or at the clock. -/
def Request.isAside : Request K → Bool
  | .write _ | .look | .clock => true
  | _ => false

theorem Request.call?_of_isAside {request : Request K} (aside : request.isAside) :
    request.call? = none := by
  cases request <;> first | rfl | cases aside

/-- The jobs `job item`, done one after another from one machine to another. -/
inductive Succession (collaborators : Collaborators K) (job : ι → Job K α) :
    Machine K → List (ι × Machine K) → Machine K → Prop
  | nil (machine : Machine K) : Succession collaborators job machine [] machine
  | aside {machine after : Machine K} {turns : List (ι × Machine K)} (request : Request K)
      (aside : request.isAside)
      (rest : Succession collaborators job (machine.perform collaborators request).2 turns after) :
      Succession collaborators job machine turns after
  | turn {machine after : Machine K} {turns : List (ι × Machine K)} (item : ι)
      (rest : Succession collaborators job ((job item).run collaborators machine).2 turns after) :
      Succession collaborators job machine ((item, machine) :: turns) after

namespace Succession

variable {job : ι → Job K α} {before middle after : Machine K} {turns more : List (ι × Machine K)}

theorem append (first : Succession collaborators job before turns middle)
    (second : Succession collaborators job middle more after) :
    Succession collaborators job before (turns ++ more) after := by
  induction first with
  | nil machine => exact second
  | aside request aside rest ih => exact .aside request aside (ih second)
  | turn item rest ih => exact .turn item (ih second)

theorem cons {item : ι} {result : Except Failure α}
    (run : (job item).run collaborators before = (result, middle))
    (rest : Succession collaborators job middle turns after) :
    Succession collaborators job before ((item, before) :: turns) after := by
  refine .turn item ?_
  rw [run]
  exact rest

theorem of_runs {item : ι} {result : Except Failure α} {made : List (Exchange K)}
    (runs : (job item).Runs collaborators before result made after) :
    Succession collaborators job before [(item, before)] after :=
  .cons runs.ends (.nil after)

theorem of_optional {condition : Prop} [Decidable condition] {request : Request K}
    {rest : Job K γ} {result : Except Failure γ} {made : List (Exchange K)}
    (aside : request.isAside)
    (runs : (if condition then Job.request request >>= fun _ => rest else rest).Runs
      collaborators before result made after) :
    ∃ start, Succession collaborators job before [] start ∧
      rest.Runs collaborators start result made after := by
  split at runs
  · obtain ⟨_, -, runs⟩ := (Job.runs_aside_bind (Request.call?_of_isAside aside)).mp runs
    exact ⟨_, .aside request aside (.nil _), runs⟩
  · exact ⟨before, .nil before, runs⟩

end Succession

end VerifiedBuild
