import VerifiedBuild.Proofs.Make.Composition

/-!
# Two runs side by side

Jobs that end alike when they are started on similar machines: with the same failure, or with values
that are related, and again on similar machines. Which machines are similar is left open; it is
enough that ending a phase on both keeps them so. Where similar machines answer regular requests
alike, jobs that end alike are a congruence.
-/

namespace VerifiedBuild

variable {K : Toolkit} {α β γ δ ι : Type} {collaborators : Collaborators K}

/-! ## Results -/

inductive Agree (values : α → β → Prop) : Except Failure α → Except Failure β → Prop
  | ok {value : α} {other : β} (related : values value other) : Agree values (.ok value) (.ok other)
  | error (failure : Failure) : Agree values (.error failure) (.error failure)

theorem agree_rfl (result : Except Failure α) : Agree Eq result result := by
  cases result with
  | ok value => exact .ok rfl
  | error failure => exact .error failure

theorem Agree.eq {result other : Except Failure α} (agree : Agree Eq result other) :
    result = other := by
  cases agree with
  | ok same => rw [same]
  | error failure => rfl

/-! ## Machines -/

structure Similarity (K : Toolkit) where
  rel : Machine K → Machine K → Prop
  stopPhase : ∀ {left right : Machine K}, rel left right → rel left.stopPhase right.stopPhase

/-- The request is answered alike on similar machines, which it leaves similar. -/
def Similarity.Respects (similarity : Similarity K) (collaborators : Collaborators K)
    (request : Request K) (answers : request.Answer → request.Answer → Prop) : Prop :=
  ∀ ⦃left right⦄, similarity.rel left right →
    Agree answers (left.perform collaborators request).1 (right.perform collaborators request).1 ∧
      similarity.rel (left.perform collaborators request).2
        (right.perform collaborators request).2

/-! ## Jobs -/

namespace Job

variable {similarity : Similarity K}

/-- Started on similar machines the jobs end alike. -/
def Matches (similarity : Similarity K) (collaborators : Collaborators K) (values : α → β → Prop)
    (job : Job K α) (other : Job K β) : Prop :=
  ∀ ⦃left right⦄, similarity.rel left right →
    Agree values (job.run collaborators left).1 (other.run collaborators right).1 ∧
      similarity.rel (job.run collaborators left).2 (other.run collaborators right).2

theorem matches_pure {values : α → β → Prop} {value : α} {other : β}
    (related : values value other) :
    Matches similarity collaborators values (pure value) (pure other) := by
  intro left right similar
  exact ⟨.ok related, similar⟩

theorem matches_fail {values : α → β → Prop} (failure : Failure) :
    Matches similarity collaborators values (.fail failure) (.fail failure) := by
  intro left right similar
  exact ⟨.error failure, similarity.stopPhase similar⟩

theorem matches_request {request : Request K} {answers : request.Answer → request.Answer → Prop}
    (respects : similarity.Respects collaborators request answers) :
    Matches similarity collaborators answers (Job.request request) (Job.request request) := by
  intro left right similar
  obtain ⟨agree, after⟩ := respects similar
  rw [Job.request, run, run]
  generalize left.perform collaborators request = performed at agree after
  generalize right.perform collaborators request = other at agree after
  obtain ⟨result, halt⟩ := performed
  obtain ⟨answer, stop⟩ := other
  cases agree with
  | ok related => exact ⟨.ok related, after⟩
  | error failure => exact ⟨.error failure, similarity.stopPhase after⟩

theorem matches_call {toCall : Call K}
    (respects : similarity.Respects collaborators (.call toCall) Eq) :
    Matches similarity collaborators Eq (Job.call toCall) (Job.call toCall) :=
  matches_request respects

theorem Matches.bind {values : α → β → Prop} {results : γ → δ → Prop} {job : Job K α}
    {other : Job K β} {next : α → Job K γ} {another : β → Job K δ}
    (first : Matches similarity collaborators values job other)
    (rest : ∀ value given, values value given →
      Matches similarity collaborators results (next value) (another given)) :
    Matches similarity collaborators results (job >>= next) (other >>= another) := by
  intro left right similar
  obtain ⟨agree, middle⟩ := first similar
  rw [run_bind, run_bind]
  generalize job.run collaborators left = ran at agree middle
  generalize other.run collaborators right = again at agree middle
  obtain ⟨result, halt⟩ := ran
  obtain ⟨answer, stop⟩ := again
  cases agree with
  | ok related => exact rest _ _ related middle
  | error failure => exact ⟨.error failure, middle⟩

theorem Matches.bind_eq {results : γ → δ → Prop} {job other : Job K α} {next : α → Job K γ}
    {another : α → Job K δ} (first : Matches similarity collaborators Eq job other)
    (rest : ∀ value, Matches similarity collaborators results (next value) (another value)) :
    Matches similarity collaborators results (job >>= next) (other >>= another) := by
  apply first.bind
  rintro value _ rfl
  exact rest value

theorem matches_foldlM {values : α → β → Prop} {items : List ι} {step : α → ι → Job K α}
    {another : β → ι → Job K β}
    (each : ∀ value given item, values value given →
      Matches similarity collaborators values (step value item) (another given item))
    {start : α} {begin : β} (related : values start begin) :
    Matches similarity collaborators values (items.foldlM step start)
      (items.foldlM another begin) := by
  induction items generalizing start begin with
  | nil => exact matches_pure related
  | cons item rest ih =>
      rw [List.foldlM_cons, List.foldlM_cons]
      exact (each start begin item related).bind fun _ _ => ih

theorem Matches.timed {phase : Phase} {values : α → β → Prop} {job : Job K α} {other : Job K β}
    (start : similarity.Respects collaborators (.startPhase phase) Eq)
    (stop : similarity.Respects collaborators .stopPhase Eq)
    (inner : Matches similarity collaborators values job other) :
    Matches similarity collaborators values (Job.timed phase job) (Job.timed phase other) := by
  refine (matches_request start).bind_eq fun _ => inner.bind fun value given related => ?_
  exact (matches_request stop).bind_eq fun _ => matches_pure related

theorem matches_timedCall {phase : Phase} {toCall : Call K}
    (start : similarity.Respects collaborators (.startPhase phase) Eq)
    (stop : similarity.Respects collaborators .stopPhase Eq)
    (call : similarity.Respects collaborators (.call toCall) Eq) :
    Matches similarity collaborators Eq (Job.timed phase (Job.call toCall))
      (Job.timed phase (Job.call toCall)) :=
  (matches_call call).timed start stop

end Job

/-! ## Regular requests -/

/-- Requests whose answers depend on nothing that machines compared with each other differ in. -/
def Request.isRegular : Request K → Bool
  | .call toCall => !toCall.isShow
  | .write _ | .errorLine _ | .look | .saveFile _ _ | .copyFile _ _ => true
  | .startPhase _ | .stopPhase | .count _ _ => true
  | _ => false

theorem Request.isRegular_of_isCommon {request : Request K} (common : request.isCommon) :
    request.isRegular := by
  cases request with
  | call toCall =>
      simp only [isCommon, Bool.and_eq_true] at common
      exact common.2
  | _ => first | rfl | cases common

theorem Call.isShow_of_phase? {toCall : Call K} {phase : Phase}
    (own : toCall.phase? = some phase) : toCall.isShow = false := by
  cases toCall <;> first | rfl | cases own

def Similarity.congruence (similarity : Similarity K) (collaborators : Collaborators K)
    (regular : ∀ request : Request K, request.isRegular →
      similarity.Respects collaborators request Eq) : Job.Examination K :=
  have common {request : Request K} (shared : request.isCommon) :
      Job.Matches similarity collaborators Eq (Job.request request) (Job.request request) :=
    Job.matches_request (regular _ (Request.isRegular_of_isCommon shared))
  have timed {α : Type} {phase : Phase} {toCall : Call K} {next : toCall.Answer → Job K α}
      (own : toCall.phase? = some phase)
      (inner : ∀ answer, Job.Matches similarity collaborators Eq (next answer) (next answer)) :
      Job.Matches similarity collaborators Eq (Job.timed phase (Job.call toCall >>= next))
        (Job.timed phase (Job.call toCall >>= next)) := by
    refine Job.Matches.timed (regular _ rfl) (regular _ rfl) ?_
    refine (Job.matches_request (regular _ ?_)).bind_eq inner
    rw [Request.isRegular, Call.isShow_of_phase? own]
    rfl
  { holds := fun job other => job.Matches similarity collaborators Eq other
    done := fun value => Job.matches_pure rfl
    stopped := fun failure _ => Job.matches_fail failure
    bind := fun first rest => first.bind_eq rest
    common := fun shared _ => common shared
    timed := fun own _ _ _ inner => timed own inner
    examined := fun shared _ => common shared
    timedExamined := fun own _ _ inner => timed own inner }

end VerifiedBuild
