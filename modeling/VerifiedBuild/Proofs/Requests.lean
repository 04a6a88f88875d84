import VerifiedBuild.Proofs.Reaching

/-!
# Rules for requests

A job obeys a rule if each of its requests does, given what was asked and answered before it,
whatever the answers are. What a job obeys holds of every event of its runs. `Job.Delegates` says
that requests of a kind are only made within certain parts.
-/

namespace VerifiedBuild

variable {K : Toolkit} {α β ι : Type} {collaborators : Collaborators K}

namespace Job

variable {rule : List (Event K) → Request K → Prop} {past : List (Event K)} {job : Job K α}
  {next : α → Job K β}

/-! ## Obedience -/

def Obeys (rule : List (Event K) → Request K → Prop) : Job K α → List (Event K) → Prop
  | .done _, _ => True
  | .fail _, _ => True
  | .ask request next, past =>
      rule past request ∧ ∀ answer, (next answer).Obeys rule (past ++ [⟨request, .ok answer⟩])

theorem obeys_pure (value : α) (past : List (Event K)) : (pure value : Job K α).Obeys rule past :=
  trivial

theorem obeys_fail (failure : Failure) (past : List (Event K)) :
    (.fail failure : Job K α).Obeys rule past :=
  trivial

theorem obeys_request {request : Request K} (allowed : rule past request) :
    (Job.request request).Obeys rule past :=
  ⟨allowed, fun _ => trivial⟩

theorem Obeys.bind (first : job.Obeys rule past)
    (rest : ∀ value later, (next value).Obeys rule (past ++ later)) :
    (job >>= next).Obeys rule past := by
  change (job.andThen next).Obeys rule past
  induction job generalizing past with
  | done value =>
      have whole := rest value []
      rw [List.append_nil] at whole
      exact whole
  | fail failure => exact first
  | ask request continuation ih =>
      refine ⟨first.1, fun answer => ih answer (first.2 answer) ?_⟩
      intro value later
      rw [List.append_assoc]
      exact rest value _

theorem Obeys.timed {phase : Phase} (start : rule past (.startPhase phase))
    (stop : ∀ later, rule (past ++ later) .stopPhase)
    (obeys : ∀ later, job.Obeys rule (past ++ later)) : (Job.timed phase job).Obeys rule past := by
  refine (obeys_request start).bind fun _ begun => (obeys begun).bind fun value later => ?_
  refine Obeys.bind (obeys_request ?_) fun _ _ => obeys_pure value _
  rw [List.append_assoc]
  exact stop _

theorem obeys_request_bind {request : Request K} {next : request.Answer → Job K β}
    (allowed : rule past request)
    (rest : ∀ answer, (next answer).Obeys rule (past ++ [⟨request, .ok answer⟩])) :
    (Job.request request >>= next).Obeys rule past :=
  ⟨allowed, rest⟩

theorem obeys_foldlM {items : List ι} {step : α → ι → Job K α}
    (each : ∀ value, ∀ item ∈ items, ∀ past, (step value item).Obeys rule past) (start : α)
    (past : List (Event K)) : (items.foldlM step start).Obeys rule past := by
  induction items generalizing start past with
  | nil => exact obeys_pure start past
  | cons item rest ih =>
      rw [List.foldlM_cons]
      apply (each start item List.mem_cons_self past).bind
      intro value later
      exact ih (fun value other member => each value other (List.mem_cons_of_mem _ member)) _ _

theorem Obeys.mono {other : List (Event K) → Request K → Prop} (obeys : job.Obeys rule past)
    (weaker : ∀ later request, rule (past ++ later) request → other (past ++ later) request) :
    job.Obeys other past := by
  induction job generalizing past with
  | done value => trivial
  | fail failure => trivial
  | ask request next ih =>
      -- The rules need only agree on what extends `past`, here on `past` itself.
      have allowed := weaker [] request
      rw [List.append_nil] at allowed
      refine ⟨allowed obeys.1, fun answer => ih answer (obeys.2 answer) ?_⟩
      intro later
      rw [List.append_assoc]
      exact weaker _

/-- What is left of a job at a point of a run obeys the rule as the whole did. -/
theorem Obeys.of_reaches {rest : Job K α} {before there : Machine K}
    (obeys : job.Obeys rule before.history)
    (reaches : job.Reaches collaborators before rest there) : rest.Obeys rule there.history := by
  induction reaches with
  | here job machine => exact obeys
  | @ask request next machine after _ answer _ answered later ih =>
      have step := machine.history_perform collaborators request
      rw [answered] at step
      dsimp only at step
      apply ih
      rw [step]
      exact obeys.2 answer

/-- Every event of a run obeys the rule. -/
theorem Obeys.of_run {before : Machine K} (obeys : job.Obeys rule before.history)
    {earlier later : List (Event K)} {event : Event K}
    (split : (job.run collaborators before).2.history = earlier ++ event :: later)
    (begun : before.history.length ≤ earlier.length) : rule earlier event.request := by
  obtain ⟨next, there, reaches, rfl⟩ := exists_reaches split begun
  exact (obeys.of_reaches reaches).1

theorem Obeys.of_does {before there : Machine K} {request : Request K}
    (obeys : job.Obeys rule before.history)
    (does : job.Does collaborators before (Job.request request) there) :
    rule there.history request := by
  obtain ⟨next, reaches⟩ := does
  exact (obeys.of_reaches reaches).1

/-! ## Jobs that are confined -/

variable {requests : Request K → Prop} {failures : Failure → Prop}

theorem Confined.obeys (confined : job.Confined requests failures)
    (weaker : ∀ past request, requests request → rule past request) (past : List (Event K)) :
    job.Obeys rule past := by
  induction job generalizing past with
  | done value => trivial
  | fail failure => trivial
  | ask request next ih =>
      exact ⟨weaker past request confined.1, fun answer => ih answer (confined.2 answer) _⟩

theorem Confined.not_reaches {before there : Machine K} {request : Request K}
    {later : request.Answer → Job K α} (confined : job.Confined requests failures)
    (other : ¬requests request) :
    ¬job.Reaches collaborators before (.ask request later) there :=
  fun reaches => other ((confined.obeys (fun _ _ allowed => allowed) _).of_reaches reaches).1

theorem Confined.not_does {before there : Machine K} {request : Request K}
    (confined : job.Confined requests failures) (other : ¬requests request) :
    ¬job.Does collaborators before (Job.request request) there :=
  fun ⟨_, reaches⟩ => confined.not_reaches other reaches

/-- What a run of a confined job adds to the history are requests of its kind. -/
theorem Confined.history (confined : job.Confined requests failures)
    (collaborators : Collaborators K) (before : Machine K) :
    ∃ own, (job.run collaborators before).2.history = before.history ++ own ∧
      ∀ event ∈ own, requests event.request := by
  obtain ⟨own, grown⟩ := history_isPrefix_run collaborators job before
  refine ⟨own, grown.symm, fun event member => ?_⟩
  obtain ⟨earlier, later, rfl⟩ := List.append_of_mem member
  rw [← List.append_assoc] at grown
  exact (confined.obeys (fun _ _ allowed => allowed) _).of_run grown.symm (by simp)

/-! ## Delegation -/

/-- A point at which two jobs in sequence come to a request is one of the first, where the second is
still to be done after the rest of the first, or it is one of the second. -/
theorem Reaches.of_bind {before there : Machine K} {request : Request K}
    {later : request.Answer → Job K β}
    (reaches : (job >>= next).Reaches collaborators before (.ask request later) there) :
    (∃ rest, job.Reaches collaborators before (.ask request rest) there ∧
        later = fun answer => rest answer >>= next) ∨
      ∃ value middle, job.run collaborators before = (.ok value, middle) ∧
        (next value).Reaches collaborators middle (.ask request later) there := by
  change (job.andThen next).Reaches collaborators before (.ask request later) there at reaches
  induction job generalizing before with
  | done value => exact .inr ⟨value, before, rfl, reaches⟩
  | fail failure => cases reaches
  | ask asked rest ih =>
      cases reaches with
      | here => exact .inl ⟨rest, .here _ _, rfl⟩
      | ask answered reaches =>
          rcases ih _ reaches with ⟨left, inFirst, same⟩ | ⟨value, middle, ended, inSecond⟩
          · exact .inl ⟨left, .ask answered inFirst, same⟩
          · refine .inr ⟨value, middle, ?_, inSecond⟩
            rw [run, answered]
            exact ended

/-- A request that two jobs in sequence make is made by the first or, after it, by the second. -/
theorem Does.of_bind {before there : Machine K} {request : Request K}
    (does : (job >>= next).Does collaborators before (Job.request request) there) :
    job.Does collaborators before (Job.request request) there ∨
      ∃ value middle, job.run collaborators before = (.ok value, middle) ∧
        (next value).Does collaborators middle (Job.request request) there := by
  obtain ⟨later, reaches⟩ := does
  exact reaches.of_bind.imp (fun ⟨rest, inFirst, _⟩ => ⟨rest, inFirst⟩)
    fun ⟨value, middle, ended, inSecond⟩ => ⟨value, middle, ended, later, inSecond⟩

/-- Requests of the kind are only made while one of the parts is done. -/
def Delegates (collaborators : Collaborators K) (kind : Request K → Prop) (part : ι → Job K β)
    (job : Job K α) : Prop :=
  ∀ ⦃before there : Machine K⦄ ⦃request : Request K⦄, kind request →
    job.Does collaborators before (Job.request request) there →
    ∃ item here, job.Does collaborators before (part item) here ∧
      (part item).Does collaborators here (Job.request request) there

section

variable {γ δ : Type} {kind : Request K → Prop} {part : ι → Job K γ}

theorem delegates_part (item : ι) : (part item).Delegates collaborators kind part := by
  intro before there request _ does
  exact ⟨item, before, does_self _ before, does⟩

theorem delegates_of_obeys (obeys : ∀ past, job.Obeys (fun _ request => ¬kind request) past) :
    job.Delegates collaborators kind part := by
  intro before there request ofKind does
  exact absurd ofKind ((obeys before.history).of_does does)

theorem Confined.delegates (confined : job.Confined requests failures)
    (others : ∀ request, requests request → ¬kind request) :
    job.Delegates collaborators kind part :=
  delegates_of_obeys (confined.obeys fun _ => others)

theorem delegates_request {request : Request K} (other : ¬kind request) :
    (Job.request request).Delegates collaborators kind part :=
  delegates_of_obeys fun _ => obeys_request other

theorem delegates_pure (value : α) : (pure value : Job K α).Delegates collaborators kind part :=
  delegates_of_obeys (obeys_pure value)

theorem Delegates.bind (first : job.Delegates collaborators kind part)
    (rest : ∀ value, (next value).Delegates collaborators kind part) :
    (job >>= next).Delegates collaborators kind part := by
  intro before there request ofKind does
  rcases does.of_bind with inFirst | ⟨value, middle, ended, inSecond⟩
  · obtain ⟨item, here, within, asked⟩ := first ofKind inFirst
    exact ⟨item, here, (does_bind job next before).trans within, asked⟩
  · obtain ⟨item, here, within, asked⟩ := rest value ofKind inSecond
    exact ⟨item, here, (does_next ended).trans within, asked⟩

theorem delegates_foldlM {items : List δ} {step : α → δ → Job K α}
    (each : ∀ value, ∀ item ∈ items, (step value item).Delegates collaborators kind part)
    (start : α) : (items.foldlM step start).Delegates collaborators kind part := by
  induction items generalizing start with
  | nil => exact delegates_pure start
  | cons item rest ih =>
      rw [List.foldlM_cons]
      apply (each start item List.mem_cons_self).bind
      intro value
      exact ih (fun value other member => each value other (List.mem_cons_of_mem _ member)) value

end

end Job

end VerifiedBuild
