import VerifiedBuild.Proofs.Reaching

/-!
# Deeds

The requests of a run that ask for more than to show text, to look at the host or to keep the
metrics. `Job.Acts` ties a job that ends well to its value, its deeds with their answers, in order,
and the machine it leaves; the laws below take such a run apart along the job.
-/

namespace VerifiedBuild

variable {K : Toolkit} {α β : Type} {collaborators : Collaborators K}

/-- Requests that only show text, look at the host or keep the metrics. -/
def Request.isQuiet : Request K → Bool
  | .write _ | .errorLine _ | .look | .startPhase _ | .stopPhase | .count _ _ | .clock => true
  | _ => false

def Machine.deeds (machine : Machine K) : List (Event K) :=
  machine.history.filter (!·.request.isQuiet)

theorem Machine.deeds_perform (machine : Machine K) (collaborators : Collaborators K)
    (request : Request K) :
    (machine.perform collaborators request).2.deeds = machine.deeds ++
      if request.isQuiet then [] else [⟨request, (machine.perform collaborators request).1⟩] := by
  rw [deeds, history_perform, List.filter_append, deeds]
  cases quiet : request.isQuiet <;> simp [quiet]

/-! ## Looks -/

def Request.isLook : Request K → Bool
  | .look => true
  | _ => false

def Event.look? : Event K → Option Host
  | ⟨.look, .ok host⟩ => some host
  | _ => none

/-- The host as it was when it was looked at last. -/
def Machine.lastLook (machine : Machine K) : Option Host :=
  (machine.history.filterMap Event.look?).getLast?

theorem Machine.lastLook_look (machine : Machine K) (collaborators : Collaborators K) :
    (machine.perform collaborators .look).2.lastLook = some machine.host := by
  have seen : Event.look? (⟨.look, .ok machine.host⟩ : Event K) = some machine.host := rfl
  have answered : (machine.perform collaborators .look).1 = .ok machine.host := rfl
  rw [lastLook, history_perform, answered, List.filterMap_append, List.filterMap_cons, seen]
  exact List.getLast?_concat

theorem Machine.lastLook_perform (machine : Machine K) (collaborators : Collaborators K)
    {request : Request K} (other : request.isLook = false) :
    (machine.perform collaborators request).2.lastLook = machine.lastLook := by
  have unseen (answer : Except Failure request.Answer) : Event.look? ⟨request, answer⟩ = none := by
    cases request with
    | look => cases other
    | _ => rfl
  rw [lastLook, history_perform, List.filterMap_append, List.filterMap_cons, unseen,
    List.filterMap_nil, List.append_nil, lastLook]

namespace Job

theorem lastLook_run {failures : Failure → Prop} {job : Job K α}
    (confined : job.Confined (·.isLook = false) failures) (before : Machine K) :
    (job.run collaborators before).2.lastLook = before.lastLook := by
  induction job generalizing before with
  | done value => rfl
  | fail failure => rw [run, Machine.lastLook, Machine.history_stopPhase, Machine.lastLook]
  | ask request next ih =>
      have step := before.lastLook_perform collaborators confined.1
      rw [run]
      generalize before.perform collaborators request = performed at step ⊢
      obtain ⟨failure | answer, middle⟩ := performed
      · rw [← step, Machine.lastLook, Machine.history_stopPhase, Machine.lastLook]
      · rw [← step]
        exact ih answer (confined.2 answer) middle

theorem lastLook_of_look {before after : Machine K} {host : Host}
    (looked : (Job.look : Job K Host).run collaborators before = (.ok host, after)) :
    after.lastLook = some host := by
  have answered := run_request_ok.mp looked
  have seen := before.lastLook_look collaborators
  have given : (before.perform collaborators .look).1 = .ok before.host := rfl
  rw [answered] at seen given
  rw [seen, Except.ok.inj given]

/-- From the machine `before` a job comes to `value` and leaves `after`; `deeds` are what it does on
its way. -/
structure Acts (collaborators : Collaborators K) (job : Job K α) (before : Machine K) (value : α)
    (deeds : List (Event K)) (after : Machine K) : Prop where
  ends : job.run collaborators before = (.ok value, after)
  adds : after.deeds = before.deeds ++ deeds

variable {job : Job K α} {next : α → Job K β} {before after : Machine K} {value : β}
  {deeds : List (Event K)}

theorem deeds_run (collaborators : Collaborators K) (job : Job K α) (before : Machine K) :
    ∃ deeds, (job.run collaborators before).2.deeds = before.deeds ++ deeds := by
  obtain ⟨more, whole⟩ := history_isPrefix_run collaborators job before
  refine ⟨more.filter (!·.request.isQuiet), ?_⟩
  rw [Machine.deeds, ← whole, List.filter_append, Machine.deeds]

theorem acts_of_run {value : α} (ended : job.run collaborators before = (.ok value, after)) :
    ∃ deeds, job.Acts collaborators before value deeds after := by
  obtain ⟨deeds, added⟩ := deeds_run collaborators job before
  rw [ended] at added
  exact ⟨deeds, ended, added⟩

theorem Acts.lastLook {value : α} (acts : job.Acts collaborators before value deeds after)
    (confined : job.Confined (·.isLook = false) fun _ => False) :
    after.lastLook = before.lastLook := by
  rw [← lastLook_run confined before, acts.ends]

theorem acts_pure {given : β} : (pure given : Job K β).Acts collaborators before value deeds after ↔
    value = given ∧ deeds = [] ∧ after = before := by
  constructor
  · rintro ⟨ends, adds⟩
    cases ends
    exact ⟨rfl, by simpa using adds, rfl⟩
  · rintro ⟨rfl, rfl, rfl⟩
    exact ⟨rfl, (List.append_nil _).symm⟩

theorem acts_bind : (job >>= next).Acts collaborators before value deeds after ↔
    ∃ given first middle rest, job.Acts collaborators before given first middle ∧
      (next given).Acts collaborators middle value rest after ∧ deeds = first ++ rest := by
  constructor
  · rintro ⟨ends, adds⟩
    obtain ⟨given, middle, begun, ended⟩ := run_bind_ok.mp ends
    obtain ⟨first, acted⟩ := acts_of_run begun
    obtain ⟨rest, later⟩ := acts_of_run ended
    refine ⟨given, first, middle, rest, acted, later, ?_⟩
    rw [later.adds, acted.adds, List.append_assoc] at adds
    exact (List.append_cancel_left adds).symm
  · rintro ⟨given, first, middle, rest, acted, later, rfl⟩
    refine ⟨run_bind_ok.mpr ⟨given, middle, acted.ends, later.ends⟩, ?_⟩
    rw [later.adds, acted.adds, List.append_assoc]

theorem acts_request {request : Request K} {answer : request.Answer} :
    (Job.request request).Acts collaborators before answer deeds after ↔
      before.perform collaborators request = (.ok answer, after) ∧
        deeds = if request.isQuiet then [] else [⟨request, .ok answer⟩] := by
  have adds := before.deeds_perform collaborators request
  constructor
  · rintro ⟨ends, added⟩
    have answered := run_request_ok.mp ends
    rw [answered] at adds
    exact ⟨answered, List.append_cancel_left (added.symm.trans adds)⟩
  · rintro ⟨answered, rfl⟩
    rw [answered] at adds
    exact ⟨run_request_ok.mpr answered, adds⟩

theorem acts_request_bind {request : Request K} {next : request.Answer → Job K β}
    (deed : request.isQuiet = false) :
    (Job.request request >>= next).Acts collaborators before value deeds after ↔
      ∃ answer middle rest, before.perform collaborators request = (.ok answer, middle) ∧
        (next answer).Acts collaborators middle value rest after ∧
        deeds = ⟨request, .ok answer⟩ :: rest := by
  rw [acts_bind]
  constructor
  · rintro ⟨answer, _, middle, rest, asked, acts, rfl⟩
    obtain ⟨answered, rfl⟩ := acts_request.mp asked
    rw [deed]
    exact ⟨answer, middle, rest, answered, acts, rfl⟩
  · rintro ⟨answer, middle, rest, answered, acts, rfl⟩
    refine ⟨answer, _, middle, rest, acts_request.mpr ⟨answered, rfl⟩, acts, ?_⟩
    rw [deed]
    rfl

/-! ## Without deeds -/

theorem Acts.eq_nil {value : α} (acts : job.Acts collaborators before value deeds after)
    (quiet : job.Confined (·.isQuiet) fun _ => False) : deeds = [] := by
  induction job generalizing before deeds with
  | done other => exact (acts_pure.mp acts).2.1
  | fail failure => cases acts.ends
  | ask request next ih =>
      change (Job.request request >>= next).Acts _ _ _ _ _ at acts
      obtain ⟨answer, _, middle, rest, asked, later, rfl⟩ := acts_bind.mp acts
      obtain ⟨-, rfl⟩ := acts_request.mp asked
      rw [ih answer later (quiet.2 answer), if_pos quiet.1]
      rfl

theorem acts_quiet_bind (quiet : job.Confined (·.isQuiet) fun _ => False) :
    (job >>= next).Acts collaborators before value deeds after ↔
      ∃ given middle, job.run collaborators before = (.ok given, middle) ∧
        (next given).Acts collaborators middle value deeds after := by
  rw [acts_bind]
  constructor
  · rintro ⟨given, _, middle, rest, acted, acts, rfl⟩
    obtain rfl := acted.eq_nil quiet
    exact ⟨given, middle, acted.ends, acts⟩
  · rintro ⟨given, middle, ended, acts⟩
    obtain ⟨first, acted⟩ := acts_of_run ended
    refine ⟨given, first, middle, deeds, acted, acts, ?_⟩
    rw [acted.eq_nil quiet, List.nil_append]

theorem acts_quiet_pure {given : β} (quiet : job.Confined (·.isQuiet) fun _ => False)
    (acts : (job >>= fun _ => pure given).Acts collaborators before value deeds after) :
    value = given ∧ deeds = [] := by
  obtain ⟨_, _, -, ending⟩ := (acts_quiet_bind quiet).mp acts
  obtain ⟨same, none, -⟩ := acts_pure.mp ending
  exact ⟨same, none⟩

theorem Acts.of_timed {phase : Phase} {value : α}
    (acts : (timed phase job).Acts collaborators before value deeds after) :
    ∃ start stop, job.Acts collaborators start value deeds stop := by
  rw [timed, acts_quiet_bind (confined_request rfl)] at acts
  obtain ⟨_, start, -, acts⟩ := acts
  obtain ⟨given, first, stop, rest, acted, closing, rfl⟩ := acts_bind.mp acts
  obtain ⟨rfl, rfl⟩ := acts_quiet_pure (confined_request rfl) closing
  refine ⟨start, stop, ?_⟩
  rw [List.append_nil]
  exact acted

end Job

end VerifiedBuild
