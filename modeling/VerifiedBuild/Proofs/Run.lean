import VerifiedBuild.Machine

/-!
# Runs and the calls they make

What a run of a job adds to the history of its machine, as far as the collaborators are concerned:
the calls with what came of them, in order. `Job.Runs` ties a job to its result, its calls and the
machine it leaves; the laws below take such a run apart along the job. `Job.Confined` says of a job
as a tree which requests it can make and how it can fail by itself, whatever is answered.
-/

namespace VerifiedBuild

variable {K : Toolkit} {α β ι : Type} {collaborators : Collaborators K}

/-! ## Exchanges -/

structure Exchange (K : Toolkit) where
  call : Call K
  result : Except Failure call.Answer

def Event.exchange? : Event K → Option (Exchange K)
  | ⟨.call toCall, result⟩ => some ⟨toCall, result⟩
  | _ => none

def Machine.exchanges (machine : Machine K) : List (Exchange K) :=
  machine.history.filterMap Event.exchange?

theorem Machine.history_stopPhase (machine : Machine K) :
    machine.stopPhase.history = machine.history := by
  unfold stopPhase
  split <;> rfl

@[simp] theorem Machine.exchanges_stopPhase (machine : Machine K) :
    machine.stopPhase.exchanges = machine.exchanges := by
  rw [exchanges, history_stopPhase, exchanges]

theorem Machine.exchanges_perform (machine : Machine K) (collaborators : Collaborators K)
    (request : Request K) :
    (machine.perform collaborators request).2.exchanges = machine.exchanges ++
      (Event.exchange? ⟨request, (machine.perform collaborators request).1⟩).toList := by
  have history : (machine.perform collaborators request).2.history =
      machine.history ++ [⟨request, (machine.perform collaborators request).1⟩] := rfl
  rw [exchanges, history, List.filterMap_append, exchanges, List.filterMap_cons]
  cases Event.exchange? ⟨request, (machine.perform collaborators request).1⟩ <;> rfl

theorem Machine.exchanges_perform_aside (machine : Machine K) (collaborators : Collaborators K)
    {request : Request K} (aside : request.call? = none) :
    (machine.perform collaborators request).2.exchanges = machine.exchanges := by
  rw [exchanges_perform]
  cases request with
  | call toCall => cases aside
  | _ => exact List.append_nil _

theorem Machine.perform_aside_ok (machine : Machine K) (collaborators : Collaborators K)
    {request : Request K} (aside : request.call? = none) :
    ∃ answer, (machine.perform collaborators request).1 = .ok answer := by
  cases request with
  | call toCall => cases aside
  | openLog path =>
      simp only [perform, answer]
      split <;> exact ⟨_, rfl⟩
  | _ => exact ⟨_, rfl⟩

/-! ## Kinds of request -/

/-- If the request is a call then it is one of `calls`. -/
def Request.Only (calls : Call K → Prop) : Request K → Prop
  | .call toCall => calls toCall
  | _ => True

/-- Moreover the request is for no file. -/
def Request.Plain (calls : Call K → Prop) : Request K → Prop
  | .call toCall => calls toCall
  | .saveFile _ _ | .copyFile _ _ | .openLog _ => False
  | _ => True

theorem Request.Plain.mono {calls more : Call K → Prop} {request : Request K}
    (plain : request.Plain calls) (weaker : ∀ toCall, calls toCall → more toCall) :
    request.Plain more := by
  cases request with
  | call toCall => exact weaker toCall plain
  | _ => exact plain

/-! ## Runs -/

namespace Job

/-- On the machine `before` a job ends with `result` and leaves `after`; `made` are its calls. -/
structure Runs (collaborators : Collaborators K) (job : Job K α) (before : Machine K)
    (result : Except Failure α) (made : List (Exchange K)) (after : Machine K) : Prop where
  ends : job.run collaborators before = (result, after)
  makes : after.exchanges = before.exchanges ++ made

variable {job : Job K α} {next : α → Job K β} {before after : Machine K}
  {result : Except Failure α} {made : List (Exchange K)}

theorem exchanges_run (collaborators : Collaborators K) (job : Job K α) (before : Machine K) :
    ∃ made, (job.run collaborators before).2.exchanges = before.exchanges ++ made := by
  induction job generalizing before with
  | done value => exact ⟨[], (List.append_nil _).symm⟩
  | fail failure =>
      refine ⟨[], ?_⟩
      rw [run, before.exchanges_stopPhase, List.append_nil]
  | ask request next ih =>
      have first := before.exchanges_perform collaborators request
      rw [run]
      generalize before.perform collaborators request = performed at first ⊢
      rcases performed with ⟨failure | answer, middle⟩
      · exact ⟨_, middle.exchanges_stopPhase.trans first⟩
      · obtain ⟨rest, made⟩ := ih answer middle
        rw [first, List.append_assoc] at made
        exact ⟨_, made⟩

theorem runs_run (collaborators : Collaborators K) (job : Job K α) (before : Machine K) :
    ∃ made, job.Runs collaborators before (job.run collaborators before).1 made
      (job.run collaborators before).2 := by
  obtain ⟨made, makes⟩ := exchanges_run collaborators job before
  exact ⟨made, rfl, makes⟩

theorem Runs.unique {other : List (Exchange K)} {otherResult : Except Failure α}
    {halt : Machine K} (runs : job.Runs collaborators before result made after)
    (again : job.Runs collaborators before otherResult other halt) :
    otherResult = result ∧ other = made ∧ halt = after := by
  have same := again.ends.symm.trans runs.ends
  obtain ⟨rfl, rfl⟩ := Prod.mk.inj same
  exact ⟨rfl, List.append_cancel_left (again.makes.symm.trans runs.makes), rfl⟩

theorem run_bind_pure (collaborators : Collaborators K) (job : Job K α) (finish : α → β)
    (before : Machine K) :
    (job >>= fun value => pure (finish value)).run collaborators before =
      ((job.run collaborators before).1.map finish, (job.run collaborators before).2) := by
  rw [run_bind]
  generalize job.run collaborators before = ran
  obtain ⟨failure | value, after⟩ := ran <;> rfl

theorem run_bind_ok {value : β} :
    (job >>= next).run collaborators before = (.ok value, after) ↔
      ∃ given middle, job.run collaborators before = (.ok given, middle) ∧
        (next given).run collaborators middle = (.ok value, after) := by
  rw [run_bind]
  generalize job.run collaborators before = ran
  obtain ⟨failure | given, middle⟩ := ran
  · simp
  · constructor
    · intro ended
      exact ⟨given, middle, rfl, ended⟩
    · rintro ⟨_, _, same, ended⟩
      cases same
      exact ended

theorem run_request_ok {request : Request K} {answer : request.Answer} :
    (Job.request request).run collaborators before = (.ok answer, after) ↔
      before.perform collaborators request = (.ok answer, after) := by
  rw [Job.request, run]
  generalize before.perform collaborators request = performed
  obtain ⟨failure | given, middle⟩ := performed
  · simp
  · simp [run]

/-! ## Taking runs apart -/

theorem runs_pure {value : α} :
    (pure value : Job K α).Runs collaborators before result made after ↔
      result = .ok value ∧ made = [] ∧ after = before := by
  constructor
  · rintro ⟨ends, makes⟩
    obtain ⟨rfl, rfl⟩ := Prod.mk.inj ends
    exact ⟨rfl, by simpa using makes, rfl⟩
  · rintro ⟨rfl, rfl, rfl⟩
    exact ⟨rfl, (List.append_nil _).symm⟩

theorem runs_fail {failure : Failure} :
    (Job.fail failure : Job K α).Runs collaborators before result made after ↔
      result = .error failure ∧ made = [] ∧ after = before.stopPhase := by
  constructor
  · rintro ⟨ends, makes⟩
    obtain ⟨rfl, rfl⟩ := Prod.mk.inj ends
    exact ⟨rfl, by simpa using makes, rfl⟩
  · rintro ⟨rfl, rfl, rfl⟩
    exact ⟨rfl, by rw [before.exchanges_stopPhase, List.append_nil]⟩

/-- A run of two jobs is one of the first and then one of the second, or ends with a failure of the
first. -/
theorem runs_bind {outcome : Except Failure β} :
    (job >>= next).Runs collaborators before outcome made after ↔
      (∃ value first middle rest, job.Runs collaborators before (.ok value) first middle ∧
        (next value).Runs collaborators middle outcome rest after ∧ made = first ++ rest) ∨
      ∃ failure, outcome = .error failure ∧
        job.Runs collaborators before (.error failure) made after := by
  obtain ⟨first, firstRuns⟩ := runs_run collaborators job before
  have ends := run_bind collaborators job next before
  generalize job.run collaborators before = ran at firstRuns ends
  obtain ⟨failure | value, middle⟩ := ran
  · constructor
    · intro runs
      obtain ⟨rfl, rfl⟩ := Prod.mk.inj (runs.ends.symm.trans ends)
      exact .inr ⟨failure, rfl, firstRuns.ends, runs.makes⟩
    · rintro (⟨value, _, _, _, runs, -, -⟩ | ⟨other, rfl, runs⟩)
      · cases (firstRuns.unique runs).1
      · obtain ⟨same, rfl, rfl⟩ := firstRuns.unique runs
        cases same
        exact ⟨ends, firstRuns.makes⟩
  · obtain ⟨rest, restRuns⟩ := runs_run collaborators (next value) middle
    have whole : (job >>= next).Runs collaborators before
        ((next value).run collaborators middle).1 (first ++ rest)
        ((next value).run collaborators middle).2 :=
      ⟨ends, by rw [restRuns.makes, firstRuns.makes, List.append_assoc]⟩
    constructor
    · intro runs
      obtain ⟨rfl, rfl, rfl⟩ := whole.unique runs
      exact .inl ⟨value, first, middle, rest, firstRuns, restRuns, rfl⟩
    · rintro (⟨other, _, _, _, runs, tail, rfl⟩ | ⟨failure, rfl, runs⟩)
      · obtain ⟨same, rfl, rfl⟩ := firstRuns.unique runs
        cases same
        obtain ⟨rfl, rfl, rfl⟩ := restRuns.unique tail
        exact whole
      · cases (firstRuns.unique runs).1

theorem runs_bind_ok {value : β} :
    (job >>= next).Runs collaborators before (.ok value) made after ↔
      ∃ given first middle rest, job.Runs collaborators before (.ok given) first middle ∧
        (next given).Runs collaborators middle (.ok value) rest after ∧ made = first ++ rest := by
  rw [runs_bind, or_iff_left]
  rintro ⟨failure, impossible, -⟩
  cases impossible

theorem runs_of_bind_pure {finish : α → β} {outcome : Except Failure β}
    (runs : (job >>= fun value => pure (finish value)).Runs collaborators before outcome made
      after) :
    ∃ result, outcome = result.map finish ∧ job.Runs collaborators before result made after := by
  rcases runs_bind.mp runs with ⟨value, first, middle, _, begun, ending, rfl⟩ | ⟨failure, rfl, failed⟩
  · obtain ⟨rfl, rfl, rfl⟩ := runs_pure.mp ending
    rw [List.append_nil]
    exact ⟨.ok value, rfl, begun⟩
  · exact ⟨.error failure, rfl, failed⟩

theorem runs_request {request : Request K} {answer : Except Failure request.Answer}
    (runs : (Job.request request).Runs collaborators before answer made after) :
    answer = (before.perform collaborators request).1 ∧
      made = (Event.exchange? ⟨request, answer⟩).toList := by
  have ends := runs.ends
  have makes := runs.makes
  have first := before.exchanges_perform collaborators request
  rw [Job.request, run] at ends
  generalize before.perform collaborators request = performed at first ends ⊢
  rcases performed with ⟨failure | given, middle⟩
  · obtain ⟨rfl, rfl⟩ := Prod.mk.inj ends
    rw [middle.exchanges_stopPhase] at makes
    exact ⟨rfl, List.append_cancel_left (makes.symm.trans first)⟩
  · obtain ⟨rfl, rfl⟩ := Prod.mk.inj ends
    exact ⟨rfl, List.append_cancel_left (makes.symm.trans first)⟩

theorem runs_call {toCall : Call K} {answer : Except Failure toCall.Answer}
    (runs : (Job.call toCall).Runs collaborators before answer made after) :
    made = [⟨toCall, answer⟩] :=
  (runs_request runs).2

theorem runs_aside {request : Request K} {answer : Except Failure request.Answer}
    (aside : request.call? = none) :
    (Job.request request).Runs collaborators before answer made after ↔
      answer = (before.perform collaborators request).1 ∧ made = [] ∧
        after = (before.perform collaborators request).2 := by
  obtain ⟨given, answered⟩ := before.perform_aside_ok collaborators aside
  have whole : (Job.request request).Runs collaborators before
      (before.perform collaborators request).1 [] (before.perform collaborators request).2 := by
    refine ⟨?_, by rw [before.exchanges_perform_aside collaborators aside, List.append_nil]⟩
    rw [Job.request, run]
    generalize before.perform collaborators request = performed at answered ⊢
    obtain ⟨result, middle⟩ := performed
    cases answered
    rfl
  constructor
  · intro runs
    obtain ⟨rfl, rfl, rfl⟩ := whole.unique runs
    exact ⟨rfl, rfl, rfl⟩
  · rintro ⟨rfl, rfl, rfl⟩
    exact whole

theorem runs_call_bind_ok {toCall : Call K} {next : toCall.Answer → Job K β} {value : β} :
    (Job.call toCall >>= next).Runs collaborators before (.ok value) made after ↔
      ∃ answer middle rest,
        (Job.call toCall).Runs collaborators before (.ok answer) [⟨toCall, .ok answer⟩] middle ∧
        (next answer).Runs collaborators middle (.ok value) rest after ∧
        made = ⟨toCall, .ok answer⟩ :: rest := by
  rw [runs_bind_ok]
  constructor
  · rintro ⟨answer, _, middle, rest, called, runs, rfl⟩
    obtain rfl := runs_call called
    exact ⟨answer, middle, rest, called, runs, rfl⟩
  · rintro ⟨answer, middle, rest, called, runs, rfl⟩
    exact ⟨answer, _, middle, rest, called, runs, rfl⟩

theorem runs_call_bind {toCall : Call K} {next : toCall.Answer → Job K β}
    {outcome : Except Failure β}
    (runs : (Job.call toCall >>= next).Runs collaborators before outcome made after) :
    (∃ answer middle rest, (next answer).Runs collaborators middle outcome rest after ∧
        made = ⟨toCall, .ok answer⟩ :: rest) ∨
      ∃ failure, outcome = .error failure ∧ made = [⟨toCall, .error failure⟩] := by
  rcases runs_bind.mp runs with ⟨answer, _, middle, rest, called, tail, rfl⟩ | ⟨failure, rfl, called⟩
  · obtain rfl := runs_call called
    exact .inl ⟨answer, middle, rest, tail, rfl⟩
  · exact .inr ⟨failure, rfl, runs_call called⟩

theorem runs_aside_bind {request : Request K} {next : request.Answer → Job K β}
    {outcome : Except Failure β} (aside : request.call? = none) :
    (Job.request request >>= next).Runs collaborators before outcome made after ↔
      ∃ answer, (before.perform collaborators request).1 = .ok answer ∧
        (next answer).Runs collaborators (before.perform collaborators request).2 outcome
          made after := by
  rw [runs_bind]
  constructor
  · rintro (⟨answer, _, _, _, asked, runs, rfl⟩ | ⟨failure, -, asked⟩)
    · obtain ⟨given, rfl, rfl⟩ := (runs_aside aside).mp asked
      exact ⟨answer, given.symm, runs⟩
    · obtain ⟨answer, answered⟩ := before.perform_aside_ok collaborators aside
      cases ((runs_aside aside).mp asked).1.trans answered
  · rintro ⟨answer, given, runs⟩
    exact .inl ⟨answer, [], _, made, (runs_aside aside).mpr ⟨given.symm, rfl, rfl⟩, runs, rfl⟩

/-- Timing a job adds no call, and no failure of its own. -/
theorem runs_timed {phase : Phase} {job : Job K α}
    (runs : (timed phase job).Runs collaborators before result made after) :
    ∃ start stop, job.Runs collaborators start result made stop := by
  rw [timed, runs_aside_bind rfl] at runs
  obtain ⟨_, -, runs⟩ := runs
  rw [runs_bind] at runs
  rcases runs with ⟨value, inner, stop, _, runs, closing, rfl⟩ | ⟨failure, rfl, runs⟩
  · obtain ⟨_, -, closed⟩ := (runs_aside_bind rfl).mp closing
    obtain ⟨rfl, rfl, -⟩ := runs_pure.mp closed
    exact ⟨_, stop, by simpa using runs⟩
  · exact ⟨_, after, runs⟩

/-! ## What a job can do at all -/

/-- A failure that came from the last call made. -/
def Raised (made : List (Exchange K)) (failure : Failure) : Prop :=
  ∃ earlier toCall, made = earlier ++ [⟨toCall, .error failure⟩]

theorem Raised.append {made : List (Exchange K)} {failure : Failure} (raised : Raised made failure)
    (earlier : List (Exchange K)) :
    Raised (earlier ++ made) failure := by
  obtain ⟨others, toCall, rfl⟩ := raised
  exact ⟨earlier ++ others, toCall, (List.append_assoc ..).symm⟩

theorem runs_call_raised {toCall : Call K} {failure : Failure}
    (runs : (Job.call toCall).Runs collaborators before (.error failure) made after) :
    Raised made failure :=
  ⟨[], toCall, runs_call runs⟩

/-- However it is answered, a job makes only `requests` and ends by itself only with `failures`. -/
def Confined (requests : Request K → Prop) (failures : Failure → Prop) : Job K α → Prop
  | .done _ => True
  | .fail failure => failures failure
  | .ask request next =>
      requests request ∧ ∀ answer, (next answer).Confined requests failures

variable {requests : Request K → Prop} {failures : Failure → Prop}

theorem confined_pure (value : α) : (pure value : Job K α).Confined requests failures :=
  trivial

theorem confined_request {request : Request K} (allowed : requests request) :
    (Job.request request).Confined requests failures :=
  ⟨allowed, fun _ => trivial⟩

theorem Confined.bind {job : Job K α} (first : job.Confined requests failures)
    (rest : ∀ value, (next value).Confined requests failures) :
    (job >>= next).Confined requests failures := by
  change (job.andThen next).Confined requests failures
  induction job with
  | done value => exact rest value
  | fail failure => exact first
  | ask request continuation ih => exact ⟨first.1, fun answer => ih answer (first.2 answer)⟩

theorem Confined.mono {more : Request K → Prop} {job : Job K α}
    (confined : job.Confined requests failures)
    (weaker : ∀ request, requests request → more request) : job.Confined more failures := by
  induction job with
  | done value => trivial
  | fail failure => exact confined
  | ask request next ih =>
      exact ⟨weaker request confined.1, fun answer => ih answer (confined.2 answer)⟩

theorem Confined.optional {condition : Prop} [Decidable condition] {request : Request K}
    {rest : Job K α} (allowed : requests request) (confined : rest.Confined requests failures) :
    (if condition then Job.request request >>= fun _ => rest else rest).Confined requests
      failures := by
  split
  · exact (confined_request allowed).bind fun _ => confined
  · exact confined

theorem Confined.timed {phase : Phase} {job : Job K α} (start : requests (.startPhase phase))
    (stop : requests .stopPhase) (confined : job.Confined requests failures) :
    (Job.timed phase job).Confined requests failures :=
  (confined_request start).bind fun _ => confined.bind fun value =>
    (confined_request stop).bind fun _ => confined_pure value

theorem confined_forM {items : List ι} {act : ι → Job K Unit}
    (each : ∀ item ∈ items, (act item).Confined requests failures) :
    (items.forM act).Confined requests failures := by
  induction items with
  | nil => exact confined_pure ()
  | cons item rest ih =>
      change (act item >>= fun _ => rest.forM act).Confined requests failures
      exact (each item List.mem_cons_self).bind fun _ =>
        ih fun other member => each other (List.mem_cons_of_mem _ member)

theorem confined_foldlM {items : List ι} {step : α → ι → Job K α}
    (each : ∀ value, ∀ item ∈ items, (step value item).Confined requests failures) (start : α) :
    (items.foldlM step start).Confined requests failures := by
  induction items generalizing start with
  | nil => exact confined_pure start
  | cons item rest ih =>
      rw [List.foldlM_cons]
      exact (each start item List.mem_cons_self).bind fun value =>
        ih (fun value other member => each value other (List.mem_cons_of_mem _ member)) value

theorem Runs.confined {job : Job K α} (runs : job.Runs collaborators before result made after)
    (confined : job.Confined requests failures) :
    (∀ exchange ∈ made, requests (.call exchange.call)) ∧
      ∀ failure, result = .error failure → failures failure ∨ Raised made failure := by
  induction job generalizing before made with
  | done value =>
      obtain ⟨rfl, rfl, -⟩ := runs_pure.mp runs
      simp
  | fail failure =>
      obtain ⟨rfl, rfl, -⟩ := runs_fail.mp runs
      refine ⟨by simp, fun other same => .inl ?_⟩
      cases same
      exact confined
  | ask request next ih =>
      change (Job.request request >>= next).Runs _ _ _ _ _ at runs
      have allowed (answer : Except Failure request.Answer) :
          ∀ exchange ∈ (Event.exchange? ⟨request, answer⟩).toList,
            requests (.call exchange.call) := by
        cases request with
        | call toCall => simpa [Event.exchange?] using confined.1
        | _ => simp [Event.exchange?]
      rcases runs_bind.mp runs with ⟨answer, _, _, _, asked, tail, rfl⟩ | ⟨failure, rfl, asked⟩
      · obtain ⟨-, rfl⟩ := runs_request asked
        obtain ⟨within, ends⟩ := ih answer tail (confined.2 answer)
        refine ⟨fun exchange member => ?_, fun failure failed => ?_⟩
        · rcases List.mem_append.mp member with first | later
          · exact allowed _ exchange first
          · exact within exchange later
        · exact (ends failure failed).imp_right fun raised => raised.append _
      · obtain ⟨same, rfl⟩ := runs_request asked
        refine ⟨allowed _, fun other failed => .inr ?_⟩
        cases failed
        cases called : request.call? with
        | none =>
            obtain ⟨answer, answered⟩ := before.perform_aside_ok collaborators called
            cases same.trans answered
        | some toCall =>
            cases request with
            | call toCall => exact ⟨[], toCall, rfl⟩
            | _ => cases called

end Job

end VerifiedBuild
