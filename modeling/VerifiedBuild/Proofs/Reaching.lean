import VerifiedBuild.Proofs.Run

/-!
# Points of a run

`Job.Reaches` says that a run comes to a point: there a part of the job is still to be done, on the
machine as it is by then. Everything a run asks for or shows before such a point stays: histories
and transcripts only grow. `Job.Does` says that from such a point on the run does a certain job as a
part of its own.
-/

namespace VerifiedBuild

variable {K : Toolkit} {α β γ ι : Type} {collaborators : Collaborators K}

/-! ## Transcripts grow -/

/-- All that was shown before is still shown, first of all. -/
def Console.Grows (before after : Console) : Prop :=
  before.transcript <+: after.transcript

namespace Console

theorem Grows.refl (console : Console) : console.Grows console :=
  List.prefix_refl _

theorem Grows.trans {first middle last : Console} (earlier : first.Grows middle)
    (later : middle.Grows last) : first.Grows last :=
  List.IsPrefix.trans earlier later

theorem grows_foldl {ι : Type} {step : Console → ι → Console}
    (each : ∀ (console : Console) item, console.Grows (step console item)) (items : List ι)
    (console : Console) : console.Grows (items.foldl step console) := by
  induction items generalizing console with
  | nil => exact .refl console
  | cons item rest ih => exact (each console item).trans (ih (step console item))

theorem grows_add (console : Console) (emission : Emission) :
    console.Grows (console.add emission) :=
  List.prefix_append _ _

theorem grows_errorLine (console : Console) (line : String) :
    console.Grows (console.errorLine line) := by
  have shown : console.Grows (console.emit .err (line ++ "\n")) := console.grows_add _
  unfold errorLine
  dsimp only
  split
  · exact shown
  · exact shown.trans (grows_add _ _)

theorem grows_report (console : Console) (diagnostic : Diagnostic) :
    console.Grows (console.report diagnostic) := by
  unfold report
  split
  · exact grows_errorLine { console with tally := console.tally.add diagnostic.severity } _
  · exact grows_add { console with tally := console.tally.add diagnostic.severity } _

theorem grows_reportFromEngine (console : Console) (diagnostic : Diagnostic) :
    console.Grows (console.reportFromEngine diagnostic) :=
  grows_foldl grows_report _ console

end Console

namespace Machine

theorem grows_display (console : Console) (shown : Channel × Diagnostic) :
    console.Grows (display console shown) := by
  obtain ⟨channel, diagnostic⟩ := shown
  cases channel with
  | source => exact console.grows_report diagnostic
  | engine => exact console.grows_reportFromEngine diagnostic

theorem grows_absorb (machine : Machine K) {toCall : Call K} (reply : Reply toCall) :
    machine.console.Grows (machine.absorb reply).console :=
  (Console.grows_foldl grows_display reply.reports machine.console).trans
    (Console.grows_foldl Console.grows_add _ _)

@[simp] theorem console_stopPhase (machine : Machine K) :
    machine.stopPhase.console = machine.console := by
  unfold stopPhase
  split <;> rfl

@[simp] theorem console_updateLog (machine : Machine K) :
    machine.updateLog.console = machine.console := by
  unfold updateLog
  split <;> rfl

theorem grows_answer (machine : Machine K) (collaborators : Collaborators K)
    (request : Request K) :
    machine.console.Grows (machine.answer collaborators request).2.console := by
  cases request with
  | call toCall => exact machine.grows_absorb _
  | write text => exact machine.console.grows_add _
  | errorLine line => exact machine.console.grows_errorLine line
  | startPhase phase =>
      have same : (machine.answer collaborators (.startPhase phase)).2.console =
          machine.stopPhase.console := rfl
      rw [same, console_stopPhase]
      exact .refl _
  | stopPhase =>
      have same : (machine.answer collaborators .stopPhase).2.console =
          machine.stopPhase.console := rfl
      rw [same, console_stopPhase]
      exact .refl _
  | openLog path =>
      unfold answer
      dsimp only
      split
      · exact .refl _
      · exact List.prefix_refl _
  | _ => exact List.prefix_refl _

theorem grows_perform (machine : Machine K) (collaborators : Collaborators K)
    (request : Request K) :
    machine.console.Grows (machine.perform collaborators request).2.console := by
  have same : (machine.perform collaborators request).2.console =
      (machine.answer collaborators request).2.updateLog.console := rfl
  rw [same, console_updateLog]
  exact machine.grows_answer collaborators request

@[simp] theorem history_perform (machine : Machine K) (collaborators : Collaborators K)
    (request : Request K) :
    (machine.perform collaborators request).2.history =
      machine.history ++ [⟨request, (machine.perform collaborators request).1⟩] :=
  rfl

theorem calls_perform (machine : Machine K) (collaborators : Collaborators K)
    (request : Request K) :
    (machine.perform collaborators request).2.calls = machine.calls ++ request.call?.toList := by
  rw [calls, history_perform, Event.calls, List.filterMap_append]
  cases called : request.call? <;> simp [called, calls, Event.calls]

end Machine

/-! ## Points -/

namespace Job

/-- A run of a job comes to the point where a part of it is still to be done, on the machine as it
is there. -/
inductive Reaches (collaborators : Collaborators K) :
    Job K α → Machine K → Job K α → Machine K → Prop
  | here (job : Job K α) (machine : Machine K) : Reaches collaborators job machine job machine
  | ask {request : Request K} {next : request.Answer → Job K α} {machine after there : Machine K}
      {answer : request.Answer} {rest : Job K α}
      (answered : machine.perform collaborators request = (.ok answer, after))
      (later : Reaches collaborators (next answer) after rest there) :
      Reaches collaborators (.ask request next) machine rest there

variable {job rest : Job K α} {before there : Machine K}

theorem Reaches.run_eq (reaches : job.Reaches collaborators before rest there) :
    job.run collaborators before = rest.run collaborators there := by
  induction reaches with
  | here job machine => rfl
  | ask answered later ih =>
      rw [run, answered]
      exact ih

theorem Reaches.trans {middle : Job K α} {here : Machine K}
    (first : job.Reaches collaborators before middle here)
    (second : middle.Reaches collaborators here rest there) :
    job.Reaches collaborators before rest there := by
  induction first with
  | here job machine => exact second
  | ask answered later ih => exact .ask answered (ih second)

theorem Reaches.bind (reaches : job.Reaches collaborators before rest there)
    (next : α → Job K β) :
    (job >>= next).Reaches collaborators before (rest >>= next) there := by
  induction reaches with
  | here job machine => exact .here _ machine
  | ask answered later ih => exact .ask answered ih

theorem reaches_pure {value : α} (ended : job.run collaborators before = (.ok value, there)) :
    job.Reaches collaborators before (pure value) there := by
  induction job generalizing before with
  | done other =>
      obtain ⟨same, rfl⟩ := Prod.mk.inj ended
      cases same
      exact .here _ _
  | fail failure => cases (Prod.mk.inj ended).1
  | ask request next ih =>
      rw [run] at ended
      cases answered : before.perform collaborators request with
      | mk result after =>
          rw [answered] at ended
          cases result with
          | ok answer => exact .ask answered (ih answer ended)
          | error failure => cases (Prod.mk.inj ended).1

theorem reaches_next {job : Job K β} {next : β → Job K α} {value : β} {middle : Machine K}
    (ended : job.run collaborators before = (.ok value, middle)) :
    (job >>= next).Reaches collaborators before (next value) middle := by
  have reached := (reaches_pure ended).bind next
  rw [pure_bind] at reached
  exact reached

theorem Reaches.history_isPrefix (reaches : job.Reaches collaborators before rest there) :
    before.history <+: there.history := by
  induction reaches with
  | here job machine => exact List.prefix_refl _
  | @ask request next machine after _ _ _ answered later ih =>
      have step := machine.history_perform collaborators request
      rw [answered] at step
      dsimp only at step
      rw [step] at ih
      exact (List.prefix_append _ _).trans ih

theorem history_isPrefix_run (collaborators : Collaborators K) (job : Job K α)
    (before : Machine K) : before.history <+: (job.run collaborators before).2.history := by
  induction job generalizing before with
  | done value => exact List.prefix_refl _
  | fail failure =>
      have kept : ((Job.fail failure : Job K α).run collaborators before).2.history =
          before.history := before.history_stopPhase
      exact ⟨[], (List.append_nil _).trans kept.symm⟩
  | ask request next ih =>
      have step := before.history_perform collaborators request
      rw [run]
      generalize before.perform collaborators request = performed at step ⊢
      rcases performed with ⟨failure | answer, middle⟩
      · dsimp only at step ⊢
        rw [middle.history_stopPhase, step]
        exact List.prefix_append _ _
      · have later := ih answer middle
        dsimp only at step ⊢
        rw [step] at later
        exact (List.prefix_append _ _).trans later

theorem grows_run (collaborators : Collaborators K) (job : Job K α) (before : Machine K) :
    before.console.Grows (job.run collaborators before).2.console := by
  induction job generalizing before with
  | done value => exact .refl _
  | fail failure =>
      rw [run, before.console_stopPhase]
      exact .refl _
  | ask request next ih =>
      have step := before.grows_perform collaborators request
      rw [run]
      generalize before.perform collaborators request = performed at step ⊢
      rcases performed with ⟨failure | answer, middle⟩
      · dsimp only at step ⊢
        rw [middle.console_stopPhase]
        exact step
      · exact step.trans (ih answer middle)

/-! ## Parts -/

/-- On its way from `before` the job does `part`, which begins on `there`. -/
def Does (collaborators : Collaborators K) (job : Job K α) (before : Machine K) (part : Job K β)
    (there : Machine K) : Prop :=
  ∃ next, job.Reaches collaborators before (part >>= next) there

section

variable {part : Job K β} {inner : Job K γ} {next : α → Job K β} {value : α}
  {middle here : Machine K}

theorem does_self (job : Job K α) (before : Machine K) :
    job.Does collaborators before job before := by
  refine ⟨pure, ?_⟩
  rw [bind_pure]
  exact .here job before

theorem Does.trans (outer : job.Does collaborators before part here)
    (within : part.Does collaborators here inner there) :
    job.Does collaborators before inner there := by
  obtain ⟨later, first⟩ := outer
  obtain ⟨next, second⟩ := within
  have joined := first.trans (second.bind later)
  rw [bind_assoc] at joined
  exact ⟨_, joined⟩

theorem does_bind (job : Job K α) (next : α → Job K β) (before : Machine K) :
    (job >>= next).Does collaborators before job before :=
  ⟨next, .here _ before⟩

theorem does_next (ended : job.run collaborators before = (.ok value, middle)) :
    (job >>= next).Does collaborators before (next value) middle := by
  refine ⟨pure, ?_⟩
  rw [bind_pure]
  exact reaches_next ended

end

/-- A run that goes through a list does the step of each item, which makes its calls there. -/
theorem does_of_foldlM {items : List ι} {step : β → ι → Job K β} {start value : β}
    {made : List (Exchange K)} {after : Machine K}
    (runs : (items.foldlM step start).Runs collaborators before (.ok value) made after) {item : ι}
    (member : item ∈ items) :
    ∃ current here result own stop,
      (items.foldlM step start).Does collaborators before (step current item) here ∧
      (step current item).Runs collaborators here (.ok result) own stop ∧ own ⊆ made := by
  induction items generalizing start before made with
  | nil => cases member
  | cons first rest ih =>
      rw [List.foldlM_cons] at runs ⊢
      obtain ⟨given, own, middle, later, begun, tail, rfl⟩ := runs_bind_ok.mp runs
      rcases List.mem_cons.mp member with rfl | member
      · exact ⟨start, before, given, own, middle, does_bind _ _ before, begun,
          List.subset_append_left own later⟩
      · obtain ⟨current, here, result, part, stop, does, partRuns, within⟩ := ih tail member
        have passed : (step start first >>= fun value => rest.foldlM step value).Does collaborators
            before (rest.foldlM step given) middle := does_next begun.ends
        exact ⟨current, here, result, part, stop, passed.trans does, partRuns,
          List.subset_append_of_subset_right own within⟩

/-! ## Calls are made at points -/

theorem Reaches.calls_isPrefix (reaches : job.Reaches collaborators before rest there) :
    before.calls <+: there.calls :=
  reaches.history_isPrefix.filterMap _

theorem history_ask (collaborators : Collaborators K) (there : Machine K) (request : Request K)
    (next : request.Answer → Job K α) :
    ∃ answer later, ((Job.ask request next).run collaborators there).2.history =
      there.history ++ ⟨request, answer⟩ :: later := by
  have step := there.history_perform collaborators request
  rw [run]
  generalize there.perform collaborators request = performed at step ⊢
  obtain ⟨failure | answer, after⟩ := performed
  · refine ⟨.error failure, [], ?_⟩
    dsimp only at step ⊢
    rw [after.history_stopPhase, step]
  · obtain ⟨later, whole⟩ := history_isPrefix_run collaborators (next answer) after
    refine ⟨.ok answer, later, ?_⟩
    dsimp only at step ⊢
    rw [← whole, step, List.append_assoc, List.singleton_append]

/-- Every event of a run is made at some point of it. -/
theorem exists_reaches {earlier later : List (Event K)} {event : Event K}
    (split : (job.run collaborators before).2.history = earlier ++ event :: later)
    (begun : before.history.length ≤ earlier.length) :
    ∃ next there, job.Reaches collaborators before (.ask event.request next) there ∧
      there.history = earlier := by
  induction job generalizing before with
  | done value =>
      change before.history = _ at split
      have := congrArg List.length split
      simp only [List.length_append, List.length_cons] at this
      omega
  | fail failure =>
      rw [run, before.history_stopPhase] at split
      have := congrArg List.length split
      simp only [List.length_append, List.length_cons] at this
      omega
  | ask request next ih =>
      by_cases turn : before.history.length = earlier.length
      · obtain ⟨answer, rest, whole⟩ := history_ask collaborators before request next
        obtain ⟨same, own⟩ := List.append_inj (whole.symm.trans split) turn
        obtain ⟨rfl, -⟩ := List.cons.inj own
        exact ⟨next, before, .here _ _, same⟩
      · have step := before.history_perform collaborators request
        rw [run] at split
        cases answered : before.perform collaborators request with
        | mk result after =>
            rw [answered] at split step
            dsimp only at split step
            have length : after.history.length = before.history.length + 1 := by
              rw [step, List.length_append, List.length_singleton]
            cases result with
            | ok answer =>
                obtain ⟨later, there, reaches, turn⟩ := ih answer split (by omega)
                exact ⟨later, there, .ask answered reaches, turn⟩
            | error failure =>
                rw [after.history_stopPhase] at split
                have whole := congrArg List.length split
                rw [length, List.length_append, List.length_cons] at whole
                omega

/-- The call that comes after `index` others is made at some point of the run. -/
theorem exists_reaches_call {index : Nat} (begun : before.calls.length ≤ index)
    (reached : index < (job.run collaborators before).2.calls.length) :
    ∃ toCall next there, job.Reaches collaborators before (.ask (.call toCall) next) there ∧
      there.calls.length = index := by
  have parts := List.take_append_drop index (job.run collaborators before).2.calls
  rw [List.drop_eq_getElem_cons reached] at parts
  obtain ⟨head, tail, whole, counted, rest⟩ := List.filterMap_eq_append_iff.mp parts.symm
  obtain ⟨quiet, event, later, rfl, none, called, -⟩ := List.filterMap_eq_cons_iff.mp rest
  have number : (Event.calls (head ++ quiet)).length = index := by
    rw [Event.calls, List.filterMap_append, List.filterMap_eq_nil_iff.mpr none, counted,
      List.append_nil, List.length_take]
    omega
  rw [← List.append_assoc] at whole
  -- The event is none of those before the run, whose calls are no more than `index`.
  have fresh : before.history.length ≤ (head ++ quiet).length := by
    apply Nat.le_of_not_lt
    intro short
    have after : head ++ quiet ++ [event] <+:
        (job.run collaborators before).2.history := by
      rw [whole]
      exact ⟨later, (List.append_cons _ event later).symm⟩
    have inside := List.prefix_of_prefix_length_le after
      (history_isPrefix_run collaborators job before) (by
        rw [List.length_append, List.length_singleton]
        omega)
    have fewer := (inside.filterMap (·.request.call?)).length_le
    rw [List.filterMap_append, List.length_append] at fewer
    change (Event.calls (head ++ quiet)).length + _ ≤ before.calls.length at fewer
    simp only [number, List.filterMap_cons, called, List.filterMap_nil, List.length_singleton]
      at fewer
    omega
  obtain ⟨next, there, reaches, turn⟩ := exists_reaches whole fresh
  have counted : there.calls.length = index := by
    rw [Machine.calls, turn, number]
  obtain ⟨request, answer⟩ := event
  cases request with
  | call toCall => exact ⟨toCall, next, there, reaches, counted⟩
  | _ => cases called

end Job

end VerifiedBuild
