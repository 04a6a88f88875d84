import VerifiedBuild.Proofs.Make.Composition
import VerifiedBuild.Proofs.Metrics

/-!
# The phases of a run

A run records each phase that one of its calls opens, in the order of the calls and once, also if a
call within the phase fails.
-/

namespace VerifiedBuild

variable {K : Toolkit} {α β : Type} {collaborators : Collaborators K}

/-! ## Machines -/

def Exchange.phases (made : List (Exchange K)) : List Phase :=
  made.filterMap (·.call.phase?)

def Request.phases (request : Request K) : List Phase :=
  (request.call?.bind Call.phase?).toList

/-- From one machine to the other, calls open some phases and some are recorded. -/
structure Machine.Moves (before after : Machine K) (opened recorded : List Phase) : Prop where
  opened : ∃ made, after.exchanges = before.exchanges ++ made ∧ Exchange.phases made = opened
  recorded : after.metrics.phases = before.metrics.phases ++ recorded
  enabled : after.metrics.enabled = before.metrics.enabled

namespace Machine

theorem moves_self (machine : Machine K) : machine.Moves machine [] [] :=
  ⟨⟨[], (List.append_nil _).symm, rfl⟩, (List.append_nil _).symm, rfl⟩

theorem Moves.trans {first middle last : Machine K} {opened recorded more others : List Phase}
    (earlier : first.Moves middle opened recorded) (later : middle.Moves last more others) :
    first.Moves last (opened ++ more) (recorded ++ others) := by
  obtain ⟨made, madeEarlier, rfl⟩ := earlier.opened
  obtain ⟨rest, madeLater, rfl⟩ := later.opened
  constructor
  case opened =>
    refine ⟨made ++ rest, ?_, List.filterMap_append⟩
    rw [madeLater, madeEarlier, List.append_assoc]
  case recorded => rw [later.recorded, earlier.recorded, List.append_assoc]
  case enabled => rw [later.enabled, earlier.enabled]

theorem opened_perform (machine : Machine K) (collaborators : Collaborators K)
    (request : Request K) :
    ∃ made, (machine.perform collaborators request).2.exchanges = machine.exchanges ++ made ∧
      Exchange.phases made = request.phases := by
  refine ⟨_, machine.exchanges_perform collaborators request, ?_⟩
  cases request with
  | call toCall =>
      cases own : toCall.phase? <;>
        simp [Exchange.phases, Event.exchange?, Request.phases, Request.call?, own]
  | _ => rfl

theorem moves_perform (machine : Machine K) (collaborators : Collaborators K)
    {request : Request K} (steady : request.isSteady) :
    machine.Moves (machine.perform collaborators request).2 request.phases [] := by
  obtain ⟨-, phases, enabled⟩ := machine.steady_perform collaborators steady
  exact ⟨machine.opened_perform collaborators request, by rw [phases, List.append_nil], enabled⟩

def Closes (before after : Machine K) (opened recorded : List Phase) : Prop :=
  before.Moves after opened recorded ∧ after.timing = none

theorem closes_stopPhase {machine : Machine K} {phase : Phase} {start : Nat}
    (timing : machine.timing = some (phase, start)) (enabled : machine.metrics.enabled) :
    machine.Closes machine.stopPhase [] [phase] := by
  obtain ⟨closed, phases, still⟩ := stopPhase_of_timing timing enabled
  refine ⟨⟨⟨[], ?_, rfl⟩, phases, still.trans enabled.symm⟩, closed⟩
  rw [exchanges_stopPhase, List.append_nil]

theorem closes_perform_stopPhase {machine : Machine K} {phase : Phase} {start : Nat}
    (timing : machine.timing = some (phase, start)) (enabled : machine.metrics.enabled)
    (collaborators : Collaborators K) :
    machine.Closes (machine.perform collaborators .stopPhase).2 [] [phase] := by
  obtain ⟨closed, phases, still⟩ := stopPhase_of_timing timing enabled
  obtain ⟨same, metrics⟩ := machine.perform_stopPhase collaborators
  refine ⟨⟨machine.opened_perform collaborators _, ?_, ?_⟩, same.trans closed⟩
  · rw [metrics, phases]
  · rw [metrics, still, enabled]

end Machine

/-! ## Within a phase -/

theorem Request.phases_eq_nil {request : Request K} (aside : request.isWithin ∨ request.isCommon) :
    request.isSteady ∧ request.phases = [] := by
  cases request with
  | call toCall =>
      simp only [isWithin, isCommon, or_self, Bool.and_eq_true, Option.isNone_iff_eq_none] at aside
      exact ⟨rfl, by simp [phases, call?, aside.1]⟩
  | _ => first | exact ⟨rfl, rfl⟩ | simp [isWithin, isCommon] at aside

namespace Job

/-- Started within the phase, the job makes calls that open `opened`. It leaves the phase timed, unless
a failure ends it. -/
def Continues (collaborators : Collaborators K) (phase : Phase) (opened : List Phase)
    (job : Job K α) : Prop :=
  ∀ ⦃start : Nat⦄ ⦃before : Machine K⦄, before.timing = some (phase, start) →
    before.metrics.enabled →
    (∃ value after, job.run collaborators before = (.ok value, after) ∧
      before.Moves after opened [] ∧ after.timing = some (phase, start)) ∨
    ∃ failure after, job.run collaborators before = (.error failure, after) ∧
      before.Closes after opened [phase]

variable {phase : Phase}

theorem continues_ask {request : Request K} {next : request.Answer → Job K α}
    (steady : request.isSteady)
    (rest : ∀ answer, (next answer).Continues collaborators phase []) :
    (Job.ask request next).Continues collaborators phase request.phases := by
  intro start before timing enabled
  have step := before.moves_perform collaborators steady
  have still := (before.steady_perform collaborators steady).1
  rw [run]
  generalize before.perform collaborators request = performed at step still ⊢
  rw [timing] at still
  obtain ⟨failure | answer, middle⟩ := performed
  · obtain ⟨closing, closed⟩ := Machine.closes_stopPhase still (step.enabled.trans enabled)
    have whole := step.trans closing
    rw [List.append_nil] at whole
    exact .inr ⟨failure, _, rfl, whole, closed⟩
  · rcases rest answer still (step.enabled.trans enabled) with
      ⟨value, after, ended, later, timed⟩ | ⟨failure, after, ended, later, closed⟩
    · have whole := step.trans later
      rw [List.append_nil] at whole
      exact .inl ⟨value, after, ended, whole, timed⟩
    · have whole := step.trans later
      rw [List.append_nil] at whole
      exact .inr ⟨failure, after, ended, whole, closed⟩

theorem continues_of_within {job : Job K α}
    (confined : job.Confined (·.isWithin) fun _ => False) :
    job.Continues collaborators phase [] := by
  induction job with
  | done value =>
      intro start before timing _
      exact .inl ⟨value, before, rfl, before.moves_self, timing⟩
  | fail failure => cases confined
  | ask request next ih =>
      obtain ⟨within, others⟩ := confined
      obtain ⟨steady, opensNone⟩ := Request.phases_eq_nil (.inl within)
      have continues : (Job.ask request next).Continues collaborators phase request.phases :=
        continues_ask steady fun answer => ih answer (others answer)
      rw [opensNone] at continues
      exact continues

theorem continues_opening {toCall : Call K} {next : toCall.Answer → Job K α}
    (own : toCall.phase? = some phase)
    (within : ∀ answer, (next answer).Confined (·.isWithin) fun _ => False) :
    (Job.call toCall >>= next).Continues collaborators phase [phase] := by
  have opens : (Request.call toCall).phases = [phase] := by
    simp [Request.phases, Request.call?, own]
  rw [← opens]
  exact continues_ask rfl fun answer => continues_of_within (within answer)

/-! ## Whole jobs -/

/-- The phases that the calls of the job open are all recorded, in the same order. -/
def Clocked (collaborators : Collaborators K) (job : Job K α) : Prop :=
  ∀ ⦃before : Machine K⦄, before.timing = none → before.metrics.enabled →
    ∃ phases, before.Closes (job.run collaborators before).2 phases phases

theorem clocked_pure (value : α) : (pure value : Job K α).Clocked collaborators := by
  intro before idle _
  exact ⟨[], before.moves_self, idle⟩

theorem clocked_fail (failure : Failure) : (.fail failure : Job K α).Clocked collaborators := by
  intro before idle _
  rw [run, Machine.stopPhase_of_idle idle]
  exact ⟨[], before.moves_self, idle⟩

theorem Clocked.bind {job : Job K α} {next : α → Job K β} (first : job.Clocked collaborators)
    (rest : ∀ value, (next value).Clocked collaborators) :
    (job >>= next).Clocked collaborators := by
  intro before idle enabled
  obtain ⟨phases, moved, closed⟩ := first idle enabled
  rw [run_bind]
  generalize job.run collaborators before = ran at moved closed
  obtain ⟨failure | value, middle⟩ := ran
  · exact ⟨phases, moved, closed⟩
  · obtain ⟨more, later, still⟩ := rest value closed (moved.enabled.trans enabled)
    exact ⟨phases ++ more, moved.trans later, still⟩

theorem clocked_request {request : Request K} (steady : request.isSteady)
    (none : request.phases = []) : (Job.request request).Clocked collaborators := by
  intro before idle _
  have moved := before.moves_perform collaborators steady
  have still := (before.steady_perform collaborators steady).1
  rw [none] at moved
  refine ⟨[], ?_⟩
  rw [Job.request, run]
  generalize before.perform collaborators request = performed at moved still ⊢
  rw [idle] at still
  obtain ⟨failure | answer, middle⟩ := performed
  · dsimp only at moved still ⊢
    rw [Machine.stopPhase_of_idle still]
    exact ⟨moved, still⟩
  · exact ⟨moved, still⟩

theorem clocked_timed {phase : Phase} {toCall : Call K} {next : toCall.Answer → Job K β}
    (own : toCall.phase? = some phase)
    (within : ∀ answer, (next answer).Confined (·.isWithin) fun _ => False) :
    (Job.timed phase (Job.call toCall >>= next)).Clocked collaborators := by
  intro before idle enabled
  obtain ⟨timing, metrics⟩ := Machine.perform_startPhase idle collaborators phase
  have opens : before.Moves (before.perform collaborators (.startPhase phase)).2 [] [] := by
    constructor
    case opened => exact before.opened_perform collaborators _
    case recorded => rw [metrics, List.append_nil]
    case enabled => rw [metrics]
  refine ⟨[phase], ?_⟩
  -- What is left once the phase is timed: the job, and after it the end of the phase.
  change before.Closes (((Job.call toCall >>= next) >>= fun value =>
    Job.request .stopPhase >>= fun _ => pure value).run collaborators
      (before.perform collaborators (.startPhase phase)).2).2 [phase] [phase]
  rw [run_bind]
  rcases continues_opening own within timing (opens.enabled.trans enabled) with
    ⟨value, after, ended, moved, timed⟩ | ⟨failure, after, ended, moved, closed⟩
  · rw [ended]
    have whole := opens.trans moved
    obtain ⟨closing, closed⟩ := Machine.closes_perform_stopPhase timed
      (whole.enabled.trans enabled) collaborators
    exact ⟨whole.trans closing, closed⟩
  · rw [ended]
    exact ⟨opens.trans moved, closed⟩

theorem clocked_timedCall {phase : Phase} {toCall : Call K} (own : toCall.phase? = some phase) :
    (Job.timed phase (Job.call toCall)).Clocked collaborators := by
  have whole : (Job.timed phase (Job.call toCall >>= pure)).Clocked collaborators :=
    clocked_timed own fun answer => confined_pure answer
  rw [bind_pure] at whole
  exact whole

end Job

/-! ## Runs -/

def Job.Examination.clocked (collaborators : Collaborators K) : Job.Examination K :=
  have common {request : Request K} (shared : request.isCommon) :
      (Job.request request).Clocked collaborators :=
    have ⟨steady, opensNone⟩ := Request.phases_eq_nil (.inr shared)
    Job.clocked_request steady opensNone
  { holds := fun job _ => job.Clocked collaborators
    done := fun value => Job.clocked_pure value
    stopped := fun failure _ => Job.clocked_fail failure
    bind := fun first rest => first.bind rest
    common := fun shared _ => common shared
    timed := fun own _ _ within _ => Job.clocked_timed own within
    examined := fun shared _ => common shared
    timedExamined := fun own _ within _ => Job.clocked_timed own within }

def Config.clocked (collaborators : Collaborators K) (config : Config) :
    Config.Congruence K config config.ownReporting :=
  let congruence := Job.Examination.clocked collaborators
  have counts (key : String) (amount : UInt64) : congruence.holds
      (Job.request (.count key amount)) (Job.request (.count key amount)) :=
    Job.clocked_request rfl rfl
  { toCongruence := congruence.toCongruence
    translates := congruence.translateUnits counts config
    verifies := fun programFile lineage => congruence.verifyUntimed (Job.clocked_request rfl rfl)
      (congruence.verifyUnit counts config programFile lineage)
    generates := congruence.generate (Job.clocked_request rfl rfl)
    builds := fun _ => congruence.buildCounted counts (Job.clocked_timedCall rfl)
    shows := congruence.printReports (fun toCall shown => by
      refine Job.clocked_request rfl ?_
      cases toCall <;> first | rfl | cases shown) config }

theorem clocked_makeAll (collaborators : Collaborators K) (config : Config)
    (files others : List Source) : (makeAll config files others).Clocked collaborators :=
  (config.clocked collaborators).makeAll files others

end VerifiedBuild
