import VerifiedBuild.Proofs.Make.Composition

/-!
# How runs end

A run that comes to an end has a status that speaks of its programs, never the one of a run that did
not get as far as that. A run that fails does so by itself, with a failure of the pipeline, or with
what a collaborator raised.
-/

namespace VerifiedBuild

variable {K : Toolkit} {α β ι : Type} {collaborators : Collaborators K}

/-! ## Statuses -/

def ExitStatus.isOfPrograms : ExitStatus → Bool
  | .verified | .notCompiled | .notVerified | .notWritten => true
  | .notStarted | .other _ => false

theorem ExitStatus.isOfPrograms_ofResults (verified fulfilled unwritten : Bool) :
    (ofResults verified fulfilled unwritten).isOfPrograms := by
  cases verified <;> cases fulfilled <;> cases unwritten <;> rfl

theorem ExitStatus.isOfPrograms_merge {current next : ExitStatus} (first : current.isOfPrograms)
    (second : next.isOfPrograms) : (current.merge next).isOfPrograms := by
  unfold merge
  split
  · exact second
  · exact first

namespace Job

/-- However it is answered, a job that comes to an end has one of `values`. -/
def Yields (values : α → Prop) : Job K α → Prop
  | .done value => values value
  | .fail _ => True
  | .ask _ next => ∀ answer, (next answer).Yields values

variable {values : α → Prop}

theorem yields_pure {value : α} (allowed : values value) : (pure value : Job K α).Yields values :=
  allowed

theorem Yields.bind {given : β → Prop} {job : Job K β} {next : β → Job K α}
    (first : job.Yields given) (rest : ∀ value, given value → (next value).Yields values) :
    (job >>= next).Yields values := by
  change (job.andThen next).Yields values
  induction job with
  | done value => exact rest value first
  | fail failure => trivial
  | ask request continuation ih => exact fun answer => ih answer (first answer)

theorem yields_bind {job : Job K β} {next : β → Job K α}
    (rest : ∀ value, (next value).Yields values) : (job >>= next).Yields values := by
  have anything : job.Yields fun _ => True := by
    induction job with
    | done value => trivial
    | fail failure => trivial
    | ask request continuation ih => exact ih
  exact anything.bind fun value _ => rest value

theorem yields_foldlM {items : List ι} {step : α → ι → Job K α}
    (each : ∀ value item, values value → (step value item).Yields values) {start : α}
    (allowed : values start) : (items.foldlM step start).Yields values := by
  induction items generalizing start with
  | nil => exact allowed
  | cons item rest ih =>
      rw [List.foldlM_cons]
      exact (each start item allowed).bind fun value => ih

theorem Yields.of_run {job : Job K α} (yields : job.Yields values) {before after : Machine K}
    {value : α} (ended : job.run collaborators before = (.ok value, after)) : values value := by
  induction job generalizing before with
  | done given =>
      cases ended
      exact yields
  | fail failure => cases ended
  | ask request next ih =>
      rw [run] at ended
      generalize before.perform collaborators request = performed at ended
      obtain ⟨failure | answer, middle⟩ := performed
      · cases ended
      · exact ih answer (yields answer) ended

end Job

/-! ## Failures -/

namespace Job

variable {requests : Request K → Prop} {failures : Failure → Prop}

end Job

/-! ## Programs -/

variable {config : Config} {program : K.Program} {first last : Source} {files others : List Source}
  {lineage : Option String} {snapshots : Bool}

theorem yields_judgeProgram :
    (judgeProgram config program first last others lineage).Yields (·.isOfPrograms) := by
  unfold judgeProgram
  split
  · refine Job.yields_bind fun units => Job.yields_bind fun aggregate => Job.yields_bind
      fun compiled => Job.yields_pure ?_
    exact ExitStatus.isOfPrograms_ofResults _ _ _
  · exact Job.yields_pure rfl

theorem yields_makeProgram :
    (makeProgram config files others lineage : Job K ExitStatus).Yields (·.isOfPrograms) := by
  cases files with
  | nil => trivial
  | cons first rest =>
      unfold makeProgram
      apply Job.yields_bind
      rintro ⟨program, _ | error⟩
      · cases program with
        | none => exact Job.yields_pure rfl
        | some program =>
            refine yields_judgeProgram.bind fun status proper => ?_
            exact Job.yields_bind fun _ => Job.yields_pure proper
      · exact Job.yields_bind fun _ => Job.yields_pure rfl

theorem yields_makeTogether :
    (makeTogether config files others snapshots lineage : Job K ExitStatus).Yields
      (·.isOfPrograms) := by
  unfold makeTogether
  split
  · refine Job.yields_bind fun host => Job.yields_foldlM (fun status group proper => ?_) rfl
    exact yields_makeProgram.bind fun next made =>
      Job.yields_pure (ExitStatus.isOfPrograms_merge proper made)
  · exact yields_makeProgram

theorem yields_makeAll (config : Config) (files others : List Source) :
    (makeAll config files others : Job K ExitStatus).Yields (·.isOfPrograms) := by
  unfold makeAll makeFiles
  split
  · refine Job.yields_foldlM (fun status file proper => ?_) rfl
    have separate : (makeSeparately config true file : Job K ExitStatus).Yields
        (·.isOfPrograms) :=
      Job.yields_bind fun _ => Job.yields_bind fun _ => yields_makeTogether
    exact separate.bind fun next made =>
      Job.yields_pure (ExitStatus.isOfPrograms_merge proper made)
  · exact yields_makeTogether

/-! ## All that a run can fail with -/

def Request.isPhased : Request K → Bool
  | .call toCall => toCall.phase?.isSome
  | .startPhase _ | .stopPhase => true
  | _ => false

def Job.Examination.confined {requests : Request K → Prop}
    (common : ∀ request : Request K, request.isCommon → requests request)
    (phased : ∀ request : Request K, request.isPhased → requests request) : Job.Examination K :=
  have timed {α : Type} {phase : Phase} {toCall : Call K} {next : toCall.Answer → Job K α}
      (own : toCall.phase? = some phase)
      (inner : ∀ answer, (next answer).Confined requests (·.kind = .pipeline)) :
      (Job.timed phase (Job.call toCall >>= next)).Confined requests (·.kind = .pipeline) := by
    refine .timed (phased _ rfl) (phased _ rfl) (.bind (Job.confined_request (phased _ ?_)) inner)
    rw [Request.isPhased, own]
    rfl
  { holds := fun job _ => job.Confined requests (·.kind = .pipeline)
    done := fun value => Job.confined_pure value
    stopped := fun _ kind => kind
    bind := fun first rest => first.bind rest
    common := fun shared _ => Job.confined_request (common _ shared)
    timed := fun own _ _ _ inner => timed own inner
    examined := fun shared _ => Job.confined_request (common _ shared)
    timedExamined := fun own _ _ inner => timed own inner }

def Config.confined (K : Toolkit) (config : Config) :
    Config.Congruence K config config.ownReporting :=
  let congruence := Job.Examination.confined (fun _ _ => trivial) fun _ _ => trivial
  have asked (request : Request K) :
      congruence.holds (Job.request request) (Job.request request) :=
    ⟨trivial, fun _ => trivial⟩
  have counts (key : String) (amount : UInt64) := asked (.count key amount)
  { toCongruence := congruence.toCongruence
    translates := congruence.translateUnits counts config
    verifies := fun programFile lineage => congruence.verifyUntimed (asked .clock)
      (congruence.verifyUnit counts config programFile lineage)
    generates := congruence.generate (asked .errorCount)
    builds := fun plan => congruence.buildCounted counts
      (.timed trivial trivial (asked (.call (.build plan))))
    shows := congruence.printReports (fun toCall _ => asked (.call toCall)) config }

end VerifiedBuild
