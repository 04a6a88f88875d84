import VerifiedBuild.Proofs.Make.Flat
import VerifiedBuild.Proofs.Make.Program

/-!
# The gate before generated code

Code is generated, built and run only for programs whose units were all verified before, in the same
invocation, and none of which the engine left unfinished. Without force the verdicts decide as well.
-/

namespace VerifiedBuild

variable {K : Toolkit} {collaborators : Collaborators K} {config : Config} {before after : Machine K}
  {made : List (Exchange K)} {program : K.Program} {first last : Source} {others : List Source}
  {lineage : Option String}

/-! ## What the verdicts allow -/

/-- All units were put to the solver and it proved everything that was not proved before. -/
def Flawless (runs : List (UnitRun K)) : Prop :=
  ∀ run ∈ runs, run.verdict.outcome = .solved ∧ run.verdict.statistics.fresh.errors = 0 ∧
    run.verdict.statistics.fresh.inconclusive = 0 ∧ run.verdict.statistics.fresh.timeouts = 0 ∧
    run.verdict.statistics.fresh.outOfMemory = 0

/-- When code may be generated without force, with a build or without one. -/
def Permitted (config : Config) (runs : List (UnitRun K)) (wantsBuild : Bool) : Prop :=
  if wantsBuild then config.compile ∧ config.procedures = [] ∧ Flawless runs
  else config.spillLevel ≥ 3 ∨
    (config.spillLevel ≥ 2 ∧ config.procedures = [] ∧ Flawless runs)

def CodeMode.ofBuild (wantsBuild : Bool) : CodeMode :=
  if wantsBuild then .build else .codeOnly

theorem Statistics.anyFailure_eq_false_iff (statistics : Statistics) :
    statistics.anyFailure = false ↔ statistics.fresh.errors = 0 ∧
      statistics.fresh.inconclusive = 0 ∧ statistics.fresh.timeouts = 0 ∧
      statistics.fresh.outOfMemory = 0 := by
  simp [anyFailure, VerdictCounts.anyFailure, and_assoc]

theorem Aggregate.Records.flawless {aggregate : Aggregate} {runs : List (UnitRun K)}
    (records : aggregate.Records runs) (solved : aggregate.outcome = .solved)
    (verified : aggregate.verified) : Flawless runs := by
  intro run member
  rw [records.outcome, Outcome.foldl_merge_eq_solved_iff] at solved
  obtain ⟨-, clean⟩ := records.verified_iff.mp verified run member
  exact ⟨solved.2 _ (List.mem_map.mpr ⟨run, member, rfl⟩),
    (Statistics.anyFailure_eq_false_iff _).mp clean⟩

theorem CodeMode.select_unforced {outcome : Outcome} {verified wantsBuild : Bool}
    (unforced : config.force = false)
    (selected : select outcome verified config = ofBuild wantsBuild) :
    if wantsBuild then config.compile ∧ config.procedures = [] ∧ outcome = .solved ∧ verified
    else config.spillLevel ≥ 3 ∨
      (config.spillLevel ≥ 2 ∧ config.procedures = [] ∧ outcome = .solved ∧ verified) := by
  cases outcome with
  | solved =>
      rw [select] at selected
      split at selected
      next built =>
        cases wantsBuild with
        | true => simpa [unforced, Config.isUnrestricted, and_assoc, and_comm] using built
        | false => cases selected
      next =>
        split at selected
        next spilled =>
          cases wantsBuild with
          | true => cases selected
          | false => simpa [Config.isUnrestricted, and_assoc, and_comm, or_comm] using spilled
        next => cases wantsBuild <;> cases selected
  | done =>
      rw [select, unforced] at selected
      split at selected
      next impossible => cases impossible
      next =>
        split at selected
        next spilled =>
          cases wantsBuild with
          | true => cases selected
          | false => exact .inl spilled
        next => cases wantsBuild <;> cases selected
  | _ => cases wantsBuild <;> cases selected

theorem permitted_of_select {aggregate : Aggregate} {runs : List (UnitRun K)} {wantsBuild : Bool}
    (records : aggregate.Records runs) (unforced : config.force = false)
    (selected : CodeMode.select aggregate.outcome aggregate.verified config = .ofBuild wantsBuild) :
    Permitted config runs wantsBuild := by
  have allowed := CodeMode.select_unforced unforced selected
  cases wantsBuild with
  | true =>
      obtain ⟨compiles, all, solved, verified⟩ := allowed
      exact ⟨compiles, all, records.flawless solved verified⟩
  | false =>
      rcases allowed with always | ⟨spills, all, solved, verified⟩
      · exact .inl always
      · exact .inr ⟨spills, all, records.flawless solved verified⟩

/-! ## Native calls -/

theorem confined_storeCode (path text : String) :
    (storeCode path text : Job K Bool).Confined (Request.Only (¬·.isNative)) fun _ => False := by
  refine .bind (Job.confined_request trivial) fun error => ?_
  cases error with
  | none => exact Job.confined_pure true
  | some error => exact .bind (Job.confined_request trivial) fun _ => Job.confined_pure false

theorem confined_finishGenerated (basePath : String) (generated : Generated)
    (kept : Option String) :
    (finishGenerated config basePath others false generated kept : Job K CodeResult).Confined
      (Request.Only (¬·.isNative)) fun _ => False := by
  unfold finishGenerated
  dsimp only
  split
  · exact Job.confined_pure _
  · exact Job.confined_pure _

/-- Requests for the code of a program. Nothing is shown, put into a file or built by them. -/
def Request.isForCode : Request K → Bool
  | .call (.provides _) | .call (.hasEntryPoint _ _) | .call (.generate _ _) | .errorCount | .look
  | .startPhase _ | .stopPhase => true
  | _ => false

theorem forCode_generate (target : Target) (program : K.Program) :
    (generate target program).Confined (·.isForCode) fun _ => False := by
  refine .bind (Job.confined_request rfl) fun earlier => .bind (.timed rfl rfl ?_) fun answer =>
    .bind (Job.confined_request rfl) fun later => Job.confined_pure _
  exact .bind (Job.confined_request rfl) fun hasEntryPoint =>
    .bind (Job.confined_request rfl) fun text => Job.confined_pure _

theorem confined_generate (target : Target) (program : K.Program) :
    (generate target program).Confined (Request.Only (¬·.isNative)) fun _ => False := by
  refine (forCode_generate target program).mono fun request forCode => ?_
  cases request with
  | call toCall => cases toCall <;> first | exact Bool.false_ne_true | cases forCode
  | _ => trivial

theorem confined_generateCode (program : K.Program) (basePath : String) :
    (generateCode config program basePath others false).Confined (Request.Only (¬·.isNative))
      fun _ => False := by
  refine .bind (Job.confined_request Bool.false_ne_true) fun provided => ?_
  split
  · exact .bind (Job.confined_request trivial) fun _ => Job.confined_pure _
  · refine .bind (confined_generate _ _) fun generated => ?_
    split
    · refine .bind (confined_storeCode _ _) fun stored => ?_
      split
      · exact .bind (Job.confined_request trivial) fun _ => confined_finishGenerated _ _ _
      · exact Job.confined_pure _
    · exact confined_finishGenerated _ _ _

theorem wantsBuild_of_isNative {wantsBuild : Bool} {basePath : String}
    {result : Except Failure CodeResult} {exchange : Exchange K}
    (runs : (generateCode config program basePath others wantsBuild).Runs collaborators before
      result made after)
    (member : exchange ∈ made) (native : exchange.call.isNative) : wantsBuild := by
  cases wantsBuild with
  | true => rfl
  | false =>
      exact absurd native ((runs.confined (confined_generateCode program basePath)).1 _ member)

/-! ## Invocations -/

/-- One program of a run: what it is made of, the machine on which its turn came and its calls. -/
structure Invocation (K : Toolkit) where
  task : Task
  start : Machine K
  made : List (Exchange K)

def Invocation.turn (invocation : Invocation K) : Task × Machine K :=
  (invocation.task, invocation.start)

def Invocation.Happens (collaborators : Collaborators K) (config : Config)
    (invocation : Invocation K) : Prop :=
  ∃ result stop, (invocation.task.make config).Runs collaborators invocation.start result
    invocation.made stop

/-- The machine on which code generation begins, once the closing summary is printed. -/
def Machine.summarized (machine : Machine K) (collaborators : Collaborators K)
    (aggregate : Aggregate) : Machine K :=
  (machine.perform collaborators (.write aggregate.total.trailer)).2

/-- The status that verdicts and the fate of the code lead to. -/
def CodeResult.statusFor (verified : Bool) (compiled : CodeResult) : ExitStatus :=
  .ofResults verified compiled.status.isFulfilled (compiled.status = .unwritten)

/-- What a call for generated code rests on: among the `earlier` calls of its invocation are those
that read the program, translate it and verify all of its units, and no unit is left unfinished. The
call itself belongs to the generation, with or without a build, that the verdicts select. What comes
of the generation decides how the invocation goes on and ends. -/
inductive Cleared (collaborators : Collaborators K) (config : Config) (invocation : Invocation K)
    (earlier : List (Exchange K)) (exchange : Exchange K) : Prop
  | intro {program : K.Program} {first last : Source} {runs : List (UnitRun K)}
      {aggregate : Aggregate} {examination generation shown : List (Exchange K)}
      {middle stop halt after : Machine K} {wantsBuild : Bool}
      {result : Except Failure CodeResult} {ending : Except Failure ExitStatus}
      (headed : invocation.task.files.head? = some first)
      (ended : invocation.task.files.getLast? = some last)
      (read : (Job.call (.reading invocation.task.files)).Runs collaborators invocation.start
        (.ok { program := some program })
        [⟨.reading invocation.task.files, .ok { program := some program }⟩] middle)
      (examined : Examined collaborators config program (Path.fileName last.path)
        invocation.task.lineage middle runs aggregate examination stop)
      (selected : CodeMode.select aggregate.outcome aggregate.verified config =
        .ofBuild wantsBuild)
      (generated : (generateCode config program (config.outputName.getD first.path)
        invocation.task.others wantsBuild).Runs collaborators
          (stop.summarized collaborators aggregate) result generation halt)
      (reported : Reported collaborators config program halt
        (result.map (·.statusFor aggregate.verified)) shown ending after)
      (makes : (invocation.task.make config).Runs collaborators invocation.start ending
        invocation.made after)
      (whole : invocation.made = ⟨.reading invocation.task.files,
        .ok { program := some program }⟩ :: (examination ++ generation ++ shown))
      (preceded : ⟨.reading invocation.task.files,
        .ok { program := some program }⟩ :: examination <+: earlier)
      (member : exchange ∈ generation)
      (finished : ∀ run ∈ runs, run.verdict.outcome.isFinished)
      (native : exchange.call.isNative → wantsBuild)
      (permitted : config.force = false → Permitted config runs wantsBuild) :
      Cleared collaborators config invocation earlier exchange

theorem prefix_of_split {α : Type} {head rest earlier later : List α} {item : α}
    (split : head ++ rest = earlier ++ item :: later) (absent : item ∉ head) :
    head <+: earlier ∧ item ∈ rest := by
  rcases List.append_eq_append_iff.mp split with ⟨middle, rfl, same⟩ | ⟨middle, rfl, same⟩
  · exact ⟨List.prefix_append head middle, by simp [same]⟩
  · cases middle with
    | nil =>
        obtain rfl : item :: later = rest := same
        exact ⟨by simp, List.mem_cons_self⟩
    | cons other middle =>
        obtain ⟨rfl, -⟩ := List.cons.inj same
        exact absurd (List.mem_append_right earlier List.mem_cons_self) absent

theorem concludeProgram_runs {outcome : Outcome} {byUnit : NameMap Statistics} {verified : Bool}
    {fileName : String} {result : Except Failure CodeResult}
    (runs : (concludeProgram config outcome byUnit program verified fileName others).Runs
      collaborators before result made after) :
    made = [] ∨ ∃ wantsBuild, outcome.isFinished ∧
      CodeMode.select outcome verified config = .ofBuild wantsBuild ∧
      (generateCode config program fileName others wantsBuild).Runs collaborators
        (before.perform collaborators (.write (Statistics.total byUnit).trailer)).2 result made
          after := by
  rw [concludeProgram] at runs
  split at runs
  next => exact .inl (Job.runs_pure.mp runs).2.1
  next finished =>
    have done : outcome.isFinished := by simpa using finished
    obtain ⟨_, -, runs⟩ := (Job.runs_aside_bind rfl).mp runs
    split at runs
    next selected => exact .inr ⟨true, done, selected, runs⟩
    next selected => exact .inr ⟨false, done, selected, runs⟩
    next => exact .inl (Job.runs_pure.mp runs).2.1

/-- How a program that the front end accepts is judged: none of the calls is for generated code, or
those that are come after all of its units are verified. -/
inductive Passage (collaborators : Collaborators K) (config : Config) (program : K.Program)
    (first last : Source) (others : List Source) (lineage : Option String) (start : Machine K) :
    Except Failure ExitStatus → List (Exchange K) → Machine K → Prop
  | closed {judged : Except Failure ExitStatus} {made : List (Exchange K)} {halt : Machine K}
      (quiet : ∀ exchange ∈ made, ¬exchange.call.isGated) :
      Passage collaborators config program first last others lineage start judged made halt
  | opened {runs : List (UnitRun K)} {aggregate : Aggregate}
      {examination generation : List (Exchange K)} {stop halt : Machine K} {wantsBuild : Bool}
      {result : Except Failure CodeResult}
      (examined : Examined collaborators config program (Path.fileName last.path) lineage start runs
        aggregate examination stop)
      (finished : aggregate.outcome.isFinished)
      (selected : CodeMode.select aggregate.outcome aggregate.verified config =
        .ofBuild wantsBuild)
      (generated : (generateCode config program (config.outputName.getD first.path) others
        wantsBuild).Runs collaborators (stop.summarized collaborators aggregate) result generation
          halt) :
      Passage collaborators config program first last others lineage start
        (result.map (·.statusFor aggregate.verified)) (examination ++ generation) halt

theorem verifyAndCompile_passage {judged : Except Failure ExitStatus}
    (runs : (verifyAndCompile config program first last others lineage).Runs collaborators before
      judged made after) :
    Passage collaborators config program first last others lineage before judged made after := by
  rw [verifyAndCompile, Job.runs_bind] at runs
  rcases runs with ⟨units, translation, middle, _, translated, runs, rfl⟩ | ⟨failure, rfl, failed⟩
  · have translating := not_isGated_of_translateUnits translated
    rcases Job.runs_bind.mp runs with
      ⟨aggregate, verification, stop, _, verified, rest, rfl⟩ | ⟨failure, rfl, failed⟩
    · obtain ⟨unitRuns, examined⟩ := examined_of_runs translated verified
      obtain ⟨answer, rfl, concluded⟩ := Job.runs_of_bind_pure rest
      rw [← List.append_assoc]
      rcases concludeProgram_runs concluded with rfl | ⟨wantsBuild, finished, selected, generated⟩
      · rw [List.append_nil]
        exact .closed examined.not_isGated
      · exact .opened examined finished selected generated
    · refine .closed fun exchange member => ?_
      rcases List.mem_append.mp member with inTranslation | inVerification
      · exact translating exchange inTranslation
      · exact not_isGated_of_verifyAll failed exchange inVerification
  · exact .closed (not_isGated_of_translateUnits failed)

theorem judgeProgram_passage {judged : Except Failure ExitStatus}
    (runs : (judgeProgram config program first last others lineage).Runs collaborators before
      judged made after) :
    Passage collaborators config program first last others lineage before judged made after := by
  rw [judgeProgram] at runs
  split at runs
  next => exact verifyAndCompile_passage runs
  next =>
    obtain ⟨-, rfl, -⟩ := Job.runs_pure.mp runs
    exact .closed (by simp)

variable {invocation : Invocation K} {main shown earlier later : List (Exchange K)}
  {exchange : Exchange K}

theorem Passage.cleared {judged ending : Except Failure ExitStatus} {halt : Machine K}
    (headed : invocation.task.files.head? = some first)
    (ended : invocation.task.files.getLast? = some last)
    (read : (Job.call (.reading invocation.task.files)).Runs collaborators invocation.start
      (.ok { program := some program })
      [⟨.reading invocation.task.files, .ok { program := some program }⟩] before)
    (passage : Passage collaborators config program first last invocation.task.others
      invocation.task.lineage before judged main halt)
    (reported : Reported collaborators config program halt judged shown ending after)
    (makes : (invocation.task.make config).Runs collaborators invocation.start ending
      invocation.made after)
    (whole : invocation.made =
      ⟨.reading invocation.task.files, .ok { program := some program }⟩ :: (main ++ shown))
    (split : invocation.made = earlier ++ exchange :: later) (gated : exchange.call.isGated) :
    Cleared collaborators config invocation earlier exchange := by
  have notRead : exchange ≠
      ⟨.reading invocation.task.files, .ok { program := some program }⟩ := by
    rintro rfl
    cases gated
  have notShown : exchange ∉ shown := fun inShown =>
    Call.not_isGated_of_isShow (reported.shows exchange inShown) gated
  cases passage with
  | closed quiet =>
      have member : exchange ∈ invocation.made :=
        split ▸ List.mem_append_right earlier List.mem_cons_self
      rw [whole, List.mem_cons, List.mem_append] at member
      rcases member with isRead | inMain | inShown
      · exact absurd isRead notRead
      · exact absurd gated (quiet exchange inMain)
      · exact absurd inShown notShown
  | @opened runs aggregate examination generation stop _ wantsBuild _ examined finished selected
      generated =>
      have notExamined : exchange ∉
          ⟨.reading invocation.task.files, .ok { program := some program }⟩ :: examination := by
        rw [List.mem_cons]
        rintro (isRead | inExamination)
        · exact notRead isRead
        · exact examined.not_isGated exchange inExamination gated
      have parts := whole.symm.trans split
      rw [List.append_assoc, ← List.cons_append] at parts
      obtain ⟨preceded, inRest⟩ := prefix_of_split parts notExamined
      have inGeneration := (List.mem_append.mp inRest).resolve_right notShown
      exact .intro headed ended read examined selected generated reported makes whole preceded
        inGeneration (examined.records.isFinished_iff.mp finished)
        (wantsBuild_of_isNative generated inGeneration)
        fun unforced => permitted_of_select examined.records unforced selected

theorem Cleared.of_runs {result : Except Failure ExitStatus} {stop : Machine K}
    (runs : (invocation.task.make config).Runs collaborators invocation.start result
      invocation.made stop)
    (split : invocation.made = earlier ++ exchange :: later) (gated : exchange.call.isGated) :
    Cleared collaborators config invocation earlier exchange := by
  obtain ⟨⟨files, others, lineage⟩, start, made⟩ := invocation
  dsimp only at runs split
  have member : exchange ∈ made := split ▸ List.mem_append_right earlier List.mem_cons_self
  cases files with
  | nil =>
      obtain ⟨-, rfl, -⟩ := Job.runs_fail.mp runs
      cases member
  | cons first rest =>
      rcases makeProgram_runs runs with ⟨failure, -, rfl⟩ |
        ⟨parsed, middle, tail, read, rfl, course⟩
      · obtain rfl := List.mem_singleton.mp member
        cases gated
      · rcases course with ⟨-, -, rfl⟩ | ⟨-, -, rfl⟩ | ⟨program, rfl, parsedMakes⟩
        · obtain rfl := List.mem_singleton.mp member
          cases gated
        · obtain rfl := List.mem_singleton.mp member
          cases gated
        · obtain ⟨judged, main, halt, shown, judges, reported, rfl⟩ := makeParsed_runs parsedMakes
          exact (judgeProgram_passage judges).cleared rfl (List.getLast?_eq_some_getLast _) read
            reported runs rfl split gated

/-! ## Runs -/

theorem Succession.invocations {turns : List (Task × Machine K)}
    (succession : Succession collaborators (Task.make config) before turns after) :
    ∃ invocations : List (Invocation K), turns = invocations.map (·.turn) ∧
      after.exchanges = before.exchanges ++ invocations.flatMap (·.made) ∧
      ∀ invocation ∈ invocations, invocation.Happens collaborators config := by
  induction succession with
  | nil machine => exact ⟨[], rfl, by simp, by simp⟩
  | aside request aside rest ih =>
      obtain ⟨invocations, rfl, makes, happen⟩ := ih
      rw [Machine.exchanges_perform_aside _ _ (Request.call?_of_isAside aside)] at makes
      exact ⟨invocations, rfl, makes, happen⟩
  | turn task rest ih =>
      rename_i machine after turns
      obtain ⟨invocations, rfl, makes, happen⟩ := ih
      obtain ⟨made, runs⟩ := Job.runs_run collaborators (task.make config) machine
      refine ⟨⟨task, machine, made⟩ :: invocations, rfl, ?_, ?_⟩
      · rw [makes, runs.makes, List.flatMap_cons, List.append_assoc]
      · exact List.forall_mem_cons.mpr ⟨⟨_, _, runs⟩, happen⟩

/-- Every run consists of invocations in succession, and each call for generated code is cleared by
the calls before it in its own invocation, however the run ends. -/
theorem makeAll_gate (collaborators : Collaborators K) (config : Config)
    (files others : List Source) (before : Machine K) :
    ∃ result after, ∃ invocations : List (Invocation K),
      (makeAll config files others).Runs collaborators before result
        (invocations.flatMap (·.made)) after ∧
      Succession collaborators (Task.make config) before (invocations.map (·.turn)) after ∧
      ∀ invocation ∈ invocations, invocation.Happens collaborators config ∧
        ∀ earlier exchange later, invocation.made = earlier ++ exchange :: later →
          exchange.call.isGated → Cleared collaborators config invocation earlier exchange := by
  obtain ⟨turns, succession⟩ := makeAll_succession collaborators config files others before
  obtain ⟨invocations, rfl, makes, happen⟩ := succession.invocations
  refine ⟨_, _, invocations, ⟨rfl, makes⟩, succession, fun invocation member => ?_⟩
  refine ⟨happen invocation member, fun earlier exchange later split gated => ?_⟩
  obtain ⟨result, stop, runs⟩ := happen invocation member
  exact .of_runs runs split gated

end VerifiedBuild
