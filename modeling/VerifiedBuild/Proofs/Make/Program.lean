import VerifiedBuild.Make
import VerifiedBuild.Proofs.Outcome
import VerifiedBuild.Proofs.Verification.Units
import VerifiedBuild.Rehearsal

/-!
# The course of one program

What making one program comes to: it is read, its units are verified, code is generated for it as
far as that went well, and what was asked to be shown is shown. The status follows from the verdicts
on the units first and from the fate of the code second.
-/

namespace VerifiedBuild

variable {K : Toolkit} {collaborators : Collaborators K} {config : Config} {before after : Machine K}
  {made : List (Exchange K)} {program : K.Program} {programFile : String}
  {lineage : Option String} {first last : Source} {others : List Source}

/-! ## Kinds of call -/

/-- The calls that serve generated code. -/
def Call.isGated : Call K → Bool
  | .provides _ | .hasEntryPoint _ _ | .generate _ _ | .build _ | .run _ => true
  | _ => false

@[reducible] def Call.reading (files : List Source) : Call K :=
  .readProgram (jointName files) files

def Call.isShow : Call K → Bool
  | .showStatistics _ | .showCallGraph _ => true
  | _ => false

theorem Call.not_isGated_of_isEngine {toCall : Call K} (engine : toCall.isEngine) :
    ¬toCall.isGated := by
  cases toCall <;> first | (cases engine; done) | exact Bool.false_ne_true

/-- The calls that turn a program into units, and print these. -/
def Call.isTranslation : Call K → Bool
  | .countModules _ | .translate _ | .print _ _ => true
  | _ => false

theorem Call.not_isGated_of_isTranslation {toCall : Call K} (translates : toCall.isTranslation) :
    ¬toCall.isGated := by
  cases toCall <;> first | (cases translates; done) | exact Bool.false_ne_true

theorem Call.not_isGated_of_isShow {toCall : Call K} (shows : toCall.isShow) :
    ¬toCall.isGated := by
  cases toCall <;> first | (cases shows; done) | exact Bool.false_ne_true

/-! ## Translation -/

theorem translateUnits_ok {units : List (ProofUnit K)}
    (runs : (translateUnits config program).Runs collaborators before (.ok units) made after) :
    ⟨.translate program, .ok units⟩ ∈ made := by
  obtain ⟨_, _, runs⟩ := Job.runs_timed runs
  obtain ⟨modules, _, _, -, counted, rfl⟩ := Job.runs_call_bind_ok.mp runs
  obtain ⟨answer, _, _, -, printing, rfl⟩ := Job.runs_call_bind_ok.mp counted
  have same : units = answer := by
    split at printing
    · obtain ⟨_, _, _, _, -, ending, -⟩ := Job.runs_bind_ok.mp printing
      obtain ⟨_, -, ending⟩ := (Job.runs_aside_bind rfl).mp ending
      exact Except.ok.inj (Job.runs_pure.mp ending).1
    · obtain ⟨_, -, ending⟩ := (Job.runs_aside_bind rfl).mp printing
      exact Except.ok.inj (Job.runs_pure.mp ending).1
  rw [same]
  exact List.mem_cons_of_mem _ List.mem_cons_self

theorem confined_printUnit (modules : Nat) (conditionsFile : String) (unit : ProofUnit K) :
    (printUnit modules conditionsFile unit).Confined (Request.Plain (·.isTranslation))
      fun _ => False := by
  rw [printUnit]
  cases unit.program with
  | none => exact Job.confined_pure ()
  | some program =>
      refine .bind (Job.confined_request rfl) fun printed => ?_
      cases printed with
      | none => exact Job.confined_pure ()
      | some error => exact Job.confined_request trivial

theorem confined_translateUnits :
    (translateUnits config program).Confined (Request.Plain (·.isTranslation)) fun _ => False := by
  refine .timed trivial trivial (.bind (Job.confined_request rfl) fun modules =>
    .bind (Job.confined_request rfl) fun units => ?_)
  have ending : (Job.request (.count "translate.units" (UInt64.ofNat units.length)) >>=
      fun _ => pure units : Job K _).Confined (Request.Plain (·.isTranslation)) fun _ => False :=
    .bind (Job.confined_request trivial) fun _ => Job.confined_pure units
  split
  · exact .bind (Job.confined_forM fun unit _ => confined_printUnit modules _ unit) fun _ => ending
  · exact ending

theorem not_isGated_of_translateUnits {result : Except Failure (List (ProofUnit K))}
    (runs : (translateUnits config program).Runs collaborators before result made after) :
    ∀ exchange ∈ made, ¬exchange.call.isGated := by
  intro exchange member
  have translates := (runs.confined confined_translateUnits).1 exchange member
  exact Call.not_isGated_of_isTranslation translates

theorem not_isGated_of_verifyAll {units : List (ProofUnit K)} {result : Except Failure Aggregate}
    (runs : (verifyAll config programFile lineage units).Runs collaborators before result made
      after) :
    ∀ exchange ∈ made, ¬exchange.call.isGated := by
  intro exchange member
  have engine := (runs.confined confined_verifyAll).1 exchange member
  exact Call.not_isGated_of_isEngine engine

/-! ## Verification -/

/-- From `start` on the program is translated, and all units of the answer are verified. -/
inductive Examined (collaborators : Collaborators K) (config : Config) (program : K.Program)
    (programFile : String) (lineage : Option String) (start : Machine K) :
    List (UnitRun K) → Aggregate → List (Exchange K) → Machine K → Prop
  | intro {runs : List (UnitRun K)} {aggregate : Aggregate} {translation : List (Exchange K)}
      {middle stop : Machine K}
      (translated : (translateUnits config program).Runs collaborators start
        (.ok (runs.map (·.unit))) translation middle)
      (answered : ⟨.translate program, .ok (runs.map (·.unit))⟩ ∈ translation)
      (complete : ∀ run ∈ runs, run.Completes collaborators config programFile lineage)
      (turns : Succession collaborators (verifyUnit config programFile lineage) middle
        (runs.map (·.turn)) stop)
      (verified : (verifyAll config programFile lineage (runs.map (·.unit))).Runs collaborators
        middle (.ok aggregate) (runs.flatMap (·.made)) stop)
      (records : aggregate.Records runs) :
      Examined collaborators config program programFile lineage start runs aggregate
        (translation ++ runs.flatMap (·.made)) stop

theorem Examined.records {start stop : Machine K} {runs : List (UnitRun K)}
    {aggregate : Aggregate}
    (examined : Examined collaborators config program programFile lineage start runs aggregate
      made stop) :
    aggregate.Records runs := by
  cases examined with
  | intro _ _ _ _ _ records => exact records

theorem Examined.not_isGated {start stop : Machine K} {runs : List (UnitRun K)}
    {aggregate : Aggregate}
    (examined : Examined collaborators config program programFile lineage start runs aggregate
      made stop) :
    ∀ exchange ∈ made, ¬exchange.call.isGated := by
  cases examined with
  | intro translated _ _ _ verified _ =>
      intro exchange member
      rcases List.mem_append.mp member with translating | verifying
      · exact not_isGated_of_translateUnits translated exchange translating
      · exact not_isGated_of_verifyAll verified exchange verifying

theorem examined_of_runs {units : List (ProofUnit K)} {aggregate : Aggregate}
    {translation verification : List (Exchange K)} {middle : Machine K}
    (translated : (translateUnits config program).Runs collaborators before (.ok units) translation
      middle)
    (verified : (verifyAll config programFile lineage units).Runs collaborators middle
      (.ok aggregate) verification after) :
    ∃ runs, Examined collaborators config program programFile lineage before runs aggregate
      (translation ++ verification) after := by
  have answered := translateUnits_ok translated
  cases examination_of_runs Aggregate.records_nil verified with
  | completed runs _ covered complete records turns =>
      subst covered
      exact ⟨runs, .intro translated answered complete turns verified records⟩

/-! ## Status -/

/-- How the status follows from the verdicts on the units and from the fate of the code. -/
structure StatusOf (runs : List (UnitRun K)) (compiled : CodeStatus) (status : ExitStatus) :
    Prop where
  notVerified : status = .notVerified ↔
    ∃ run ∈ runs, run.verdict.outcome.isFinished = false ∨ run.verdict.statistics.anyFailure
  verified : status = .verified ↔
    (∀ run ∈ runs, run.verdict.outcome.isFinished ∧ run.verdict.statistics.anyFailure = false) ∧
      (compiled = .notAsked ∨ compiled = .kept ∨ compiled = .made ∨ compiled = .runFailed)
  notWritten : status = .notWritten ↔
    (∀ run ∈ runs, run.verdict.outcome.isFinished ∧ run.verdict.statistics.anyFailure = false) ∧
      compiled = .unwritten
  notCompiled : status = .notCompiled ↔
    (∀ run ∈ runs, run.verdict.outcome.isFinished ∧ run.verdict.statistics.anyFailure = false) ∧
      (compiled = .incomplete ∨ compiled = .rejected)

theorem UnitRun.report_verified (run : UnitRun K) :
    run.report.verified = isProved run.verdict.outcome run.verdict.statistics :=
  rfl

theorem isProved_iff (outcome : Outcome) (statistics : Statistics) :
    isProved outcome statistics ↔ outcome.isFinished ∧ statistics.anyFailure = false := by
  simp [isProved]

theorem isProved_eq_false_iff (outcome : Outcome) (statistics : Statistics) :
    isProved outcome statistics = false ↔ outcome.isFinished = false ∨ statistics.anyFailure := by
  rw [isProved, Bool.and_eq_false_iff, Bool.not_eq_false']

theorem Aggregate.Records.verified_iff {aggregate : Aggregate} {runs : List (UnitRun K)}
    (records : aggregate.Records runs) :
    aggregate.verified ↔
      ∀ run ∈ runs, run.verdict.outcome.isFinished ∧ run.verdict.statistics.anyFailure = false := by
  rw [records.verified, List.all_eq_true]
  simp only [UnitRun.report_verified, isProved_iff]

theorem Aggregate.Records.isFinished_iff {aggregate : Aggregate} {runs : List (UnitRun K)}
    (records : aggregate.Records runs) :
    aggregate.outcome.isFinished ↔ ∀ run ∈ runs, run.verdict.outcome.isFinished := by
  rw [records.outcome, Outcome.isFinished_foldl_merge]
  simp [Outcome.isFinished]

theorem Aggregate.Records.isFinished_of_verified {aggregate : Aggregate}
    {runs : List (UnitRun K)} (records : aggregate.Records runs) (verified : aggregate.verified) :
    aggregate.outcome.isFinished :=
  records.isFinished_iff.mpr fun run member => (records.verified_iff.mp verified run member).1

theorem statusOf_ofResults {aggregate : Aggregate} {runs : List (UnitRun K)}
    (records : aggregate.Records runs) (compiled : CodeStatus) :
    StatusOf runs compiled
      (.ofResults aggregate.verified compiled.isFulfilled (compiled = .unwritten)) := by
  have proved := records.verified_iff
  constructor
  case notVerified =>
    rw [ExitStatus.ofResults_eq_notVerified_iff, records.verified, List.all_eq_false]
    simp only [UnitRun.report_verified, Bool.not_eq_true, isProved_eq_false_iff]
  case verified =>
    rw [← proved]
    cases aggregate.verified <;> cases compiled <;> decide
  case notWritten =>
    rw [← proved]
    cases aggregate.verified <;> cases compiled <;> decide
  case notCompiled =>
    rw [← proved]
    cases aggregate.verified <;> cases compiled <;> decide

/-! ## One program -/

/-- What comes after a program was read, on `start`: the calls still made and the status, for each
answer of the front end. -/
inductive ProgramCourse (collaborators : Collaborators K) (config : Config) (first last : Source)
    (others : List Source) (lineage : Option String) (start : Machine K) :
    ParseReport K → List (Exchange K) → ExitStatus → Prop
  | erroneous (program : Option K.Program) (error : String) :
      ProgramCourse collaborators config first last others lineage start
        { program, error := some error } [] .notCompiled
  | absent :
      ProgramCourse collaborators config first last others lineage start {} [] .verified
  | onlyParsed {program : K.Program} {shown : List (Exchange K)} (off : config.verifies = false)
      (shows : ∀ exchange ∈ shown, exchange.call.isShow) :
      ProgramCourse collaborators config first last others lineage start
        { program := some program } shown .verified
  | examined {program : K.Program} {runs : List (UnitRun K)} {aggregate : Aggregate}
      {examination generation shown : List (Exchange K)} {stop halt : Machine K}
      {compiled : CodeResult} {status : ExitStatus} (on : config.verifies)
      (examined : Examined collaborators config program (Path.fileName last.path) lineage start runs
        aggregate examination stop)
      (concluded : (concludeProgram config aggregate.outcome aggregate.byUnit program
        aggregate.verified (config.outputName.getD first.path) others).Runs collaborators stop
          (.ok compiled) generation halt)
      (shows : ∀ exchange ∈ shown, exchange.call.isShow)
      (given : StatusOf runs compiled.status status)
      (unfinished : aggregate.outcome.isFinished = false →
        compiled.status = .notAsked ∧ status = .notVerified) :
      ProgramCourse collaborators config first last others lineage start
        { program := some program } (examination ++ generation ++ shown) status

theorem confined_printReports :
    (printReports config program).Confined (Request.Plain (·.isShow)) fun _ => False := by
  have callGraph : (if config.showCallGraph then Job.call (.showCallGraph program)
      else pure ()).Confined (Request.Plain (·.isShow)) fun _ => False := by
    split
    · exact Job.confined_request rfl
    · exact Job.confined_pure ()
  exact .optional rfl callGraph

theorem concludeProgram_unfinished {outcome : Outcome} {byUnit : NameMap Statistics}
    {verified : Bool} {fileName : String} {result : Except Failure CodeResult}
    (unfinished : outcome.isFinished = false)
    (runs : (concludeProgram config outcome byUnit program verified fileName others).Runs
      collaborators before result made after) :
    result = .ok {} ∧ made = [] := by
  rw [concludeProgram, unfinished] at runs
  obtain ⟨rfl, rfl, -⟩ := Job.runs_pure.mp runs
  exact ⟨rfl, rfl⟩

theorem verifyAndCompile_ok {status : ExitStatus}
    (runs : (verifyAndCompile config program first last others lineage).Runs collaborators before
      (.ok status) made after) :
    ∃ unitRuns aggregate examination generation stop compiled,
      Examined collaborators config program (Path.fileName last.path) lineage before unitRuns
        aggregate examination stop ∧
      (concludeProgram config aggregate.outcome aggregate.byUnit program aggregate.verified
        (config.outputName.getD first.path) others).Runs collaborators stop (.ok compiled)
          generation after ∧
      status = .ofResults aggregate.verified compiled.status.isFulfilled
        (compiled.status = .unwritten) ∧
      made = examination ++ generation := by
  rw [verifyAndCompile, Job.runs_bind_ok] at runs
  obtain ⟨units, translation, _, _, translated, runs, rfl⟩ := runs
  obtain ⟨aggregate, verification, stop, _, verified, rest, rfl⟩ := Job.runs_bind_ok.mp runs
  obtain ⟨unitRuns, examined⟩ := examined_of_runs translated verified
  obtain ⟨compiled, generation, _, _, concluded, ending, rfl⟩ := Job.runs_bind_ok.mp rest
  obtain ⟨same, rfl, rfl⟩ := Job.runs_pure.mp ending
  refine ⟨unitRuns, aggregate, _, generation, stop, compiled, examined, concluded, ?_, ?_⟩
  · exact Except.ok.inj same
  · rw [List.append_nil, List.append_assoc]

/-- What follows on `halt` when a program is judged: a failure is the end of it, and after a status
the reports are shown and change nothing about it unless they fail. -/
inductive Reported (collaborators : Collaborators K) (config : Config) (program : K.Program)
    (halt : Machine K) :
    Except Failure ExitStatus → List (Exchange K) → Except Failure ExitStatus → Machine K → Prop
  | failed (failure : Failure) :
      Reported collaborators config program halt (.error failure) [] (.error failure) halt
  | shown (status : ExitStatus) {reports : Except Failure Unit} {shown : List (Exchange K)}
      {after : Machine K}
      (shows : (printReports config program).Runs collaborators halt reports shown after) :
      Reported collaborators config program halt (.ok status) shown (reports.map fun _ => status)
        after

theorem Reported.shows {halt : Machine K} {judged result : Except Failure ExitStatus}
    (reported : Reported collaborators config program halt judged made result after) :
    ∀ exchange ∈ made, exchange.call.isShow := by
  cases reported with
  | failed failure => simp
  | shown status shows => exact (shows.confined confined_printReports).1

theorem Reported.ok {halt : Machine K} {judged : Except Failure ExitStatus} {status : ExitStatus}
    (reported : Reported collaborators config program halt judged made (.ok status) after) :
    judged = .ok status := by
  generalize ended : (Except.ok status : Except Failure ExitStatus) = result at reported
  cases reported with
  | failed failure => cases ended
  | @shown _ reports =>
      cases reports with
      | error failure => cases ended
      | ok => rfl

theorem makeParsed_runs {result : Except Failure ExitStatus}
    (runs : (makeParsed config program first last others lineage).Runs collaborators before result
      made after) :
    ∃ judged main halt shown,
      (judgeProgram config program first last others lineage).Runs collaborators before judged main
        halt ∧
      Reported collaborators config program halt judged shown result after ∧
      made = main ++ shown := by
  rw [makeParsed, Job.runs_bind] at runs
  rcases runs with ⟨status, main, halt, _, judged, rest, rfl⟩ | ⟨failure, rfl, judged⟩
  · obtain ⟨_, rfl, shows⟩ := Job.runs_of_bind_pure rest
    exact ⟨.ok status, main, halt, _, judged, .shown status shows, rfl⟩
  · exact ⟨.error failure, made, after, [], judged, .failed failure, (List.append_nil _).symm⟩

theorem makeParsed_ok {status : ExitStatus}
    (runs : (makeParsed config program first last others lineage).Runs collaborators before
      (.ok status) made after) :
    ProgramCourse collaborators config first last others lineage before { program := some program }
      made status := by
  obtain ⟨_, main, stop, shown, judged, reported, rfl⟩ := makeParsed_runs runs
  have shows := reported.shows
  obtain rfl := reported.ok
  rw [judgeProgram] at judged
  split at judged
  next on =>
    obtain ⟨unitRuns, aggregate, examination, generation, stop, compiled, examined, concluded, rfl,
      rfl⟩ := verifyAndCompile_ok judged
    refine .examined on examined concluded shows
      (statusOf_ofResults examined.records compiled.status) fun unfinished => ?_
    obtain ⟨same, -⟩ := concludeProgram_unfinished unfinished concluded
    cases same
    refine ⟨rfl, (ExitStatus.ofResults_eq_notVerified_iff ..).mpr ?_⟩
    refine Bool.eq_false_iff.mpr fun verified => ?_
    rw [examined.records.isFinished_of_verified verified] at unfinished
    cases unfinished
  next off =>
    obtain ⟨same, rfl, -⟩ := Job.runs_pure.mp judged
    cases same
    exact .onlyParsed (Bool.eq_false_iff.mpr off) shows

theorem makeProgram_runs {rest : List Source} {result : Except Failure ExitStatus}
    (runs : (makeProgram config (first :: rest) others lineage).Runs collaborators before result
      made after) :
    (∃ failure, result = .error failure ∧
      made = [⟨.reading (first :: rest), .error failure⟩]) ∨
    ∃ parsed middle later,
      (Job.call (.reading (first :: rest))).Runs collaborators before (.ok parsed)
        [⟨.reading (first :: rest), .ok parsed⟩] middle ∧
      made = ⟨.reading (first :: rest), .ok parsed⟩ :: later ∧
      ((parsed.error.isSome ∧ result = .ok .notCompiled ∧ later = []) ∨
        (parsed = {} ∧ result = .ok .verified ∧ later = []) ∨
        ∃ program, parsed = { program := some program } ∧
          (makeParsed config program first ((first :: rest).getLast (List.cons_ne_nil first rest))
            others lineage).Runs collaborators middle result later after) := by
  rw [makeProgram, Job.runs_bind] at runs
  rcases runs with ⟨parsed, _, middle, later, read, runs, rfl⟩ | ⟨failure, rfl, read⟩
  · obtain rfl := Job.runs_call read
    refine .inr ⟨parsed, middle, later, read, rfl, ?_⟩
    obtain ⟨program, error⟩ := parsed
    cases error with
    | some error =>
        obtain ⟨_, -, ending⟩ := (Job.runs_aside_bind rfl).mp runs
        obtain ⟨rfl, rfl, -⟩ := Job.runs_pure.mp ending
        exact .inl ⟨rfl, rfl, rfl⟩
    | none =>
        cases program with
        | none =>
            obtain ⟨rfl, rfl, -⟩ := Job.runs_pure.mp runs
            exact .inr (.inl ⟨rfl, rfl, rfl⟩)
        | some program => exact .inr (.inr ⟨program, rfl, runs⟩)
  · exact .inl ⟨failure, rfl, Job.runs_call read⟩

/-- The status of a program that is made without failure, with all calls that lead to it. -/
theorem makeProgram_course {rest : List Source} {status : ExitStatus}
    (ended : (makeProgram config (first :: rest) others lineage).run collaborators before =
      (.ok status, after)) :
    ∃ parsed middle later,
      (Job.call (.reading (first :: rest))).Runs collaborators before (.ok parsed)
        [⟨.reading (first :: rest), .ok parsed⟩] middle ∧
      after.exchanges = before.exchanges ++ ⟨.reading (first :: rest), .ok parsed⟩ :: later ∧
      ProgramCourse collaborators config first
        ((first :: rest).getLast (List.cons_ne_nil first rest)) others lineage middle parsed later
        status := by
  obtain ⟨made, makes⟩ := Job.exchanges_run collaborators
    (makeProgram config (first :: rest) others lineage) before
  rw [ended] at makes
  rcases makeProgram_runs ⟨ended, makes⟩ with ⟨_, impossible, -⟩ |
    ⟨parsed, middle, later, read, rfl, course⟩
  · cases impossible
  · refine ⟨parsed, middle, later, read, makes, ?_⟩
    rcases course with ⟨faulty, same, rfl⟩ | ⟨rfl, same, rfl⟩ | ⟨program, rfl, runs⟩
    · obtain ⟨program, _ | error⟩ := parsed
      · cases faulty
      · cases same
        exact .erroneous program error
    · cases same
      exact .absent
    · exact makeParsed_ok runs

def Rehearsal.Script.refuted : Script where
  parts := [{ name := "A" }, { name := "B", statistics := { fresh := { errors := 1 } } }]

/-- A refuted program for which code is generated by force. -/
def Rehearsal.forcedRun : Except Failure ExitStatus × Machine toolkit :=
  (makeProgram { force := true } [{ path := "a.prf" }] [] none).run
    (Rehearsal.collaborators .refuted) { host := { store := .standard } }

theorem forcedRun_course :
    Rehearsal.forcedRun.1 = .ok .notVerified ∧
      ∃ parsed middle later, ProgramCourse (Rehearsal.collaborators .refuted) { force := true }
        { path := "a.prf" } { path := "a.prf" } [] none middle parsed later .notVerified := by
  have status : Rehearsal.forcedRun.1 = .ok .notVerified := rfl
  obtain ⟨parsed, middle, later, -, -, course⟩ := makeProgram_course (Prod.ext status rfl)
  exact ⟨status, parsed, middle, later, course⟩

end VerifiedBuild
