import VerifiedBuild.Proofs.Make.Program

/-!
# How runs are composed

A run is put together from few kinds of parts: common requests, phases that begin with a call of
their own, and the parts that deal with units, with diagnostics counted, with builds and with what
is only shown. A relation between jobs that holds of the parts, and is kept when jobs are done one
after another, holds of whole runs. The second of two related runs may differ in what it reports.
-/

namespace VerifiedBuild

variable {K : Toolkit}

/-! ## Reporting -/

/-- What a configuration says about the output alone. -/
structure Reporting where
  units : Bool
  statistics : Bool
  callGraph : Bool
  countErrors : Bool
deriving DecidableEq, Repr, Inhabited

def Config.reporting (config : Config) (reporting : Reporting) : Config :=
  { config with
    reportUnits := reporting.units
    showStatistics := reporting.statistics
    showCallGraph := reporting.callGraph
    countErrors := reporting.countErrors }

def Config.ownReporting (config : Config) : Reporting where
  units := config.reportUnits
  statistics := config.showStatistics
  callGraph := config.showCallGraph
  countErrors := config.countErrors

theorem Config.reporting_own (config : Config) : config.reporting config.ownReporting = config :=
  rfl

/-! ## Kinds of request -/

def Call.phase? : Call K → Option Phase
  | .countModules _ => some .translate
  | .check .translated _ _ => some .resolve
  | .transform .deadVariables _ => some .optimize
  | .verify _ _ => some .solve
  | .hasEntryPoint _ _ => some .generate
  | .build _ => some .build
  | .run _ => some .run
  | _ => none

def Request.isWithin : Request K → Bool
  | .call toCall => toCall.phase?.isNone && !toCall.isShow
  | .write _ | .errorLine _ | .count _ _ => true
  | _ => false

/-- The calls that turn a program into units, and examine these. -/
def Call.isExamining (toCall : Call K) : Bool :=
  toCall.isTranslation || toCall.isEngine

def Request.isExamining : Request K → Bool
  | .call toCall => toCall.isExamining
  | _ => false

/-- Requests that every part of a run may make: they tell nothing of the time and of the diagnostics
counted, and count nothing. -/
def Request.isCommon : Request K → Bool
  | .call toCall => toCall.phase?.isNone && !toCall.isShow
  | .write _ | .errorLine _ | .look | .saveFile _ _ | .copyFile _ _ => true
  | _ => false

/-! ## Translation -/

def printUnits (config : Config) (modules : Nat) (units : List (ProofUnit K)) : Job K Unit :=
  match config.conditionsFile with
  | none => pure ()
  | some conditionsFile => units.forM (printUnit modules conditionsFile)

def gatherUnits (config : Config) (program : K.Program) (modules : Nat) :
    Job K (List (ProofUnit K)) := do
  let units ← Job.call (.translate program)
  printUnits config modules units
  Job.request (.count "translate.units" (UInt64.ofNat units.length))
  pure units

theorem translateUnits_eq (config : Config) (program : K.Program) :
    translateUnits config program =
      Job.timed .translate (Job.call (.countModules program) >>= gatherUnits config program) := by
  unfold translateUnits gatherUnits printUnits
  cases config.conditionsFile with
  | none => rfl
  | some conditionsFile => rfl

theorem confined_printUnits (config : Config) (modules : Nat) (units : List (ProofUnit K)) :
    (printUnits config modules units).Confined (·.isWithin) fun _ => False := by
  unfold printUnits
  cases config.conditionsFile with
  | none => exact Job.confined_pure ()
  | some conditionsFile =>
      apply Job.confined_forM
      rintro ⟨name, _ | program⟩ _
      · exact Job.confined_pure ()
      · refine .bind (Job.confined_request rfl) fun printed => ?_
        cases printed with
        | none => exact Job.confined_pure ()
        | some error => exact Job.confined_request rfl

theorem confined_gatherUnits (config : Config) (program : K.Program) (modules : Nat) :
    (gatherUnits config program modules).Confined (·.isWithin) fun _ => False := by
  refine .bind (Job.confined_request rfl) fun units => ?_
  refine .bind (confined_printUnits config modules units) fun _ => ?_
  exact .bind (Job.confined_request rfl) fun _ => Job.confined_pure units

/-! ## Verification -/

namespace Aggregate

def untimed (aggregate : Aggregate) : Aggregate :=
  { aggregate with timings := [] }

end Aggregate

/-- Verify all units and forget how long it took. -/
def verifyUntimed (config : Config) (programFile : String) (lineage : Option String)
    (units : List (ProofUnit K)) : Job K Aggregate := do
  let aggregate ← verifyAll config programFile lineage units
  pure aggregate.untimed

def announceUnit (config : Config) (unit : ProofUnit K) : Job K Unit :=
  if config.reportUnits then Job.writeLine ("For module: " ++ unit.name) else pure ()

def recordUnit (aggregate : Aggregate) (result : UnitReport) : Job K Aggregate :=
  match aggregate.add result with
  | .error failure => .fail failure
  | .ok extended => pure extended

def reportUnit (config : Config) (result : UnitReport) (took : Nat) : Job K Unit := do
  if config.reportUnits then
    Job.writeLine ("Elapsed time: " ++ elapsedText took)
    Job.write result.statistics.trailer
  else pure ()

theorem verifyNext_eq (config : Config) (programFile : String) (lineage : Option String)
    (aggregate : Aggregate) (unit : ProofUnit K) :
    verifyNext config programFile lineage aggregate unit = (do
      announceUnit config unit
      let start ← Job.clock
      let result ← verifyUnit config programFile lineage unit
      let stop ← Job.clock
      let extended ← recordUnit aggregate result
      reportUnit config result (stop - start)
      pure (extended.addTiming result.name (stop - start))) := by
  unfold verifyNext announceUnit recordUnit reportUnit
  cases config.reportUnits with
  | true =>
      refine bind_congr fun _ => bind_congr fun start => bind_congr fun result =>
        bind_congr fun stop => ?_
      cases aggregate.add result <;> rfl
  | false =>
      refine bind_congr fun start => bind_congr fun result => bind_congr fun stop => ?_
      cases aggregate.add result <;> rfl

/-! ## Builds -/

def buildCounted (plan : BuildPlan) : Job K BuildReport := do
  let built : BuildReport ← Job.timed .build (Job.call (.build plan))
  if built.ok then Job.countOne "native.builds"
  pure built

def finishBuilt (config : Config) (output : String) (hasEntryPoint : Bool) (basePath : String)
    (built : BuildReport) : Job K CodeResult := do
  if !built.ok then
    Job.errorLine ("Errors compiling program into " ++ Path.fileName output)
    Job.errorLines (built.errors.flatMap fun error => [error, ""])
    pure ⟨.rejected, output⟩
  else
    Job.errorLines built.warnings
    if config.runAfterwards then
      if hasEntryPoint then runBuilt output else pure ⟨.made, output⟩
    else
      Job.writeLine ("Compiled assembly into " ++ Path.fileName output)
      if config.optimize then
        if ← provideCollections config basePath then pure ⟨.made, output⟩
        else pure ⟨.unwritten, output⟩
      else pure ⟨.made, output⟩

theorem buildProduct_eq (config : Config) (codePath : String) (hasEntryPoint : Bool)
    (basePath : String) (others : List Source) :
    (buildProduct config codePath hasEntryPoint basePath others : Job K CodeResult) = (do
      let output := outputPath (← Job.look) config hasEntryPoint basePath
      let built ← buildCounted (.make codePath hasEntryPoint output others config)
      finishBuilt config output hasEntryPoint basePath built) := by
  unfold buildProduct buildCounted
  congr 1
  funext host
  dsimp only
  rw [bind_assoc]
  congr 1
  funext built
  unfold finishBuilt
  cases ok : built.ok with
  | true => simp [ok]
  | false => simp [ok]

/-! ## Congruences -/

/-- A relation between jobs that is kept by the ways in which runs are composed. What is done with
units and with builds is left open here. -/
structure Job.Congruence (K : Toolkit) where
  holds : {α : Type} → Job K α → Job K α → Prop
  done : ∀ {α : Type} (value : α), holds (pure value) (pure value)
  stopped : ∀ {α : Type} (failure : Failure), failure.kind = .pipeline →
    holds (.fail failure : Job K α) (.fail failure)
  bind : ∀ {α β : Type} {job other : Job K α} {next another : α → Job K β}, holds job other →
    (∀ value, holds (next value) (another value)) → holds (job >>= next) (other >>= another)
  common : ∀ {request : Request K}, request.isCommon → request.isExamining = false →
    holds (Job.request request) (Job.request request)
  timed : ∀ {β : Type} {phase : Phase} {toCall : Call K} {next : toCall.Answer → Job K β},
    toCall.phase? = some phase → phase ≠ .build → toCall.isExamining = false →
    (∀ answer, (next answer).Confined (·.isWithin) fun _ => False) →
    (∀ answer, holds (next answer) (next answer)) →
    holds (Job.timed phase (Job.call toCall >>= next)) (Job.timed phase (Job.call toCall >>= next))

/-- A relation that is kept by the calls within the units as well. -/
structure Job.Examination (K : Toolkit) extends Job.Congruence K where
  examined : ∀ {request : Request K}, request.isCommon → request.isExamining →
    holds (Job.request request) (Job.request request)
  timedExamined : ∀ {β : Type} {phase : Phase} {toCall : Call K} {next : toCall.Answer → Job K β},
    toCall.phase? = some phase → toCall.isExamining →
    (∀ answer, (next answer).Confined (·.isWithin) fun _ => False) →
    (∀ answer, holds (next answer) (next answer)) →
    holds (Job.timed phase (Job.call toCall >>= next)) (Job.timed phase (Job.call toCall >>= next))

namespace Job.Congruence

variable {α β ι : Type} (congruence : Job.Congruence K)

theorem writeLine (line : String) :
    congruence.holds (Job.writeLine line) (Job.writeLine line) :=
  congruence.common rfl rfl

theorem errorLine (line : String) :
    congruence.holds (Job.errorLine line) (Job.errorLine line) :=
  congruence.common rfl rfl

theorem forM {items : List ι} {act : ι → Job K Unit}
    (each : ∀ item ∈ items, congruence.holds (act item) (act item)) :
    congruence.holds (items.forM act) (items.forM act) := by
  induction items with
  | nil => exact congruence.done ()
  | cons item rest ih =>
      change congruence.holds (act item >>= fun _ => rest.forM act)
        (act item >>= fun _ => rest.forM act)
      apply congruence.bind (each item List.mem_cons_self)
      intro _
      exact ih fun other member => each other (List.mem_cons_of_mem _ member)

theorem foldlM {items : List ι} {step another : α → ι → Job K α}
    (each : ∀ value item, congruence.holds (step value item) (another value item)) (start : α) :
    congruence.holds (items.foldlM step start) (items.foldlM another start) := by
  induction items generalizing start with
  | nil => exact congruence.done start
  | cons item rest ih =>
      rw [List.foldlM_cons, List.foldlM_cons]
      exact congruence.bind (each start item) ih

theorem timedCall {phase : Phase} {toCall : Call K} (own : toCall.phase? = some phase)
    (other : phase ≠ .build) (outside : toCall.isExamining = false) :
    congruence.holds (Job.timed phase (Job.call toCall)) (Job.timed phase (Job.call toCall)) := by
  have whole := congruence.timed own other outside (fun answer => Job.confined_pure answer)
    fun answer => congruence.done answer
  rw [bind_pure] at whole
  exact whole

/-! ### Verdicts on units -/

theorem recordUnit (aggregate : Aggregate) (result : UnitReport) :
    congruence.holds (recordUnit aggregate result) (recordUnit aggregate result) := by
  unfold VerifiedBuild.recordUnit
  cases added : aggregate.add result with
  | error failure => exact congruence.stopped _ (Aggregate.kind_of_add_error added)
  | ok extended => exact congruence.done extended

theorem announceUnit (config : Config) (unit : ProofUnit K) :
    congruence.holds (announceUnit config unit) (announceUnit config unit) := by
  unfold VerifiedBuild.announceUnit
  split
  · exact congruence.writeLine _
  · exact congruence.done ()

theorem reportUnit (config : Config) (result : UnitReport) (took : Nat) :
    congruence.holds (reportUnit config result took) (reportUnit config result took) := by
  unfold VerifiedBuild.reportUnit
  split
  · exact congruence.bind (congruence.writeLine _) fun _ => congruence.common rfl rfl
  · exact congruence.done ()

theorem verifyUntimed (clocks : congruence.holds (Job.request .clock) (Job.request .clock))
    {config : Config} {programFile : String} {lineage : Option String}
    (verifies : ∀ unit, congruence.holds (VerifiedBuild.verifyUnit config programFile lineage unit)
      (VerifiedBuild.verifyUnit config programFile lineage unit))
    (units : List (ProofUnit K)) :
    congruence.holds (verifyUntimed config programFile lineage units)
      (verifyUntimed config programFile lineage units) := by
  refine congruence.bind ?_ fun aggregate => congruence.done _
  apply congruence.foldlM
  intro aggregate unit
  rw [verifyNext_eq]
  refine congruence.bind (congruence.announceUnit _ _) fun _ => ?_
  refine congruence.bind clocks fun start => ?_
  refine congruence.bind (verifies unit) fun result => ?_
  refine congruence.bind clocks fun stop => ?_
  refine congruence.bind (congruence.recordUnit _ _) fun extended => ?_
  exact congruence.bind (congruence.reportUnit _ _ _) fun _ => congruence.done _

/-! ### Code -/

theorem errorLines (lines : List String) :
    congruence.holds (Job.errorLines lines) (Job.errorLines lines) :=
  congruence.forM fun line _ => congruence.errorLine line

theorem provideCollections (config : Config) (basePath : String) :
    congruence.holds (provideCollections config basePath) (provideCollections config basePath) := by
  unfold VerifiedBuild.provideCollections
  refine congruence.bind (congruence.common rfl rfl) fun host => ?_
  dsimp only
  split
  · rw [pure_bind]
    exact congruence.bind (congruence.writeLine _) fun _ => congruence.done _
  · refine congruence.bind (congruence.common rfl rfl) fun error => ?_
    cases error with
    | none => exact congruence.bind (congruence.writeLine _) fun _ => congruence.done _
    | some reason => exact congruence.bind (congruence.errorLine _) fun _ => congruence.done _

theorem runBuilt (output : String) :
    congruence.holds (runBuilt output) (runBuilt output) := by
  unfold VerifiedBuild.runBuilt
  refine congruence.bind (congruence.writeLine _) fun _ => ?_
  refine congruence.bind (congruence.writeLine _) fun _ => ?_
  refine congruence.bind (congruence.writeLine _) fun _ => ?_
  apply congruence.bind (congruence.timedCall rfl (by nofun) rfl)
  intro ending
  cases ending with
  | exited code =>
      dsimp only
      split
      · exact congruence.bind (congruence.writeLine _) fun _ => congruence.done _
      · exact congruence.done _
  | signaled signal detail =>
      exact congruence.bind (congruence.errorLine _) fun _ => congruence.done _
  | notLaunched detail =>
      exact congruence.bind (congruence.errorLine _) fun _ => congruence.done _

theorem storeCode (path text : String) :
    congruence.holds (storeCode path text) (storeCode path text) := by
  unfold VerifiedBuild.storeCode
  apply congruence.bind (congruence.common rfl rfl)
  intro error
  cases error with
  | none => exact congruence.done true
  | some error => exact congruence.bind (congruence.errorLine _) fun _ => congruence.done false

theorem generate (looks : congruence.holds (Job.request .errorCount) (Job.request .errorCount))
    (target : Target) (program : K.Program) :
    congruence.holds (generate target program) (generate target program) := by
  have answers : congruence.holds
      (Job.timed .generate do
        let hasEntryPoint ← Job.call (.hasEntryPoint target program)
        let text ← Job.call (.generate target program)
        pure (hasEntryPoint, text))
      (Job.timed .generate do
        let hasEntryPoint ← Job.call (.hasEntryPoint target program)
        let text ← Job.call (.generate target program)
        pure (hasEntryPoint, text)) := by
    refine congruence.timed rfl nofun rfl (fun hasEntryPoint => ?_) fun hasEntryPoint => ?_
    · exact .bind (Job.confined_request rfl) fun text => Job.confined_pure _
    · exact congruence.bind (congruence.common rfl rfl) fun text => congruence.done _
  refine congruence.bind looks fun before => congruence.bind answers fun answer => ?_
  exact congruence.bind looks fun after => congruence.done _

theorem buildCounted (counts : ∀ key amount, congruence.holds (Job.request (.count key amount))
      (Job.request (.count key amount)))
    {plan : BuildPlan} (times : congruence.holds (Job.timed .build (Job.call (.build plan)))
      (Job.timed .build (Job.call (.build plan)))) :
    congruence.holds (buildCounted plan) (buildCounted plan) := by
  unfold VerifiedBuild.buildCounted
  refine congruence.bind times fun built => ?_
  dsimp only
  split
  · exact congruence.bind (counts _ _) fun _ => congruence.done built
  · exact congruence.done built

theorem printReports (shows : ∀ toCall : Call K, toCall.isShow →
      congruence.holds (Job.call toCall) (Job.call toCall))
    (config : Config) (program : K.Program) :
    congruence.holds (printReports config program) (printReports config program) := by
  unfold VerifiedBuild.printReports
  dsimp only
  split
  · refine congruence.bind (shows _ rfl) fun _ => ?_
    split
    · exact shows _ rfl
    · exact congruence.done _
  · split
    · exact shows _ rfl
    · exact congruence.done _

end Job.Congruence

namespace Job.Examination

variable (congruence : Job.Examination K)

theorem timedCall {phase : Phase} {toCall : Call K} (own : toCall.phase? = some phase)
    (examining : toCall.isExamining) :
    congruence.holds (Job.timed phase (Job.call toCall)) (Job.timed phase (Job.call toCall)) := by
  have whole := congruence.timedExamined own examining (fun answer => Job.confined_pure answer)
    fun answer => congruence.done answer
  rw [bind_pure] at whole
  exact whole

/-! ### One unit -/

theorem recheck (program : K.ProofProgram) (path : String) :
    congruence.holds (recheck program path) (recheck program path) := by
  unfold VerifiedBuild.recheck
  apply congruence.bind (congruence.examined rfl rfl)
  intro printed
  cases printed with
  | some error => exact congruence.errorLine _
  | none =>
      refine congruence.bind (congruence.writeLine _) fun _ => ?_
      refine congruence.bind (congruence.writeLine _) fun _ => ?_
      refine congruence.bind (congruence.writeLine _) fun _ => ?_
      apply congruence.bind (congruence.examined rfl rfl)
      intro read
      cases read with
      | none => exact congruence.done ()
      | some reparsed =>
          exact congruence.bind (congruence.examined rfl rfl) fun _ => congruence.done ()

theorem solve (program : K.ProofProgram) (key : Option String) :
    congruence.holds (solve program key) (solve program key) := by
  -- The first pass opens the phase, the others go on within it.
  have others (pass : Pass) (member : pass ∈ passes.tail) :
      (Request.call (.transform pass program)).isWithin ∧
        (Request.call (.transform pass program)).isCommon := by
    simp only [passes, List.tail_cons, List.mem_cons, List.not_mem_nil, or_false] at member
    rcases member with rfl | rfl | rfl <;> exact ⟨rfl, rfl⟩
  let later : Job K Unit := passes.tail.forM fun pass => Job.call (.transform pass program)
  have within : later.Confined (·.isWithin) fun _ => False :=
    Job.confined_forM fun pass member => Job.confined_request (others pass member).1
  have kept : congruence.holds later later :=
    congruence.forM fun pass member => congruence.examined (others pass member).2 rfl
  have optimized : congruence.holds
      (Job.timed .optimize (Job.call (.transform .deadVariables program) >>= fun _ => later))
      (Job.timed .optimize (Job.call (.transform .deadVariables program) >>= fun _ => later)) :=
    congruence.timedExamined rfl rfl (fun _ => within) fun _ => kept
  exact congruence.bind optimized fun _ => congruence.timedCall rfl rfl

theorem checkAndSolve (program : K.ProofProgram) (path : String) (key : Option String) :
    congruence.holds (checkAndSolve program path key) (checkAndSolve program path key) := by
  unfold VerifiedBuild.checkAndSolve
  apply congruence.bind (congruence.timedCall rfl rfl)
  intro outcome
  cases outcome with
  | done => exact congruence.done _
  | unresolved => exact congruence.bind (congruence.recheck _ _) fun _ => congruence.done _
  | illTyped => exact congruence.bind (congruence.recheck _ _) fun _ => congruence.done _
  | checked => exact congruence.solve program key
  | solved => exact congruence.stopped _ rfl
  | other code => exact congruence.stopped _ rfl

theorem verifyUnit (counts : ∀ key amount, congruence.holds (Job.request (.count key amount))
      (Job.request (.count key amount)))
    (config : Config) (programFile : String) (lineage : Option String) (unit : ProofUnit K) :
    congruence.holds (verifyUnit config programFile lineage unit)
      (verifyUnit config programFile lineage unit) := by
  unfold VerifiedBuild.verifyUnit
  cases unit.program with
  | none => exact congruence.stopped _ rfl
  | some program =>
      refine congruence.bind (congruence.common rfl rfl) fun host => ?_
      refine congruence.bind (congruence.checkAndSolve _ _ _) fun verdict => ?_
      exact congruence.bind (counts _ _) fun _ => congruence.done _

/-! ### The units of a program -/

theorem printUnit (modules : Nat) (conditionsFile : String) (unit : ProofUnit K) :
    congruence.holds (printUnit modules conditionsFile unit)
      (printUnit modules conditionsFile unit) := by
  unfold VerifiedBuild.printUnit
  cases unit.program with
  | none => exact congruence.done ()
  | some program =>
      apply congruence.bind (congruence.examined rfl rfl)
      intro printed
      cases printed with
      | none => exact congruence.done ()
      | some error => exact congruence.errorLine _

theorem printUnits (config : Config) (modules : Nat) (units : List (ProofUnit K)) :
    congruence.holds (printUnits config modules units) (printUnits config modules units) := by
  unfold VerifiedBuild.printUnits
  cases config.conditionsFile with
  | none => exact congruence.done ()
  | some conditionsFile => exact congruence.forM fun unit _ => congruence.printUnit _ _ unit

theorem gatherUnits (counts : ∀ key amount, congruence.holds (Job.request (.count key amount))
      (Job.request (.count key amount)))
    (config : Config) (program : K.Program) (modules : Nat) :
    congruence.holds (gatherUnits config program modules) (gatherUnits config program modules) := by
  refine congruence.bind (congruence.examined rfl rfl) fun units => ?_
  refine congruence.bind (congruence.printUnits config modules units) fun _ => ?_
  exact congruence.bind (counts _ _) fun _ => congruence.done units

theorem translateUnits (counts : ∀ key amount, congruence.holds (Job.request (.count key amount))
      (Job.request (.count key amount)))
    (config : Config) (program : K.Program) :
    congruence.holds (translateUnits config program) (translateUnits config program) := by
  rw [translateUnits_eq]
  exact congruence.timedExamined rfl rfl (confined_gatherUnits config program)
    (congruence.gatherUnits counts config program)

end Job.Examination

/-! ## Verdicts -/

theorem verifyAndCompile_eq (config : Config) (program : K.Program) (first last : Source)
    (others : List Source) (lineage : Option String) :
    verifyAndCompile config program first last others lineage = (do
      let units ← translateUnits config program
      let aggregate ← verifyUntimed config (Path.fileName last.path) lineage units
      let compiled ← concludeProgram config aggregate.outcome aggregate.byUnit program
        aggregate.verified (config.outputName.getD first.path) others
      pure (ExitStatus.ofResults aggregate.verified compiled.status.isFulfilled
        (compiled.status = .unwritten))) := by
  simp only [verifyAndCompile, verifyUntimed, bind_assoc, pure_bind, Aggregate.untimed]

/-! ## Whole runs -/

/-- A congruence between the runs of a configuration and of one that reports otherwise: it holds of
the parts that are particular to such runs as well. -/
structure Config.Congruence (K : Toolkit) (config : Config) (reporting : Reporting) extends
    Job.Congruence K where
  translates : ∀ program, holds (translateUnits config program) (translateUnits config program)
  verifies : ∀ programFile lineage units,
    holds (verifyUntimed config programFile lineage units)
      (verifyUntimed (config.reporting reporting) programFile lineage units)
  generates : ∀ target program, holds (generate target program) (generate target program)
  builds : ∀ plan, holds (buildCounted plan) (buildCounted plan)
  shows : ∀ program, holds (printReports config program)
    (printReports (config.reporting reporting) program)

namespace Config.Congruence

variable {config : Config} {reporting : Reporting}
  (congruence : Config.Congruence K config reporting)

theorem finishBuilt (output : String) (hasEntryPoint : Bool) (basePath : String)
    (built : BuildReport) :
    congruence.holds (finishBuilt config output hasEntryPoint basePath built)
      (finishBuilt config output hasEntryPoint basePath built) := by
  unfold VerifiedBuild.finishBuilt
  split
  · refine congruence.bind (congruence.errorLine _) fun _ => ?_
    exact congruence.bind (congruence.errorLines _) fun _ => congruence.done _
  · refine congruence.bind (congruence.errorLines _) fun _ => ?_
    split
    · split
      · exact congruence.runBuilt _
      · exact congruence.done _
    · refine congruence.bind (congruence.writeLine _) fun _ => ?_
      split
      · refine congruence.bind (congruence.provideCollections _ _) fun provided => ?_
        split
        · exact congruence.done _
        · exact congruence.done _
      · exact congruence.done _

theorem buildProduct (codePath : String) (hasEntryPoint : Bool) (basePath : String)
    (others : List Source) :
    congruence.holds (buildProduct config codePath hasEntryPoint basePath others)
      (buildProduct config codePath hasEntryPoint basePath others) := by
  rw [buildProduct_eq]
  refine congruence.bind (congruence.common rfl rfl) fun host => ?_
  exact congruence.bind (congruence.builds _) fun built => congruence.finishBuilt _ _ _ _

theorem finishGenerated (basePath : String) (others : List Source) (wantsBuild : Bool)
    (generated : Generated) (kept : Option String) :
    congruence.holds (finishGenerated config basePath others wantsBuild generated kept)
      (finishGenerated config basePath others wantsBuild generated kept) := by
  unfold VerifiedBuild.finishGenerated
  dsimp only
  split
  · exact congruence.done _
  split
  · exact congruence.done _
  split
  · exact congruence.done _
  cases kept with
  | some path => exact congruence.buildProduct _ _ _ _
  | none =>
      refine congruence.bind (congruence.common rfl rfl) fun host => ?_
      refine congruence.bind (congruence.storeCode _ _) fun stored => ?_
      split
      · exact congruence.buildProduct _ _ _ _
      · exact congruence.done _

theorem generateCode (program : K.Program) (basePath : String) (others : List Source)
    (wantsBuild : Bool) :
    congruence.holds (generateCode config program basePath others wantsBuild)
      (generateCode config program basePath others wantsBuild) := by
  unfold VerifiedBuild.generateCode
  refine congruence.bind (congruence.common rfl rfl) fun provided => ?_
  split
  · exact congruence.bind (congruence.errorLine _) fun _ => congruence.done _
  · refine congruence.bind (congruence.generates _ _) fun generated => ?_
    split
    · refine congruence.bind (congruence.storeCode _ _) fun stored => ?_
      split
      · refine congruence.bind (congruence.writeLine _) fun _ => ?_
        exact congruence.finishGenerated _ _ _ _ _
      · exact congruence.done _
    · exact congruence.finishGenerated _ _ _ _ _

theorem concludeProgram (outcome : Outcome) (byUnit : NameMap Statistics) (program : K.Program)
    (verified : Bool) (fileName : String) (others : List Source) :
    congruence.holds (concludeProgram config outcome byUnit program verified fileName others)
      (concludeProgram config outcome byUnit program verified fileName others) := by
  unfold VerifiedBuild.concludeProgram
  split
  · exact congruence.done _
  · refine congruence.bind (congruence.common rfl rfl) fun _ => ?_
    split
    · exact congruence.generateCode _ _ _ _
    · exact congruence.generateCode _ _ _ _
    · exact congruence.done _

-- What does not look at the reporting is the same for both configurations, by definition.
theorem verifyAndCompile (program : K.Program) (first last : Source) (others : List Source)
    (lineage : Option String) :
    congruence.holds (verifyAndCompile config program first last others lineage)
      (verifyAndCompile (config.reporting reporting) program first last others lineage) := by
  rw [verifyAndCompile_eq, verifyAndCompile_eq]
  refine congruence.bind (congruence.translates program) fun units => ?_
  refine congruence.bind (congruence.verifies _ _ _) fun aggregate => ?_
  exact congruence.bind (congruence.concludeProgram _ _ _ _ _ _) fun compiled =>
    congruence.done _

theorem makeParsed (program : K.Program) (first last : Source) (others : List Source)
    (lineage : Option String) :
    congruence.holds (makeParsed config program first last others lineage)
      (makeParsed (config.reporting reporting) program first last others lineage) := by
  have judged : congruence.holds (judgeProgram config program first last others lineage)
      (judgeProgram (config.reporting reporting) program first last others lineage) := by
    have same : (config.reporting reporting).verifies = config.verifies := rfl
    unfold judgeProgram
    rw [same]
    split
    · exact congruence.verifyAndCompile _ _ _ _ _
    · exact congruence.done _
  exact congruence.bind judged fun status =>
    congruence.bind (congruence.shows program) fun _ => congruence.done status

theorem makeProgram (files others : List Source) (lineage : Option String) :
    congruence.holds (makeProgram config files others lineage)
      (makeProgram (config.reporting reporting) files others lineage) := by
  cases files with
  | nil => exact congruence.stopped _ rfl
  | cons first rest =>
      unfold VerifiedBuild.makeProgram
      apply congruence.bind (congruence.common rfl rfl)
      rintro ⟨program, _ | error⟩
      · cases program with
        | none => exact congruence.done _
        | some program => exact congruence.makeParsed _ _ _ _ _
      · exact congruence.bind (congruence.errorLine _) fun _ => congruence.done _

theorem makeTogether (files others : List Source) (snapshots : Bool) (lineage : Option String) :
    congruence.holds (makeTogether config files others snapshots lineage)
      (makeTogether (config.reporting reporting) files others snapshots lineage) := by
  have same : (config.reporting reporting).snapshotLevel = config.snapshotLevel := rfl
  unfold VerifiedBuild.makeTogether
  rw [same]
  split
  · refine congruence.bind (congruence.common rfl rfl) fun host => ?_
    apply congruence.foldlM
    intro status group
    exact congruence.bind (congruence.makeProgram _ _ _) fun next => congruence.done _
  · exact congruence.makeProgram _ _ _

theorem makeFiles (files others : List Source) (snapshots : Bool) (lineage : Option String) :
    congruence.holds (makeFiles config files others snapshots lineage)
      (makeFiles (config.reporting reporting) files others snapshots lineage) := by
  have same : (config.reporting reporting).separately = config.separately := rfl
  unfold VerifiedBuild.makeFiles
  rw [same]
  split
  · apply congruence.foldlM
    intro status file
    refine congruence.bind ?_ fun next => congruence.done _
    refine congruence.bind (congruence.writeLine _) fun _ => ?_
    exact congruence.bind (congruence.writeLine _) fun _ => congruence.makeTogether _ _ _ _
  · exact congruence.makeTogether _ _ _ _

theorem makeAll (files others : List Source) :
    congruence.holds (makeAll config files others)
      (makeAll (config.reporting reporting) files others) :=
  congruence.makeFiles files others true none

end Config.Congruence

end VerifiedBuild
