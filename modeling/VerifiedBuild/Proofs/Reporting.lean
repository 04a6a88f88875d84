import VerifiedBuild.Proofs.ExitCode
import VerifiedBuild.Proofs.Make.Reporting

/-!
# Reports make no difference

What a run reports, and what it measures, makes no difference to the work it does. For a whole
command it makes none either whether errors count, except that the exit code is then 1 or 0.
-/

namespace VerifiedBuild

variable {K : Toolkit} {collaborators : Collaborators K} {hidden : Call K → Bool}

/-! ## The same work -/

/-- The same calls with the same answers, but for hidden ones, the same files written, and the same
host left. -/
structure Machine.SameWork (hidden : Call K → Bool) (left right : Machine K) : Prop where
  exchanges : left.exchanges.filter (!hidden ·.call) = right.exchanges.filter (!hidden ·.call)
  fileWrites : left.fileWrites = right.fileWrites
  host : left.host = right.host

theorem Machine.Alike.sameWork {left right : Machine K} (alike : left.Alike hidden right) :
    left.SameWork hidden right :=
  ⟨alike.exchanges, alike.fileWrites, alike.host⟩

theorem Machine.SameWork.congr {left right further other : Machine K}
    (same : left.SameWork hidden right)
    (kept : further.history = left.history ∧ further.host = left.host)
    (alsoKept : other.history = right.history ∧ other.host = right.host) :
    further.SameWork hidden other := by
  obtain ⟨history, host⟩ := kept
  obtain ⟨otherHistory, otherHost⟩ := alsoKept
  constructor
  case exchanges =>
    rw [Machine.exchanges, history, Machine.exchanges, otherHistory]
    exact same.exchanges
  case fileWrites =>
    rw [Machine.fileWrites, history, Machine.fileWrites, otherHistory]
    exact same.fileWrites
  case host => rw [host, otherHost, same.host]

def Writer.close (writer : Writer) (store : Store) : Store :=
  match store.held with
  | some place => { (writer.handOver store place []).2 with held := none }
  | none => { store with held := none }

theorem Machine.closeLog_some {machine : Machine K} {log : OpenLog}
    (opened : machine.log = some log) :
    machine.closeLog =
      { machine.setStore (log.writer.close machine.host.store) with
        log := none
        console := { machine.console with errorLog := none } } := by
  rw [closeLog, opened]
  dsimp only [withLog, Writer.close]
  cases machine.host.store.held <;> rfl

theorem Machine.settled_of_log_eq_none {machine : Machine K} (closed : machine.log = none) :
    machine.Settled := by
  intro log opened
  rw [closed] at opened
  cases opened

theorem Machine.Alike.closeLog {left right : Machine K} (alike : left.Alike hidden right) :
    left.closeLog.Alike hidden right.closeLog := by
  have writers := alike.writer
  cases opened : left.log with
  | none =>
      rw [opened] at writers
      have alsoClosed : right.log = none := by simpa using writers.symm
      rw [Machine.closeLog, opened, Machine.closeLog, alsoClosed]
      exact alike
  | some log =>
      rw [opened] at writers
      obtain ⟨other, alsoOpened, writer⟩ := Option.map_eq_some_iff.mp writers.symm
      rw [closeLog_some opened, closeLog_some alsoOpened, writer]
      constructor
      case console =>
        exact congrArg (fun console : Console => { console with errorLog := none }) alike.console
      case host => simp only [setStore, alike.host]
      case writer => rfl
      case history => exact alike.history
      case settled => exact ⟨settled_of_log_eq_none rfl, settled_of_log_eq_none rfl⟩

/-! ## Commands that do not count errors -/

/-- The same options, as other arguments give them that say that errors do not count. -/
def Options.uncounted (options : Options) (arguments : List String) : Options :=
  { options with arguments, config := { options.config with countErrors := false } }

def Options.Parsed.uncounted (parsed : Parsed) (arguments : List String) : Parsed :=
  { parsed with options := parsed.options.uncounted arguments }

def Config.uncountedReporting (config : Config) : Reporting :=
  { config.ownReporting with countErrors := false }

theorem Options.config_uncounted_withRuntimeDirectory (options : Options) (arguments : List String)
    (host : Host) :
    ((options.uncounted arguments).withRuntimeDirectory host).config =
      (options.withRuntimeDirectory host).config.reporting
        (options.withRuntimeDirectory host).config.uncountedReporting := by
  have same : (options.uncounted arguments).config.runtimeDirectory =
      options.config.runtimeDirectory := rfl
  unfold withRuntimeDirectory
  rw [same]
  split <;> rfl

def noCall (K : Toolkit) : Call K → Bool :=
  fun _ => false

theorem respects_heard {request : Request K} (heard : request.isSilent (noCall K) = false) :
    (Similarity.alike (noCall K)).Respects collaborators request Eq :=
  respects_alike collaborators.hides_nothing heard

theorem matches_errorLine (line : String) :
    Job.Matches (.alike (noCall K)) collaborators Eq (Job.errorLine line)
      (Job.errorLine line) := by
  have heard : (Request.errorLine line).isSilent (noCall K) = false := rfl
  exact Job.matches_request (respects_heard heard)

theorem matches_givenUp (line : String) :
    Job.Matches (.alike (noCall K)) collaborators Eq
      (do
        Job.errorLine line
        pure ExitStatus.notStarted)
      (do
        Job.errorLine line
        pure ExitStatus.notStarted) :=
  (matches_errorLine line).bind_eq fun _ => Job.matches_pure rfl

theorem matches_makeAll (config : Config) (files others : List Source) :
    Job.Matches (.alike (noCall K)) collaborators Eq (makeAll config files others)
      (makeAll (config.reporting config.uncountedReporting) files others) := by
  have hides := collaborators.hides_nothing
  have shows (program : K.Program) : Job.Matches (.alike (noCall K)) collaborators Eq
      (printReports config program) (printReports config program) := by
    let congruence := (Similarity.alike (noCall K)).congruence collaborators
      fun _ regular => respects_regular hides (fun _ => nofun) regular
    exact congruence.printReports (fun _ _ => Job.matches_call (respects_heard rfl)) config program
  let observed : Config.Congruence K config config.uncountedReporting :=
    Config.observed hides (fun _ => nofun) shows
  exact observed.makeAll files others

theorem matches_makeSorted (config : Config) (inputs : Inputs) :
    Job.Matches (.alike (noCall K)) collaborators Eq (makeSorted config inputs)
      (makeSorted (config.reporting config.uncountedReporting) inputs) := by
  unfold makeSorted
  cases inputs.refusal with
  | some refusal => exact matches_givenUp _
  | none =>
      dsimp only
      split
      · exact matches_givenUp _
      · exact (Job.matches_request (respects_heard rfl)).bind_eq fun _ => matches_makeAll _ _ _

theorem matches_loadAndExecute (loader : Loader) (options : Options) (arguments : List String) :
    Job.Matches (.alike (noCall K)) collaborators Eq (loadAndExecute loader options)
      (loadAndExecute loader (options.uncounted arguments)) := by
  refine (Job.matches_request (respects_heard rfl)).bind_eq fun host => ?_
  have same : (options.uncounted arguments).pluginFile = options.pluginFile := rfl
  dsimp only
  rw [same]
  split
  · exact matches_givenUp _
  · split
    · exact matches_givenUp _
    · rw [processInputs_eq, processInputs_eq]
      refine (Job.matches_request (respects_heard rfl)).bind_eq fun found => ?_
      rw [Options.sorted_withRuntimeDirectory, Options.sorted_withRuntimeDirectory,
        Options.config_uncounted_withRuntimeDirectory]
      exact matches_makeSorted _ _

theorem silent_showBanner (options : Options) :
    Job.Silent collaborators (noCall K) (showBanner options) () := by
  have line (shown : Bool) (text : String) :
      Job.Silent collaborators (noCall K) (writeLineIf shown text) () :=
    (Job.silent_write collaborators.hides_nothing _).optional
  exact (line _ _).bind (line _ _)

theorem matches_openLog (path : String) :
    Job.Matches (.alike (noCall K)) collaborators Eq (openLog path) (openLog path) := by
  unfold openLog
  split
  · exact Job.matches_pure rfl
  · refine (Job.matches_request (respects_heard rfl)).bind_eq fun opened => ?_
    cases opened with
    | true => exact Job.matches_pure rfl
    | false => exact (matches_errorLine _).bind_eq fun _ => Job.matches_pure rfl

theorem matches_prepare (options : Options) (arguments : List String) :
    Job.Matches (.alike (noCall K)) collaborators Eq (prepare options)
      (prepare (options.uncounted arguments)) := by
  refine (matches_openLog options.logFile).bind_eq fun opened => ?_
  cases opened with
  | false => exact Job.matches_pure rfl
  | true =>
      -- The banners may echo different arguments, but what is put out is not compared.
      have banners : Job.Matches (.alike (noCall K)) collaborators Eq (showBanner options)
          (showBanner (options.uncounted arguments)) :=
        (silent_showBanner _).matches (silent_showBanner _)
      exact banners.bind_eq fun _ => Job.matches_pure rfl

theorem matches_workJob (loader : Loader) (options : Options) (arguments : List String) :
    Job.Matches (.alike (noCall K)) collaborators Eq (workJob loader options)
      (workJob loader (options.uncounted arguments)) := by
  have same : (options.uncounted arguments).inputs = options.inputs := rfl
  rw [workJob_eq, workJob_eq, same]
  split
  · exact matches_givenUp _
  · refine (matches_prepare options arguments).bind_eq fun opened => ?_
    cases opened with
    | true => exact matches_loadAndExecute loader options arguments
    | false => exact Job.matches_pure rfl

/-! ## Exit codes -/

theorem Failure.status_started_or (failure : Failure) :
    failure.status = .notStarted ∨ failure.status.isOfPrograms := by
  unfold status
  split
  · exact .inl rfl
  · exact .inl rfl
  · exact .inr rfl

theorem statusOf_workJob (loader : Loader) (options : Options) (before : Machine K) :
    statusOf ((workJob loader options).run collaborators before).1 = .notStarted ∨
      (statusOf ((workJob loader options).run collaborators before).1).isOfPrograms := by
  cases ended : (workJob loader options).run collaborators before with
  | mk result after =>
      cases result with
      | error failure => exact failure.status_started_or
      | ok status =>
          by_cases ready : options.Ready loader collaborators before
          · obtain ⟨there, reaches, -⟩ := workJob_starts ready
            rw [reaches.run_eq] at ended
            exact .inr ((yields_makeAll _ _ _).of_run ended)
          · obtain ⟨halt, gaveUp, -⟩ := workJob_givesUp ready
            rw [ended] at gaveUp
            exact .inl (Except.ok.inj (congrArg Prod.fst gaveUp))

theorem ExitStatus.exitCode_eq_one_iff {status : ExitStatus} (countErrors : Bool)
    (proper : status = .notStarted ∨ status.isOfPrograms) :
    status.exitCode countErrors = 1 ↔ status = .notStarted := by
  cases countErrors <;> cases status <;> simp_all [exitCode, ordinal, isOfPrograms]

/-! ## Commands -/

def uncountedCode (code : Int) : Int :=
  if code = 1 then 1 else 0

theorem ExitStatus.exitCode_uncountedCode {status : ExitStatus} (countErrors : Bool)
    (proper : status = .notStarted ∨ status.isOfPrograms) :
    status.exitCode false = uncountedCode (status.exitCode countErrors) := by
  by_cases unstarted : status = .notStarted
  · rw [uncountedCode, if_pos ((exitCode_eq_one_iff countErrors proper).mpr unstarted), unstarted]
    rfl
  · rw [uncountedCode, if_neg (mt (exitCode_eq_one_iff countErrors proper).mp unstarted),
      exitCode_uncounted unstarted]

theorem perform_uncounted (toolchain : Collaborators K) (services : Services) (options : Options)
    (arguments : List String) {machine : Machine K} (settled : machine.Settled) :
    (perform toolchain (options.uncounted arguments) machine services).1 =
        uncountedCode (perform toolchain options machine services).1 ∧
      (perform toolchain options machine services).2.SameWork (noCall K)
        (perform toolchain (options.uncounted arguments) machine services).2 := by
  have sameStack : (options.uncounted arguments).stackSize = options.stackSize := rfl
  cases worker : Worker.setUp options.stackSize with
  | error failure =>
      rw [← sameStack] at worker
      obtain ⟨alsoOne, alsoKept⟩ := perform_unmanned toolchain services worker machine
      rw [sameStack] at worker
      obtain ⟨one, kept⟩ := perform_unmanned toolchain services worker machine
      rw [one, alsoOne]
      exact ⟨rfl, (Machine.alike_self settled).sameWork.congr kept alsoKept⟩
  | ok manned =>
      rw [← sameStack] at worker
      have again := perform_manned toolchain services worker machine
      rw [sameStack] at worker
      have performed := perform_manned toolchain services worker machine
      have ready : (machine.readied options).Settled := settled
      obtain ⟨agree, alike⟩ :
          Agree Eq
            ((workJob services.loader options).run
              (withCompiler options.config.compiler toolchain services.launcher)
              (machine.readied options)).1 _ ∧ _ :=
        matches_workJob services.loader options arguments (Machine.alike_self ready)
      constructor
      case left =>
        have code := again.code
        have sameResult := agree.eq
        change _ = (statusOf ((workJob services.loader (options.uncounted arguments)).run
          (withCompiler options.config.compiler toolchain services.launcher)
          (machine.readied options)).1).exitCode false at code
        rw [performed.code, code, ← sameResult]
        exact ExitStatus.exitCode_uncountedCode _ (statusOf_workJob _ options _)
      case right =>
        refine alike.closeLog.sameWork.congr ?_ ?_
        · exact ⟨performed.history.trans (Machine.history_closeLog _).symm, performed.host⟩
        · exact ⟨again.history.trans (Machine.history_closeLog _).symm, again.host⟩

theorem enact_uncounted (toolchain : Collaborators K) (services : Services)
    (name other : Option String) (parsed : Options.Parsed) (arguments : List String)
    {machine : Machine K} (settled : machine.Settled) :
    (enact toolchain services other (parsed.uncounted arguments) machine).1 =
        uncountedCode (enact toolchain services name parsed machine).1 ∧
      (enact toolchain services name parsed machine).2.SameWork (noCall K)
        (enact toolchain services other (parsed.uncounted arguments) machine).2 := by
  have same := (Machine.alike_self settled : machine.Alike (noCall K) machine).sameWork
  have sameHelp : (parsed.uncounted arguments).options.wantsHelp = parsed.options.wantsHelp := rfl
  have sameComplaint : (parsed.uncounted arguments).complaint = parsed.complaint := rfl
  unfold enact
  rw [sameComplaint, sameHelp]
  cases parsed.complaint with
  | some complaint => exact ⟨rfl, same.congr ⟨rfl, rfl⟩ ⟨rfl, rfl⟩⟩
  | none =>
      cases parsed.options.wantsHelp with
      | true => exact ⟨rfl, same.congr ⟨rfl, rfl⟩ ⟨rfl, rfl⟩⟩
      | false => exact perform_uncounted toolchain services parsed.options arguments settled

/-! ## Reports and error counts -/

/-- Reports and measurements make no difference to the result of a run, to its error text and to its
work. If a command no longer counts errors, only its exit code differs: it is 1 or 0. -/
theorem reporting_immaterial :
    (∀ collaborators : Collaborators K, collaborators.Hides (·.isShow) →
      ∀ (config : Config) (reporting : Reporting) (files others : List Source)
        (before : Machine K) (metrics : Metrics), before.Settled →
      let ended := (makeAll config files others).run collaborators before
      let other := (makeAll (config.reporting reporting) files others).run collaborators
        { before with metrics }
      ended.1 = other.1 ∧
        Stream.err.text ended.2.console.transcript = Stream.err.text other.2.console.transcript ∧
        ended.2.SameWork (·.isShow) other.2) ∧
    ∀ (toolchain : Collaborators K) (services : Services) (machine : Machine K)
      (count other : Int) (argv others : Option (List (Option String)))
      (arguments : List String), machine.Settled →
      Options.ofCommandLine other others = (Options.ofCommandLine count argv).uncounted arguments →
      (runCommandLine toolchain other others machine services).1 =
          uncountedCode (runCommandLine toolchain count argv machine services).1 ∧
        (runCommandLine toolchain count argv machine services).2.SameWork (noCall K)
          (runCommandLine toolchain other others machine services).2 := by
  constructor
  case left =>
    intro collaborators hides config reporting files others before metrics settled
    have begin : before.Alike (·.isShow) { before with metrics } :=
      ⟨rfl, rfl, rfl, rfl, settled, settled⟩
    obtain ⟨same, after⟩ := makeAll_alike hides config reporting files others begin
    exact ⟨same, after.text nofun, after.sameWork⟩
  case right =>
    intro toolchain services machine count other argv others arguments settled flipped
    rw [runCommandLine_eq, runCommandLine_eq, flipped]
    exact enact_uncounted toolchain services _ _ _ arguments settled

theorem Rehearsal.hides_shows {script : Script} (free : script.trap = none) :
    (Rehearsal.collaborators script).Hides (·.isShow) := by
  constructor
  case quiet =>
    intro earlier toCall host shown
    rw [Rehearsal.collaborators, free]
    cases toCall <;> first | exact ⟨rfl, rfl, rfl, rfl, (), rfl⟩ | cases shown
  case steady =>
    intro earlier toCall host _
    exact ⟨rfl, rfl, rfl, rfl, rfl⟩

def Rehearsal.Script.rejected : Script where
  error := some "unexpected end of file"

def Rehearsal.uncountedCommand : Option (List (Option String)) :=
  some [some "proofc", some "--compile=0", some "--count-verification-errors=0", some "a.prf"]

def Rehearsal.reportedRun (reporting : Reporting) (metrics : Metrics) :
    Except Failure ExitStatus × Machine toolkit :=
  (makeAll (Config.reporting { compile := false } reporting) [⟨"a.prf", .program⟩] []).run
    (Rehearsal.collaborators .single) { equipped true with metrics }

theorem reportedRun_immaterial :
    (Rehearsal.reportedRun ⟨true, true, true, true⟩ { enabled := true }).2.calls.length =
      (Rehearsal.reportedRun ⟨false, false, false, false⟩ {}).2.calls.length + 2 ∧
    (Rehearsal.reportedRun ⟨false, false, false, false⟩ {}).2.SameWork (·.isShow)
      (Rehearsal.reportedRun ⟨true, true, true, true⟩ { enabled := true }).2 ∧
    (runCommandLine (Rehearsal.collaborators .rejected) 3 Rehearsal.checkCommand
      (Rehearsal.equipped true)).1 = 2 ∧
    (runCommandLine (Rehearsal.collaborators .rejected) 4 Rehearsal.uncountedCommand
      (Rehearsal.equipped true)).1 = 0 := by
  have settled : (Rehearsal.equipped true).Settled := nofun
  have hides := Rehearsal.hides_shows (rfl : Rehearsal.Script.single.trap = none)
  have same := (reporting_immaterial.1 _ hides
    (Config.reporting { compile := false } ⟨false, false, false, false⟩) ⟨true, true, true, true⟩
    [⟨"a.prf", .program⟩] [] (Rehearsal.equipped true) { enabled := true } settled).2.2
  have flipped : Options.ofCommandLine 4 Rehearsal.uncountedCommand =
      (Options.ofCommandLine 3 Rehearsal.checkCommand).uncounted
        ["--compile=0", "--count-verification-errors=0", "a.prf"] := by
    decide +kernel
  have counted : (runCommandLine (Rehearsal.collaborators .rejected) 3 Rehearsal.checkCommand
      (Rehearsal.equipped true)).1 = 2 := by
    decide +kernel
  have code := (reporting_immaterial.2 (Rehearsal.collaborators .rejected) {} _ _ _ _ _ _ settled
    flipped).1
  rw [counted] at code
  exact ⟨by decide +kernel, same, counted, code⟩

end VerifiedBuild
