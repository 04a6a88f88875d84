import VerifiedBuild.Proofs.Inputs
import VerifiedBuild.Proofs.Make.Endings
import VerifiedBuild.Proofs.Reaching

/-!
# Getting as far as the programs

Before the work turns to the programs it opens the log, loads the plugin and sorts the inputs. If one
of these steps fails, the work is given up and no collaborator was called; else what is left to do is
the run of the programs.
-/

namespace VerifiedBuild

variable {K : Toolkit} {α β : Type} {collaborators : Collaborators K} {loader : Loader}

/-! ## Preparations -/

/-- A run counts its diagnostics afresh when it turns to the programs, and at no other time. -/
def Request.isStart : Request K → Bool
  | .restartTally => true
  | _ => false

def Request.isPreparatory : Request K → Bool
  | .write _ | .errorLine _ | .look | .openLog _ => true
  | _ => false

namespace Machine

def starts (machine : Machine K) : Nat :=
  machine.history.countP (·.request.isStart)

/-- No collaborator was called in between, and the programs were not turned to. -/
structure Idle (before after : Machine K) : Prop where
  calls : after.calls = before.calls
  starts : after.starts = before.starts

theorem idle_self (machine : Machine K) : machine.Idle machine :=
  ⟨rfl, rfl⟩

theorem Idle.trans {first middle last : Machine K} (earlier : first.Idle middle)
    (later : middle.Idle last) : first.Idle last :=
  ⟨later.calls.trans earlier.calls, later.starts.trans earlier.starts⟩

theorem starts_perform (machine : Machine K) (collaborators : Collaborators K)
    (request : Request K) :
    (machine.perform collaborators request).2.starts =
      machine.starts + if request.isStart then 1 else 0 := by
  rw [starts, history_perform, List.countP_append, starts, List.countP_singleton]

theorem idle_perform (machine : Machine K) (collaborators : Collaborators K) {request : Request K}
    (preparatory : request.isPreparatory) :
    machine.Idle (machine.perform collaborators request).2 := by
  constructor
  case calls =>
    rw [calls_perform]
    cases request <;> first | exact List.append_nil _ | cases preparatory
  case starts =>
    rw [starts_perform]
    cases request <;> first | rfl | cases preparatory

end Machine

namespace Job

theorem run_preparatory {job : Job K α}
    (confined : job.Confined (·.isPreparatory) fun _ => False) (before : Machine K) :
    ∃ value after, job.run collaborators before = (.ok value, after) ∧ before.Idle after := by
  induction job generalizing before with
  | done value => exact ⟨value, before, rfl, before.idle_self⟩
  | fail failure => cases confined
  | ask request next ih =>
      have aside : request.call? = none := by
        have preparatory := confined.1
        cases request <;> first | rfl | cases preparatory
      obtain ⟨answer, answered⟩ := before.perform_aside_ok collaborators aside
      have step := before.idle_perform collaborators confined.1
      rw [run]
      generalize before.perform collaborators request = performed at answered step ⊢
      obtain ⟨_, middle⟩ := performed
      obtain rfl : _ = Except.ok answer := answered
      obtain ⟨value, after, ended, later⟩ := ih answer (confined.2 answer) middle
      exact ⟨value, after, ended, step.trans later⟩

/-- The run ends without having started. -/
def GivesUp (collaborators : Collaborators K) (job : Job K ExitStatus) (before : Machine K) : Prop :=
  ∃ after, job.run collaborators before = (.ok .notStarted, after) ∧ before.Idle after

theorem givesUp_pure (before : Machine K) :
    GivesUp collaborators (pure .notStarted) before :=
  ⟨before, rfl, before.idle_self⟩

theorem GivesUp.after {job : Job K α} {next : α → Job K ExitStatus} {value : α}
    {before middle : Machine K} (ended : job.run collaborators before = (.ok value, middle))
    (idle : before.Idle middle) (later : (next value).GivesUp collaborators middle) :
    (job >>= next).GivesUp collaborators before := by
  obtain ⟨after, gaveUp, still⟩ := later
  refine ⟨after, ?_, idle.trans still⟩
  rw [(reaches_next ended).run_eq]
  exact gaveUp

theorem givesUp_errorLine (line : String) (before : Machine K) :
    GivesUp collaborators (do
      Job.errorLine line
      pure .notStarted) before :=
  have idle := before.idle_perform collaborators (rfl : (Request.errorLine line).isPreparatory)
  .after rfl idle (givesUp_pure _)

end Job

/-! ## The log and the banner -/

def writeLineIf (shown : Bool) (line : String) : Job K Unit :=
  if shown then Job.writeLine line else pure ()

def showBanner (options : Options) : Job K Unit := do
  writeLineIf (!options.noBanner) versionText
  writeLineIf options.echoArguments (environmentLine options)

/-- Open the log and show the banner; the answer is whether the work can go on. -/
def prepare (options : Options) : Job K Bool := do
  let opened ← openLog options.logFile
  if opened then showBanner options
  pure opened

theorem workJob_eq (loader : Loader) (options : Options) :
    (workJob loader options : Job K ExitStatus) =
      (if options.inputs.isEmpty then do
        Job.errorLine "*** Error: No input files were specified."
        pure .notStarted
      else do
        let opened ← prepare options
        if opened then loadAndExecute loader options else pure .notStarted) := by
  unfold workJob prepare showBanner writeLineIf
  congr 1
  rw [bind_assoc]
  refine bind_congr fun opened => ?_
  cases opened with
  | false => rfl
  | true => cases options.noBanner <;> cases options.echoArguments <;> rfl

def Options.logOpens (options : Options) (store : Store) : Bool :=
  options.logFile = "" || (store.openForWriting options.logFile).isOk

theorem confined_openLog (path : String) :
    (openLog path : Job K Bool).Confined (·.isPreparatory) fun _ => False := by
  unfold openLog
  split
  · exact Job.confined_pure true
  · refine .bind (Job.confined_request rfl) fun opened => ?_
    cases opened with
    | true => exact Job.confined_pure true
    | false => exact .bind (Job.confined_request rfl) fun _ => Job.confined_pure false

theorem confined_writeLineIf (shown : Bool) (line : String) :
    (writeLineIf shown line : Job K Unit).Confined (·.isPreparatory) fun _ => False := by
  cases shown with
  | true => exact Job.confined_request rfl
  | false => exact Job.confined_pure ()

theorem confined_prepare (options : Options) :
    (prepare options : Job K Bool).Confined (·.isPreparatory) fun _ => False := by
  refine .bind (confined_openLog _) fun opened => ?_
  cases opened with
  | false => exact Job.confined_pure false
  | true =>
      have banner : (showBanner options : Job K Unit).Confined (·.isPreparatory) fun _ => False :=
        (confined_writeLineIf _ _).bind fun _ => confined_writeLineIf _ _
      exact banner.bind fun _ => Job.confined_pure true

theorem openLog_answer {path : String} {opened : Bool} {before after : Machine K}
    (ended : (openLog path).run collaborators before = (.ok opened, after)) :
    opened = (path = "" || (before.host.store.openForWriting path).isOk) := by
  unfold openLog at ended
  split at ended
  next none =>
    cases ended
    simp [none]
  next some =>
    obtain ⟨given, middle, asked, rest⟩ := Job.run_bind_ok.mp ended
    have passed : (do
        if !given then Job.errorLine ("*** Error: cannot open diagnostic log '" ++ path ++ "'")
        pure given : Job K Bool).Yields (· = given) := by
      cases given with
      | true => exact Job.yields_pure rfl
      | false => exact Job.yields_bind fun _ => Job.yields_pure rfl
    have answered := congrArg Prod.fst (Job.run_request_ok.mp asked)
    simp only [Machine.perform, Machine.answer] at answered
    rw [passed.of_run rest, decide_eq_false some, Bool.false_or]
    cases opening : before.host.store.openForWriting path with
    | error failure =>
        rw [opening] at answered
        exact (Except.ok.inj answered).symm
    | ok place =>
        rw [opening] at answered
        exact (Except.ok.inj answered).symm

def Machine.prepared (machine : Machine K) (collaborators : Collaborators K) (options : Options) :
    Machine K :=
  ((prepare options).run collaborators machine).2

theorem prepare_run (options : Options) (collaborators : Collaborators K) (before : Machine K) :
    (prepare options).run collaborators before =
        (.ok (options.logOpens before.host.store), before.prepared collaborators options) ∧
      before.Idle (before.prepared collaborators options) := by
  obtain ⟨answer, after, ended, idle⟩ : ∃ answer after,
      (prepare options).run collaborators before = (.ok answer, after) ∧ before.Idle after :=
    Job.run_preparatory (confined_prepare options) before
  obtain ⟨opened, middle, first, rest⟩ := Job.run_bind_ok.mp ended
  have passed : (do
      if opened then showBanner options
      pure opened : Job K Bool).Yields (· = opened) := by
    cases opened with
    | true => exact Job.yields_bind fun _ => Job.yields_pure rfl
    | false => exact Job.yields_pure rfl
  have same : answer = options.logOpens before.host.store :=
    (passed.of_run rest).trans (openLog_answer first)
  rw [Machine.prepared, ended, same]
  exact ⟨rfl, idle⟩

/-! ## The plugin and the inputs -/

structure Inputs.Usable (inputs : Inputs) : Prop where
  accepted : inputs.refusal = none
  programs : inputs.programs ≠ []

theorem makeSorted_of_usable (config : Config) {inputs : Inputs} (usable : inputs.Usable) :
    (makeSorted config inputs : Job K ExitStatus) = (do
      Job.request .restartTally
      makeAll config inputs.programs inputs.others) := by
  rw [makeSorted, usable.accepted]
  exact if_neg (by simpa using usable.programs)

theorem makeSorted_givesUp (config : Config) {inputs : Inputs} (unusable : ¬inputs.Usable)
    (before : Machine K) : (makeSorted config inputs).GivesUp collaborators before := by
  rw [makeSorted]
  cases refused : inputs.refusal with
  | some refusal => exact Job.givesUp_errorLine _ before
  | none =>
      by_cases missing : inputs.programs = []
      · rw [missing]
        exact Job.givesUp_errorLine _ before
      · exact absurd ⟨refused, missing⟩ unusable

structure Options.Loads (options : Options) (loader : Loader) (host : Host) : Prop where
  chosen : choosePlugin host options.pluginFile ≠ ""
  loaded : loadPlugin host.store (choosePlugin host options.pluginFile) loader = .ok ()

def Machine.looked (machine : Machine K) (collaborators : Collaborators K) : Machine K :=
  (machine.perform collaborators .look).2

theorem Machine.idle_looked (machine : Machine K) (collaborators : Collaborators K) :
    machine.Idle (machine.looked collaborators) :=
  machine.idle_perform collaborators rfl

theorem Options.sorted_withRuntimeDirectory (options : Options) (host : Host) (store : Store) :
    (options.withRuntimeDirectory host).sorted store = options.sorted store := by
  unfold withRuntimeDirectory
  split <;> rfl

theorem loadAndExecute_reaches {options : Options} {before : Machine K}
    (loads : options.Loads loader before.host) :
    (loadAndExecute loader options).Reaches collaborators before
      (makeSorted (options.withRuntimeDirectory before.host).config
        (options.sorted (before.looked collaborators).host.store))
      ((before.looked collaborators).looked collaborators) := by
  have looks (machine : Machine K) : (Job.look : Job K Host).run collaborators machine =
      (.ok machine.host, machine.looked collaborators) := rfl
  have processes : (loadAndExecute loader options).Reaches collaborators before
      (processInputs (options.withRuntimeDirectory before.host)) (before.looked collaborators) := by
    refine (Job.reaches_next (looks before)).trans ?_
    dsimp only
    rw [if_neg loads.chosen, loads.loaded]
    exact .here _ _
  rw [← options.sorted_withRuntimeDirectory before.host]
  exact processes.trans (Job.reaches_next (looks _))

theorem loadAndExecute_givesUp {options : Options} {before : Machine K}
    (unready : ¬(options.Loads loader before.host ∧
      (options.sorted (before.looked collaborators).host.store).Usable)) :
    (loadAndExecute loader options).GivesUp collaborators before := by
  by_cases loads : options.Loads loader before.host
  case pos =>
    have unusable : ¬(options.sorted (before.looked collaborators).host.store).Usable :=
      fun usable => unready ⟨loads, usable⟩
    obtain ⟨after, gaveUp, idle⟩ : (makeSorted (options.withRuntimeDirectory before.host).config
        (options.sorted (before.looked collaborators).host.store)).GivesUp collaborators
          ((before.looked collaborators).looked collaborators) :=
      makeSorted_givesUp _ unusable _
    refine ⟨after, ?_, (before.idle_looked _).trans ((Machine.idle_looked _ _).trans idle)⟩
    rw [(loadAndExecute_reaches loads).run_eq]
    exact gaveUp
  case neg =>
    refine Job.GivesUp.after rfl (before.idle_looked collaborators) ?_
    by_cases chosen : choosePlugin before.host options.pluginFile = ""
    · rw [if_pos chosen]
      exact Job.givesUp_errorLine _ _
    · rw [if_neg chosen]
      cases loaded : loadPlugin before.host.store (choosePlugin before.host options.pluginFile)
          loader with
      | error error => exact Job.givesUp_errorLine _ _
      | ok toolchain => exact absurd ⟨chosen, loaded⟩ loads

/-! ## The work -/

/-- Nothing keeps the work from getting as far as the programs. -/
structure Options.Ready (options : Options) (loader : Loader) (collaborators : Collaborators K)
    (before : Machine K) : Prop where
  given : options.inputs ≠ []
  logged : options.logOpens before.host.store
  loads : options.Loads loader (before.prepared collaborators options).host
  usable : (options.sorted
    ((before.prepared collaborators options).looked collaborators).host.store).Usable

variable {options : Options} {before : Machine K}

theorem workJob_givesUp (unready : ¬options.Ready loader collaborators before) :
    (workJob loader options).GivesUp collaborators before := by
  obtain ⟨prepared, idle⟩ := prepare_run options collaborators before
  rw [workJob_eq]
  by_cases given : options.inputs = []
  · rw [given]
    exact Job.givesUp_errorLine _ before
  · rw [if_neg (by simpa using given)]
    refine Job.GivesUp.after prepared idle ?_
    cases logged : options.logOpens before.host.store with
    | false => exact Job.givesUp_pure _
    | true => exact loadAndExecute_givesUp fun both => unready ⟨given, logged, both.1, both.2⟩

/-- The run of the programs, as the work begins it. -/
def runPrograms (options : Options) (collaborators : Collaborators K) (before : Machine K) :
    Job K ExitStatus :=
  let prepared := before.prepared collaborators options
  let inputs := options.sorted (prepared.looked collaborators).host.store
  makeAll (options.withRuntimeDirectory prepared.host).config inputs.programs inputs.others

theorem workJob_starts (ready : options.Ready loader collaborators before) :
    ∃ there, (workJob loader options).Reaches collaborators before
        (runPrograms options collaborators before) there ∧
      there.calls = before.calls ∧ there.starts = before.starts + 1 := by
  obtain ⟨prepared, idle⟩ := prepare_run options collaborators before
  let sorting := ((before.prepared collaborators options).looked collaborators).looked collaborators
  have settled : before.Idle sorting :=
    (idle.trans (Machine.idle_looked _ _)).trans (Machine.idle_looked _ _)
  have begins : (workJob loader options).Reaches collaborators before (loadAndExecute loader options)
      (before.prepared collaborators options) := by
    rw [workJob_eq, if_neg (by simpa using ready.given)]
    refine (Job.reaches_next prepared).trans ?_
    rw [if_pos ready.logged]
    exact .here _ _
  refine ⟨(sorting.perform collaborators .restartTally).2, ?_, ?_, ?_⟩
  · refine (begins.trans (loadAndExecute_reaches ready.loads)).trans ?_
    rw [makeSorted_of_usable _ ready.usable]
    exact Job.reaches_next rfl
  · rw [Machine.calls_perform, settled.calls]
    exact List.append_nil _
  · rw [Machine.starts_perform, settled.starts]
    rfl

end VerifiedBuild
