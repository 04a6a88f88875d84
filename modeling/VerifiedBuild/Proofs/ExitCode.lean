import VerifiedBuild.Proofs.Make.Flat
import VerifiedBuild.Proofs.Starting

/-!
# What the exit code tells

The exit code is 1 exactly if a command was kept from its programs: its options were refused, no
worker could be set up for it, or the work was given up. Any other exit code grades the run of the
programs.
-/

namespace VerifiedBuild

variable {K : Toolkit} {collaborators : Collaborators K} {services : Services}

/-! ## Exit codes -/

/-- What the exit code says of the result of a run of programs. -/
structure Grades (countErrors : Bool) (result : Except Failure ExitStatus) (code : Int) : Prop where
  range : code = 0 ∨ code = 2 ∨ code = 3 ∨ code = 4
  uncounted : countErrors = false → code = 0
  counted : countErrors → (code = 0 ↔ result = .ok .verified)
  failed : countErrors → ∀ failure, result = .error failure → code = 2

/-- No call fails like a worker that cannot be set up. -/
def Collaborators.Ordinary (toolchain : Collaborators K) : Prop :=
  ∀ earlier toCall host failure, (toolchain earlier toCall host).result = .error failure →
    failure.kind ≠ .config ∧ failure.kind ≠ .backend

theorem Collaborators.Ordinary.withCompiler {toolchain : Collaborators K}
    (ordinary : toolchain.Ordinary) (compiler : String) (launcher : Launcher) :
    (withCompiler compiler toolchain launcher).Ordinary := by
  intro earlier toCall host failure failed
  cases toCall with
  | build plan =>
      simp only [VerifiedBuild.withCompiler, Compiler.build] at failed
      split at failed <;> cases failed
  | run artifact =>
      simp only [VerifiedBuild.withCompiler, Compiler.run] at failed
      split at failed <;> cases failed
  | _ => exact ordinary _ _ _ _ failed

def statusOf (result : Except Failure ExitStatus) : ExitStatus :=
  match result with
  | .ok status => status
  | .error failure => failure.status

theorem ExitStatus.exitCode_uncounted {status : ExitStatus} (started : status ≠ .notStarted) :
    status.exitCode false = 0 := by
  simp [exitCode, started]

def Machine.readied (machine : Machine K) (options : Options) : Machine K :=
  { machine with
    metrics := { enabled := options.metrics }
    console := { machine.console with errorLog := none } }

theorem Machine.history_closeLog (machine : Machine K) :
    machine.closeLog.history = machine.history := by
  unfold closeLog
  split <;> rfl

theorem settle_fst (result : Except Failure ExitStatus) (machine : Machine K) :
    (settle result machine).1 = statusOf result := by
  cases result <;> rfl

theorem history_settle (result : Except Failure ExitStatus) (machine : Machine K) :
    (settle result machine).2.history = machine.history := by
  cases result <;> rfl

theorem host_settle (result : Except Failure ExitStatus) (machine : Machine K) :
    (settle result machine).2.host = machine.host := by
  cases result <;> rfl

/-- What a command comes to once a worker is set up. -/
structure Performed (options : Options) (worked : Except Failure ExitStatus × Machine K)
    (ended : Int × Machine K) : Prop where
  code : ended.1 = (statusOf worked.1).exitCode options.config.countErrors
  history : ended.2.history = worked.2.history
  host : ended.2.host = worked.2.closeLog.host

theorem perform_manned (toolchain : Collaborators K) (services : Services) {options : Options}
    (manned : Worker.setUp options.stackSize = .ok ()) (machine : Machine K) :
    Performed options ((workJob services.loader options).run
      (withCompiler options.config.compiler toolchain services.launcher)
      (machine.readied options)) (perform toolchain options machine services) := by
  constructor
  case code => simp only [perform, Worker.run, manned, settle_fst, work, Machine.readied]
  case history =>
    simp only [perform, Worker.run, manned, work, Machine.readied]
    change (settle _ _).2.history = _
    rw [history_settle, Machine.history_closeLog]
  case host =>
    simp only [perform, Worker.run, manned, work, Machine.readied]
    change (settle _ _).2.host = _
    rw [host_settle]

theorem Worker.status_of_setUp {stackSize : Nat} {failure : Failure}
    (failed : setUp stackSize = .error failure) : failure.status = .notStarted := by
  unfold setUp at failed
  split at failed
  · cases failed
    rfl
  · split at failed
    · cases failed
      rfl
    · cases failed

theorem perform_unmanned (toolchain : Collaborators K) (services : Services) {options : Options}
    {failure : Failure} (failed : Worker.setUp options.stackSize = .error failure)
    (machine : Machine K) :
    (perform toolchain options machine services).1 = 1 ∧
      (perform toolchain options machine services).2.history = machine.history ∧
      (perform toolchain options machine services).2.host = machine.host := by
  refine ⟨?_, ?_, ?_⟩
  · simp only [perform, Worker.run, failed, settle_fst, statusOf]
    rw [Worker.status_of_setUp failed]
    cases options.config.countErrors <;> rfl
  · simp only [perform, Worker.run, failed]
    rfl
  · simp only [perform, Worker.run, failed]
    rfl

/-! ## What the exit code tells -/

/-- The programs are run: that is what is left of the work at a point where no collaborator was
called, and the exit code says how it ends. -/
def Options.RunsPrograms (options : Options) (toolchain : Collaborators K) (services : Services)
    (machine : Machine K) (code : Int) : Prop :=
  let collaborators := withCompiler options.config.compiler toolchain services.launcher
  let before := machine.readied options
  let programs := runPrograms options collaborators before
  ∃ there, (workJob services.loader options).Reaches collaborators before programs there ∧
    there.calls = before.calls ∧
    Grades options.config.countErrors (programs.run collaborators there).1 code

/-- What an exit code tells about a command that was given on `machine` and left `after`; `starts`
says that nothing kept it from its programs. -/
structure Tells (starts : Prop) (options : Options) (toolchain : Collaborators K)
    (services : Services) (machine : Machine K) (code : Int) (after : Machine K) : Prop where
  unready : code = 1 ↔ ¬starts
  unstarted : code = 1 ↔ after.starts = machine.starts
  idle : code = 1 → after.calls = machine.calls
  started : starts → options.RunsPrograms toolchain services machine code

def Options.ofCommandLine (count : Int) (argv : Option (List (Option String))) : Parsed :=
  parse (tokensOf count argv)

/-- Do what a command line says once it is read; `name` is the name of the program. -/
def enact (toolchain : Collaborators K) (services : Services) (name : Option String)
    (parsed : Options.Parsed) (machine : Machine K) : Int × Machine K :=
  match parsed.complaint with
  | some complaint =>
      (ExitStatus.notStarted.exitCode true,
        (machine.complain (complaint.message ++ "\n")).complain (usage name))
  | none =>
      if parsed.options.wantsHelp then (0, machine.write (usage name))
      else perform toolchain parsed.options machine services

theorem runCommandLine_eq (toolchain : Collaborators K) (services : Services) (count : Int)
    (argv : Option (List (Option String))) (machine : Machine K) :
    runCommandLine toolchain count argv machine services =
      enact toolchain services (Options.tokensOf count argv).head?
        (Options.ofCommandLine count argv) machine :=
  rfl

def Rehearsal.equipped (withPlugin : Bool) : Machine toolkit :=
  let files := storeWith ["a.prf"]
  { host :=
      { store := if withPlugin then files.put "./t.so" (.plugin {}) else files
        environment := .ofList [("PROOFC_TOOLCHAIN", "./t.so")] } }

def Rehearsal.checkCommand : Option (List (Option String)) :=
  some [some "proofc", some "--compile=0", some "a.prf"]

end VerifiedBuild
