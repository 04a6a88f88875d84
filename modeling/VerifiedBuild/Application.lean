import VerifiedBuild.Compiler
import VerifiedBuild.Inputs
import VerifiedBuild.Machine
import VerifiedBuild.Options.Parse
import VerifiedBuild.Options.Usage
import VerifiedBuild.Plugin
import VerifiedBuild.Make
import VerifiedBuild.Worker
/-!
# The application

The program as a whole: from the texts of the command line to the exit code.
-/

namespace VerifiedBuild

variable {K : Toolkit}

/-- What the system does for the program: it launches commands and opens shared libraries. -/
structure Services where
  launcher : Launcher := launch
  loader : Loader := openLibrary

/-! ## The work -/

def processInputs (options : Options) : Job K ExitStatus := do
  let snapshots := decide (options.config.snapshotLevel ≥ 0)
  let inputs := Inputs.ofPaths (← Job.look).store snapshots options.inputs
  match inputs.refusal with
  | some refusal =>
      Job.errorLine refusal.message
      pure .notStarted
  | none =>
      if inputs.programs.isEmpty then
        Job.errorLine "*** Error: No proof program (.prf) files were specified."
        pure .notStarted
      else
        Job.request .restartTally
        makeAll options.config inputs.programs inputs.others

def Options.withRuntimeDirectory (options : Options) (host : Host) : Options :=
  if options.config.runtimeDirectory = "" then
    options.configure ({ · with runtimeDirectory := host.programDirectory })
  else options

def loadAndExecute (loader : Loader) (options : Options) : Job K ExitStatus := do
  let host ← Job.look
  let path := choosePlugin host options.pluginFile
  if path = "" then
    Job.errorLine ("*** Error: no toolchain plugin given " ++
      "(use --toolchain=<plugin> or set PROOFC_TOOLCHAIN)")
    pure .notStarted
  else match loadPlugin host.store path loader with
    | .error error =>
        Job.errorLine ("*** Error: " ++ error.message)
        pure .notStarted
    | .ok () => processInputs (options.withRuntimeDirectory host)

/-- Open the log that is asked for; the answer is whether the work can go on. -/
def openLog (path : String) : Job K Bool := do
  if path = "" then pure true
  else
    let opened : Bool ← Job.request (.openLog path)
    if !opened then Job.errorLine ("*** Error: cannot open diagnostic log '" ++ path ++ "'")
    pure opened

def environmentLine (options : Options) : String :=
  String.join ("Command Line Options:" :: options.arguments.map (" " ++ ·))

def workJob (loader : Loader) (options : Options) : Job K ExitStatus := do
  if options.inputs.isEmpty then
    Job.errorLine "*** Error: No input files were specified."
    pure .notStarted
  else if ← openLog options.logFile then
    if !options.noBanner then Job.writeLine versionText
    if options.echoArguments then Job.writeLine (environmentLine options)
    loadAndExecute loader options
  else pure .notStarted

/-- Do the work on a machine. The log is closed at the end, also after a failure. -/
def work (toolchain : Collaborators K) (options : Options) (machine : Machine K)
    (services : Services := {}) : Except Failure ExitStatus × Machine K :=
  let collaborators := withCompiler options.config.compiler toolchain services.launcher
  let quiet := { machine with console := { machine.console with errorLog := none } }
  let (result, after) := (workJob services.loader options).run collaborators quiet
  (result, after.closeLog)

/-! ## The process -/

def Failure.status (failure : Failure) : ExitStatus :=
  match failure.kind with
  | .config | .backend => .notStarted
  | _ => .notCompiled

def Failure.notice (failure : Failure) : String :=
  match failure.kind with
  | .foreign => "proofc: internal error: " ++ failure.message ++ "\n"
  | _ => "proofc: " ++ failure.message ++ "\n"

namespace Machine

def complain (machine : Machine K) (text : String) : Machine K :=
  { machine with console := machine.console.complain text }

def write (machine : Machine K) (text : String) : Machine K :=
  { machine with console := machine.console.write text }

end Machine

def settle (result : Except Failure ExitStatus) (machine : Machine K) : ExitStatus × Machine K :=
  match result with
  | .ok status => (status, machine)
  | .error failure => (failure.status, machine.complain failure.notice)

/-- Do what the options ask for: the exit code and the machine afterwards. -/
def perform (toolchain : Collaborators K) (options : Options) (machine : Machine K)
    (services : Services := {}) : Int × Machine K :=
  let fresh := { machine with metrics := { enabled := options.metrics } }
  let (result, worked) := Worker.run options.stackSize
    (work toolchain options · services) fresh
  let (status, settled) := settle result worked
  let report := settled.metrics.reportIf options.metrics options.reportFormat
  (status.exitCode options.config.countErrors, settled.write report)

/-- The program: the exit code for a command line of `count` texts, and the machine afterwards. -/
def runCommandLine (toolchain : Collaborators K) (count : Int)
    (argv : Option (List (Option String))) (machine : Machine K) (services : Services := {}) :
    Int × Machine K :=
  let tokens := Options.tokensOf count argv
  let parsed := Options.parse tokens
  match parsed.complaint with
  | some complaint =>
      (ExitStatus.notStarted.exitCode true,
        (machine.complain (complaint.message ++ "\n")).complain (usage tokens.head?))
  | none =>
      if parsed.options.wantsHelp then (0, machine.write (usage tokens.head?))
      else perform toolchain parsed.options machine services

end VerifiedBuild
