import VerifiedBuild.Process.Invocation
/-!
# Launching programs

A command is launched with the environment of the host and an empty input. It leaves what it wrote
and the changed files, and says how it ended.
-/

namespace VerifiedBuild

inductive LaunchError where
  | emptyCommandLine
  | cannotExecute (program : String) (reason : FileError)
deriving DecidableEq, Repr, Inhabited

def LaunchError.message : LaunchError → String
  | .emptyCommandLine => "empty command line"
  | .cannotExecute program reason => "failed to execute " ++ program ++ ": " ++ reason.message

structure Finished where
  ending : Ending
  store : Store
  stdout : String := ""
  stderr : String := ""
deriving Repr, Inhabited

/-- A way to launch commands on a host. -/
abbrev Launcher := Host → List String → Except LaunchError Finished

namespace Launch

def runImage (image : Image) (environment : NameMap String) (store : Store) : Finished :=
  let descriptors : Descriptors := [(0, 0), (1, 1), (2, 2)]
  let system : System := { store, ends := #[.supply "", .collector "", .collector ""] }
  let (ending, after) := Shell.runSystemProgram image.program
    { arguments := image.arguments, environment, descriptors } system
  { ending, store := { after.store with workingDirectory := store.workingDirectory }
    stdout := widened (after.collected 1), stderr := widened (after.collected 2) }

end Launch

/-- Launch a command whose program is a utility or a script of the shell; nothing else counts as a
program. -/
def launch (host : Host) (command : List String) : Except LaunchError Finished :=
  match command with
  | [] => .error .emptyCommandLine
  | program :: _ =>
      if program = "" then .error .emptyCommandLine
      else
        let environment := NameMap.ofList (host.environment.entries.map fun (name, value) =>
          (narrowed name, narrowed value))
        match Image.find host.store environment (narrowed program) (command.map narrowed) with
        | .error reason => .error (.cannotExecute program reason)
        | .ok image => .ok (Launch.runImage image environment host.store)

end VerifiedBuild
