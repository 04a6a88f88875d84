import VerifiedBuild.Process.Shell
import VerifiedBuild.Process.Utility
/-!
# Invoking shells

How a shell is started: its options, the script it reads, and its first variables. Programs that run
other programs are tied together here.
-/

namespace VerifiedBuild.Shell

structure Invocation where
  text : String
  name : String
  arguments : List String
  settings : Settings
deriving Repr, Inhabited

namespace Invocation

def scriptText (system : System) (path : String) : Except String String :=
  match system.store.find (widened path) with
  | .ok (_, .file content _) => .ok (Octets.narrow content)
  | .ok _ => .ok ""
  | .error error => .error (Redirection.openingMessage .read path error)

/-- Read the arguments of a shell. The script is a text among them, the text of a file, or what the
shell can read from its input. -/
def ofArguments (process : Process) (system : System) : Except String (Invocation × System) := do
  let name := process.arguments.head?.getD "sh"
  let special := fun c : Char => c ∈ ['c', 's', 'l', 'i']
  let (settings, letters, words, _) ←
    Builtin.readSettings special {} [] (process.arguments.drop 1)
  if letters.contains 'c' then
    match words with
    | [] => throw "-c requires an argument"
    | [text] => return ({ text, name, arguments := [], settings }, system)
    | text :: scriptName :: arguments =>
        return ({ text, name := scriptName, arguments, settings }, system)
  else match words, letters.contains 's' with
    | path :: arguments, false =>
        return ({ text := ← scriptText system path, name := path, arguments, settings }, system)
    | arguments, _ =>
        match system.read process.descriptors 0 with
        | .ok (text, after) => return ({ text, name, arguments, settings }, after)
        | .error _ => return ({ text := "", name, arguments, settings }, system)

end Invocation

def initialVariables (process : Process) (store : Store) : NameMap Variable :=
  let given := process.environment.entries.filter fun (name, _) => isName name
  let own : List (String × Variable) :=
    [("IFS", { value := some " \t\n" }), ("OPTIND", { value := some "1" }),
      ("PATH", { value := some standardPath }), ("PPID", { value := some "1" }),
      ("PS4", { value := some "+ " }), ("PWD", { value := some (Builtin.directoryPath store) })]
  let fixed := ["IFS", "OPTIND", "PPID"]
  let found := given.filter fun (name, _) => !(name ∈ fixed)
  NameMap.ofList (own ++ found.map fun (name, value) => (name, { value, exported := true }))

def runShell (runner : Runner) (process : Process) (system : System) : Ending × System :=
  let started := { system with nextProcess := system.nextProcess + 1 }
  match Invocation.ofArguments process started with
  | .error message =>
      let name := process.arguments.head?.getD "sh"
      (.exited Eval.errorStatus,
        started.print process.descriptors 2 (name ++ ": 0: " ++ message ++ "\n"))
  | .ok (invocation, ready) =>
      let state : State :=
        { name := invocation.name, arguments := invocation.arguments
          values := initialVariables process ready.store, settings := invocation.settings
          process := system.nextProcess, descriptors := process.descriptors, system := ready }
      let action := Eval.untilEnd runner (Eval.runText runner invocation.text)
      match action.run.run state with
      | (.error (.killed signal), after) => (.signaled signal, after.system)
      | (.error (.replaced ending), after) => (ending, after.system)
      | (_, after) => (.exited (after.status % 256), after.system)

/-! ## Changed environments -/

/-- The environment and the command that the arguments of `env` ask for. -/
def readChanges (environment : NameMap String) : List String → NameMap String × List String
  | "-i" :: rest | "-" :: rest => readChanges NameMap.empty rest
  | "-u" :: name :: rest => readChanges (environment.erase name) rest
  | "--" :: rest => (environment, rest)
  | word :: rest =>
      if word.toList.contains '=' then
        let name := String.ofList (word.toList.takeWhile (· ≠ '='))
        let value := String.ofList ((word.toList.dropWhile (· ≠ '=')).drop 1)
        readChanges (environment.insert name value) rest
      else (environment, word :: rest)
  | [] => (environment, [])

def splitArgument : List String → List String
  | name :: "-S" :: text :: rest => name :: words text ++ rest
  | name :: option :: rest =>
      match option.toList with
      | '-' :: 'S' :: text => name :: words (String.ofList text) ++ rest
      | _ => name :: option :: rest
  | arguments => arguments
where
  words (text : String) : List String :=
    ((text.toList.splitOn ' ').filter (· ≠ [])).map String.ofList

def runChanged (launch : String → Process → System → Ending × System) (process : Process)
    (system : System) : Ending × System :=
  let (environment, command) := readChanges process.environment
    ((splitArgument process.arguments).drop 1)
  match command with
  | [] =>
      let (code, after) :=
        (Utility.printVariables { process with arguments := ["env"], environment }).run system
      (.exited code, after)
  | program :: _ =>
      match Image.find system.store environment program command with
      | .ok image => launch image.program { process with arguments := image.arguments, environment }
          system
      | .error error =>
          let missing := error = .noSuchFile
          let complaint := do
            Utility.warn process (Utility.quote program ++ ": " ++ error.message)
            if missing && program.toList.contains ' ' then
              Utility.warn process "use -[v]S to pass options in shebang lines"
          (.exited (if missing then 127 else 126), (complaint.run system).2)

/-! ## All programs -/

def shellNames : List String := ["sh", "dash", "bash"]

def runNamed (runner : Runner) (name : String) (process : Process) (system : System) :
    Ending × System :=
  if name ∈ shellNames then runShell runner process system
  else if name = "env" then runChanged runner.launch process system
  else
    let (code, after) := (Utility.run name process).run system
    (.exited code, after)

/-- The runner of commands and programs that are nested up to `depth` times. -/
def runnerUpTo : Nat → Runner
  | 0 =>
      { evaluate := fun _ _ => throw .exit
        launch := fun _ _ system => (.exited Eval.errorStatus, system) }
  | depth + 1 =>
      { evaluate := fun position command => do
          Eval.step (runnerUpTo depth) position command
          Eval.attend (runnerUpTo depth)
        launch := fun name process system => runNamed (runnerUpTo depth) name process system }

def maxDepth : Nat := 10000

def runSystemProgram (name : String) (process : Process) (system : System) : Ending × System :=
  runNamed (runnerUpTo maxDepth) name process system

end VerifiedBuild.Shell
