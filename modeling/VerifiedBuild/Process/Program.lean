import VerifiedBuild.Process.Image
import VerifiedBuild.Process.Runner
/-!
# Programs in shell scripts

A program that a command names is found and run; what ended it becomes the status of the command.
-/

namespace VerifiedBuild.Shell.Eval

def executionFailure (name : String) (error : FileError) : String × Nat :=
  if Store.isMissing error then (name ++ ": not found", 127)
  else
    (name ++ ": " ++ error.message, if error matches .nameTooLong | .tooManyLinks then 127 else 126)

/-- Execute the first of the paths that can be; the reason for the last that could not, other than
that it is missing, is reported. -/
def executeFirst (store : Store) (arguments : List String) (reason : FileError) :
    List String → Except FileError Image
  | [] => .error reason
  | path :: rest =>
      match Image.execute store path arguments with
      | .ok image => .ok image
      | .error error =>
          executeFirst store arguments (if Store.isMissing error then reason else error) rest

def mayBeProgram (store : Store) (path : String) : Bool :=
  match store.stat (widened path) with
  | .ok .directory | .ok (.device _) | .error _ => false
  | .ok _ => true

def findProgram (state : State) (arguments : List String) : Except FileError Image :=
  let store := state.system.store
  let name := arguments.head?.getD ""
  if name.toList.contains '/' then executeFirst store arguments .noSuchFile [name]
  else
    let paths := Image.candidates ((state.value? "PATH").getD standardPath) name
    executeFirst store arguments .noSuchFile (paths.dropWhile (!mayBeProgram store ·))

/-- Run a program in the place of a command or, if it `replaces` that, of the shell itself. -/
def runProgram (runner : Runner) (replaces : Bool) (arguments : List String) : Eval Unit := do
  let state ← get
  match findProgram state arguments with
  | .error error =>
      let (message, status) := executionFailure (arguments.head?.getD "") error
      warn message
      setStatus status
      if replaces then throw .exit
  | .ok image =>
      let process : Process :=
        { arguments := image.arguments, environment := state.environment
          descriptors := state.descriptors }
      let (ending, system) := runner.launch image.program process state.system
      let store := { system.store with workingDirectory := state.system.store.workingDirectory }
      set { state with system := { system with store } }
      if replaces then throw (.replaced ending) else setStatus (← statusOf ending)

end VerifiedBuild.Shell.Eval
