import VerifiedBuild.Process.Builtin.Input
import VerifiedBuild.Process.Builtin.Settings
import VerifiedBuild.Process.Builtin.Signal
import VerifiedBuild.Process.Condition
import VerifiedBuild.Process.Format
/-!
# Built-in commands

The commands that the shell carries out itself, as far as they need no other commands, by name.
-/

namespace VerifiedBuild.Shell.Builtin

open Eval

/-! ## Printing and deciding -/

def printFormatted (arguments : List String) : Eval Reply :=
  withOptions [] arguments fun _ operands => do
    match operands with
    | [] => fail "usage: printf format [arg ...]"
    | format :: arguments =>
        let printed := Format.print format arguments
        printed.warnings.forM warn
        let status := if printed.warnings = [] then 0 else 1
        let reply ← print "printf" (String.ofList printed.text) status
        match printed.failure with
        | some message => fail message
        | none => return reply

def decideCondition (bracketed : Bool) (arguments : List String) : Eval Reply := do
  return (Condition.ofArguments (← get).system bracketed arguments).map fun value =>
    if value then 0 else 1

/-! ## Leaving -/

def leave (departure : Nat → Departure) (arguments : List String) : Eval Reply :=
  withCount 1 arguments fun count => do
    let loops := (← get).loops
    if count = 0 then illegalNumber "0"
    else if loops = 0 then done
    else
      setStatus 0
      throw (departure (min count loops))

def depart (departure : Departure) (arguments : List String) : Eval Reply := do
  let state ← get
  withCount (state.statusBefore.getD state.status) arguments fun status => do
    setStatus status
    throw departure

/-! ## Directories -/

def directoryPath (store : Store) : String :=
  "/" ++ String.intercalate "/" (store.workingDirectory.map narrowed)

def changeDirectory (arguments : List String) : Eval Reply :=
  withOptions ['L', 'P'] arguments fun _ operands => do
    let state ← get
    let before := directoryPath state.system.store
    let target := match operands.head? with
      | some "-" => (state.value? "OLDPWD").getD before
      | some path => path
      | none => (state.value? "HOME").getD ""
    match state.system.find target with
    | .ok (place, .directory) =>
        let store := { state.system.store with workingDirectory := place }
        set { state with system := { state.system with store } }
        setVariable "OLDPWD" before
        setVariable "PWD" (directoryPath store)
        if operands.head? = some "-" then print "cd" (directoryPath store ++ "\n") 0 else done
    | _ => fail ("can't cd to " ++ target)

/-! ## All of them -/

def idle : List String :=
  ["alias", "bg", "fg", "hash", "jobs", "times", "ulimit", "umask", "unalias"]

def find? (name : String) : Option (List String → Eval Reply) :=
  match name with
  | ":" | "true" => some fun _ => done
  | "false" => some fun _ => return .ok 1
  | "echo" => some fun arguments => print name (Format.echo arguments) 0
  | "printf" => some printFormatted
  | "test" => some (decideCondition false)
  | "[" => some (decideCondition true)
  | "break" => some (leave .leaveLoops)
  | "continue" => some (leave .nextRound)
  | "exit" => some (depart .exit)
  | "return" => some (depart .return)
  | "shift" => some shift
  | "set" => some change
  | "export" => some (mark name ({ · with exported := true }) (·.exported))
  | "readonly" => some (mark name ({ · with readOnly := true }) (·.readOnly))
  | "unset" => some unset
  | "local" => some makeLocal
  | "cd" | "chdir" => some changeDirectory
  | "pwd" => some fun _ => do print name (directoryPath (← get).system.store ++ "\n") 0
  | "read" => some read
  | "getopts" => some getOptions
  | "trap" => some trap
  | "kill" => some kill
  | "wait" => some wait
  | _ => if name ∈ idle then some fun _ => done else none

end VerifiedBuild.Shell.Builtin
