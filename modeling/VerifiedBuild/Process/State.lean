import VerifiedBuild.Process.Ending
import VerifiedBuild.Process.System
/-!
# Running shells

The state of a shell while it runs a script. What a command does is a computation that changes the
state and may leave the usual order: it can break out of loops and functions, end the shell, or be
ended with it by a signal.
-/

namespace VerifiedBuild.Shell

structure Variable where
  value : Option String := none
  exported : Bool := false
  readOnly : Bool := false
deriving Repr, Inhabited

structure Settings where
  stopsOnError : Bool := false
  demandsValues : Bool := false
  showsCommands : Bool := false
  keepsPatterns : Bool := false
  onlyReads : Bool := false
deriving Repr, Inhabited

structure State where
  name : String
  arguments : List String := []
  line : Nat := 0
  /-- The built-in command that is carried out, as messages name it. -/
  builtin : Option String := none
  values : NameMap Variable := NameMap.empty
  functions : NameMap Command := NameMap.empty
  settings : Settings := {}
  /-- What is done at the end and when a signal comes. -/
  traps : List (Nat × String) := []
  /-- In a subshell, what the shell that started it does when a signal comes. -/
  outerTraps : Option (List (Nat × String)) := none
  /-- Signals that came to the shell itself and have not been attended to. -/
  pending : List Nat := []
  status : Nat := 0
  /-- While a trap is attended to, the status from before it. -/
  statusBefore : Option Nat := none
  /-- The status of the last command whose output became part of a word. -/
  outputStatus : Nat := 0
  process : Nat := 1
  /-- The processes started in the background, the latest first, with their status. -/
  jobs : List (Nat × Nat) := []
  /-- The letter within a word at which `getopts` goes on. -/
  optionPlace : Nat := 0
  loops : Nat := 0
  /-- The variables that the functions being called have made their own, with what they were before.
  -/
  locals : List (List (String × Option Variable)) := []
  descriptors : Descriptors := []
  system : System
deriving Inhabited

inductive Departure where
  | leaveLoops (count : Nat)
  | nextRound (count : Nat)
  | return
  | exit
  /-- A signal came to the shell itself. -/
  | killed (signal : Nat)
  /-- A program took the place of the shell or of a subshell, and has ended. -/
  | replaced (ending : Ending)
deriving DecidableEq, Repr, Inhabited

abbrev Eval := ExceptT Departure (StateM State)

def State.value? (state : State) (name : String) : Option String :=
  (state.values.find? name).bind (·.value)

def State.environment (state : State) : NameMap String :=
  NameMap.ofList (state.values.entries.filterMap fun (name, found) =>
    if found.exported then found.value.map (name, ·) else none)

namespace Eval

variable {α : Type}

/-! ## Messages -/

def write (number : Nat) (text : String) : Eval Bool := do
  let state ← get
  match state.system.write state.descriptors number text with
  | .ok system =>
      set { state with system }
      return true
  | .error _ => return text = ""

def warn (message : String) : Eval Unit := do
  let state ← get
  let builtin := match state.builtin with
    | some name => name ++ ": "
    | none => ""
  let _ ← write 2 (state.name ++ ": " ++ toString state.line ++ ": " ++ builtin ++ message ++ "\n")

def setStatus (status : Nat) : Eval Unit :=
  modify ({ · with status })

def errorStatus : Nat := 2

def raise (message : String) : Eval α := do
  warn message
  setStatus errorStatus
  throw .exit

/-! ## Variables -/

def setVariable (name value : String) : Eval Unit := do
  let state ← get
  let before := (state.values.find? name).getD {}
  if before.readOnly then raise (name ++ ": is read only")
  set { state with
    values := state.values.insert name { before with value := some value } }

def alterVariable (name : String) (change : Variable → Variable) : Eval Unit :=
  modify fun state => { state with
    values := state.values.alter name fun before => change (before.getD {}) }

def restoringVariables (names : List String) (action : Eval α) : Eval α := do
  let before := (← get).values
  tryFinally action <| modify fun state => { state with
    values := names.foldl (fun values name => match before.find? name with
      | some found => values.insert name found
      | none => values.erase name) state.values }

end Eval

end VerifiedBuild.Shell
