import VerifiedBuild.Process.Reader
import VerifiedBuild.Process.State
/-!
# Running what is nested

Commands run other commands, and scripts run programs that may be scripts, so what does that is
given the way to run what is nested in it.
-/

namespace VerifiedBuild.Shell

/-- What holds where a command stands: another one looks at whether it fails, or nothing comes after
it in a subshell. -/
structure Position where
  tested : Bool := false
  final : Bool := false
deriving DecidableEq, Repr, Inhabited

/-- How commands and programs are run that are nested in others. -/
structure Runner where
  evaluate : Position → Command → Eval Unit
  launch : String → Process → System → Ending × System

namespace Eval

/-! ## Texts as commands -/

/-- Carry out the lines of a script from a cursor on; the answer is whether there was a command.
Each line uses up a character, so as much fuel as characters is enough. -/
def runLines (runner : Runner) : Nat → Cursor → Eval Bool
  | 0, _ => return false
  | fuel + 1, cursor =>
      match Reader.line.run cursor with
      | .error (line, error) => do
          modify ({ · with line })
          raise ("Syntax error: " ++ error.message)
      | .ok (none, _) => return false
      | .ok (some command, next) => do
          runner.evaluate {} command
          let others ← runLines runner fuel next
          return others || !(command matches .nothing)

/-- Carry out a text. Without a command in it the status is 0. -/
def runText (runner : Runner) (text : String) : Eval Unit := do
  let found ← runLines runner (text.length + 2) { rest := text.toList.filter (· ≠ '\x00') }
  if !found then setStatus 0

/-! ## Traps -/

/-- Attend to the signals that came, unless that is being done. A subshell leaves them alone. -/
def attend (runner : Runner) : Eval Unit := do
  let state ← get
  if state.pending ≠ [] ∧ state.outerTraps.isNone then
    set { state with pending := [] }
    state.pending.forM fun signal =>
      match state.traps.find? (·.1 = signal) with
      | some (_, action) => do
          let status := (← get).status
          modify ({ · with statusBefore := some status })
          runText runner action
          modify ({ · with status, statusBefore := none })
      | none => return

/-- Do something and then what is to be done at the end of the shell. -/
def untilEnd (runner : Runner) (action : Eval Unit) : Eval Unit := do
  let gone : Option Departure ← tryCatch (do action; return none) fun departure =>
    match departure with
    | .killed _ | .replaced _ => return some departure
    | _ => return none
  match gone with
  | some departure => throw departure
  | none =>
      let state ← get
      match state.traps.find? (·.1 = 0) with
      | none => return
      | some (_, text) =>
          set { state with
            traps := state.traps.filter (·.1 ≠ 0), statusBefore := some state.status }
          runText runner text
          setStatus state.status

/-! ## Subshells -/

/-- The status of a process that ended, with a message about the signal that ended it. -/
def statusOf (ending : Ending) : Eval Nat := do
  match ending with
  | .exited code => return code
  | .signaled signal =>
      if signal ≠ 2 ∧ signal ≠ 13 then
        let _ ← write 2 (signalDescription signal ++ "\n")
      return 128 + signal

/-- Do something in a copy of the shell; only the system keeps what was done, and the status is the
answer. A signal to the shell ends both. -/
def subshell (runner : Runner) (action : Eval Unit) : Eval Nat := do
  let outer ← get
  let inner := { outer with
    traps := outer.traps.filter fun trap => trap.1 ≠ 0 ∧ trap.2 = ""
    outerTraps := some (outer.outerTraps.getD outer.traps)
    jobs := [] }
  let (result, after) := (untilEnd runner action).run.run inner
  let store := { after.system.store with
    workingDirectory := outer.system.store.workingDirectory }
  set { outer with system := { after.system with store }, pending := after.pending }
  match result with
  | .error (.killed signal) => throw (.killed signal)
  | .error (.replaced ending) => statusOf ending
  | _ => return after.status

def bindEnd (number place : Nat) : Eval Unit :=
  modify fun state => { state with descriptors := state.descriptors.bind number place }

def addEnd (opened : OpenEnd) : Eval Nat := do
  let state ← get
  let (place, system) := state.system.addEnd opened
  set { state with system }
  return place

/-- What a command writes to its output, without the ends of the last lines. -/
def outputOf (runner : Runner) (command : Command) : Eval String := do
  if command matches .nothing then return ""
  let place ← addEnd (.collector "")
  let status ← subshell runner do
    bindEnd 1 place
    runner.evaluate { final := true } command
  modify ({ · with outputStatus := status })
  let text := ((← get).system.collected place).toList
  return String.ofList ((text.reverse.dropWhile (· = '\n')).reverse.filter (· ≠ '\x00'))

def pipeline (runner : Runner) (tested : Bool) (input : Option Nat) : List Command → Eval Unit
  | [] => return
  | command :: rest => do
      let place ← addEnd (.collector "")
      let status ← subshell runner do
        match input with
        | some source => bindEnd 0 source
        | none => pure ()
        if !rest.isEmpty then bindEnd 1 place
        runner.evaluate { tested, final := true } command
      if rest.isEmpty then setStatus status
      else
        let source ← addEnd (.supply ((← get).system.collected place))
        pipeline runner tested (some source) rest

/-- Run a command in the background, which is over before anything else is done. -/
def background (runner : Runner) (command : Command) : Eval Unit := do
  let place ← addEnd (.supply "")
  let state ← get
  let process := state.system.nextProcess
  set { state with system := { state.system with nextProcess := process + 1 } }
  let status ← subshell runner do
    bindEnd 0 place
    runner.evaluate { final := true } command
  modify fun state => { state with jobs := (process, status) :: state.jobs, status := 0 }

/-! ## Loops -/

/-- The most rounds of a loop, far more than scripts need. -/
def maxRounds : Nat := 10000000

/-- Do something within one more loop. The answer is whether the loop goes on. -/
def round (action : Eval Unit) : Eval Bool := do
  modify fun state => { state with loops := state.loops + 1 }
  let goesOn ← tryCatch (do action; return true) fun departure => do
    modify fun state => { state with loops := state.loops - 1 }
    match departure with
    | .leaveLoops (count + 2) => throw (.leaveLoops (count + 1))
    | .nextRound (count + 2) => throw (.nextRound (count + 1))
    | .leaveLoops _ =>
        modify fun state => { state with loops := state.loops + 1 }
        return false
    | .nextRound _ =>
        modify fun state => { state with loops := state.loops + 1 }
        return true
    | departure => throw departure
  modify fun state => { state with loops := state.loops - 1 }
  return goesOn

/-- A loop; `status` is that of the last round of its body. -/
def repeatWhile (condition : Eval Bool) (body : Eval Unit) : Nat → Nat → Eval Unit
  | 0, status => setStatus status
  | rounds + 1, status => do
      if ← round (do if !(← condition) then throw (.leaveLoops 1)) then
        if ← round body then repeatWhile condition body rounds (← get).status else return
      else setStatus status

def forEachWord (name : String) (body : Eval Unit) : List String → Eval Unit
  | [] => return
  | word :: rest => do
      setVariable name word
      if ← round body then forEachWord name body rest else return

end Eval

end VerifiedBuild.Shell
