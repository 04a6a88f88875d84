import VerifiedBuild.Process.Builtin.Argument
/-!
# Sending and catching signals

The built-in commands that send signals, say what is done about them, and wait for processes.
-/

namespace VerifiedBuild.Shell.Builtin

open Eval

def listTraps (state : State) : String :=
  String.join (state.traps.map fun (signal, action) =>
    "trap -- " ++ quote action ++ " " ++ signalName signal ++ "\n")

def setTraps (action : Option String) : List String → Eval Reply
  | [] => done
  | name :: rest => do
      match signal? 0 name with
      | none =>
          let _ ← write 2 ("trap: " ++ name ++ ": bad trap\n")
          return .ok 1
      | some signal =>
          modify fun state =>
            let others := state.traps.filter (·.1 ≠ signal)
            { state with
              traps := match action with
                | some text => (others ++ [(signal, text)]).mergeSort fun a b => decide (a.1 ≤ b.1)
                | none => others }
          setTraps action rest

def trap (arguments : List String) : Eval Reply :=
  match arguments with
  | "--" :: rest => choose rest
  | rest => choose rest
where
  choose (arguments : List String) : Eval Reply := do
    match arguments with
    | [] => print "trap" (listTraps (← get)) 0
    | [single] => setTraps none [single]
    | first :: rest =>
        if (Text.natural? first.toList).isSome then setTraps none arguments
        else if first = "-" then setTraps none rest
        else setTraps (some first) rest

def sendSignal (signal process : Nat) : Eval Bool := do
  let state ← get
  if process = state.process then
    match (state.outerTraps.getD state.traps).find? (·.1 = signal) with
    | some (_, action) =>
        if signal = 9 ∨ signal = 19 then throw (.killed signal)
        else if action ≠ "" then set { state with pending := state.pending ++ [signal] }
        return true
    | none => if isHarmless signal then return true else throw (.killed signal)
  else if state.jobs.any (·.1 = process) then return true
  else
    warn "No such process\n"
    return false

def killUsage : String :=
  "Usage: kill [-s sigspec | -signum | -sigspec] [pid | job]... or\nkill -l [exitstatus]"

def sendSignals (signal : Nat) (status : Nat) : List String → Eval Reply
  | [] => return .ok status
  | text :: rest => do
      match count? text with
      | none => illegalNumber text
      | some process =>
          let sent ← sendSignal signal process
          sendSignals signal (if sent then status else 1) rest

def listSignals (arguments : List String) : Eval Reply :=
  match arguments with
  | [] =>
      let names := (List.range lastSignal).map fun index => signalName (index + 1) ++ "\n"
      print "kill" ("0\n" ++ String.join names) 0
  | text :: _ => match count? text with
    | none => illegalNumber text
    | some number =>
        let signal := if number > 128 then number - 128 else number
        if signal = 0 ∨ lastSignal < signal then
          fail ("invalid signal number or exit status: " ++ text)
        else print "kill" (signalName signal ++ "\n") 0

def usualSignal : Nat := 15

def kill (arguments : List String) : Eval Reply :=
  let send := fun signal (processes : List String) =>
    if processes = [] then fail killUsage else sendSignals signal 0 processes
  match arguments with
  | [] => fail killUsage
  | first :: rest =>
      match first.toList with
      | '-' :: name =>
          match signal? 1 (String.ofList name), name, rest with
          | some signal, _, _ => send signal rest
          | none, ['-'], _ => send usualSignal rest
          | none, ['l'], _ => listSignals rest
          | none, ['s'], name :: processes => match signal? 1 name with
            | some signal => send signal processes
            | none => fail ("invalid signal number or name: " ++ name)
          | none, ['s'], [] => fail "No arg for -s option"
          | none, 's' :: name, _ => match signal? 1 (String.ofList name) with
            | some signal => send signal rest
            | none => fail ("invalid signal number or name: " ++ String.ofList name)
          | none, c :: _, _ => fail ("Illegal option -" ++ String.singleton c)
          | none, [], _ => fail killUsage
      | _ => send usualSignal arguments

def wait (arguments : List String) : Eval Reply := do
  match arguments.getLast? with
  | none => done
  | some text => match count? text with
    | none => illegalNumber text
    | some process =>
        match (← get).jobs.find? (·.1 = process) with
        | some (_, status) => return .ok status
        | none => return .ok 127

end VerifiedBuild.Shell.Builtin
