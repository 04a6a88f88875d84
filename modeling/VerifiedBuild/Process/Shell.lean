import VerifiedBuild.Process.Builtin
import VerifiedBuild.Process.Program
import VerifiedBuild.Process.Redirection
/-!
# Running shell scripts

What commands do. A simple command calls a function, does what is built in, or runs a program; all
other commands are made of commands.
-/

namespace VerifiedBuild.Shell.Eval

/-! ## Functions and built-in commands -/

def maxCalls : Nat := 1000

def callFunction (runner : Runner) (tested : Bool) (body : Command) (arguments : List String) :
    Eval Unit := do
  let outer ← get
  if maxCalls ≤ outer.locals.length then
    raise ("Maximum function recursion depth (" ++ toString maxCalls ++ ") reached")
  set { outer with arguments, loops := 0, locals := [] :: outer.locals }
  let leave : Eval Unit := modify fun state =>
    let owned := (state.locals.head?).getD []
    { state with
      arguments := outer.arguments, loops := outer.loops, locals := outer.locals
      values := owned.foldl (fun values (name, before) => match before with
        | some found => values.insert name found
        | none => values.erase name) state.values }
  tryFinally (tryCatch (runner.evaluate { tested } body) fun departure => match departure with
    | .return => return
    | departure => throw departure) leave

def findScript (state : State) (name : String) : Except String (String × String) :=
  let store := state.system.store
  let text := fun path => ((store.content? (widened path)).map Octets.narrow).getD ""
  if name.toList.contains '/' then
    match store.stat (widened name) with
    | .ok _ => .ok (name, text name)
    | .error error => .error (Redirection.openingMessage .read name error)
  else
    let paths := Image.candidates ((state.value? "PATH").getD standardPath) name
    match paths.find? fun path => (store.content? (widened path)).isSome with
    | some path => .ok (path, text path)
    | none => .error (name ++ ": not found")

def source (runner : Runner) (arguments : List String) : Eval Reply := do
  match arguments.filter (· ≠ "--") with
  | [] => Builtin.done
  | name :: _ =>
      match findScript (← get) name with
      | .error message => Builtin.fail message
      | .ok (path, text) =>
          let builtin := (← get).builtin
          modify ({ · with builtin := some path })
          tryCatch (runText runner text) fun departure => match departure with
            | .return => return
            | departure => throw departure
          modify ({ · with builtin })
          return .ok (← get).status

def keywordText (name : String) : String :=
  name ++ " is a shell keyword\n"

/-- What a name stands for as a command, in few words or many. -/
def describe (state : State) (name : String) (long : Bool) : Option String :=
  let builtin := (Builtin.find? name).isSome || name ∈ [".", "eval", "exec", "command", "type"]
  if name ∈ keywords then some (if long then keywordText name else name ++ "\n")
  else if state.functions.contains name then
    some (if long then name ++ " is a shell function\n" else name ++ "\n")
  else if builtin then
    some (if !long then name ++ "\n"
      else if name ∈ specialBuiltins then name ++ " is a special shell builtin\n"
      else name ++ " is a shell builtin\n")
  else
    let paths := if name.toList.contains '/' then [name]
      else Image.candidates ((state.value? "PATH").getD standardPath) name
    (paths.find? (mayBeProgram state.system.store)).map fun path =>
      if long then name ++ " is " ++ path ++ "\n" else path ++ "\n"

def describeAll (long : Bool) (names : List String) : Eval Reply := do
  let mut status := 0
  for name in names do
    match describe (← get) name long with
    | some text => let _ ← write 1 text
    | none =>
        status := 127
        if long then
          let _ ← write 1 (name ++ ": not found\n")
  return .ok status

def findBuiltin? (runner : Runner) (tested : Bool) (name : String) :
    Option (List String → Eval Reply) :=
  match name with
  | "eval" => some fun arguments => do
      let text := String.intercalate " " arguments
      let evaluate := fun position : Position =>
        runner.evaluate { position with tested := position.tested || tested }
      runText { runner with evaluate } text
      return .ok (← get).status
  | "." => some (source runner)
  | "type" => some (describeAll true)
  | _ => Builtin.find? name

/-- Carry out a built-in command. An error in a special one ends the shell. -/
def runBuiltin (name : String) (special : Bool) (action : Eval Reply) : Eval Unit := do
  let builtin := (← get).builtin
  modify ({ · with builtin := some name })
  tryFinally (do
      match ← action with
      | .ok status => setStatus status
      | .error message =>
          warn message
          setStatus errorStatus
          if special then throw .exit)
    (modify ({ · with builtin }))

/-! ## Simple commands -/

/-- The fields of the words of a command. Words that look like assignments stay whole after a
command that takes such. -/
def commandFields (output : Command → Eval String) (words : List Word) : Eval (List String) := do
  match words with
  | [] => return []
  | first :: rest =>
      let names ← Expansion.fieldsOf output first
      let assigns := names.head?.any fun name => name ∈ ["export", "readonly", "local", "alias"]
      rest.foldlM (fun fields word => do
        if assigns && (Word.assignment? word).isSome then
          return fields ++ [← Expansion.textOf output word]
        else return fields ++ (← Expansion.fieldsOf output word)) names

/-- The command that is left after `command`, and whether it was there. Options that ask what a
command is stay. -/
def stripCommand : List String → List String × Bool
  | "command" :: rest =>
      match rest with
      | "-p" :: rest | "--" :: rest => (stripCommand rest |>.1, true)
      | first :: others =>
          if first.toList.head? = some '-' then ("command" :: first :: others, false)
          else (stripCommand (first :: others) |>.1, true)
      | [] => ([], true)
  | fields => (fields, false)

def trace (descriptors : Descriptors) (assignments : List (String × String))
    (fields : List String) : Eval Unit := do
  let state ← get
  if state.settings.showsCommands then
    let words := assignments.map (fun (name, value) => name ++ "=" ++ value) ++ fields
    let text := "+ " ++ String.intercalate " " words ++ "\n"
    set { state with system := state.system.print descriptors 2 text }

def exportAll (assignments : List (String × String)) : Eval Unit :=
  assignments.forM fun (name, value) => do
    setVariable name value
    alterVariable name ({ · with exported := true })

def perform (runner : Runner) (position : Position) (plain : Bool)
    (assignments : List (String × String)) (name : String) (arguments : List String) :
    Eval Unit := do
  let state ← get
  let names := assignments.map (·.1)
  let special := !plain && name ∈ specialBuiltins
  if special then
    if name = "exec" && arguments ≠ [] then exportAll assignments
    else assignments.forM fun (name, value) => setVariable name value
  match if plain then none else state.functions.find? name with
  | some body => restoringVariables names do
      exportAll assignments
      callFunction runner position.tested body arguments
  | none =>
      match name, findBuiltin? runner position.tested name with
      | "exec", _ =>
          match arguments with
          | [] => setStatus 0
          | arguments =>
              modify ({ · with builtin := some name })
              runProgram runner true arguments
      | "command", _ =>
          runBuiltin name false (match arguments with
            | "-v" :: names => describeAll false (names.take 1)
            | "-V" :: names => describeAll true (names.take 1)
            | option :: _ =>
                Builtin.fail ("Illegal option " ++ String.ofList (option.toList.take 2))
            | [] => Builtin.done)
      | _, some action =>
          if special then runBuiltin name true (action arguments)
          else restoringVariables names do
            exportAll assignments
            runBuiltin name false (action arguments)
      | _, none => restoringVariables names do
          exportAll assignments
          runProgram runner (position.final && state.traps.isEmpty) (name :: arguments)

def assignedValues (output : Command → Eval String) (assignments : List (String × Word)) :
    Eval (List (String × String)) :=
  assignments.mapM fun (name, word) => do return (name, ← Expansion.textOf output word)

def simple (runner : Runner) (position : Position) (line : Nat)
    (assignments : List (String × Word)) (words : List Word) (redirects : List Redirect) :
    Eval Unit := do
  modify ({ · with line, outputStatus := 0 })
  let output := outputOf runner
  let (fields, plain) := stripCommand (← commandFields output words)
  let outer := (← get).descriptors
  let restore : Eval Unit := modify ({ · with descriptors := outer })
  let special := !plain && fields.head?.any (· ∈ specialBuiltins)
  let keeps := fields = ["exec"]
  if ← Redirection.performAll output redirects then
    let body : Eval Unit := do
      match fields with
      | [] =>
          (assignments.forM fun (name, word) => do
            let value ← Expansion.textOf output word
            trace outer [(name, value)] []
            setVariable name value)
          setStatus (← get).outputStatus
      | name :: arguments =>
          let values ← assignedValues output assignments
          trace outer values fields
          perform runner position plain values name arguments
    if keeps then body else tryFinally body restore
  else
    restore
    if special then throw .exit

/-! ## All commands -/

def checkFailure (position : Position) : Eval Unit := do
  let state ← get
  if state.settings.stopsOnError ∧ !position.tested ∧ state.status ≠ 0 then throw .exit

def succeeds (runner : Runner) (command : Command) : Eval Bool := do
  runner.evaluate { tested := true } command
  return (← get).status = 0

def redirected (runner : Runner) (redirects : List Redirect) (action : Eval Unit) : Eval Unit := do
  if ← Redirection.performAll (outputOf runner) redirects then action

def chosen (output : Command → Eval String) (text : List Char) :
    List (List Word × Command) → Eval (Option Command)
  | [] => return none
  | (patterns, body) :: rest => do
      let found ← patterns.anyM fun word => do
        return (← Expansion.patternOf output word).matchesAll text
      if found then return some body else chosen output text rest

def carryOut (runner : Runner) (position : Position) : Command → Eval Unit
  | .nothing => return
  | .simple line assignments words redirects => do
      simple runner position line assignments words redirects
      checkFailure position
  | .sequence first second => do
      runner.evaluate { position with final := false } first
      runner.evaluate position second
  | .both first second => do
      if ← succeeds runner first then runner.evaluate position second
  | .either first second => do
      if !(← succeeds runner first) then runner.evaluate position second
  | .negation command => do
      let succeeded ← succeeds runner command
      setStatus (if succeeded then 1 else 0)
  | .pipeline commands => do
      pipeline runner position.tested none commands
      checkFailure position
  | .background command => background runner command
  | .subshell line command => do
      modify ({ · with line })
      setStatus (← subshell runner
        (runner.evaluate { tested := position.tested, final := true } command))
      checkFailure position
  | .redirected line (.subshell _ command) redirects => do
      modify ({ · with line })
      setStatus (← subshell runner (redirected runner redirects
        (runner.evaluate { tested := position.tested, final := true } command)))
      checkFailure position
  | .redirected line command redirects => do
      modify ({ · with line })
      let outer := (← get).descriptors
      tryFinally
        (redirected runner redirects (runner.evaluate { tested := position.tested } command))
        (modify ({ · with descriptors := outer }))
  | .branch condition consequent alternative => do
      if ← succeeds runner condition then runner.evaluate position consequent
      else if alternative matches .nothing then setStatus 0
      else runner.evaluate position alternative
  | .loop whileTrue condition body =>
      repeatWhile (do return (← succeeds runner condition) == whileTrue)
        (runner.evaluate { tested := position.tested } body) maxRounds 0
  | .each line name words body => do
      modify ({ · with line })
      let fields ← Expansion.allFields (outputOf runner) words
      if fields = [] then setStatus 0
      forEachWord name (runner.evaluate { tested := position.tested } body) fields
  | .choice line word cases => do
      modify ({ · with line })
      let text ← Expansion.textOf (outputOf runner) word
      match ← chosen (outputOf runner) text.toList cases with
      | some body =>
          if !(body matches .nothing) then runner.evaluate position body else setStatus 0
      | none => setStatus 0
  | .define name body => do
      modify fun state => { state with
        functions := state.functions.insert name body, status := 0 }

def step (runner : Runner) (position : Position) (command : Command) : Eval Unit := do
  if !(← get).settings.onlyReads then carryOut runner position command

end VerifiedBuild.Shell.Eval
