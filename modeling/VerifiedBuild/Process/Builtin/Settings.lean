import VerifiedBuild.Process.Builtin.Argument
/-!
# Changing the shell

The built-in commands that change the settings of the shell, its arguments and its variables.
-/

namespace VerifiedBuild.Shell.Builtin

open Eval

/-! ## Arguments and settings -/

def shift (arguments : List String) : Eval Reply :=
  withCount 1 arguments fun count => do
    let state ← get
    if state.arguments.length < count then fail "can't shift that many"
    else
      set { state with arguments := state.arguments.drop count }
      done

def changeSetting (settings : Settings) (on : Bool) : Char → Option Settings
  | 'e' => some { settings with stopsOnError := on }
  | 'u' => some { settings with demandsValues := on }
  | 'x' => some { settings with showsCommands := on }
  | 'f' => some { settings with keepsPatterns := on }
  | 'n' => some { settings with onlyReads := on }
  | c => if c ∈ ['a', 'b', 'C', 'E', 'I', 'i', 'm', 'v', 'V'] then some settings else none

def settingNames : List (String × Char) :=
  [("errexit", 'e'), ("noglob", 'f'), ("noexec", 'n'), ("xtrace", 'x'), ("nounset", 'u'),
    ("verbose", 'v'), ("allexport", 'a'), ("noclobber", 'C'), ("notify", 'b'), ("monitor", 'm')]

/-- What the words after `set` or the name of a shell ask for: settings, and the words that are
left. Single letters that are no settings are given to `other`. -/
def readSettings (other : Char → Bool) (settings : Settings) (letters : List Char) :
    List String → Except String (Settings × List Char × List String × Bool)
  | [] => .ok (settings, letters, [], false)
  | word :: rest =>
      match word.toList with
      | ['-', '-'] => .ok (settings, letters, rest, true)
      | ['-'] => .ok ({ settings with showsCommands := false }, letters, rest, true)
      | [sign, 'o'] =>
          if sign = '-' ∨ sign = '+' then
            match rest with
            | name :: rest =>
                match settingNames.find? (·.1 = name) with
                | some (_, letter) =>
                    let changed := (changeSetting settings (sign = '-') letter).getD settings
                    readSettings other changed letters rest
                | none => .error ("Illegal option -o " ++ name)
            | [] => .ok (settings, letters, [], false)
          else .ok (settings, letters, word :: rest, false)
      | sign :: first :: others =>
          if sign = '-' ∨ sign = '+' then do
            let (changed, found) ← (first :: others).foldlM (fun (settings, found) c =>
              if other c then .ok (settings, found ++ [c])
              else match changeSetting settings (sign = '-') c with
                | some changed => .ok (changed, found)
                | none => .error ("Illegal option " ++ String.ofList [sign, c])) (settings, letters)
            readSettings other changed found rest
          else .ok (settings, letters, word :: rest, false)
      | _ => .ok (settings, letters, word :: rest, false)

def listVariables (start : String) (state : State) (shown : Variable → Bool) : String :=
  String.join (state.values.entries.filterMap fun (name, found) =>
    if !shown found then none
    else match found.value with
      | some value => some (start ++ name ++ "=" ++ quote value ++ "\n")
      | none => if start = "" then none else some (start ++ name ++ "\n"))

def change (arguments : List String) : Eval Reply := do
  let state ← get
  if arguments = [] then print "set" (listVariables "" state fun _ => true) 0
  else match readSettings (fun _ => false) state.settings [] arguments with
    | .error message => fail message
    | .ok (settings, _, words, replaces) =>
        let replaced := if replaces ∧ arguments.head? ≠ some "-" ∨ words ≠ [] then words
          else state.arguments
        set { state with settings, arguments := replaced }
        done

/-! ## Variables -/

def mark (name : String) (change : Variable → Variable) (shown : Variable → Bool)
    (arguments : List String) : Eval Reply :=
  withOptions ['p'] arguments fun options operands => do
    if options ≠ [] ∨ operands = [] then
      print name (listVariables (name ++ " ") (← get) shown) 0
    else
      let bad := operands.find? fun operand =>
        !isName (String.ofList (operand.toList.takeWhile (· ≠ '=')))
      match bad with
      | some operand =>
          fail (String.ofList (operand.toList.takeWhile (· ≠ '=')) ++ ": bad variable name")
      | none =>
          operands.forM fun operand => match splitAssignment? operand with
            | some (name, value) => do
                setVariable name value
                alterVariable name change
            | none => alterVariable operand change
          done

def unset (arguments : List String) : Eval Reply :=
  withOptions ['f', 'v'] arguments fun options operands => do
    let state ← get
    if options.contains 'f' then
      set { state with functions := operands.foldl NameMap.erase state.functions }
      done
    else match operands.find? fun name => (state.values.find? name).any (·.readOnly) with
      | some name => fail (name ++ ": is read only")
      | none =>
          set { state with values := operands.foldl NameMap.erase state.values }
          done

/-- Make variables the own ones of the function that is called. -/
def makeLocal (arguments : List String) : Eval Reply := do
  let state ← get
  match state.locals with
  | [] => fail "not in a function"
  | frame :: frames =>
      let names := arguments.map fun word => String.ofList (word.toList.takeWhile (· ≠ '='))
      set { state with
        locals := (names.map (fun name => (name, state.values.find? name)) ++ frame) :: frames }
      arguments.forM fun word => match splitAssignment? word with
        | some (name, value) => setVariable name value
        | none => pure ()
      done

end VerifiedBuild.Shell.Builtin
