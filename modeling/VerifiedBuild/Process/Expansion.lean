import VerifiedBuild.Process.Arithmetic
import VerifiedBuild.Process.Pattern
import VerifiedBuild.Process.State
/-!
# Expanding words

A word stands for any number of fields. The values of its parameters, the outputs of its commands
and its sums are put in; what came in unquoted is cut into fields, and fields that are patterns
stand for the files that they match.
-/

namespace VerifiedBuild.Shell

/-- A piece of an expanded word: a character, which may be quoted and may separate fields; a
boundary between fields; or a mark for a field that is there even if it is empty. -/
inductive Grain where
  | char (c : Char) (quoted splits : Bool)
  | gap
  | mark
deriving DecidableEq, Repr, Inhabited

namespace Grain

def ofText (text : String) (quoted splits : Bool) : List Grain :=
  let chars := text.toList.map fun c => .char c quoted (splits && !quoted)
  if quoted then .mark :: chars else chars

def chars (grains : List Grain) : List (Char × Bool) :=
  grains.filterMap fun
    | .char c quoted _ => some (c, quoted)
    | .gap => some (' ', true)
    | .mark => none

def text (grains : List Grain) : String :=
  String.ofList ((chars grains).map (·.1))

/-! ## Fields -/

/-- Fields that are being cut: those complete, the one begun, and whether blanks ended the last. -/
structure Cutting where
  complete : List (List (Char × Bool)) := []
  begun : Option (List (Char × Bool)) := none
  afterBlank : Bool := false

namespace Cutting

def close (cutting : Cutting) : Cutting :=
  match cutting.begun with
  | some field => { complete := cutting.complete ++ [field] }
  | none => cutting

def extend (cutting : Cutting) (c : Char × Bool) : Cutting :=
  { cutting with begun := some (cutting.begun.getD [] ++ [c]), afterBlank := false }

/-- Cut at a separator. Blanks around another separator count with it. -/
def separate (cutting : Cutting) (c : Char) : Cutting :=
  let isBlank := c = ' ' || c = '\t' || c = '\n'
  match cutting.begun with
  | some _ => { cutting.close with afterBlank := isBlank }
  | none =>
      if isBlank then cutting
      else if cutting.afterBlank then { cutting with afterBlank := false }
      else { cutting with complete := cutting.complete ++ [[]] }

end Cutting

def fields (separators : List Char) (grains : List Grain) : List (List (Char × Bool)) :=
  let cutting := grains.foldl (fun (cutting : Cutting) grain => match grain with
    | .char c quoted splits =>
        if splits && separators.contains c then cutting.separate c else cutting.extend (c, quoted)
    | .gap => cutting.close
    | .mark => { cutting with begun := some (cutting.begun.getD []), afterBlank := false }) {}
  cutting.close.complete

end Grain

/-! ## Files that match -/

namespace Matching

/-- The names that a pattern stands for in a directory; hidden ones only if it starts with a dot. -/
def namesIn (store : Store) (directory : String) (pattern : Pattern) : List String :=
  match store.find (widened (if directory = "" then "." else directory)) with
  | .ok (place, .directory) =>
      let hides := pattern.head? ≠ some (.literal '.')
      ((store.children place).map narrowed).filter fun name =>
        !(hides && name.toList.head? = some '.') && pattern.matchesAll name.toList
  | _ => []

/-- The paths that components stand for, after the path so far. -/
def paths (store : Store) (before : String) : List (List (Char × Bool)) → List String
  | [] => []
  | component :: rest =>
      let pattern := Pattern.ofChars component
      let names := if pattern.isProper then namesIn store before pattern
        else [String.ofList (component.map (·.1))]
      if rest = [] then
        (names.map (before ++ ·)).filter fun path => (store.find (widened path)).isOk
      else names.flatMap fun name =>
        if !pattern.isProper ∨ store.isDirectory (widened (before ++ name)) then
          paths store (before ++ name ++ "/") rest
        else []

/-- The paths that a field stands for: itself if it is no pattern or matches nothing. -/
def ofField (store : Store) (field : List (Char × Bool)) : List String :=
  let literal := String.ofList (field.map (·.1))
  if !(Pattern.ofChars field).isProper then [literal]
  else
    let components := (field.splitOnP (·.1 = '/'))
    match paths store "" components with
    | [] => [literal]
    | found => found

end Matching

/-! ## Parameters -/

namespace State

def separators (state : State) : List Char :=
  match state.values.find? "IFS" with
  | some { value := some text, .. } => text.toList
  | _ => [' ', '\t', '\n']

def settingLetters (state : State) : String :=
  let letter := fun (on : Bool) (c : Char) => if on then [c] else []
  String.ofList (letter state.settings.demandsValues 'u' ++
    letter state.settings.showsCommands 'x' ++ letter state.settings.onlyReads 'n' ++
    letter state.settings.keepsPatterns 'f' ++ letter state.settings.stopsOnError 'e')

def parameter? (state : State) (name : String) : Option String :=
  match name with
  | "#" => some (toString state.arguments.length)
  | "?" => some (toString state.status)
  | "$" => some (toString state.process)
  | "!" => state.jobs.head?.map fun job => toString job.1
  | "-" => some state.settingLetters
  | "0" => some state.name
  | _ => match Text.natural? name.toList with
    | some 0 => some state.name
    | some (position + 1) => state.arguments[position]?
    | none => state.value? name

end State

namespace Expansion

open Eval

def argumentGrains (state : State) (name : String) (quoted : Bool) : List Grain :=
  if name = "*" ∧ quoted then
    let joint := match state.separators with
      | [] => ""
      | first :: _ => String.singleton first
    Grain.ofText (String.intercalate joint state.arguments) true false
  else List.intercalate [.gap] (state.arguments.map fun text => Grain.ofText text quoted true)

def parameterGrains? (state : State) (name : String) (quoted : Bool) : Option (List Grain) :=
  if name = "@" ∨ name = "*" then
    if state.arguments = [] then none else some (argumentGrains state name quoted)
  else (state.parameter? name).map fun text => Grain.ofText text quoted true

def absent (state : State) (name : String) (quoted : Bool) : Eval (List Grain) :=
  if name = "@" ∨ name = "*" then return []
  else if state.settings.demandsValues then raise (name ++ ": parameter not set")
  else return Grain.ofText "" quoted true

/-- A parameter with an operation on its value; `word` is what belongs to the operation. -/
def operate (name : String) (operation : Operation) (orEmpty quoted : Bool)
    (word : Eval (List Grain)) (hasWord : Bool) : Eval (List Grain) := do
  let state ← get
  let value := parameterGrains? state name quoted
  let counts := match value with
    | some grains => !orEmpty || Grain.text grains ≠ ""
    | none => false
  match operation, value with
  | .malformed, _ => raise "Bad substitution"
  | .value, some grains => return grains
  | .value, none => absent state name quoted
  | .length, some grains =>
      let size := if name = "@" ∨ name = "*" then state.arguments.length
        else (Grain.text grains).length
      return Grain.ofText (toString size) quoted true
  | .length, none => do
      let _ ← absent state name quoted
      return Grain.ofText "0" quoted true
  | .orElse, some grains => if counts then return grains else word
  | .orElse, none => word
  | .ifSet, _ => if counts then word else return Grain.ofText "" quoted true
  | .assign, value =>
      match value, counts with
      | some grains, true => return grains
      | _, _ =>
          if !isName name then raise "Bad substitution"
          let text := Grain.text (← word)
          setVariable name text
          return Grain.ofText text quoted true
  | .demand, value =>
      match value, counts with
      | some grains, true => return grains
      | _, _ =>
          let text := Grain.text (← word)
          if hasWord then raise (name ++ ": " ++ text)
          else raise (name ++ ": parameter not set" ++ if orEmpty then " or null" else "")
  | .trimStart longest, some grains => do
      let pattern := Pattern.ofChars (Grain.chars (← word))
      let text := pattern.trimStart longest (Grain.text grains).toList
      return Grain.ofText (String.ofList text) quoted true
  | .trimEnd longest, some grains => do
      let pattern := Pattern.ofChars (Grain.chars (← word))
      let text := pattern.trimEnd longest (Grain.text grains).toList
      return Grain.ofText (String.ofList text) quoted true
  | .trimStart _, none | .trimEnd _, none => absent state name quoted

def sumText (expression : String) : Eval String := do
  let state ← get
  let lookup := fun name => (state.parameter? name).getD ""
  let result := do
    let parsed ← Arithmetic.parse expression
    Arithmetic.evaluate lookup parsed []
  match result with
  | .error failure => raise (failure.message expression)
  | .ok (value, bindings) =>
      bindings.reverse.forM fun (name, value) => setVariable name (toString value)
      return toString value

mutual

/-- The pieces of a part of a word. Unquoted text in it separates fields if `splits` holds; commands
in it are run by `output`. -/
def partGrains (output : Command → Eval String) (splits : Bool) : Part → Eval (List Grain)
  | .text text quoted => return Grain.ofText text quoted splits
  | .parameter name operation orEmpty word quoted =>
      operate name operation orEmpty quoted (grains output true word) (!word.isEmpty)
  | .output command quoted => do
      return Grain.ofText (← output command) quoted true
  | .sum expression quoted => do
      let text := Grain.text (← grains output false expression)
      return Grain.ofText (← sumText text) quoted true

def grains (output : Command → Eval String) (splits : Bool) : List Part → Eval (List Grain)
  | [] => return []
  | part :: rest => do
      let first ← partGrains output splits part
      return first ++ (← grains output splits rest)

end

/-- A word with the home directory in place of a tilde that it starts with. -/
def replaceTilde (state : State) (word : Word) : Word :=
  match word with
  | .text text false :: rest =>
      match text.toList, state.value? "HOME" with
      | '~' :: following, some home =>
          if following.head? = some '/' ∨ following = [] ∧ rest.isEmpty then
            .text home true :: .text (String.ofList following) false :: rest
          else word
      | _, _ => word
  | _ => word

def textOf (output : Command → Eval String) (word : Word) : Eval String := do
  return Grain.text (← grains output false (replaceTilde (← get) word))

def patternOf (output : Command → Eval String) (word : Word) : Eval Pattern := do
  return Pattern.ofChars (Grain.chars (← grains output false (replaceTilde (← get) word)))

def fieldsOf (output : Command → Eval String) (word : Word) : Eval (List String) := do
  let expanded ← grains output false (replaceTilde (← get) word)
  let state ← get
  let fields := Grain.fields state.separators expanded
  if state.settings.keepsPatterns then
    return fields.map fun field => String.ofList (field.map (·.1))
  else return fields.flatMap (Matching.ofField state.system.store)

def allFields (output : Command → Eval String) (words : List Word) : Eval (List String) :=
  words.foldlM (fun fields word => do return fields ++ (← fieldsOf output word)) []

end Expansion

end VerifiedBuild.Shell
