import VerifiedBuild.Process.Builtin.Argument
import VerifiedBuild.Process.Expansion
/-!
# Reading lines and options

The built-in commands that give variables the fields of a line and the options of a script.
-/

namespace VerifiedBuild.Shell.Builtin

open Eval

/-! ## Reading -/

/-- A line, with backslashes taken as quotes unless they stand for themselves, and what follows it.
Whether the line was ended is part of the result. -/
def readLine (raw : Bool) : List Char → List (Char × Bool) × List Char × Bool
  | [] => ([], [], false)
  | '\n' :: rest => ([], rest, true)
  | '\\' :: c :: rest =>
      if raw then
        let (line, remaining, ended) := readLine raw (c :: rest)
        (('\\', false) :: line, remaining, ended)
      else
        let (line, remaining, ended) := readLine raw rest
        (if c = '\n' then line else (c, true) :: line, remaining, ended)
  | c :: rest =>
      let (line, remaining, ended) := readLine raw rest
      ((c, false) :: line, remaining, ended)

/-- The values that variables get from a line: one field each, and all the rest for the last. -/
def distribute (separators : List Char) : List String → List (Char × Bool) → List (String × String)
  | [], _ => []
  | name :: names, line =>
      let separates := fun (c : Char × Bool) => !c.2 && separators.contains c.1
      let isBlank := fun (c : Char × Bool) =>
        separates c && (c.1 = ' ' || c.1 = '\t' || c.1 = '\n')
      let line := line.dropWhile isBlank
      let text := fun (chars : List (Char × Bool)) => String.ofList (chars.map (·.1))
      let field := line.takeWhile (!separates ·)
      let rest := (line.drop field.length).dropWhile isBlank
      let rest := if (line.drop field.length).length = rest.length ∧ rest ≠ [] then rest.drop 1
        else match rest with
          | c :: following => if separates c then following else rest
          | [] => []
      if names = [] then
        let kept := (line.reverse.dropWhile isBlank).reverse
        let single := rest.dropWhile isBlank = []
        [(name, text (if single then field else kept))]
      else (name, text field) :: distribute separators names rest

def read (arguments : List String) : Eval Reply :=
  withOptions ['r'] arguments fun options names => do
    let state ← get
    if names = [] then fail "arg count"
    else match names.find? fun name => !isName name with
      | some name => fail (name ++ ": bad variable name")
      | none =>
          match state.system.read state.descriptors 0 with
          | .error _ => return .ok 1
          | .ok (text, system) =>
              let (line, remaining, ended) := readLine (options.contains 'r') text.toList
              let place := (state.descriptors.find? 0).getD 0
              set { state with system := system.unread place (String.ofList remaining) }
              (distribute state.separators names line).forM fun (name, value) =>
                setVariable name value
              return .ok (if ended then 0 else 1)

/-! ## Options of scripts -/

/-- The next option among words, by the letters that are known; a colon follows those that take a
value. The index counts words from 1, and the place counts letters within one. -/
def nextOption (known : List Char) (words : List String) (index place : Nat) :
    Option (Char × Option String × Nat × Nat) :=
  match words[index - 1]? with
  | none => none
  | some word =>
      let letters := word.toList
      if place = 0 ∧ (letters.head? ≠ some '-' ∨ letters.length < 2 ∨ word = "--") then none
      else
        let position := max place 1
        let letter := (letters[position]?).getD '-'
        let rest := letters.drop (position + 1)
        let (nextIndex, nextPlace) := if rest = [] then (index + 1, 0) else (index, position + 1)
        match known.dropWhile (· ≠ letter) with
        | _ :: ':' :: _ =>
            if rest ≠ [] then some (letter, some (String.ofList rest), index + 1, 0)
            else match words[index]? with
              | some value => some (letter, some value, index + 2, 0)
              | none => some (letter, none, index + 1, 0)
        | _ => some (letter, none, nextIndex, nextPlace)

def getOptions (arguments : List String) : Eval Reply := do
  match arguments with
  | letters :: name :: given =>
      let state ← get
      let words := if given = [] then state.arguments else given
      let index := ((state.value? "OPTIND").bind count?).getD 1
      let known := letters.toList
      let quiet := known.head? = some ':'
      match nextOption known words index state.optionPlace with
      | none =>
          setVariable name "?"
          let skipped := if words[index - 1]? = some "--" then index + 1 else index
          setVariable "OPTIND" (toString skipped)
          return .ok 1
      | some (letter, value, nextIndex, nextPlace) =>
          setVariable "OPTIND" (toString nextIndex)
          modify ({ · with optionPlace := nextPlace })
          let shown := String.singleton letter
          if letter = ':' ∨ !known.contains letter then
            setVariable name "?"
            if quiet then setVariable "OPTARG" shown
            else
              let _ ← write 2 ("Illegal option -" ++ shown ++ "\n")
          else if value.isNone ∧ (known.dropWhile (· ≠ letter))[1]? = some ':' then
            setVariable name (if quiet then ":" else "?")
            if quiet then setVariable "OPTARG" shown
            else
              let _ ← write 2 ("No arg for -" ++ shown ++ " option\n")
          else
            setVariable name shown
            match value with
            | some text => setVariable "OPTARG" text
            | none => pure ()
          done
  | _ => fail "Usage: getopts optstring var [arg...]"

end VerifiedBuild.Shell.Builtin
