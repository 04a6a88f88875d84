import VerifiedBuild.Process.Arithmetic
import VerifiedBuild.Process.State
/-!
# Arguments of built-in commands

A built-in command has a status as its result, or a message about what is wrong with its arguments.
-/

namespace VerifiedBuild.Shell

abbrev Reply := Except String Nat

namespace Builtin

open Eval

def done : Eval Reply := return .ok 0

def fail (message : String) : Eval Reply := return .error message

/-! ## Arguments -/

def count? (text : String) : Option Nat :=
  match Arithmetic.decimal? text with
  | some value => if 0 ≤ value ∧ value ≤ 2147483647 then some value.toNat else none
  | none => none

def illegalNumber (text : String) : Eval Reply := fail ("Illegal number: " ++ text)

def withCount (default : Nat) (arguments : List String) (action : Nat → Eval Reply) : Eval Reply :=
  match arguments with
  | [] => action default
  | text :: _ => match count? text with
    | some count => action count
    | none => illegalNumber text

def splitOptions (allowed : List Char) : List String → Except Char (List Char × List String)
  | [] => .ok ([], [])
  | "--" :: rest => .ok ([], rest)
  | word :: rest =>
      match word.toList with
      | '-' :: first :: others => do
          match (first :: others).find? fun c => !(c ∈ allowed) with
          | some c => .error c
          | none =>
              let (options, operands) ← splitOptions allowed rest
              return (first :: others ++ options, operands)
      | _ => .ok ([], word :: rest)

def withOptions (allowed : List Char) (arguments : List String)
    (action : List Char → List String → Eval Reply) : Eval Reply :=
  match splitOptions allowed arguments with
  | .ok (options, operands) => action options operands
  | .error c => fail ("Illegal option -" ++ String.singleton c)

/-! ## Printing -/

/-- Print a text; a text that finds no room is an error of the command called `name`. -/
def print (name text : String) (status : Nat) : Eval Reply := do
  if ← write 1 text then return .ok status
  else
    warn (name ++ ": I/O error")
    return .ok 1

/-- A text in single quotes, so that the shell reads it back. -/
def quote (text : String) : String :=
  "'" ++ String.intercalate "'\"'\"'" ((text.toList.splitOn '\'').map String.ofList) ++ "'"

end Builtin

end VerifiedBuild.Shell
