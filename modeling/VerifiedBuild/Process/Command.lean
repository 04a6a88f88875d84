/-!
# Shell commands

What the text of a shell script means: commands made of words, and words made of parts. All texts in
them are narrow, so that each character stands for a byte.
-/

namespace VerifiedBuild.Shell

inductive Operation where
  | value
  | length
  | orElse
  | assign
  | demand
  | ifSet
  | trimStart (longest : Bool)
  | trimEnd (longest : Bool)
  | malformed
deriving DecidableEq, Repr, Inhabited

/-- How a descriptor is opened: on a file, as a copy of another one, or on a text. -/
inductive Opening where
  | read
  | write
  | append
  | readWrite
  | copy
  | document
deriving DecidableEq, Repr, Inhabited

mutual

/-- A part of a word. Quoted parts stay as they are after their parameters have been put in. -/
inductive Part where
  | text (text : String) (quoted : Bool)
  /-- The value of a parameter; with `orEmpty`, an empty value counts as none. -/
  | parameter (name : String) (operation : Operation) (orEmpty : Bool) (word : List Part)
      (quoted : Bool)
  | output (command : Command) (quoted : Bool)
  | sum (expression : List Part) (quoted : Bool)

inductive Redirect where
  | mk (descriptor : Nat) (opening : Opening) (target : List Part)

/-- A command, with the line it stands on where messages may name it. -/
inductive Command where
  | nothing
  | simple (line : Nat) (assignments : List (String × List Part)) (words : List (List Part))
      (redirects : List Redirect)
  | sequence (first second : Command)
  | both (first second : Command)
  | either (first second : Command)
  | negation (command : Command)
  | pipeline (commands : List Command)
  | background (command : Command)
  | subshell (line : Nat) (command : Command)
  | redirected (line : Nat) (command : Command) (redirects : List Redirect)
  | branch (condition consequent alternative : Command)
  | loop (whileTrue : Bool) (condition body : Command)
  | each (line : Nat) (name : String) (words : List (List Part)) (body : Command)
  | choice (line : Nat) (word : List Part) (cases : List (List (List Part) × Command))
  | define (name : String) (body : Command)

end

instance : Inhabited Part := ⟨.text "" false⟩
instance : Inhabited Command := ⟨.nothing⟩

def Command.append : Command → Command → Command
  | .nothing, second => second
  | first, second => .sequence first second

abbrev Word := List Part

def Part.isQuoted : Part → Bool
  | .text _ quoted => quoted
  | .parameter _ _ _ _ quoted => quoted
  | .output _ quoted => quoted
  | .sum _ quoted => quoted

/-- The text of a word that is text alone, none of it quoted. -/
def Word.plain? (word : Word) : Option String :=
  word.foldr (fun part rest => match part, rest with
    | .text text false, some rest => some (text ++ rest)
    | _, _ => none) (some "")

/-! ## Names -/

/-- The built-in commands whose errors end a script; no function can be named after them. -/
def specialBuiltins : List String :=
  [".", ":", "break", "continue", "eval", "exec", "exit", "export", "local", "readonly", "return",
    "set", "shift", "times", "trap", "unset"]

def isNameStart (c : Char) : Bool := c.isAlpha || c = '_'

def isNameChar (c : Char) : Bool := c.isAlphanum || c = '_'

def isName (text : String) : Bool :=
  match text.toList with
  | [] => false
  | first :: rest => isNameStart first && rest.all isNameChar

/-- A text of the form `name=value`, cut at the equals sign. -/
def splitAssignment? (text : String) : Option (String × String) :=
  let name := String.ofList (text.toList.takeWhile isNameChar)
  match text.toList.dropWhile isNameChar with
  | '=' :: value => if isName name then some (name, String.ofList value) else none
  | _ => none

/-- A word that assigns to a variable: the name and the word for the value. -/
def Word.assignment? : Word → Option (String × Word)
  | .text text false :: rest =>
      (splitAssignment? text).map fun (name, value) =>
        (name, if value = "" then rest else .text value false :: rest)
  | _ => none

end VerifiedBuild.Shell
