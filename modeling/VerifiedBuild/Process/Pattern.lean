/-!
# Patterns

Patterns of the shell: a star stands for any text, a question mark for any character, and brackets
for one of the characters that they list. Quoted characters stand for themselves.
-/

namespace VerifiedBuild.Shell

inductive Symbol where
  | literal (c : Char)
  | anyChar
  | anyText
  | oneOf (negated : Bool) (ranges : List (Char × Char))
deriving DecidableEq, Repr, Inhabited

abbrev Pattern := List Symbol

namespace Pattern

def classes : List (String × List (Char × Char)) :=
  [("alpha", [('a', 'z'), ('A', 'Z')]), ("digit", [('0', '9')]),
    ("alnum", [('a', 'z'), ('A', 'Z'), ('0', '9')]), ("upper", [('A', 'Z')]),
    ("lower", [('a', 'z')]), ("space", [(' ', ' '), ('\t', '\r')]),
    ("blank", [(' ', ' '), ('\t', '\t')]),
    ("punct", [('!', '/'), (':', '@'), ('[', '\x60'), ('\x7b', '~')]),
    ("xdigit", [('0', '9'), ('a', 'f'), ('A', 'F')]),
    ("cntrl", [('\x00', '\x1f'), ('\x7f', '\x7f')]), ("print", [(' ', '~')]),
    ("graph", [('!', '~')])]

/-- The characters listed in brackets, up to the closing one, and what follows it. A closing bracket
that comes first is one of the characters. -/
def ranges (isFirst : Bool) (fuel : Nat) (chars : List (Char × Bool)) :
    Option (List (Char × Char) × List (Char × Bool)) :=
  match fuel, chars with
  | 0, _ | _, [] => none
  | fuel + 1, (c, quoted) :: rest =>
      if c = ']' ∧ !quoted ∧ !isFirst then some ([], rest)
      else if c = '[' ∧ !quoted ∧ rest.head? = some (':', false) then
        let name := String.ofList (((rest.drop 1).takeWhile (·.1 ≠ ':')).map (·.1))
        match classes.find? (·.1 = name) with
        | some (_, found) =>
            (ranges false fuel (rest.drop (name.length + 3))).map fun (others, rest) =>
              (found ++ others, rest)
        | none => (ranges false fuel rest).map fun (others, rest) => ((c, c) :: others, rest)
      else match rest with
        | ('-', false) :: (last, lastQuoted) :: following =>
            if last = ']' ∧ !lastQuoted then
              (ranges false fuel rest).map fun (others, rest) => ((c, c) :: others, rest)
            else
              (ranges false fuel following).map fun (others, rest) => ((c, last) :: others, rest)
        | _ => (ranges false fuel rest).map fun (others, rest) => ((c, c) :: others, rest)

/-- The symbol for a list in brackets, after the opening one, and what follows it. -/
def bracket? (chars : List (Char × Bool)) : Option (Symbol × List (Char × Bool)) :=
  match chars with
  | ('!', false) :: rest | ('^', false) :: rest =>
      (ranges true (chars.length + 1) rest).map fun (found, rest) => (.oneOf true found, rest)
  | _ => (ranges true (chars.length + 1) chars).map fun (found, rest) => (.oneOf false found, rest)

/-- The pattern that characters spell, of which some are quoted. Each step uses up a character, so
as much fuel as characters is enough. -/
def ofCharsUpTo : Nat → List (Char × Bool) → Pattern
  | 0, _ | _, [] => []
  | fuel + 1, (c, quoted) :: rest =>
      if quoted then .literal c :: ofCharsUpTo fuel rest
      else if c = '*' then .anyText :: ofCharsUpTo fuel rest
      else if c = '?' then .anyChar :: ofCharsUpTo fuel rest
      else if c = '[' then match bracket? rest with
        | some (symbol, rest) => symbol :: ofCharsUpTo fuel rest
        | none => .literal c :: ofCharsUpTo fuel rest
      else .literal c :: ofCharsUpTo fuel rest

def ofChars (chars : List (Char × Bool)) : Pattern :=
  ofCharsUpTo chars.length chars

def admits : Symbol → Char → Bool
  | .literal other, c => other = c
  | .anyChar, _ => true
  | .anyText, _ => false
  | .oneOf negated ranges, c => negated != ranges.any fun (low, high) => low ≤ c && c ≤ high

def matchesAll (pattern : Pattern) (text : List Char) : Bool :=
  match pattern, text with
  | [], [] => true
  | [], _ :: _ => false
  | .anyText :: rest, [] => matchesAll rest []
  | .anyText :: rest, c :: others =>
      matchesAll rest (c :: others) || matchesAll (.anyText :: rest) others
  | _ :: _, [] => false
  | symbol :: rest, c :: others => admits symbol c && matchesAll rest others
termination_by pattern.length + text.length

def isProper (pattern : Pattern) : Bool :=
  pattern.any fun symbol => match symbol with
    | .literal _ => false
    | _ => true

def trimStart (pattern : Pattern) (longest : Bool) (text : List Char) : List Char :=
  let lengths := List.range (text.length + 1)
  match (if longest then lengths.reverse else lengths).find? fun count =>
      matchesAll pattern (text.take count) with
  | some count => text.drop count
  | none => text

def trimEnd (pattern : Pattern) (longest : Bool) (text : List Char) : List Char :=
  let lengths := List.range (text.length + 1)
  match (if longest then lengths else lengths.reverse).find? fun count =>
      matchesAll pattern (text.drop count) with
  | some count => text.take count
  | none => text

end Pattern

end VerifiedBuild.Shell
