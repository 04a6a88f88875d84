import VerifiedBuild.Process.Arithmetic
import VerifiedBuild.Process.System
/-!
# Conditions

What `test` decides: properties of texts, numbers and files, joined by negation, conjunction,
disjunction and parentheses. A word that could be an operator counts as a text where nothing follows
that it could work on.
-/

namespace VerifiedBuild.Shell.Condition

inductive Kind where
  | nothing
  | operand
  | unary
  | binary
  | negation
  | conjunction
  | disjunction
  | opening
  | closing
deriving DecidableEq, Repr, Inhabited

def unaryOperators : List String :=
  ["-r", "-w", "-x", "-e", "-f", "-d", "-c", "-b", "-p", "-u", "-g", "-k", "-s", "-t", "-z", "-n",
    "-h", "-O", "-G", "-L", "-S"]

def binaryOperators : List String :=
  ["=", "!=", "<", ">", "-eq", "-ne", "-ge", "-gt", "-le", "-lt", "-nt", "-ot", "-ef"]

def operator (word : String) : Kind :=
  if word ∈ unaryOperators then .unary
  else if word ∈ binaryOperators then .binary
  else match word with
    | "!" => .negation
    | "-a" => .conjunction
    | "-o" => .disjunction
    | "(" => .opening
    | ")" => .closing
    | _ => .operand

def kind : List String → Kind
  | [] => .nothing
  | word :: rest =>
      match operator word, rest with
      | .unary, [] => .operand
      | .unary, [_] => .unary
      | .unary, next :: _ => if operator next = .binary then .operand else .unary
      | .opening, [] => .operand
      | found, _ => found

/-! ## Properties -/

def ofFile (system : System) (operator path : String) : Bool :=
  match system.find path with
  | .error _ => false
  | .ok (_, node) =>
      match operator, node with
      | "-f", .file _ _ | "-f", .plugin _ | "-f", .utility _ => true
      | "-f", _ => false
      | "-d", node => node = .directory
      | "-c", .device _ => true
      | "-c", _ => false
      | "-s", .file content _ => content ≠ []
      | "-s", .device _ => false
      | "-x", .file _ executable => executable
      | "-x", .plugin _ | "-x", .device _ => false
      | operator, _ => operator ∈ ["-r", "-w", "-x", "-e", "-s", "-O", "-G"]

def ofOne (system : System) (operator word : String) : Bool :=
  match operator with
  | "-z" => word = ""
  | "-n" => word ≠ ""
  | "-t" => false
  | _ => ofFile system operator word

def number (word : String) : Except String Int :=
  match Arithmetic.decimal? word with
  | some value => .ok value
  | none => .error ("Illegal number: " ++ word)

def ofTwo (system : System) (operator left right : String) : Except String Bool :=
  let compare := fun (relation : Int → Int → Bool) => do
    return relation (← number left) (← number right)
  match operator with
  | "=" => .ok (left = right)
  | "!=" => .ok (left ≠ right)
  | "<" => .ok (decide (left < right))
  | ">" => .ok (decide (right < left))
  | "-eq" => compare (· = ·)
  | "-ne" => compare (· ≠ ·)
  | "-ge" => compare (· ≥ ·)
  | "-gt" => compare (· > ·)
  | "-le" => compare (· ≤ ·)
  | "-lt" => compare (· < ·)
  | "-ef" => .ok (system.store.sameEntry (widened left) (widened right))
  | _ => .ok false

/-! ## Expressions -/

/-- The value of an expression, and the words from the last one of it on. -/
abbrev Found := Except String (Bool × List String)

def comparison (system : System) (words : List String) : Found :=
  match words with
  | left :: operator :: right :: rest => do
      return (← ofTwo system operator left right, right :: rest)
  | _ :: operator :: _ => .error (operator ++ ": argument expected")
  | _ => .ok (false, words)

/-- The value of the simplest expression that the words start with. -/
def primary (system : System) (whole : List String → Found) (words : List String) : Found :=
  match kind words, words with
  | .opening, _ :: rest => do
      if kind rest = .closing then return (false, rest)
      let (value, last) ← whole rest
      if kind (last.drop 1) = .closing then return (value, last.drop 1)
      else .error "closing paren expected"
  | .unary, operator :: word :: rest => .ok (ofOne system operator word, word :: rest)
  | .unary, operator :: _ => .error (operator ++ ": argument expected")
  | _, word :: rest =>
      if kind rest = .binary then comparison system words else .ok (word ≠ "", word :: rest)
  | _, [] => .ok (false, [])

def negated (system : System) (whole : List String → Found) : List String → Found
  | [] => .ok (false, [])
  | word :: rest =>
      if kind (word :: rest) = .negation then
        if rest = [] then .ok (true, [word])
        else do
          let (value, last) ← negated system whole rest
          return (!value, last)
      else primary system whole (word :: rest)

def conjunction (system : System) (whole : List String → Found) : Nat → List String → Found
  | 0, words => .ok (false, words)
  | fuel + 1, words => do
      let (first, last) ← negated system whole words
      if kind (last.drop 1) = .conjunction then
        let (second, final) ← conjunction system whole fuel (last.drop 2)
        return (first && second, final)
      else return (first, last)

def disjunction (system : System) : Nat → List String → Found
  | 0, words => .ok (false, words)
  | fuel + 1, words => do
      let whole := disjunction system fuel
      let (first, last) ← conjunction system whole (words.length + 1) words
      if kind (last.drop 1) = .disjunction then
        let (second, final) ← whole (last.drop 2)
        return (first || second, final)
      else return (first, last)

/-- The value that was found, if no words are left over. -/
def complete (found : Bool × List String) : Except String Bool :=
  match found.2 with
  | word :: _ :: _ => .error (word ++ ": unexpected operator")
  | _ => .ok found.1

def whole (system : System) (words : List String) : Except String Bool := do
  complete (← disjunction system (words.length + 1) words)

/-- The value of three words: an operator between two texts comes first. -/
def ofThree (system : System) (left middle right : String) : Except String Bool := do
  if operator middle = .binary then complete (← comparison system [left, middle, right])
  else if left = "(" ∧ right = ")" then whole system [middle]
  else if left = "!" then return !(← whole system [middle, right])
  else whole system [left, middle, right]

def value (system : System) : List String → Except String Bool
  | [] => .ok false
  | [left, middle, right] => ofThree system left middle right
  | [first, second, third, fourth] => do
      if first = "(" ∧ fourth = ")" then whole system [second, third]
      else if first = "!" then return !(← ofThree system second third fourth)
      else whole system [first, second, third, fourth]
  | words => whole system words

def ofArguments (system : System) (bracketed : Bool) (arguments : List String) :
    Except String Bool :=
  if !bracketed then value system arguments
  else match arguments.getLast? with
    | some last =>
        if last.toList.head? = some ']' then value system arguments.dropLast
        else .error "missing ]"
    | none => .error "missing ]"

end VerifiedBuild.Shell.Condition
