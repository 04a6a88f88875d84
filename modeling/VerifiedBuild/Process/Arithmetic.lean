import VerifiedBuild.Process.Command
import VerifiedBuild.Text.Integer
/-!
# Sums

The integer expressions of shell scripts, with 64 bits that wrap around. An expression is cut into
tokens, read by the ranks of its operators, and evaluated; a variable counts as the number that its
text spells.
-/

namespace VerifiedBuild.Shell.Arithmetic

inductive Failure where
  | expected (what : String)
  | divisionByZero
  | illegalNumber (text : String)
deriving DecidableEq, Repr, Inhabited

def Failure.message (text : String) : Failure → String
  | .expected what => "arithmetic expression: expecting " ++ what ++ ": \"" ++ text ++ "\""
  | .divisionByZero => "arithmetic expression: division by zero: \"" ++ text ++ "\""
  | .illegalNumber text => "Illegal number: " ++ text

/-! ## Numbers -/

def wrap (value : Int) : Int :=
  value.bmod 18446744073709551616

def greatest : Int := 9223372036854775807

def digitValue (c : Char) : Nat :=
  if c.isDigit then c.toNat - '0'.toNat else c.toLower.toNat - 'a'.toNat + 10

/-- The number at the start of a text, in octal, decimal or hexadecimal digits, and what follows. -/
def number (chars : List Char) : Int × List Char :=
  let read := fun (base : Nat) (digits : List Char) =>
    min greatest (digits.foldl (fun value c => (base : Int) * value + digitValue c) 0)
  let isHex := fun c : Char => c.isDigit || 'a' ≤ c.toLower && c.toLower ≤ 'f'
  let isOctal := fun c : Char => c.isDigit && c < '8'
  match chars with
  | '0' :: x :: rest =>
      if x.toLower = 'x' ∧ (rest.head?.any isHex) then
        (read 16 (rest.takeWhile isHex), rest.dropWhile isHex)
      else (read 8 (chars.takeWhile isOctal), chars.dropWhile isOctal)
  | _ => (read 10 (chars.takeWhile Char.isDigit), chars.dropWhile Char.isDigit)

def isBlank (c : Char) : Bool := c = ' ' || '\t' ≤ c && c ≤ '\r'

/-- The number that the whole of a text spells; a blank text spells 0. -/
def value? (text : String) : Option Int :=
  let chars := text.toList.dropWhile isBlank
  let (negative, digits) := match chars with
    | '-' :: rest => (true, rest)
    | '+' :: rest => (false, rest)
    | rest => (false, rest)
  if chars = [] then some 0
  else if !digits.head?.any Char.isDigit then none
  else
    let (value, rest) := number digits
    if rest.all isBlank then some (if negative then -value else value) else none

/-- The number that a text spells in decimal digits, with a sign and blanks around it or without. -/
def decimal? (text : String) : Option Int :=
  let chars := ((text.toList.dropWhile isBlank).reverse.dropWhile isBlank).reverse
  let found : Option Int := match chars with
    | '-' :: digits => (Text.natural? digits).map fun value => -(value : Int)
    | '+' :: digits => (Text.natural? digits).map fun value => (value : Int)
    | digits => (Text.natural? digits).map fun value => (value : Int)
  found.filter fun value => Text.int64Min ≤ value ∧ value ≤ Text.int64Max

/-! ## Tokens -/

inductive Token where
  | number (value : Int)
  | name (name : String)
  | operator (text : String)
  | unknown
deriving DecidableEq, Repr, Inhabited

def operators : List String :=
  ["<<=", ">>=", "<<", ">>", "<=", ">=", "==", "!=", "&&", "||", "+=", "-=", "*=", "/=", "%=", "&=",
    "^=", "|=", "=", "<", ">", "&", "|", "^", "!", "~", "+", "-", "*", "/", "%", "(", ")", "?", ":"]

def token (c : Char) (rest : List Char) : Token × List Char :=
  if c.isDigit then
    let (value, following) := number (c :: rest)
    (.number value, following)
  else if isNameStart c then
    (.name (String.ofList (c :: rest.takeWhile isNameChar)), rest.dropWhile isNameChar)
  else match operators.find? fun text => text.toList.isPrefixOf (c :: rest) with
    | some text => (.operator text, (c :: rest).drop text.length)
    | none => (.unknown, rest)

/-- The tokens of a text. Each uses up a character, so as much fuel as characters is enough. -/
def tokens : Nat → List Char → List Token
  | 0, _ | _, [] => []
  | fuel + 1, c :: rest =>
      if isBlank c then tokens fuel rest
      else
        let (found, following) := token c rest
        found :: tokens fuel following

/-! ## Expressions -/

inductive Expression where
  | number (value : Int)
  | name (name : String)
  | unary (operator : String) (operand : Expression)
  | binary (operator : String) (left right : Expression)
  | choice (condition consequent alternative : Expression)
  | assign (operator name : String) (value : Expression)
deriving Repr, Inhabited

def rank? (operator : String) : Option Nat :=
  ([["||"], ["&&"], ["|"], ["^"], ["&"], ["==", "!="], ["<", "<=", ">", ">="], ["<<", ">>"],
    ["+", "-"], ["*", "/", "%"]].findIdx? fun level => operator ∈ level)

abbrev Parsed := Expression × List Token

def operand (inner : List Token → Except Failure Parsed) : List Token → Except Failure Parsed
  | .number value :: rest => .ok (.number value, rest)
  | .name name :: rest => .ok (.name name, rest)
  | .operator "(" :: rest => do
      match ← inner rest with
      | (found, .operator ")" :: following) => .ok (found, following)
      | _ => .error (.expected "')'")
  | .operator text :: rest =>
      if text ∈ ["-", "+", "!", "~"] then do
        let (found, following) ← operand inner rest
        .ok (.unary text found, following)
      else .error (.expected "primary")
  | _ => .error (.expected "primary")

/-- The operators of at least the rank `least` that follow a left operand, with their right ones. -/
def operations (read : List Token → Except Failure Parsed) :
    Nat → Nat → Expression → List Token → Except Failure Parsed
  | fuel + 1, least, left, .operator text :: rest => do
      match rank? text with
      | some rank =>
          if rank < least then .ok (left, .operator text :: rest)
          else
            let (first, afterFirst) ← read rest
            let (right, following) ← operations read fuel (rank + 1) first afterFirst
            operations read fuel least (.binary text left right) following
      | none => .ok (left, .operator text :: rest)
  | _, _, left, rest => .ok (left, rest)

def assignments : List String :=
  ["=", "+=", "-=", "*=", "/=", "%=", "<<=", ">>=", "&=", "^=", "|="]

/-- An expression that may assign or choose, nested up to `fuel` times. -/
def expression : Nat → List Token → Except Failure Parsed
  | 0, _ => .error (.expected "primary")
  | fuel + 1, tokens => do
      match tokens with
      | .name name :: .operator text :: rest =>
          if text ∈ assignments then
            let (value, following) ← expression fuel rest
            return (.assign text name value, following)
      | _ => pure ()
      let read := operand (expression fuel)
      let (first, afterFirst) ← read tokens
      let (condition, following) ← operations read tokens.length 0 first afterFirst
      match following with
      | .operator "?" :: rest =>
          match ← expression fuel rest with
          | (consequent, .operator ":" :: rest) =>
              let (alternative, rest) ← expression fuel rest
              return (.choice condition consequent alternative, rest)
          | _ => .error (.expected "':'")
      | _ => return (condition, following)

def parse (text : String) : Except Failure Expression := do
  let found := tokens text.length text.toList
  match ← expression (found.length + 1) found with
  | (result, []) => .ok result
  | _ => .error (.expected "EOF")

/-! ## Values -/

abbrev Bindings := List (String × Int)

def ofBool (value : Bool) : Int := if value then 1 else 0

def bits (value : Int) : Nat := (value % 18446744073709551616).toNat

def apply (operator : String) (left right : Int) : Except Failure Int :=
  let shift := bits right % 64
  match operator with
  | "+" => .ok (wrap (left + right))
  | "-" => .ok (wrap (left - right))
  | "*" => .ok (wrap (left * right))
  | "/" => if right = 0 then .error .divisionByZero else .ok (wrap (left.tdiv right))
  | "%" => if right = 0 then .error .divisionByZero else .ok (left.tmod right)
  | "<<" => .ok (wrap (left * (1 <<< shift : Nat)))
  | ">>" => .ok (left >>> shift)
  | "<" => .ok (ofBool (left < right))
  | "<=" => .ok (ofBool (left ≤ right))
  | ">" => .ok (ofBool (left > right))
  | ">=" => .ok (ofBool (left ≥ right))
  | "==" => .ok (ofBool (left = right))
  | "!=" => .ok (ofBool (left ≠ right))
  | "&" => .ok (wrap (bits left &&& bits right : Nat))
  | "^" => .ok (wrap (bits left ^^^ bits right : Nat))
  | _ => .ok (wrap (bits left ||| bits right : Nat))

def valueOf (lookup : String → String) (bindings : Bindings) (name : String) :
    Except Failure Int :=
  match bindings.find? (·.1 = name) with
  | some (_, value) => .ok value
  | none =>
      let text := lookup name
      match value? text with
      | some value => .ok value
      | none => .error (.illegalNumber text)

def evaluate (lookup : String → String) : Expression → Bindings → Except Failure (Int × Bindings)
  | .number value, bindings => .ok (value, bindings)
  | .name name, bindings => do .ok (← valueOf lookup bindings name, bindings)
  | .unary operator operand, bindings => do
      let (value, bindings) ← evaluate lookup operand bindings
      .ok (match operator with
        | "-" => wrap (-value)
        | "!" => ofBool (value = 0)
        | "~" => -value - 1
        | _ => value, bindings)
  | .binary "&&" left right, bindings => do
      let (value, bindings) ← evaluate lookup left bindings
      if value = 0 then .ok (0, bindings)
      else
        let (value, bindings) ← evaluate lookup right bindings
        .ok (ofBool (value ≠ 0), bindings)
  | .binary "||" left right, bindings => do
      let (value, bindings) ← evaluate lookup left bindings
      if value ≠ 0 then .ok (1, bindings)
      else
        let (value, bindings) ← evaluate lookup right bindings
        .ok (ofBool (value ≠ 0), bindings)
  | .binary operator left right, bindings => do
      let (first, bindings) ← evaluate lookup left bindings
      let (second, bindings) ← evaluate lookup right bindings
      .ok (← apply operator first second, bindings)
  | .choice condition consequent alternative, bindings => do
      let (value, bindings) ← evaluate lookup condition bindings
      if value ≠ 0 then evaluate lookup consequent bindings
      else evaluate lookup alternative bindings
  | .assign operator name value, bindings => do
      let (right, bindings) ← evaluate lookup value bindings
      let result ← if operator = "=" then .ok right
        else do apply (operator.dropEnd 1).toString (← valueOf lookup bindings name) right
      .ok (result, (name, result) :: bindings)

end VerifiedBuild.Shell.Arithmetic
