import VerifiedBuild.Process.Command
/-!
# Tokens of shell scripts

What a script consists of, what can be wrong with one, and the places in it where reading goes on.
-/

namespace VerifiedBuild.Shell

/-! ## What can be wrong -/

inductive SyntaxError where
  | unexpected (token : String) (expected : Option String)
  | unterminatedQuote
  | unterminatedBackquote
  | missingBrace
  | missingParentheses
  | badLoopVariable
  | badFunctionName
  | badDescriptor
deriving DecidableEq, Repr, Inhabited

def SyntaxError.message : SyntaxError → String
  | .unexpected token none => token ++ " unexpected"
  | .unexpected token (some expected) => token ++ " unexpected (expecting " ++ expected ++ ")"
  | .unterminatedQuote => "Unterminated quoted string"
  | .unterminatedBackquote => "EOF in backquote substitution"
  | .missingBrace => "Missing '\x7d'"
  | .missingParentheses => "Missing '))'"
  | .badLoopVariable => "Bad for loop variable"
  | .badFunctionName => "Bad function name"
  | .badDescriptor => "Bad fd number"

/-! ## Tokens -/

inductive Token where
  | word (word : Word)
  | keyword (name : String)
  | operator (text : String)
  | redirect (descriptor : Nat) (opening : Opening) (stripsTabs : Bool)
  | newline
  | finish
deriving Inhabited

def Token.name : Token → String
  | .word _ => "word"
  | .keyword name => "\"" ++ name ++ "\""
  | .operator text => "\"" ++ text ++ "\""
  | .redirect .. => "redirection"
  | .newline => "newline"
  | .finish => "end of file"

def keywords : List String :=
  ["!", "case", "do", "done", "elif", "else", "esac", "fi", "for", "if", "in", "then", "until",
    "while", "\x7b", "\x7d"]

def Token.endsList : Token → Bool
  | .keyword name => name ∈ ["do", "done", "elif", "else", "esac", "fi", "then", "\x7d"]
  | .operator text => text = ")" || text = ";;"
  | .finish => true
  | _ => false

def Token.isOperator (token : Token) (text : String) : Bool :=
  match token with
  | .operator other => other = text
  | _ => false

def Token.isKeyword (token : Token) (name : String) : Bool :=
  match token with
  | .keyword other => other = name
  | _ => false

/-! ## Positions -/

/-- A place in a script: the characters to come, the number of the line, how many lines have been
cut out after it, and a token that has been read already. -/
structure Cursor where
  rest : List Char
  line : Nat := 1
  skipped : Nat := 0
  peeked : Option Token := none
deriving Inhabited

abbrev Reader := StateT Cursor (Except (Nat × SyntaxError))

namespace Reader

variable {α σ : Type}

def fail (error : SyntaxError) : Reader α := do
  throw ((← get).line, error)

def unexpected (token : Token) (expected : Option String) : Reader α :=
  fail (.unexpected token.name expected)

def joinLines : List Char → Nat → List Char × Nat
  | '\\' :: '\n' :: rest, line => joinLines rest (line + 1)
  | rest, line => (rest, line)

def ahead : Reader (List Char) := do
  let cursor ← get
  let (rest, line) := joinLines cursor.rest cursor.line
  set { cursor with rest, line }
  return rest

def peek : Reader (Option Char) := do
  return (← ahead).head?

def drop (count : Nat) : Reader Unit :=
  modify fun cursor =>
    let ends := ((cursor.rest.take count).filter (· = '\n')).length
    { cursor with
      rest := cursor.rest.drop count
      line := cursor.line + ends + (if ends = 0 then 0 else cursor.skipped)
      skipped := if ends = 0 then cursor.skipped else 0 }

def takeWhile (p : Char → Bool) : Reader (List Char) := do
  let taken := (← get).rest.takeWhile p
  drop taken.length
  return taken

def within (chars : List Char) (reader : Reader α) : Reader α := do
  let outer ← get
  set { outer with rest := chars, skipped := 0, peeked := none }
  let value ← reader
  set outer
  return value

def repeatUpTo (limit : Nat) (step : σ → Reader (σ ⊕ α)) (state : σ) : Reader α :=
  match limit with
  | 0 => fail .unterminatedQuote
  | limit + 1 => do
      match ← step state with
      | .inl next => repeatUpTo limit step next
      | .inr value => return value

/-- Repeat a step until it has a result. Each step uses up a character or a token, so the number of
characters bounds the steps. -/
def iterate (step : σ → Reader (σ ⊕ α)) (state : σ) : Reader α := do
  repeatUpTo ((← get).rest.length + 3) step state

end Reader

end VerifiedBuild.Shell
