import VerifiedBuild.Process.Reader.Token
/-!
# Reading words

Words are read part by part, since what ends a word depends on the quotes and braces around it.
Words and operators are the tokens that commands are made of.
-/

namespace VerifiedBuild.Shell

/-! ## Words -/

/-- What surrounds the parts that are read: nothing, double quotes, the braces of a parameter, the
parentheses of a sum or those within one, or the lines of a document. -/
inductive Context where
  | bare
  | quotes
  | braces (quoted : Bool)
  | sum
  | parentheses
  | document
deriving DecidableEq, Repr, Inhabited

def Context.isQuoted : Context → Bool
  | .bare => false
  | .braces quoted => quoted
  | _ => true

def endsWord (c : Char) : Bool :=
  c ∈ [' ', '\t', '\n', ';', '&', '|', '(', ')', '<', '>']

/-- How much of a script a list of commands takes: a line, or up to what ends the list, with or
without the right to be empty. -/
inductive Extent where
  | line
  | some
  | any
deriving DecidableEq, Repr, Inhabited

structure Nested where
  list : Extent → Reader Command
  parts : Context → Reader (List Part)

namespace Reader

def isSpecial (c : Char) : Bool := c ∈ ['@', '*', '#', '?', '-', '$', '!']

/-- What the characters after the name of a parameter ask for, and how many they are. -/
def operation : List Char → Operation × Bool × Nat
  | '\x7d' :: _ => (.value, false, 0)
  | ':' :: '-' :: _ => (.orElse, true, 2)
  | ':' :: '=' :: _ => (.assign, true, 2)
  | ':' :: '?' :: _ => (.demand, true, 2)
  | ':' :: '+' :: _ => (.ifSet, true, 2)
  | '-' :: _ => (.orElse, false, 1)
  | '=' :: _ => (.assign, false, 1)
  | '?' :: _ => (.demand, false, 1)
  | '+' :: _ => (.ifSet, false, 1)
  | '%' :: '%' :: _ => (.trimEnd true, false, 2)
  | '%' :: _ => (.trimEnd false, false, 1)
  | '#' :: '#' :: _ => (.trimStart true, false, 2)
  | '#' :: _ => (.trimStart false, false, 1)
  | _ => (.malformed, false, 0)

def parameterName : Reader String := do
  match ← peek with
  | some c =>
      if isNameStart c then return String.ofList (← takeWhile isNameChar)
      else if c.isDigit then return String.ofList (← takeWhile Char.isDigit)
      else if isSpecial c then
        drop 1
        return String.singleton c
      else return ""
  | none => return ""

/-- Whether a number sign that follows a brace asks for a length. -/
def asksLength : List Char → Bool
  | '#' :: c :: '\x7d' :: _ => isNameChar c || isSpecial c
  | '#' :: c :: _ => isNameChar c
  | _ => false

def bracedParameter (nested : Nested) (quoted : Bool) : Reader Part := do
  let length := asksLength (← ahead)
  if length then drop 1
  let name ← parameterName
  let (found, orEmpty, count) := operation (← ahead)
  drop count
  let trims := found matches .trimStart _ | .trimEnd _
  let word ← nested.parts (.braces (quoted && !trims))
  let what := if name = "" then .malformed
    else if !length then found
    else if found = .value then .length
    else .malformed
  return .parameter name what orEmpty word quoted

def dollar (nested : Nested) (quoted : Bool) : Reader Part := do
  match ← ahead with
  | '(' :: '(' :: _ =>
      drop 2
      return .sum (← nested.parts .sum) quoted
  | '(' :: _ =>
      drop 1
      let outer := (← get).peeked
      modify ({ · with peeked := none })
      let command ← nested.list .any
      match (← get).peeked with
      | some token =>
          if !token.isOperator ")" then unexpected token (some "\")\"")
          modify ({ · with peeked := outer })
          return .output command quoted
      | none => fail (.unexpected "end of file" (some "\")\""))
  | '\x7b' :: _ =>
      drop 1
      bracedParameter nested quoted
  | c :: _ =>
      if isNameStart c then
        return .parameter (String.ofList (← takeWhile isNameChar)) .value false [] quoted
      else if c.isDigit || isSpecial c then
        drop 1
        return .parameter (String.singleton c) .value false [] quoted
      else return .text "$" quoted
  | [] => return .text "$" quoted

/-- The text up to a backquote, with the backslashes gone that protect special characters, and how
many characters it takes; nothing if there is no backquote. -/
def backquoted (quoted : Bool) : List Char → Option (List Char × Nat)
  | [] => none
  | '\x60' :: _ => some ([], 1)
  | '\\' :: c :: rest =>
      (backquoted quoted rest).map fun (text, count) =>
        if c = '\\' ∨ c = '\x60' ∨ c = '$' ∨ quoted ∧ c = '"' then (c :: text, count + 2)
        else if c = '\n' then (text, count + 2)
        else ('\\' :: c :: text, count + 2)
  | c :: rest => (backquoted quoted rest).map fun (text, count) => (c :: text, count + 1)

def backquote (nested : Nested) (quoted : Bool) : Reader Part := do
  match backquoted quoted (← get).rest with
  | none => fail .unterminatedBackquote
  | some (text, count) =>
      let command ← within text do
        let command ← nested.list .any
        match (← get).peeked with
        | some .finish | none => return command
        | some token => unexpected token (some "end of file")
      drop count
      return .output command quoted

def escaped (context : Context) (c : Char) : Part :=
  let protects := match context with
    | .bare | .braces false => true
    | .document => c ∈ ['\\', '\x60', '$']
    | .braces true => c ∈ ['\\', '\x60', '$', '"', '\x7d']
    | _ => c ∈ ['\\', '\x60', '$', '"']
  .text (if protects then String.singleton c else String.ofList ['\\', c]) true

def isOrdinary (context : Context) (c : Char) : Bool :=
  !(c ∈ ['\\', '$', '\x60']) && match context with
    | .bare => !endsWord c && c ≠ '\'' && c ≠ '"'
    | .quotes => c ≠ '"'
    | .braces quoted => c ≠ '\x7d' && c ≠ '"' && (quoted || c ≠ '\'')
    | .sum | .parentheses => c ≠ '(' && c ≠ ')' && c ≠ '"'
    | .document => true

/-- What is wrong if the script ends in the middle of a word. -/
def atEnd : Context → Reader (List Part ⊕ List Part)
  | .bare | .document => return .inr []
  | .quotes => fail .unterminatedQuote
  | .braces _ => fail .missingBrace
  | .sum | .parentheses => fail .missingParentheses

def part (nested : Nested) (context : Context) : Reader (List Part ⊕ List Part) := do
  let quoted := context.isQuoted
  match ← ahead with
  | [] => atEnd context
  | ['\\'] =>
      drop 1
      return .inl [.text "\\" true]
  | '\\' :: c :: _ =>
      drop 2
      return .inl [escaped context c]
  | '$' :: _ =>
      drop 1
      return .inl [← dollar nested quoted]
  | '\x60' :: _ =>
      drop 1
      return .inl [← backquote nested quoted]
  | c :: following =>
      if isOrdinary context c then
        return .inl [.text (String.ofList (← takeWhile (isOrdinary context))) quoted]
      else if c = '"' ∧ context ≠ .quotes then
        drop 1
        if context matches .sum | .parentheses then return .inl []
        else match ← nested.parts .quotes with
          | [.parameter "@" .value orEmpty word quoted] =>
              return .inl [.parameter "@" .value orEmpty word quoted]
          | found => return .inl (.text "" true :: found)
      else if c = '\'' then
        drop 1
        let text ← takeWhile (· ≠ '\'')
        if (← get).rest = [] then fail .unterminatedQuote
        drop 1
        return .inl [.text (String.ofList text) true]
      else if c = '(' ∧ quoted then
        drop 1
        let inner ← nested.parts .parentheses
        return .inl (.text "(" true :: inner ++ [.text ")" true])
      else if context = .sum then
        if following.head? = some ')' then
          drop 2
          return .inr []
        else
          drop 1
          return .inl [.text ")" true]
      else if context = .bare then return .inr []
      else
        drop 1
        return .inr []

def parts (nested : Nested) (context : Context) : Reader (List Part) :=
  iterate (fun before => do
    match ← part nested context with
    | .inl found => return .inl (before ++ found)
    | .inr found => return .inr (before ++ found)) []

/-! ## Reading tokens -/

def skipBlanks : Reader Unit :=
  iterate (fun () => do
    match ← ahead with
    | ' ' :: _ | '\t' :: _ => drop 1; return .inl ()
    | '#' :: _ => let _ ← takeWhile (· ≠ '\n'); return .inr ()
    | _ => return .inr ()) ()

/-- A redirection operator, after the number of the descriptor if that is given. -/
def redirection (descriptor : Option Nat) : Reader Token := do
  let token := fun (count : Nat) (default : Nat) opening stripsTabs => do
    drop count
    return Token.redirect (descriptor.getD default) opening stripsTabs
  match ← ahead with
  | '>' :: '>' :: _ => token 2 1 .append false
  | '>' :: '|' :: _ => token 2 1 .write false
  | '>' :: '&' :: _ => token 2 1 .copy false
  | '>' :: _ => token 1 1 .write false
  | '<' :: '<' :: '-' :: _ => token 3 0 .document true
  | '<' :: '<' :: _ => token 2 0 .document false
  | '<' :: '&' :: _ => token 2 0 .copy false
  | '<' :: '>' :: _ => token 2 0 .readWrite false
  | _ => token 1 0 .read false

def operators : List String := ["&&", "||", ";;", "&", "|", ";", "(", ")"]

def readToken (nested : Nested) : Reader Token := do
  skipBlanks
  let chars ← ahead
  match chars with
  | [] => return .finish
  | '\n' :: _ =>
      drop 1
      return .newline
  | c :: _ =>
      match operators.find? fun text => text.toList.isPrefixOf chars with
      | some text =>
          drop text.length
          return .operator text
      | none =>
          if c = '<' ∨ c = '>' then redirection none
          else
            let word ← nested.parts .bare
            let next ← peek
            match (Word.plain? word).map String.toList with
            | some [digit] =>
                if digit.isDigit && (next = some '<' || next = some '>') then
                  redirection (some (digit.toNat - '0'.toNat))
                else return .word word
            | _ => return .word word

/-- A token that has been read as it counts where keywords are looked for. -/
def Token.classify : Token → Token
  | .word word => match Word.plain? word with
      | some text => if text ∈ keywords then .keyword text else .word word
      | none => .word word
  | token => token

def rawToken (nested : Nested) : Reader Token := do
  match (← get).peeked with
  | some token =>
      modify ({ · with peeked := none })
      return token
  | none => readToken nested

/-- The next token, with or without newlines before it, and as a keyword if it may be one. -/
def next (nested : Nested) (skipsNewlines findsKeywords : Bool) : Reader Token := do
  let token ← iterate (fun () => do
    match ← rawToken nested, skipsNewlines with
    | .newline, true => return .inl ()
    | token, _ => return .inr token) ()
  return if findsKeywords then Token.classify token else token

def plainToken (nested : Nested) : Reader Token := next nested false false

def putBack (token : Token) : Reader Unit :=
  modify ({ · with peeked := some token })

def expectKeyword (nested : Nested) (skipsNewlines : Bool) (name : String) : Reader Unit := do
  let token ← next nested skipsNewlines true
  if !token.isKeyword name then unexpected token (some ("\"" ++ name ++ "\""))

end Reader

end VerifiedBuild.Shell
