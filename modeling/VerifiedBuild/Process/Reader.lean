import VerifiedBuild.Process.Reader.Word
/-!
# Reading shell scripts

A script is read command by command, as far as it is needed. A text between lines that a command
takes as its input is cut out of the script where the command announces it.
-/

namespace VerifiedBuild.Shell.Reader

/-! ## Redirections -/

/-- The lines up to the one that is `mark`, and how many lines that takes. -/
def documentLines (stripsTabs : Bool) (mark : List Char) :
    List (List Char) → List Char × Nat × List (List Char)
  | [] => ([], 0, [])
  | line :: rest =>
      let line := if stripsTabs then line.dropWhile (· = '\t') else line
      if line = mark then ([], 1, rest)
      else if rest = [] then (line, 1, [])
      else
        let (text, count, remaining) := documentLines stripsTabs mark rest
        (line ++ '\n' :: text, count + 1, remaining)

/-- Cut out the lines of a document that start after the line at hand. -/
def cutDocument (stripsTabs : Bool) (mark : List Char) : Reader (List Char) := do
  let cursor ← get
  let line := cursor.rest.takeWhile (· ≠ '\n')
  match cursor.rest.dropWhile (· ≠ '\n') with
  | [] => return []
  | _ :: following =>
      let (text, count, remaining) := documentLines stripsTabs mark (following.splitOn '\n')
      set { cursor with
        rest := line ++ '\n' :: List.intercalate ['\n'] remaining
        skipped := cursor.skipped + count }
      return text

def unquotedText (word : Word) : List Char :=
  word.flatMap fun part => match part with
    | .text text _ => text.toList
    | .parameter name _ _ _ _ => '$' :: name.toList
    | _ => []

def redirectTarget (nested : Nested) (descriptor : Nat) (opening : Opening) (stripsTabs : Bool) :
    Reader Redirect := do
  match ← plainToken nested with
  | .word word =>
      match opening with
      | .document =>
          let text ← cutDocument stripsTabs (unquotedText word)
          let content ← if word.any Part.isQuoted then pure [Part.text (String.ofList text) true]
            else within text (nested.parts .document)
          return .mk descriptor .document content
      | .copy =>
          match Word.plain? word with
          | some text =>
              if text = "-" ∨ text.length = 1 ∧ text.toList.all Char.isDigit then
                return .mk descriptor .copy word
              else fail .badDescriptor
          | none => return .mk descriptor .copy word
      | opening => return .mk descriptor opening word
  | token => unexpected token none

/-! ## Commands -/

structure Draft where
  assignments : List (String × Word) := []
  words : List Word := []
  redirects : List Redirect := []

def functionBody (nested : Nested) (command : Reader Command) (name : Word) : Reader Command := do
  let closing ← plainToken nested
  if !closing.isOperator ")" then unexpected closing (some "\")\"")
  match Word.plain? name with
  | some text =>
      if !isName text || text ∈ specialBuiltins then fail .badFunctionName
      let token ← next nested true true
      putBack token
      return .define text (← command)
  | none => fail .badFunctionName

/-- A command without a keyword: assignments, then words, with redirections anywhere. -/
def simpleCommand (nested : Nested) (command : Reader Command) : Reader Command := do
  let line := (← get).line
  iterate (fun (draft : Draft) => do
    match ← plainToken nested with
    | .word word =>
        match draft.words, Word.assignment? word with
        | [], some binding =>
            return .inl { draft with assignments := draft.assignments ++ [binding] }
        | _, _ => return .inl { draft with words := draft.words ++ [word] }
    | .redirect descriptor opening stripsTabs =>
        let redirect ← redirectTarget nested descriptor opening stripsTabs
        return .inl { draft with redirects := draft.redirects ++ [redirect] }
    | token =>
        match draft, token.isOperator "(" with
        | { words := [name], assignments := [], redirects := [] }, true =>
            return .inr (← functionBody nested command name)
        | _, _ =>
            putBack token
            return .inr (.simple line draft.assignments draft.words draft.redirects)) {}

def redirects (nested : Nested) : Reader (List Redirect) :=
  iterate (fun found => do
    match ← next nested false true with
    | .redirect descriptor opening stripsTabs =>
        return .inl (found ++ [← redirectTarget nested descriptor opening stripsTabs])
    | token =>
        putBack token
        return .inr found) []

/-- The rest of an `if` command. Alternatives are collected first and then put into one another. -/
def branchCommand (nested : Nested) : Reader Command := do
  let (cases, alternative) ← iterate (fun (cases : List (Command × Command)) => do
    let condition ← nested.list .some
    expectKeyword nested false "then"
    let consequent ← nested.list .some
    let extended := cases ++ [(condition, consequent)]
    let token ← next nested false true
    if token.isKeyword "elif" then return .inl extended
    else if token.isKeyword "else" then return .inr (extended, ← nested.list .some)
    else
      putBack token
      return .inr (extended, .nothing)) []
  expectKeyword nested false "fi"
  return cases.foldr (fun (condition, consequent) rest => .branch condition consequent rest)
    alternative

def loopCommand (nested : Nested) (whileTrue : Bool) : Reader Command := do
  let condition ← nested.list .some
  expectKeyword nested false "do"
  let body ← nested.list .some
  expectKeyword nested false "done"
  return .loop whileTrue condition body

def eachWords (nested : Nested) : Reader (List Word) := do
  let token ← next nested true true
  if token.isKeyword "in" then
    iterate (fun words => do
      match ← plainToken nested with
      | .word word => return .inl (words ++ [word])
      | .newline => return .inr words
      | token =>
          if token.isOperator ";" then return .inr words else unexpected token none) []
  else
    if !token.isOperator ";" then putBack token
    return [[.parameter "@" .value false [] true]]

def eachCommand (nested : Nested) (line : Nat) : Reader Command := do
  match ← plainToken nested with
  | .word word =>
      match Word.plain? word with
      | some name =>
          if !isName name then fail .badLoopVariable
          let words ← eachWords nested
          expectKeyword nested true "do"
          let body ← nested.list .some
          expectKeyword nested false "done"
          return .each line name words body
      | none => fail .badLoopVariable
  | _ => fail .badLoopVariable

/-- The patterns of one case, up to the parenthesis that ends them. -/
def casePatterns (nested : Nested) (first : Token) : Reader (List Word) := do
  let start ← if first.isOperator "(" then plainToken nested else pure first
  iterate (fun ((patterns, token) : List Word × Token) => do
    let word : Word ← match token with
      | .word word => pure word
      | .keyword name => pure [.text name false]
      | .finish => unexpected token (some "\")\"")
      | token => unexpected token none
    let after ← plainToken nested
    if after.isOperator "|" then return .inl (patterns ++ [word], ← plainToken nested)
    else if after.isOperator ")" then return .inr (patterns ++ [word])
    else unexpected after (some "\")\"")) ([], start)

def choiceCommand (nested : Nested) (line : Nat) : Reader Command := do
  match ← plainToken nested with
  | .word word =>
      expectKeyword nested true "in"
      let cases ← iterate (fun (cases : List (List Word × Command)) => do
        let token ← next nested true true
        if token.isKeyword "esac" then return .inr cases
        else
          let patterns ← casePatterns nested token
          let body ← nested.list .any
          let extended := cases ++ [(patterns, body)]
          let closing ← next nested true true
          if closing.isKeyword "esac" then return .inr extended
          else if closing.isOperator ";;" then return .inl extended
          else unexpected closing (some "\";;\"")) []
      return .choice line word cases
  | token => unexpected token (some "word")

/-- A command. Functions are defined by commands, so the reader takes itself as `self`. -/
def commandWith (nested : Nested) (self : Reader Command) : Reader Command := do
  let line := (← get).line
  let token ← next nested false false
  let compound ← match token with
    | .keyword "if" => some <$> branchCommand nested
    | .keyword "while" => some <$> loopCommand nested true
    | .keyword "until" => some <$> loopCommand nested false
    | .keyword "for" => some <$> eachCommand nested line
    | .keyword "case" => some <$> choiceCommand nested line
    | .keyword "\x7b" => do
        let body ← nested.list .some
        expectKeyword nested false "\x7d"
        pure (some body)
    | .operator "(" => do
        let body ← nested.list .some
        let closing ← next nested false true
        if !closing.isOperator ")" then unexpected closing (some "\")\"")
        pure (some (.subshell line body))
    | .word _ | .redirect .. => pure none
    | token => unexpected token none
  match compound with
  | none =>
      putBack token
      simpleCommand nested self
  | some command =>
      match ← redirects nested, command with
      | [], _ => return command
      | found, .redirected inner (.subshell start body) _ =>
          -- Of the redirections of one subshell, those of the outermost braces count.
          return .redirected inner (.subshell start body) found
      | found, _ => return .redirected line command found

/-- A command whose definitions of functions are nested up to `depth` times. -/
def command (nested : Nested) : Nat → Reader Command
  | 0 => fail .badFunctionName
  | depth + 1 => commandWith nested (command nested depth)

def maxDefinitions : Nat := 64

def pipeline (nested : Nested) : Reader Command := do
  let one := command nested maxDefinitions
  let token ← next nested false false
  let negated := token.isKeyword "!"
  if negated then putBack (← next nested false true) else putBack token
  let first ← one
  let commands ← iterate (fun commands => do
    let token ← plainToken nested
    if token.isOperator "|" then
      putBack (← next nested true true)
      return .inl (commands ++ [← one])
    else
      putBack token
      return .inr commands) [first]
  let joined : Command := match commands with
    | [single] => single
    | several => .pipeline several
  return if negated then .negation joined else joined

def conditional (nested : Nested) : Reader Command := do
  let first ← pipeline nested
  iterate (fun before => do
    let token ← plainToken nested
    if token.isOperator "&&" ∨ token.isOperator "||" then
      putBack (← next nested true true)
      let after ← pipeline nested
      return .inl (if token.isOperator "&&" then .both before after else .either before after)
    else
      putBack token
      return .inr before) first

def list (nested : Nested) (extent : Extent) : Reader Command :=
  iterate (fun ((before, started) : Command × Bool) => do
    let token ← next nested (extent ≠ .line) true
    match token with
    | .newline => return .inr before
    | .finish =>
        putBack token
        return .inr before
    | _ =>
        putBack token
        if token.endsList && extent ≠ .line && (started || extent = .any) then return .inr before
        else
          let found ← conditional nested
          let token ← plainToken nested
          let extended := Command.append before
            (if token.isOperator "&" then .background found else found)
          match token with
          | .newline | .finish =>
              putBack token
              return .inl (extended, true)
          | token =>
              if token.isOperator ";" ∨ token.isOperator "&" then return .inl (extended, true)
              else if extent = .line then unexpected token none
              else
                putBack token
                return .inr extended) (.nothing, false)

mutual

def nestedList : Nat → Extent → Reader Command
  | 0, _ => fail .missingParentheses
  | depth + 1, extent => list ⟨nestedList depth, nestedParts depth⟩ extent

def nestedParts : Nat → Context → Reader (List Part)
  | 0, _ => fail .missingBrace
  | depth + 1, context => parts ⟨nestedList depth, nestedParts depth⟩ context

end

/-- Read the commands of a line; nothing is left at the end of the script. -/
def line : Reader (Option Command) := do
  let depth := (← get).rest.length + 1
  let command ← nestedList depth .line
  match (← get).peeked, command with
  | some .finish, .nothing => return none
  | _, command => return some command

end VerifiedBuild.Shell.Reader
