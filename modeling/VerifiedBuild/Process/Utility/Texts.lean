import VerifiedBuild.Process.Utility.Work
import VerifiedBuild.Process.Condition
import VerifiedBuild.Process.Format
/-!
# Utilities for texts

The programs that print texts, whole or in part, count what is in them, and take names apart.
-/

namespace VerifiedBuild.Utility

def concatenate (process : Process) : Work Nat :=
  withOptions process ['u'] fun _ operands => do
    if (process.descriptors.find? 1).isNone then
      warn process ("standard output: " ++ FileError.badDescriptor.message)
      return 1
    forEach (if operands = [] then ["-"] else operands) fun path => do
      match ← readText process path with
      | .ok text => return (← print process 0 text) = 0
      | .error error =>
          warn process (shown path ++ ": " ++ error.message)
          return false

/-! ## Parts of texts -/

/-- The lines of a text, each with the character that ends it. -/
def lines : List Char → List (List Char)
  | [] => []
  | c :: rest =>
      if c = '\n' then [c] :: lines rest
      else match lines rest with
        | [] => [[c]]
        | first :: others => (c :: first) :: others

/-- How much of a text to print: lines or bytes, and from which place on or how many. -/
structure Amount where
  bytes : Bool := false
  fromStart : Bool := false
  count : Nat := 10
deriving Repr, Inhabited

def amount : List String → Option (Amount × List String)
  | "-n" :: value :: rest => (setCount false value).map (·, rest)
  | "-c" :: value :: rest => (setCount true value).map (·, rest)
  | word :: rest =>
      match word.toList with
      | '-' :: 'n' :: value => (setCount false (String.ofList value)).map (·, rest)
      | '-' :: 'c' :: value => (setCount true (String.ofList value)).map (·, rest)
      | '-' :: digit :: value =>
          if digit.isDigit then
            (setCount false (String.ofList (digit :: value))).map (·, rest)
          else some ({}, word :: rest)
      | _ => some ({}, word :: rest)
  | [] => some ({}, [])
where
  setCount (bytes : Bool) (value : String) : Option Amount :=
    match value.toList with
    | '+' :: digits =>
        (Text.natural? digits).map fun count => { bytes, fromStart := true, count }
    | '-' :: digits => (Text.natural? digits).map fun count => { bytes, count }
    | digits => (Text.natural? digits).map fun count => { bytes, count }

def units (bytes : Bool) (text : String) : List (List Char) :=
  if bytes then text.toList.map ([·]) else lines text.toList

def firstPart (amount : Amount) (text : String) : String :=
  String.ofList ((units amount.bytes text).take amount.count).flatten

def lastPart (amount : Amount) (text : String) : String :=
  let found := units amount.bytes text
  let skipped := if amount.fromStart then amount.count - 1 else found.length - amount.count
  String.ofList (found.drop skipped).flatten

def printParts (process : Process) (part : Amount → String → String) : Work Nat := do
  match amount (process.arguments.drop 1) with
  | none => misuse process "invalid number of lines"
  | some (wanted, operands) =>
      let operands := if operands = [] then ["-"] else operands
      let (_, code) ← operands.foldlM (fun (first, code) path => do
        match ← readText process path with
        | .ok text =>
            let name := if path = "-" then "standard input" else path
            let heading := if operands.length = 1 then ""
              else (if first then "" else "\n") ++ "==> " ++ name ++ " <==\n"
            let printed ← print process 0 (heading ++ part wanted text)
            return (false, max code printed)
        | .error error =>
            warn process ("cannot open " ++ quote path ++ " for reading: " ++ error.message)
            return (first, 1)) (true, 0)
      return code

/-! ## Counts -/

def counts (given : List Char) (text : String) : List Nat :=
  let chars := text.toList
  let isBreak := fun c : Char => Shell.Arithmetic.isBlank c
  let words := ((chars.map fun c => if isBreak c then ' ' else c).splitOn ' ').filter (· ≠ [])
  let wanted := fun letter => given = [] || given.contains letter
  (if wanted 'l' then [(chars.filter (· = '\n')).length] else []) ++
    (if wanted 'w' then [words.length] else []) ++ (if wanted 'c' then [chars.length] else [])

def countLine (width : Nat) (found : List Nat) (name : String) : String :=
  let column := fun (count : Nat) =>
    let digits := toString count
    String.ofList (List.replicate (width - digits.length) ' ') ++ digits
  String.intercalate " " (found.map column) ++ (if name = "" then "" else " " ++ name) ++ "\n"

def readsFile (process : Process) (system : System) : Bool :=
  match (process.descriptors.find? 0).bind (system.ends[·]?) with
  | some (.file _ _ _) => true
  | _ => false

def countTexts (process : Process) : Work Nat :=
  withOptions process ['l', 'w', 'c'] fun given operands => do
    let regular := operands ≠ [] || readsFile process (← get)
    let (found, code) ← (if operands = [] then ["-"] else operands).foldlM
      (fun (found, code) path => do
        match ← readText process path with
        | .ok text => return (found ++ [(path, text)], code)
        | .error error =>
            warn process (shown path ++ ": " ++ error.message)
            return (found, 1)) (([] : List (String × String)), 0)
    let size := found.foldl (fun size (_, text) => size + text.length) 0
    let columns := (counts given "").length
    let width := if columns = 1 ∧ operands.length ≤ 1 then 1
      else if regular then (toString size).length else 7
    let rows := found.map fun (path, text) =>
      countLine width (counts given text) (if operands = [] then "" else path)
    let sums := found.foldl (fun sums (_, text) => List.zipWith (· + ·) sums (counts given text))
      (List.replicate columns 0)
    let total := if operands.length > 1 then [countLine width sums "total"] else []
    print process code (String.join (rows ++ total))

/-! ## Names and numbers -/

def printBaseName (process : Process) : Work Nat :=
  match process.arguments.drop 1 with
  | [] => misuse process "missing operand"
  | [path] => print process 0 (lastComponent path ++ "\n")
  | path :: ending :: _ =>
      let name := lastComponent path
      if name.endsWith ending ∧ name ≠ ending then
        print process 0 ((name.dropEnd ending.length).toString ++ "\n")
      else print process 0 (name ++ "\n")

def directoryPart (path : String) : String :=
  let slash := fun c : Char => c = '/'
  let bare := (path.toList.reverse.dropWhile slash)
  match bare.dropWhile (· ≠ '/') with
  | [] => if bare = [] ∧ path ≠ "" then "/" else "."
  | rest =>
      match (rest.dropWhile slash).reverse with
      | [] => "/"
      | directory => String.ofList directory

def printDirectory (process : Process) : Work Nat :=
  match process.arguments.drop 1 with
  | [] => misuse process "missing operand"
  | paths => print process 0 (String.join (paths.map (directoryPart · ++ "\n")))

def printSequence (process : Process) : Work Nat :=
  let operands := process.arguments.drop 1
  match operands.find? fun operand => (Text.integer? operand).isNone with
  | some operand => misuse process ("invalid floating point argument: " ++ quote operand)
  | none =>
      match operands.map fun operand => (Text.integer? operand).getD 0 with
      | [] => misuse process "missing operand"
      | [last] => run 1 1 last
      | [first, last] => run first 1 last
      | first :: step :: last :: _ => run first step last
where
  run (first step last : Int) : Work Nat :=
    let count := if step = 0 then 0 else ((last - first).fdiv step + 1).toNat
    print process 0 (String.join ((List.range count).map fun (index : Nat) =>
      toString (first + step * (index : Int)) ++ "\n"))

/-! ## Other printing -/

def copyToFiles (process : Process) : Work Nat :=
  withOptions process ['a'] fun given operands => do
    let text := (← readText process "-").toOption.getD ""
    let code ← forEach operands fun path => do
      match (← get).openPath path (if given.contains 'a' then .append else .write) with
      | .ok (place, system) =>
          set ((system.writeEnd place text).toOption.getD system)
          return true
      | .error error =>
          warn process (shown path ++ ": " ++ error.message)
          return false
    print process code text

def printArguments (process : Process) : Work Nat :=
  let rec split : List String → Bool → Bool → Bool × Bool × List String
    | "-n" :: rest, _, escapes => split rest true escapes
    | "-e" :: rest, quiet, _ => split rest quiet true
    | "-E" :: rest, quiet, _ => split rest quiet false
    | rest, quiet, escapes => (quiet, escapes, rest)
  let (quiet, escapes, words) := split (process.arguments.drop 1) false false
  let text := String.intercalate " " words
  let ending := if quiet then "" else "\n"
  if escapes then
    let (found, stops) := Shell.Format.unescaped text
    print process 0 (String.ofList found ++ if stops then "" else ending)
  else print process 0 (text ++ ending)

def printFormatted (process : Process) : Work Nat := do
  match process.arguments.drop 1 with
  | [] => misuse process "missing operand"
  | format :: arguments =>
      let printed := Shell.Format.print format arguments
      printed.warnings.forM (warn process ·)
      match printed.failure with
      | some text => warn process text
      | none => pure ()
      let code := if printed.failure.isSome || printed.warnings ≠ [] then 1 else 0
      print process code (String.ofList printed.text)

def decideCondition (process : Process) : Work Nat := do
  let bracketed := lastComponent (callName process) = "["
  match Shell.Condition.ofArguments (← get) bracketed (process.arguments.drop 1) with
  | .ok value => return if value then 0 else 1
  | .error text =>
      warn process (if text = "missing ]" then "missing ']'" else text)
      return 2

def printVariables (process : Process) : Work Nat :=
  match process.arguments.drop 1 with
  | [] => listAll process
  | names =>
      let found := names.map process.environment.find?
      print process (if found.all Option.isSome then 0 else 1)
        (String.join (found.filterMap fun value => value.map (· ++ "\n")))
where
  listAll (process : Process) : Work Nat :=
    print process 0 (String.join (process.environment.entries.map fun (name, value) =>
      name ++ "=" ++ value ++ "\n"))

def printWorkingDirectory (process : Process) : Work Nat := do
  let place := (← get).store.workingDirectory
  print process 0 ("/" ++ String.intercalate "/" (place.map narrowed) ++ "\n")

/-- Time does not pass here; only whether it is given counts. -/
def sleep (process : Process) : Work Nat :=
  let operands := process.arguments.drop 1
  let isTime := fun (text : String) =>
    let digits := text.toList.filter fun c => c ≠ '.'
    Text.natural? digits |>.isSome
  match operands.find? fun operand => !isTime operand with
  | some operand => misuse process ("invalid time interval " ++ quote operand)
  | none => if operands = [] then misuse process "missing operand" else return 0

end VerifiedBuild.Utility
