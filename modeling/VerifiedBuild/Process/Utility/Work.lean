import VerifiedBuild.Process.System
/-!
# The work of utilities

What the programs of the system have in common: they read the texts that their arguments name, print
on one descriptor, complain on another under the name they were called by, and exit with a code.
-/

namespace VerifiedBuild.Utility

abbrev Work := StateM System

def callName (process : Process) : String :=
  process.arguments.head?.getD ""

def warn (process : Process) (text : String) : Work Unit :=
  modify fun system =>
    system.print process.descriptors 2 (callName process ++ ": " ++ text ++ "\n")

/-- Print a text; the exit code is `code` unless the text finds no room. -/
def print (process : Process) (code : Nat) (text : String) : Work Nat := do
  match (← get).write process.descriptors 1 text with
  | .ok system =>
      set system
      return code
  | .error error =>
      if text = "" then return code
      else
        warn process ("write error: " ++ error.message)
        return 1

def misuse (process : Process) (text : String) : Work Nat := do
  warn process text
  modify fun system => system.print process.descriptors 2
    ("Try '" ++ callName process ++ " --help' for more information.\n")
  return 1

def quote (text : String) : String :=
  "'" ++ text ++ "'"

/-- A path as messages show it: in quotes only if a shell would need them. -/
def shown (path : String) : String :=
  let special := fun (c : Char) => c.isWhitespace ||
    c ∈ ['!', '"', '$', '&', '\'', '(', ')', '*', ';', '<', '=', '>', '?', '[', '\\', '^', '\x60',
      '|']
  match path.toList with
  | [] => quote path
  | first :: rest =>
      if first = '#' || first = '~' || special first || rest.any special then quote path else path

def refusal (deed path : String) (error : FileError) : String :=
  "cannot " ++ deed ++ " " ++ quote path ++ ": " ++ error.message

/-- The text of a file, or of the standard input if the name is a hyphen. -/
def readText (process : Process) (path : String) : Work (Except FileError String) := do
  let system ← get
  if path = "-" then
    match system.read process.descriptors 0 with
    | .ok (text, after) =>
        set after
        return .ok text
    | .error error => return .error error
  else
    return match system.find path with
      | .ok (_, .directory) => .error .isDirectory
      | .ok (_, .file content _) => .ok (Octets.narrow content)
      | .ok _ => .ok ""
      | .error error => .error error

/-- Options and operands: options start with a hyphen and come first. -/
def splitOptions : List String → List String × List String
  | [] => ([], [])
  | "--" :: rest => ([], rest)
  | "-" :: rest => ([], "-" :: rest)
  | word :: rest =>
      if word.toList.head? = some '-' then
        let (options, operands) := splitOptions rest
        (word :: options, operands)
      else ([], word :: rest)

def letters (options : List String) : List Char :=
  options.flatMap fun option => option.toList.drop 1

def withOptions (process : Process) (allowed : List Char)
    (work : List Char → List String → Work Nat) : Work Nat :=
  let (options, operands) := splitOptions (process.arguments.drop 1)
  let given := letters options
  match given.find? fun letter => !(letter ∈ allowed) with
  | some letter => misuse process ("invalid option -- " ++ quote (String.singleton letter))
  | none => work given operands

def forEach (operands : List String) (work : String → Work Bool) : Work Nat :=
  operands.foldlM (fun code operand => do
    return if ← work operand then code else 1) 0

def lastComponent (path : String) : String :=
  match (Store.components path).getLast? with
  | some name => name
  | none => if path = "" then "" else "/"

end VerifiedBuild.Utility
