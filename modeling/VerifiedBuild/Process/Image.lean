import VerifiedBuild.Host
import VerifiedBuild.Process.System
/-!
# Finding programs

What runs when a path is executed. A file whose first line starts with `#!` is run by the
interpreter named there, which may be such a file again; any other file has no form that could be
executed, and it is then run by the shell. A name without a slash is looked up in the directories
that the environment lists.
-/

namespace VerifiedBuild

structure Image where
  program : String
  arguments : List String
deriving DecidableEq, Repr, Inhabited

namespace Image

/-! ## Interpreters -/

/-- How many bytes of a file are looked at for its interpreter. -/
def headerSize : Nat := 256

def maxInterpreters : Nat := 5

def isBlank (c : Char) : Bool := c = ' ' || c = '\t'

def trim (line : List Char) : List Char :=
  ((line.reverse.dropWhile isBlank).reverse).dropWhile isBlank

def splitHeader (line : List Char) : String × Option String :=
  let name := line.takeWhile fun c => !isBlank c && c ≠ '\x00'
  match line.dropWhile fun c => !isBlank c && c ≠ '\x00' with
  | [] | '\x00' :: _ => (String.ofList name, none)
  | rest => (String.ofList name,
      some (String.ofList ((rest.dropWhile isBlank).takeWhile (· ≠ '\x00'))))

/-- The interpreter that a file names, with the one argument that may follow it. A file that ends
within its first line counts as filled up with zeros; where the line is longer than what is looked
at, the name must be complete. -/
def interpreter? (content : Octets) : Option (String × Option String) :=
  let header := (Octets.narrow (content.take headerSize)).toList
  match header with
  | '#' :: '!' :: text =>
      let known := text.takeWhile (· ≠ '\x00')
      if known.contains '\n' then
        let line := trim (known.takeWhile (· ≠ '\n'))
        if line = [] then none else some (splitHeader line)
      else if header.length < headerSize then
        some (splitHeader ((text ++ ['\x00']).dropWhile isBlank))
      else
        let line := text.dropWhile isBlank
        if line.all fun c => !isBlank c && c ≠ '\x00' then none
        else some (splitHeader (trim (text.take (headerSize - 3))))
  | _ => none

/-! ## Executing a path -/

/-- Open a path for execution: a program of the system, or the bytes of an executable file. The
empty path, which only the first line of a file can ask for, stands for the working directory. -/
def openProgram (store : Store) (path : String) : Except FileError (String ⊕ Octets) :=
  match store.find (widened (if path = "" then "." else path)) with
  | .error error => .error error
  | .ok (_, .utility name) => .ok (.inl name)
  | .ok (place, .file content true) =>
      if store.held = some place then .error .textBusy else .ok (.inr content)
  | .ok _ => .error .permissionDenied

/-- The program that runs when a path is executed, with `depth` interpreters allowed. -/
def load (store : Store) : Nat → String → List String → Except FileError Image
  | depth, path, arguments => do
      match ← openProgram store path with
      | .inl program => return { program, arguments }
      | .inr content =>
          match interpreter? content with
          | none => .error .notExecutable
          | some (name, option) =>
              let passed := name :: option.toList ++ path :: arguments.drop 1
              match depth with
              | 0 => do
                  let _ ← openProgram store name
                  .error .tooManyLinks
              | depth + 1 => load store depth name passed

def shellPath : String := "/bin/sh"

/-- Execute a path, by the shell if it has no form of its own. -/
def execute (store : Store) (path : String) (arguments : List String) : Except FileError Image :=
  match load store maxInterpreters path arguments with
  | .error .notExecutable =>
      load store maxInterpreters shellPath (shellPath :: path :: arguments.drop 1)
  | result => result

/-! ## Looking up names -/

def fallbackPath : String := "/bin:/usr/bin"

def candidates (searchPath name : String) : List String :=
  (searchPath.toList.splitOn ':').map fun directory =>
    if directory = [] then name else String.ofList directory ++ "/" ++ name

/-- Execute the first of the paths that can be. A path without permission is passed over, and that
is reported at the end; errors other than that or a missing file end the search. -/
def executeFirst (store : Store) (arguments : List String) (reason : FileError) (denied : Bool) :
    List String → Except FileError Image
  | [] => .error (if denied then .permissionDenied else reason)
  | path :: rest =>
      match execute store path arguments with
      | .ok image => .ok image
      | .error .permissionDenied => executeFirst store arguments .permissionDenied true rest
      | .error error =>
          if Store.isMissing error then executeFirst store arguments error denied rest
          else .error error

def find (store : Store) (environment : NameMap String) (program : String)
    (arguments : List String) : Except FileError Image :=
  if program.toList.contains '/' then execute store program arguments
  else if program = "" then .error .noSuchFile
  else if Store.maxComponent < program.length then .error .nameTooLong
  else
    executeFirst store arguments .noSuchFile false
      (candidates ((environment.find? "PATH").getD fallbackPath) program)

end Image

end VerifiedBuild
