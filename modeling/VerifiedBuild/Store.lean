import VerifiedBuild.NameMap
import VerifiedBuild.Text.Octets
/-!
# The file store

A tree of directories, files and devices, and how path names are resolved in it. A place is the list
of names that leads from the root to an entry; an entry other than the root is listed under its
place. A relative path starts at the working directory. Files hold bytes.
-/

namespace VerifiedBuild

inductive FileError where
  | noSuchFile
  | notDirectory
  | isDirectory
  | permissionDenied
  | nameTooLong
  | invalidArgument
  | fileExists
  | notEmpty
  | textBusy
  | notExecutable
  | tooManyLinks
  | badDescriptor
  | noSpace
deriving DecidableEq, Repr, Inhabited

def FileError.message : FileError → String
  | .noSuchFile => "No such file or directory"
  | .notDirectory => "Not a directory"
  | .isDirectory => "Is a directory"
  | .permissionDenied => "Permission denied"
  | .nameTooLong => "File name too long"
  | .invalidArgument => "Invalid argument"
  | .fileExists => "File exists"
  | .notEmpty => "Directory not empty"
  | .textBusy => "Text file busy"
  | .notExecutable => "Exec format error"
  | .tooManyLinks => "Too many levels of symbolic links"
  | .badDescriptor => "Bad file descriptor"
  | .noSpace => "No space left on device"

/-- Files without content of their own: one takes all text, the other has no room for any. -/
inductive Device where
  | null
  | full
deriving DecidableEq, Repr, Inhabited

/-- A shared library for use as a plugin: which of the two entry points it exports, and whether it
makes a toolchain when asked. -/
structure PluginLibrary where
  exportsCreate : Bool := true
  exportsDestroy : Bool := true
  makesToolchain : Bool := true
deriving DecidableEq, Repr, Inhabited

/-- An entry of the store. A utility is a program of the system, known by its name. -/
inductive Node where
  | directory
  | file (content : Octets) (executable : Bool)
  | plugin (library : PluginLibrary)
  | device (device : Device)
  | utility (name : String)
deriving DecidableEq, Repr, Inhabited

abbrev Place := List String

/-- The entries other than the root, the directory relative paths start from, and the file that is
held open for writing. -/
structure Store where
  entries : List (Place × Node)
  workingDirectory : Place
  held : Option Place := none
deriving DecidableEq, Repr, Inhabited

namespace Store

def lookup (store : Store) (place : Place) : Option Node :=
  if place = [] then some .directory else (store.entries.find? (·.1 = place)).map (·.2)

def set (store : Store) (place : Place) (node : Node) : Store :=
  if store.entries.any (·.1 = place) then
    { store with
      entries := store.entries.map fun entry => if entry.1 = place then (place, node) else entry }
  else { store with entries := store.entries ++ [(place, node)] }

/-- The names of the entries right below a place, in order. -/
def children (store : Store) (place : Place) : List String :=
  let names := store.entries.filterMap fun entry => match entry.1.getLast? with
    | some name => if entry.1.dropLast = place then some name else none
    | none => none
  names.mergeSort (fun first second => decide (first ≤ second))

/-! ## Path names -/

def components (path : String) : List String :=
  ((path.toList.splitOn '/').filter (· ≠ [])).map String.ofList

/-- Whether a path ends with a slash and so can only name a directory. -/
def demandsDirectory (path : String) : Bool :=
  path.toList.getLast? = some '/'

def maxComponent : Nat := 255

def maxPath : Nat := 4095

/-- Follow components from a place. All but the last must lead through directories; the last may
name nothing yet. -/
def walk (store : Store) : Place → List String → Except FileError Place
  | place, [] => .ok place
  | place, name :: rest =>
      match store.lookup place with
      | none => .error .noSuchFile
      | some .directory =>
          if name = "." then store.walk place rest
          else if name = ".." then store.walk place.dropLast rest
          else if maxComponent < name.utf8ByteSize then .error .nameTooLong
          else store.walk (place ++ [name]) rest
      | some _ => .error .notDirectory

/-- The place that a path names, whether or not anything is there. -/
def resolve (store : Store) (path : String) : Except FileError Place :=
  if path = "" then .error .noSuchFile
  else if maxPath < path.utf8ByteSize then .error .nameTooLong
  else store.walk (if path.toList.head? = some '/' then [] else store.workingDirectory)
    (components path)

def find (store : Store) (path : String) : Except FileError (Place × Node) :=
  match store.resolve path with
  | .error error => .error error
  | .ok place =>
      match store.lookup place with
      | none => .error .noSuchFile
      | some .directory => .ok (place, .directory)
      | some node => if demandsDirectory path then .error .notDirectory else .ok (place, node)

def stat (store : Store) (path : String) : Except FileError Node :=
  (store.find path).map (·.2)

def pathExists (store : Store) (path : String) : Bool :=
  (store.find path).isOk

def isDirectory (store : Store) (path : String) : Bool :=
  store.stat path matches .ok .directory

def content? (store : Store) (path : String) : Option Octets :=
  match store.stat path with
  | .ok (.file content _) => some content
  | _ => none

def read? (store : Store) (path : String) : Option String :=
  (store.content? path).map Octets.toText

end Store

end VerifiedBuild
