import VerifiedBuild.Store
/-!
# Writing files

How the store changes: files are opened, written, copied, made executable, renamed and removed. A
program writes through a stream with a buffer. A small piece of text waits in the buffer, so it
counts as written before the file has seen it; a large one is handed over at once, after what waits.
-/

namespace VerifiedBuild

inductive WriteError where
  | cannotOpen (path : String)
  | cannotWrite (path : String)
deriving DecidableEq, Repr, Inhabited

def WriteError.message : WriteError → String
  | .cannotOpen path => "failed to open file for write: " ++ path
  | .cannotWrite path => "failed to write file: " ++ path

namespace Store

/-- Open a path for writing: what was there is emptied, a new file is made if its directory exists.
The result is the place that receives the text, if any does. -/
def openForWriting (store : Store) (path : String) : Except FileError (Store × Place) :=
  match store.resolve path with
  | .error error => .error error
  | .ok place =>
      match store.lookup place with
      | some .directory => .error .isDirectory
      | found =>
          if demandsDirectory path then .error .isDirectory
          else match found with
            | none => .ok (store.set place (.file [] false), place)
            | some (.file _ executable) => .ok (store.set place (.file [] executable), place)
            | some (.plugin _) => .ok (store.set place (.file [] false), place)
            | some (.utility _) => .error .permissionDenied
            | some _ => .ok (store, place)

/-- The content of a file after bytes are written at an offset; a gap before them is filled with
zeros. -/
def patch (content : Octets) (offset : Nat) (bytes : Octets) : Octets :=
  if bytes = [] then content
  else content.take offset ++ List.replicate (offset - content.length) 0 ++ bytes ++
    content.drop (offset + bytes.length)

def writeAt (store : Store) (place : Place) (offset : Nat) (bytes : Octets) : Store :=
  match store.lookup place with
  | some (.file content executable) =>
      store.set place (.file (patch content offset bytes) executable)
  | _ => store

def isFull (store : Store) (place : Place) : Bool :=
  store.lookup place = some (.device .full)

/-! ## Streams -/

/-- The most bytes that wait in the buffer of a stream. -/
def streamCapacity : Nat := 8191

def largePiece : Nat := 1024

/-- Write a text as the whole content of a file. The file may have been made or emptied even if that
fails. -/
def write (store : Store) (path text : String) : Option WriteError × Store :=
  match store.openForWriting path with
  | .error _ => (some (.cannotOpen path), store)
  | .ok (opened, place) =>
      if opened.isFull place ∧ largePiece ≤ text.utf8ByteSize then
        (some (.cannotWrite path), opened)
      else (none, opened.writeAt place 0 (Octets.ofText text))

/-! ## Whole files -/

def sameEntry (store : Store) (first second : String) : Bool :=
  match store.find first, store.find second with
  | .ok (place, _), .ok (other, _) => place = other
  | _, _ => false

def isMissing : FileError → Bool
  | .noSuchFile | .notDirectory => true
  | _ => false

/-- Copy a regular file over another or to a new name. -/
def copy (store : Store) (source destination : String) : Option FileError × Store :=
  match store.find destination, store.find source with
  | .error error, found =>
      if !isMissing error then (some error, store)
      else match found with
        | .error error => (some error, store)
        | .ok (_, node) => place node
  | .ok _, .error error => (some error, store)
  | .ok (there, target), .ok (here, node) =>
      if !isRegular node then (some .invalidArgument, store)
      else if here = there then (some .fileExists, store)
      else if !isRegular target then (some .invalidArgument, store)
      else place node
where
  isRegular : Node → Bool
    | .file _ _ | .plugin _ | .utility _ => true
    | _ => false
  place (node : Node) : Option FileError × Store :=
    if !isRegular node then (some .invalidArgument, store)
    else match store.openForWriting destination with
      | .error error => (some error, store)
      | .ok (opened, target) => (none, opened.set target node)

def setExecutable (store : Store) (place : Place) (executable : Bool) : Store :=
  match store.lookup place with
  | some (.file content _) => store.set place (.file content executable)
  | _ => store

def removePlace (store : Store) (place : Place) : Store :=
  { store with
    entries := store.entries.filter fun entry => !place.isPrefixOf entry.1
    held := store.held.filter fun held => !place.isPrefixOf held }

/-- Move an entry with all below it to another place, over what is there. -/
def rename (store : Store) (place target : Place) : Store :=
  let move := fun other : Place =>
    if place.isPrefixOf other then target ++ other.drop place.length else other
  let cleared := store.removePlace target
  { cleared with
    entries := cleared.entries.map fun (other, node) => (move other, node)
    held := cleared.held.map move }

def isEmptyDirectory (store : Store) (place : Place) : Bool :=
  store.entries.all fun entry => entry.1 = place || !place.isPrefixOf entry.1

/-! ## Arranging a store -/

def makeDirectories (store : Store) (place : Place) : Store :=
  (List.range place.length).foldl (fun store depth =>
    let step := place.take (depth + 1)
    if (store.lookup step).isNone then store.set step .directory else store) store

/-- Put an entry where components lead from a place, and make the directories on the way. -/
def putBelow (store : Store) (node : Node) : Place → List String → Store
  | place, [] => if node = .directory then store.makeDirectories place else store.set place node
  | place, name :: rest =>
      let made := store.makeDirectories place
      if name = "." then made.putBelow node place rest
      else if name = ".." then made.putBelow node place.dropLast rest
      else made.putBelow node (place ++ [name]) rest

/-- Put an entry under a path, along with the directories it needs. -/
def put (store : Store) (path : String) (node : Node) : Store :=
  store.putBelow node (if path.toList.head? = some '/' then [] else store.workingDirectory)
    (components path)

def remove (store : Store) (path : String) : Store :=
  match store.find path with
  | .error _ => store
  | .ok (place, _) => store.removePlace place

/-! ## Comparing stores -/

inductive Content where
  | bytes (bytes : Octets)
  | plugin (library : PluginLibrary)
deriving DecidableEq, Repr

def Content.ofNode? : Node → Option Content
  | .file content _ => some (.bytes content)
  | .plugin library => some (.plugin library)
  | _ => none

/-- The regular files below the working directory, by path, in order of path. -/
def files (store : Store) : NameMap Content :=
  NameMap.ofList (store.entries.filterMap fun (place, node) =>
    if store.workingDirectory.isPrefixOf place then
      (Content.ofNode? node).map fun content =>
        (String.intercalate "/" (place.drop store.workingDirectory.length), content)
    else none)

/-- The regular files below the working directory that are new or look different from before, as
seen by `view`. -/
def changedFiles {α : Type} [DecidableEq α] (view : Content → α) (before after : Store) :
    List (String × α) :=
  let old := before.files
  let shown := after.files.entries.map fun (path, content) => (path, view content)
  shown.filter fun (path, content) => (old.find? path).map view ≠ some content

end Store

end VerifiedBuild
