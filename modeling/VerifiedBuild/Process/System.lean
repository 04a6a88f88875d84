import VerifiedBuild.Store.Write
import VerifiedBuild.Process.Command
/-!
# Descriptors

A process reads and writes through numbered descriptors, each of which leads to an open end.
Processes can share an end; what one of them reads or writes there moves it on for all. Paths and
texts of processes are narrow.
-/

namespace VerifiedBuild

/-- What a descriptor can lead to: something that collects what is written, a text to be read, an
offset in a file, or a device. -/
inductive OpenEnd where
  | collector (text : String)
  | supply (text : String)
  | file (place : Place) (offset : Nat) (appends : Bool)
  | device (device : Device)
deriving Repr, Inhabited

/-- The files, all ends that were opened, and the number of the next process. -/
structure System where
  store : Store
  ends : Array OpenEnd := #[]
  nextProcess : Nat := 2
deriving Repr, Inhabited

abbrev Descriptors := List (Nat × Nat)

namespace Descriptors

def find? (descriptors : Descriptors) (number : Nat) : Option Nat :=
  (List.find? (fun entry => entry.1 = number) descriptors).map (·.2)

def close (descriptors : Descriptors) (number : Nat) : Descriptors :=
  List.filter (fun entry => entry.1 ≠ number) descriptors

def bind (descriptors : Descriptors) (number place : Nat) : Descriptors :=
  (number, place) :: descriptors.close number

end Descriptors

namespace System

/-! ## Ends -/

def addEnd (system : System) (opened : OpenEnd) : Nat × System :=
  (system.ends.size, { system with ends := system.ends.push opened })

def setEnd (system : System) (number : Nat) (changed : OpenEnd) : System :=
  { system with ends := system.ends.setIfInBounds number changed }

def collected (system : System) (number : Nat) : String :=
  match system.ends[number]? with
  | some (.collector text) => text
  | _ => ""

def contentAt (system : System) (place : Place) : Octets :=
  match system.store.lookup place with
  | some (.file content _) => content
  | _ => []

def writeEnd (system : System) (number : Nat) (text : String) : Except FileError System :=
  match system.ends[number]? with
  | some (.collector before) =>
      .ok { system with ends := system.ends.modify number fun _ => .collector (before ++ text) }
  | some (.file place offset appends) =>
      let start := if appends then (system.contentAt place).length else offset
      let bytes := Octets.ofNarrow text
      .ok { system.setEnd number (.file place (start + bytes.length) appends) with
        store := system.store.writeAt place start bytes }
  | some (.device .null) => .ok system
  | some (.device .full) => if text = "" then .ok system else .error .noSpace
  | some (.supply _) | none => .error .badDescriptor

def readEnd (system : System) (number : Nat) : Except FileError (String × System) :=
  match system.ends[number]? with
  | some (.supply text) => .ok (text, system.setEnd number (.supply ""))
  | some (.file place offset appends) =>
      if system.store.lookup place = some .directory then .error .isDirectory
      else
        let content := system.contentAt place
        .ok (Octets.narrow (content.drop offset),
          system.setEnd number (.file place (max offset content.length) appends))
  | some (.device _) => .ok ("", system)
  | some (.collector _) | none => .error .badDescriptor

def unread (system : System) (number : Nat) (text : String) : System :=
  match system.ends[number]? with
  | some (.supply rest) => system.setEnd number (.supply (text ++ rest))
  | some (.file place offset appends) =>
      system.setEnd number (.file place (offset - text.length) appends)
  | _ => system

/-! ## Descriptors -/

def write (system : System) (descriptors : Descriptors) (number : Nat) (text : String) :
    Except FileError System :=
  match descriptors.find? number with
  | some place => system.writeEnd place text
  | none => .error .badDescriptor

def read (system : System) (descriptors : Descriptors) (number : Nat) :
    Except FileError (String × System) :=
  match descriptors.find? number with
  | some place => system.readEnd place
  | none => .error .badDescriptor

def print (system : System) (descriptors : Descriptors) (number : Nat) (text : String) : System :=
  (system.write descriptors number text).toOption.getD system

/-! ## Paths -/

def find (system : System) (path : String) : Except FileError (Place × Node) :=
  system.store.find (widened path)

def endFor (system : System) (place : Place) (appends : Bool) : OpenEnd :=
  match system.store.lookup place with
  | some (.device device) => .device device
  | _ => .file place 0 appends

/-- Open a path; it is made or emptied as the kind of opening asks for. -/
def openPath (system : System) (path : String) (opening : Shell.Opening) :
    Except FileError (Nat × System) :=
  let wide := widened path
  let empty := fun () => do
    let (store, place) ← system.store.openForWriting wide
    return { system with store }.addEnd (system.endFor place false)
  match opening with
  | .write => empty ()
  | .append | .readWrite =>
      match system.store.find wide with
      | .ok (place, node) =>
          if node = .directory then .error .isDirectory
          else .ok (system.addEnd (system.endFor place (opening matches .append)))
      | .error .noSuchFile => do
          let (store, place) ← system.store.openForWriting wide
          return { system with store }.addEnd (.file place 0 (opening matches .append))
      | .error error => .error error
  | _ => do
      let (place, _) ← system.store.find wide
      return system.addEnd (system.endFor place false)

end System

/-! ## Processes -/

/-- A program that is about to run: its arguments, the first of which is its name, its environment
and its descriptors. -/
structure Process where
  arguments : List String
  environment : NameMap String
  descriptors : Descriptors
deriving Repr, Inhabited

end VerifiedBuild
