import VerifiedBuild.Process.Expansion
/-!
# Redirections

Descriptors are opened on files, on texts and as copies of one another, for the time of a command. A
redirection that fails leaves a message and a status.
-/

namespace VerifiedBuild.Shell.Redirection

open Eval

def deviceDescriptor? (path : String) : Option Nat :=
  match path with
  | "/dev/stdin" => some 0
  | "/dev/stdout" => some 1
  | "/dev/stderr" => some 2
  | _ =>
      let start := "/dev/fd/".toList
      if start.isPrefixOf path.toList then Text.natural? (path.toList.drop start.length) else none

def refuse (message : String) : Eval Bool := do
  warn message
  setStatus errorStatus
  return false

def openingMessage (opening : Opening) (path : String) (error : FileError) : String :=
  let missing := Store.isMissing error
  if opening matches .read then
    "cannot open " ++ path ++ ": " ++ if missing then "No such file" else error.message
  else
    "cannot create " ++ path ++ ": " ++ if missing then "Directory nonexistent" else error.message

/-- Let a descriptor lead where another one does. The old one is closed first, so that a complaint
may have nowhere to go. -/
def copyDescriptor (number source : Nat) : Eval Bool := do
  let state ← get
  match state.descriptors.find? source with
  | none =>
      set { state with descriptors := state.descriptors.close number }
      refuse (toString source ++ ": " ++ FileError.badDescriptor.message)
  | some place =>
      set { state with descriptors := state.descriptors.bind number place }
      return true

def openFile (number : Nat) (opening : Opening) (path : String) : Eval Bool := do
  let state ← get
  match deviceDescriptor? path with
  | some source => copyDescriptor number source
  | none =>
      match state.system.openPath path opening with
      | .ok (place, system) =>
          set { state with system, descriptors := state.descriptors.bind number place }
          return true
      | .error error => refuse (openingMessage opening path error)

def perform (output : Command → Eval String) : Redirect → Eval Bool
  | .mk number opening target => do
      let text ← Expansion.textOf output target
      match opening with
      | .document =>
          let state ← get
          let (place, system) := state.system.addEnd (.supply text)
          set { state with system, descriptors := state.descriptors.bind number place }
          return true
      | .copy =>
          if text = "-" then
            modify fun state => { state with descriptors := state.descriptors.close number }
            return true
          else match Text.natural? text.toList with
            | some source => copyDescriptor number source
            | none => refuse "Bad fd number"
      | opening => openFile number opening text

def performAll (output : Command → Eval String) (redirects : List Redirect) : Eval Bool :=
  redirects.foldlM (fun worked redirect =>
    if worked then perform output redirect else return false) true

end VerifiedBuild.Shell.Redirection
