import VerifiedBuild.Failure
import VerifiedBuild.Host
/-!
# Plugins

A toolchain comes from a shared library named on the command line or in the environment. The library
must export both entry points and make a toolchain.
-/

namespace VerifiedBuild

def choosePlugin (host : Host) (requested : String) : String :=
  if requested ≠ "" then requested
  else (host.environment.find? "PROOFC_TOOLCHAIN").getD ""

/-- A shorter file cannot be a shared library, whatever it holds. -/
def libraryHeaderSize : Nat := 64

/-- The bytes that a shared library starts with: its mark, the class of its words, their order, a
version, and the system that it is for, filled up with zeros. -/
def libraryMark : Octets :=
  [0x7f, 0x45, 0x4c, 0x46, 2, 1, 1, 0, 0, 0, 0, 0, 0, 0, 0, 0]

def libraryMachine : Nat := 62

def segmentSize : Nat := 56

def unopened (error : FileError) : String :=
  "cannot open shared object file: " ++ error.message

/-- What is wrong with a file that holds no shared library. A file for another machine is passed
over as if it were not there. -/
def headerFault (content : Octets) : String :=
  let field := fun (start count : Nat) => (content.drop start).take count
  let number := fun (start count : Nat) => Octets.number (field start count)
  let agrees := fun (start count : Nat) => field start count = (libraryMark.drop start).take count
  if content.length < libraryHeaderSize then "file too short"
  else if !agrees 0 4 then "invalid ELF header"
  else if !agrees 4 1 then "wrong ELF class: ELFCLASS32"
  else if number 18 2 ≠ libraryMachine then unopened .noSuchFile
  else if !agrees 5 1 then "ELF file data encoding not little-endian"
  else if !agrees 6 1 then "ELF file version ident does not match current one"
  else if !agrees 7 1 ∧ content[7]? ≠ some 3 then "ELF file OS ABI invalid"
  else if !agrees 8 1 then "ELF file ABI version invalid"
  else if !agrees 9 7 then "nonzero padding in e_ident"
  else if number 20 4 ≠ 1 then "ELF file version does not match current one"
  else if number 16 2 ≠ 2 ∧ number 16 2 ≠ 3 then "only ET_DYN and ET_EXEC can be loaded"
  else if number 54 2 ≠ segmentSize then "ELF file's phentsize not the expected size"
  else if number 56 2 ≠ 0 ∧ content.length < number 32 8 + number 56 2 * segmentSize then
    "cannot read file data"
  else "object file has no loadable segments"

/-- A way to open the shared library in a file; without one, the reason. -/
abbrev Loader := Store → String → Except String PluginLibrary

/-- Open a library that the store holds as one. A name without a slash is looked for among the
libraries of the system only. -/
def openLibrary (store : Store) (path : String) : Except String PluginLibrary :=
  if !path.toList.contains '/' then
    .error (unopened .noSuchFile)
  else match store.stat path with
    | .ok (.plugin library) => .ok library
    | .ok .directory => .error ("cannot read file data: " ++ FileError.isDirectory.message)
    | .ok (.file content _) => .error (headerFault content)
    | .ok (.device .null) => .error "file too short"
    | .ok (.device .full) => .error "invalid ELF header"
    | .ok (.utility _) => .error "cannot dynamically load position-independent executable"
    | .error error => .error (unopened error)

/-- Load the plugin in a file. Of two missing entry points the second one is reported; when only the
first is missing, the reason has been forgotten by then. -/
def loadPlugin (store : Store) (path : String) (loader : Loader := openLibrary) :
    Except PluginError Unit :=
  match loader store path with
  | .error reason => .error (.notLoaded path (path ++ ": " ++ reason))
  | .ok library =>
      if !library.exportsDestroy then
        .error (.missingSymbols path (path ++ ": undefined symbol: proofc_destroy_toolchain"))
      else if !library.exportsCreate then .error (.missingSymbols path "unknown error")
      else if !library.makesToolchain then .error (.noToolchain path)
      else .ok ()

end VerifiedBuild
