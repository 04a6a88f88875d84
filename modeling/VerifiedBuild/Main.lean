import VerifiedBuild.Application
import VerifiedBuild.Console.Standard
import VerifiedBuild.Rehearsal
/-!
# The command line

The layer between the process and the application. It hands over the arguments, the environment and
the files that the command line names, and passes on the text, the changed files and the exit code.
Libraries cannot be called from here, so each counts as one that makes no toolchain.
-/

namespace VerifiedBuild.CommandLine

def environmentVariables : List String :=
  "PROOFC_TOOLCHAIN" :: "PATH" :: Host.temporaryVariables

def readEnvironment : IO (NameMap String) :=
  environmentVariables.foldlM (fun environment name => do
    return match ← IO.getEnv name with
      | some value => environment.insert name value
      | none => environment) NameMap.empty

/-- The entry for a path, if there is anything. What is no text counts as a library. -/
def readNode? (path : String) : IO (Option Node) := do
  match ← (IO.FS.readBinFile path).toBaseIO with
  | .ok bytes =>
      return some <| match String.fromUTF8? bytes with
        | some _ => .file bytes.toList false
        | none => .plugin ⟨true, true, false⟩
  | .error (.inappropriateType ..) => return some .directory
  | .error _ => return none

def loadPath (store : Store) (path : String) : IO (Store × Bool) := do
  match ← readNode? path with
  | some node => return (store.put path node, true)
  | none => return (store, false)

def maxSnapshots : Nat := 1000

def loadFile (store : Store) (path : String) : IO Store := do
  let mut (store, _) ← loadPath store path
  for version in [0:maxSnapshots] do
    let (extended, found) ← loadPath store (Path.snapshot path version)
    if !found then break
    store := extended
  return store

/-- The paths that the command line and the environment name, other than program files. -/
def namedPaths (options : Options) (environment : NameMap String) : List String :=
  let config := options.config
  let written := options.logFile :: (config.conditionsFile.toList ++ config.outputName.toList)
  [options.pluginFile, config.scratchDirectory, collectionsLibrary config] ++
    written.map directoryOf ++ environment.values

/-- The part of the file system that a run depends on. -/
def readStore (options : Options) (environment : NameMap String) : IO Store := do
  let directory := (← IO.currentDir).toString
  let start : Store := { Store.standard with workingDirectory := Store.components directory }
  let base := start.put directory .directory
  let named ← ((namedPaths options environment).filter (· ≠ "")).foldlM
    (fun store path => return (← loadPath store path).1) base
  options.inputs.foldlM loadFile named

def writeFiles (before after : Store) : IO Unit :=
  (Store.changedFiles id before after).forM fun (path, content) =>
    match content with
    | .bytes bytes => IO.FS.writeBinFile path ⟨bytes.toArray⟩
    | .plugin _ => pure ()

def printTranscript (transcript : List Emission) : IO Unit := do
  IO.print (Stream.standardOutput transcript)
  IO.eprint (Stream.standardError transcript)

def run (name : String) (arguments : List String) : IO Int := do
  let tokens := name :: arguments
  let environment ← readEnvironment
  let store ← readStore (Options.parse tokens).options environment
  let host : Host := { environment, store, programDirectory := directoryOf name }
  let machine : Machine Rehearsal.toolkit := { host }
  let argv := tokens.map some
  let (code, after) := runCommandLine (Rehearsal.collaborators {}) tokens.length (some argv) machine
  printTranscript after.console.transcript
  writeFiles store after.host.store
  return code

end VerifiedBuild.CommandLine

def main (arguments : List String) : IO UInt32 := do
  let code ← VerifiedBuild.CommandLine.run (← IO.appPath).toString arguments
  return UInt32.ofNat code.toNat
