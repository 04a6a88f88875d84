import VerifiedBuild.Generation
import VerifiedBuild.Snapshot
import VerifiedBuild.Verification
/-!
# Making programs

How the program files of a run become programs, and how each program is made: it is parsed,
translated, verified and, as far as the verdict allows, compiled. Files form one program together
unless they are to be verified separately; when snapshots are looked for, each version of them is a
program of its own.
-/

namespace VerifiedBuild

variable {K : Toolkit}

/-! ## One program -/

/-- The name of a program: its file, if there is only one. -/
def jointName (files : List Source) : String :=
  match files with
  | [file] => file.path
  | _ => "the program"

def Config.verifies (config : Config) : Bool :=
  !config.noResolve && !config.noTypecheck && config.verify

/-- Verify a program and generate code for it. The units are named after the last file, generated
code after the first unless the configuration names a file. -/
def verifyAndCompile (config : Config) (program : K.Program) (first last : Source)
    (others : List Source) (lineage : Option String) : Job K ExitStatus := do
  let units ← translateUnits config program
  let aggregate ← verifyAll config (Path.fileName last.path) lineage units
  let fileName := config.outputName.getD first.path
  let compiled ← concludeProgram config aggregate.outcome aggregate.byUnit program
    aggregate.verified fileName others
  pure (ExitStatus.ofResults aggregate.verified compiled.status.isFulfilled
    (compiled.status = .unwritten))

/-- The status of a program that the front end accepts; it may be that it was only to be parsed. -/
def judgeProgram (config : Config) (program : K.Program) (first last : Source)
    (others : List Source) (lineage : Option String) : Job K ExitStatus :=
  if config.verifies then verifyAndCompile config program first last others lineage
  else pure .verified

def printReports (config : Config) (program : K.Program) : Job K Unit := do
  if config.showStatistics then Job.call (.showStatistics program)
  if config.showCallGraph then Job.call (.showCallGraph program)

def makeParsed (config : Config) (program : K.Program) (first last : Source)
    (others : List Source) (lineage : Option String) : Job K ExitStatus := do
  let status ← judgeProgram config program first last others lineage
  printReports config program
  pure status

def makeProgram (config : Config) (files others : List Source) (lineage : Option String) :
    Job K ExitStatus :=
  match files with
  | [] => .fail .noProgramFiles
  | first :: rest => do
      let last := (first :: rest).getLast (List.cons_ne_nil first rest)
      let parsed : ParseReport K ← Job.call (.readProgram (jointName files) files)
      match parsed.error, parsed.program with
      | some error, _ =>
          Job.errorLine error
          pure .notCompiled
      | none, none => pure .verified
      | none, some program => makeParsed config program first last others lineage

/-! ## All programs -/

/-- Make a program of each version of the files. Native files are left out. -/
def makeSnapshots (config : Config) (files : List Source) (lineage : Option String) :
    Job K ExitStatus := do
  let host ← Job.look
  let groups := Snapshot.groups host.store (files.map (·.path))
  groups.foldlM (fun status group => do
    let next ← makeProgram config (Source.programs group) [] lineage
    pure (status.merge next)) .verified

/-- Make what files that belong together stand for: one program, or one for each version. -/
def makeTogether (config : Config) (files others : List Source) (snapshots : Bool)
    (lineage : Option String) : Job K ExitStatus :=
  if config.snapshotLevel ≥ 0 ∧ snapshots then makeSnapshots config files lineage
  else makeProgram config files others lineage

def fileHeader (path : String) : String :=
  "-------------------- " ++ path ++ " --------------------"

/-- Make one of several files on its own. Native files are left out. -/
def makeSeparately (config : Config) (snapshots : Bool) (file : Source) :
    Job K ExitStatus := do
  Job.writeLine ""
  Job.writeLine (fileHeader file.path)
  makeTogether config [file] [] snapshots (some file.path)

/-- Make the programs of a run. The last failure is the status. -/
def makeFiles (config : Config) (files others : List Source) (snapshots : Bool)
    (lineage : Option String) : Job K ExitStatus :=
  if config.separately ∧ files.length > 1 then
    files.foldlM (fun status file => do
      let next ← makeSeparately config snapshots file
      pure (status.merge next)) .verified
  else makeTogether config files others snapshots lineage

def makeAll (config : Config) (files others : List Source) : Job K ExitStatus :=
  makeFiles config files others true none

end VerifiedBuild
