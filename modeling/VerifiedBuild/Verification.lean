import VerifiedBuild.Aggregate
import VerifiedBuild.Elapsed
import VerifiedBuild.Job
/-!
# Verification

How a program becomes verification units, and what is done with each: it is checked, prepared and
put to the solver. A unit that the engine itself translated but cannot check is printed, read back
and checked once more, for the sake of better messages; the outcome of the first check stands.
-/

namespace VerifiedBuild

variable {K : Toolkit}

/-! ## Names -/

/-- The file that holds a unit in printed form: named after the configured file, or in the directory
for temporary files after the program. -/
def unitFile (host : Host) (config : Config) (programFile unit : String) : String :=
  let dump := config.conditionsFile.getD
    (Path.join (host.temporaryDirectory config.scratchDirectory)
      (Path.withExtension (Path.fileName programFile) "vc"))
  Path.forUnit dump unit

def unitKey (lineage : Option String) (unit : String) : String :=
  lineage.getD "main_program_id" ++ "_" ++ unit

def reuseKey (config : Config) (lineage : Option String) (unit : String) : Option String :=
  if config.snapshotLevel > 1 then some (unitKey lineage unit) else none

/-! ## The units of a program -/

/-- Print a unit to the configured file; with several modules each has a file of its own. -/
def printUnit (modules : Nat) (conditionsFile : String) (unit : ProofUnit K) : Job K Unit :=
  match unit.program with
  | none => pure ()
  | some program => do
      let path := if modules > 1 then Path.forUnit conditionsFile unit.name else conditionsFile
      match ← Job.call (.print program path) with
      | none => pure ()
      | some error => Job.errorLine ("proofc: " ++ error)

def translateUnits (config : Config) (program : K.Program) : Job K (List (ProofUnit K)) :=
  Job.timed .translate do
    let modules ← Job.call (.countModules program)
    let units ← Job.call (.translate program)
    if let some conditionsFile := config.conditionsFile then
      units.forM (printUnit modules conditionsFile)
    Job.request (.count "translate.units" (UInt64.ofNat units.length))
    pure units

/-! ## One unit -/

def recheckNotice : String :=
  "*** Encountered internal translation error - " ++
    "re-running the proof engine to get better debug information"

def recheck (program : K.ProofProgram) (path : String) : Job K Unit := do
  match ← Job.call (.print program path) with
  | some error => Job.errorLine ("proofc: " ++ error)
  | none =>
      Job.writeLine ""
      Job.writeLine recheckNotice
      Job.writeLine ""
      match ← Job.call (.parse path) with
      | none => pure ()
      | some reparsed =>
          let _ ← Job.call (.check .reparsed reparsed path)

def passes : List Pass :=
  [.deadVariables, .modifiedSets, .blockMerging, .inlining]

def solve (program : K.ProofProgram) (reuseKey : Option String) : Job K Verdict := do
  Job.timed .optimize (passes.forM fun pass => Job.call (.transform pass program))
  Job.timed .solve (Job.call (.verify program reuseKey))

def checkAndSolve (program : K.ProofProgram) (path : String) (reuseKey : Option String) :
    Job K Verdict := do
  let outcome ← Job.timed .resolve (Job.call (.check .translated program path))
  match outcome with
  | .done => pure { outcome }
  | .unresolved | .illTyped =>
      recheck program path
      pure { outcome }
  | .checked => solve program reuseKey
  | unexpected => .fail (.unexpectedCheck unexpected)

def verifyUnit (config : Config) (programFile : String) (lineage : Option String)
    (unit : ProofUnit K) : Job K UnitReport :=
  match unit.program with
  | none => .fail (.unitWithoutProgram unit.name)
  | some program => do
      let path := unitFile (← Job.look) config programFile unit.name
      let answer ← checkAndSolve program path (reuseKey config lineage unit.name)
      let result := UnitReport.ofEngine unit.name answer.outcome answer.statistics
      Job.countOne (if result.verified then "units.verified" else "units.failed")
      pure result

/-! ## All units -/

def verifyNext (config : Config) (programFile : String) (lineage : Option String)
    (aggregate : Aggregate) (unit : ProofUnit K) : Job K Aggregate := do
  if config.reportUnits then Job.writeLine ("For module: " ++ unit.name)
  let start ← Job.clock
  let result ← verifyUnit config programFile lineage unit
  let stop ← Job.clock
  match aggregate.add result with
  | .error failure => .fail failure
  | .ok extended =>
      let took := stop - start
      if config.reportUnits then
        Job.writeLine ("Elapsed time: " ++ elapsedText took)
        Job.write result.statistics.trailer
      pure (extended.addTiming result.name took)

def verifyAll (config : Config) (programFile : String) (lineage : Option String)
    (units : List (ProofUnit K)) : Job K Aggregate :=
  units.foldlM (verifyNext config programFile lineage) {}

end VerifiedBuild
