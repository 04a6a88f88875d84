/-!
# Configuration

What a run is asked to do.
-/

namespace VerifiedBuild

inductive Target where
  | cpp
  | javaScript
deriving DecidableEq, Repr, Inhabited

namespace Target

def ofName? (name : String) : Option Target :=
  if name = "cpp" then some .cpp else if name = "js" then some .javaScript else none

def extension : Target → String
  | .cpp => "cpp"
  | .javaScript => "js"

/-- Whether generated code has to be compiled to be of use. -/
def isCompiled : Target → Bool
  | .cpp => true
  | .javaScript => false

end Target

structure Config where
  /-- Translate and verify, and do not stop after parsing. -/
  verify : Bool := true
  noResolve : Bool := false
  noTypecheck : Bool := false
  separately : Bool := false
  /-- Look for snapshots of the program files unless negative; above one, reuse results. -/
  snapshotLevel : Int := -1
  reportUnits : Bool := false
  conditionsFile : Option String := none
  /-- The directory for temporary files; that of the system if empty. -/
  scratchDirectory : String := ""
  /-- The procedures to verify; all of them if empty. -/
  procedures : List String := []
  compile : Bool := true
  force : Bool := false
  runAfterwards : Bool := false
  /-- When to write generated code: from 1 along with a build, from 2 for verified programs, from 3
  always. -/
  spillLevel : Int := 0
  target : Target := .cpp
  /-- The file that generated files are named after; the first program file if absent. -/
  outputName : Option String := none
  optimize : Bool := false
  linkRuntime : Bool := false
  runtimeDirectory : String := ""
  compiler : String := "clang++"
  countErrors : Bool := true
  showStatistics : Bool := false
  showCallGraph : Bool := false
deriving DecidableEq, Repr, Inhabited

def Config.isUnrestricted (config : Config) : Bool :=
  config.procedures.isEmpty

end VerifiedBuild
