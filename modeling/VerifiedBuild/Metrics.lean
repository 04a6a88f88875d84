import VerifiedBuild.NameMap
/-!
# Metrics

A registry of how long the phases of a run took and of named counters. Nothing is recorded while the
registry is disabled.
-/

namespace VerifiedBuild

inductive Phase where
  | translate
  | resolve
  | optimize
  | solve
  | generate
  | build
  | run
  | other (code : Int)
deriving DecidableEq, Repr, Inhabited

namespace Phase

def name : Phase → String
  | .translate => "Translate"
  | .resolve => "Resolve"
  | .optimize => "Optimize"
  | .solve => "Solve"
  | .generate => "CodeGen"
  | .build => "NativeBuild"
  | .run => "Run"
  | .other _ => "Unknown"

end Phase

/-- Phase durations in nanoseconds, in the order the phases ended, and counters by name. -/
structure Metrics where
  enabled : Bool := false
  durations : List (Phase × UInt64) := []
  counters : NameMap UInt64 := NameMap.empty
deriving DecidableEq, Repr, Inhabited

namespace Metrics

def addDuration (metrics : Metrics) (phase : Phase) (nanoseconds : UInt64) : Metrics :=
  { metrics with durations := metrics.durations ++ [(phase, nanoseconds)] }

def recordPhase (metrics : Metrics) (phase : Phase) (nanoseconds : UInt64) : Metrics :=
  if metrics.enabled then metrics.addDuration phase nanoseconds else metrics

def increment (metrics : Metrics) (key : String) (amount : UInt64) : Metrics :=
  if metrics.enabled then
    { metrics with counters := metrics.counters.alter key fun value => value.getD 0 + amount }
  else metrics

end Metrics

end VerifiedBuild
