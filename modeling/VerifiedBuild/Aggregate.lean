import VerifiedBuild.Failure
/-!
# Aggregate results

The results of the units of a program, taken together in the order the units were verified.
-/

namespace VerifiedBuild

structure UnitReport where
  name : String
  outcome : Outcome := .done
  statistics : Statistics := {}
  verified : Bool := false
deriving DecidableEq, Repr, Inhabited

/-- The result of a unit that the proof engine finished or gave up. -/
def UnitReport.ofEngine (name : String) (outcome : Outcome) (statistics : Statistics) :
    UnitReport :=
  { name, outcome, statistics, verified := isProved outcome statistics }

structure Aggregate where
  verified : Bool := true
  outcome : Outcome := .solved
  byUnit : NameMap Statistics := NameMap.empty
  /-- How many nanoseconds each unit took, in the order they were verified. -/
  timings : List (String × Nat) := []
deriving DecidableEq, Repr, Inhabited

namespace Aggregate

/-- The aggregate with one more unit; a name can occur only once. -/
def add (aggregate : Aggregate) (unit : UnitReport) : Except Failure Aggregate :=
  if aggregate.byUnit.contains unit.name then .error (.duplicateUnit unit.name)
  else .ok
    { aggregate with
      verified := aggregate.verified && unit.verified
      outcome := aggregate.outcome.merge unit.outcome
      byUnit := aggregate.byUnit.insert unit.name unit.statistics }

def addTiming (aggregate : Aggregate) (name : String) (nanoseconds : Nat) : Aggregate :=
  { aggregate with timings := aggregate.timings ++ [(name, nanoseconds)] }

def total (aggregate : Aggregate) : Statistics :=
  Statistics.total aggregate.byUnit

end Aggregate

end VerifiedBuild
