import VerifiedBuild.NameMap
/-!
# Verification statistics

How many proof obligations ended in which way. Fresh results and results taken from a cache are
counted apart; all counters are unsigned 64-bit numbers and wrap around.
-/

namespace VerifiedBuild

structure VerdictCounts where
  verified : UInt64 := 0
  errors : UInt64 := 0
  inconclusive : UInt64 := 0
  timeouts : UInt64 := 0
  outOfMemory : UInt64 := 0
deriving DecidableEq, Repr, Inhabited

/-- What a run of the proof engine counted: fresh results, and results reused from a cache. -/
structure Statistics where
  fresh : VerdictCounts := {}
  cached : VerdictCounts := {}
deriving DecidableEq, Repr, Inhabited

namespace VerdictCounts

def add (a b : VerdictCounts) : VerdictCounts where
  verified := a.verified + b.verified
  errors := a.errors + b.errors
  inconclusive := a.inconclusive + b.inconclusive
  timeouts := a.timeouts + b.timeouts
  outOfMemory := a.outOfMemory + b.outOfMemory

instance : Add VerdictCounts := ⟨add⟩

def anyFailure (counts : VerdictCounts) : Bool :=
  counts.errors ≠ 0 || counts.inconclusive ≠ 0 || counts.timeouts ≠ 0 || counts.outOfMemory ≠ 0

def counted (count : UInt64) (noun : String) : String :=
  toString count.toNat ++ " " ++ noun ++ (if count = 1 then "" else "s")

def optionalPart (count : UInt64) (text : String) : String :=
  if count = 0 then "" else ", " ++ text

/-- `N verified, M errors`, then the kinds of failure that occurred. -/
def describe (counts : VerdictCounts) : String :=
  toString counts.verified.toNat ++ " verified, " ++ counted counts.errors "error" ++
    optionalPart counts.inconclusive (counted counts.inconclusive "inconclusive") ++
    optionalPart counts.timeouts (counted counts.timeouts "time out") ++
    optionalPart counts.outOfMemory (toString counts.outOfMemory.toNat ++ " out of memory")

end VerdictCounts

namespace Statistics

def add (a b : Statistics) : Statistics :=
  ⟨a.fresh + b.fresh, a.cached + b.cached⟩

instance : Add Statistics := ⟨add⟩

def anyFailure (statistics : Statistics) : Bool :=
  statistics.fresh.anyFailure

def anyCached (statistics : Statistics) : Bool :=
  statistics.cached ≠ {}

def total (byUnit : NameMap Statistics) : Statistics :=
  byUnit.values.foldl (· + ·) {}

/-- The closing summary: a blank line, the fresh results, and the cached ones if there are any. -/
def trailer (statistics : Statistics) : String :=
  "\nproofc finished with " ++ statistics.fresh.describe ++ "\n" ++
    (if statistics.anyCached then "  cached: " ++ statistics.cached.describe ++ "\n" else "")

end Statistics

end VerifiedBuild
