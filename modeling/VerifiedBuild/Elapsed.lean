import VerifiedBuild.Metrics.Milliseconds
/-!
# Elapsed time

A duration shown as hours, minutes and seconds. Fractions of a second are cut off; minutes and
seconds take two digits, hours at least two.
-/

namespace VerifiedBuild

def twoPlaces (value : Int) : String :=
  zeroPadded 2 (toString value)

def elapsedText (nanoseconds : Int) : String :=
  let seconds := nanoseconds.tdiv 1000000000
  twoPlaces (seconds.tdiv 3600) ++ ":" ++ twoPlaces ((seconds.tmod 3600).tdiv 60) ++ ":" ++
    twoPlaces (seconds.tmod 60)

end VerifiedBuild
