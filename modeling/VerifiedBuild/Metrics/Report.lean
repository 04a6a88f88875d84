import VerifiedBuild.Metrics
import VerifiedBuild.Metrics.Milliseconds
/-!
# Metrics reports

The registry as text for people and as JSON. A disabled registry has an empty report.
-/

namespace VerifiedBuild

inductive ReportFormat where
  | text
  | json
deriving DecidableEq, Repr, Inhabited

def upperHexDigit (value : Nat) : Char :=
  Char.ofNat (if value < 10 then '0'.toNat + value else 'A'.toNat + (value - 10))

/-- A character of a JSON string: quotes, backslashes and control characters are escaped. -/
def escapeChar (c : Char) : List Char :=
  if c = '"' then ['\\', '"']
  else if c = '\\' then ['\\', '\\']
  else if c = '\x08' then ['\\', 'b']
  else if c = '\x0c' then ['\\', 'f']
  else if c = '\n' then ['\\', 'n']
  else if c = '\r' then ['\\', 'r']
  else if c = '\t' then ['\\', 't']
  else if c.toNat < 32 then
    ['\\', 'u', '0', '0', upperHexDigit (c.toNat / 16), upperHexDigit (c.toNat % 16)]
  else [c]

def escapeText (text : String) : String :=
  String.ofList (text.toList.flatMap escapeChar)

namespace Metrics

def toText (metrics : Metrics) : String :=
  if !metrics.enabled then ""
  else
    "== Metrics ==\n" ++
      String.join (metrics.durations.map fun (phase, nanoseconds) =>
        "  " ++ phase.name ++ ": " ++ milliseconds nanoseconds ++ " ms\n") ++
      "  Counters (" ++ toString metrics.counters.size ++ "):\n" ++
      String.join (metrics.counters.entries.map fun (key, value) =>
        "    - " ++ key ++ ": " ++ toString value.toNat ++ "\n")

def durationToJson (phase : Phase) (nanoseconds : UInt64) : String :=
  "\n    \x7b\"phase\": \"" ++ phase.name ++ "\", \"ns\": " ++ toString nanoseconds.toNat ++ "\x7d"

def counterToJson (key : String) (value : UInt64) : String :=
  " \"" ++ escapeText key ++ "\": " ++ toString value.toNat

def toJson (metrics : Metrics) : String :=
  if !metrics.enabled then ""
  else
    "\x7b\n  \"durations_ns\": [" ++
      String.intercalate "," (metrics.durations.map fun (phase, ns) => durationToJson phase ns) ++
      "\n  ],\n  \"counters\": \x7b" ++
      String.intercalate "," (metrics.counters.entries.map fun (key, n) => counterToJson key n) ++
      " \x7d\n\x7d\n"

def render (metrics : Metrics) : ReportFormat → String
  | .text => metrics.toText
  | .json => metrics.toJson

def reportIf (metrics : Metrics) (wanted : Bool) (format : ReportFormat) : String :=
  if wanted then metrics.render format else ""

end Metrics

end VerifiedBuild
