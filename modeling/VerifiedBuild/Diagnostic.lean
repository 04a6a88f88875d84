/-!
# Diagnostics

Messages about places in source files. The proof engine counts columns from one more than the
sources do and may say where a location was derived from. For display its diagnostics are put into
the coordinates of the sources: columns move by one, and each origin becomes a message of its own.
-/

namespace VerifiedBuild

inductive Severity where
  | error
  | warning
  | info
deriving DecidableEq, Repr, Inhabited

namespace Severity

def label : Severity → String
  | .error => "Error"
  | .warning => "Warning"
  | .info => "Info"

end Severity

structure Position where
  file : String := ""
  line : Int := 0
  column : Int := 0
deriving DecidableEq, Repr, Inhabited

namespace Position

def inSource (position : Position) : Position :=
  { position with column := if position.column > 0 then position.column - 1 else 0 }

def lead (position : Position) : String :=
  if position.file = "" then ""
  else position.file ++ "(" ++ toString position.line ++ "," ++ toString position.column ++ "): "

end Position

/-- A place together with the places it was derived from, outermost first. -/
structure Location extends Position where
  origins : List Position := []
deriving DecidableEq, Repr, Inhabited

def Location.inSource (location : Location) : Location :=
  { location.toPosition.inSource with origins := [] }

structure Diagnostic where
  severity : Severity := .error
  location : Location := {}
  message : String := ""
  category : String := ""
deriving DecidableEq, Repr, Inhabited

namespace Diagnostic

def render (diagnostic : Diagnostic) : String :=
  diagnostic.location.lead ++ diagnostic.severity.label ++
    (if diagnostic.category = "" then "" else " (" ++ diagnostic.category ++ ")") ++
    ": " ++ diagnostic.message

/-- The note about a place that the location of a diagnostic was derived from. -/
def related (category : String) (origin : Position) : Diagnostic where
  severity := .info
  location := { origin.inSource with }
  message := "Related location"
  category := category

/-- The diagnostics that stand for one of the proof engine: itself, then a note for each origin. -/
def inSource (diagnostic : Diagnostic) : List Diagnostic :=
  { diagnostic with location := diagnostic.location.inSource } ::
    diagnostic.location.origins.map (related diagnostic.category)

end Diagnostic

end VerifiedBuild
