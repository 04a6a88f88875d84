import VerifiedBuild.Statistics
import VerifiedBuild.Diagnostic
/-!
# The console

Where a run puts its text: ordinary lines on the output stream, error lines on the error stream.
Error lines can be copied to one log at a time. The console also counts the diagnostics shown on it.
All text is kept as one transcript, so that the order across streams is not lost; the text of one
stream is a view of it. What child processes write to the streams of the process is part of it.
-/

namespace VerifiedBuild

inductive Stream where
  | out
  | err
  | log (index : Nat)
  | childOut
  | childErr
deriving DecidableEq, Repr, Inhabited

structure Emission where
  stream : Stream
  text : String
deriving DecidableEq, Repr, Inhabited

structure Tally where
  errors : Nat := 0
  warnings : Nat := 0
  infos : Nat := 0
deriving DecidableEq, Repr, Inhabited

def Tally.add (tally : Tally) : Severity → Tally
  | .error => { tally with errors := tally.errors + 1 }
  | .warning => { tally with warnings := tally.warnings + 1 }
  | .info => { tally with infos := tally.infos + 1 }

/-- All text so far, the log that gets copies of error lines, and the diagnostics shown. -/
structure Console where
  transcript : List Emission := []
  errorLog : Option Nat := none
  tally : Tally := {}
deriving DecidableEq, Repr, Inhabited

def Stream.text (stream : Stream) (transcript : List Emission) : String :=
  String.join ((transcript.filter (·.stream = stream)).map (·.text))

theorem Stream.text_append (stream : Stream) (before after : List Emission) :
    stream.text (before ++ after) = stream.text before ++ stream.text after := by
  simp [Stream.text]

namespace Console

/-! ## Writing -/

def add (console : Console) (emission : Emission) : Console :=
  { console with transcript := console.transcript ++ [emission] }

def emit (console : Console) (stream : Stream) (text : String) : Console :=
  console.add ⟨stream, text⟩

def write (console : Console) (text : String) : Console :=
  console.emit .out text

def writeLine (console : Console) (line : String) : Console :=
  console.write (line ++ "\n")

def errorLine (console : Console) (line : String) : Console :=
  let shown := console.emit .err (line ++ "\n")
  match console.errorLog with
  | none => shown
  | some index => shown.emit (.log index) (line ++ "\n")

def complain (console : Console) (text : String) : Console :=
  console.emit .err text

/-! ## Diagnostics -/

/-- Show and count a diagnostic: errors on the error stream, all others on the output stream. -/
def report (console : Console) (diagnostic : Diagnostic) : Console :=
  let counted := { console with tally := console.tally.add diagnostic.severity }
  if diagnostic.severity = .error then counted.errorLine diagnostic.render
  else counted.writeLine diagnostic.render

/-- Show a diagnostic of the proof engine in the coordinates of the sources. -/
def reportFromEngine (console : Console) (diagnostic : Diagnostic) : Console :=
  diagnostic.inSource.foldl report console

/-! ## Actions -/

inductive Action where
  | line (text : String)
  | advisory (text : String)
  | error (text : String)
  | raw (text : String)
  | copyErrorsTo (log : Option Nat)
  | trailer (statistics : Statistics)
  | report (diagnostic : Diagnostic)
  | engineReport (diagnostic : Diagnostic)
deriving DecidableEq, Repr

def perform (console : Console) : Action → Console
  | .line text => console.writeLine text
  | .advisory text => console.writeLine text
  | .error text => console.errorLine text
  | .raw text => console.write text
  | .copyErrorsTo log => { console with errorLog := log }
  | .trailer statistics => console.write statistics.trailer
  | .report diagnostic => console.report diagnostic
  | .engineReport diagnostic => console.reportFromEngine diagnostic

def performAll (console : Console) (actions : List Action) : Console :=
  actions.foldl perform console

theorem performAll_append (console : Console) (first second : List Action) :
    console.performAll (first ++ second) = (console.performAll first).performAll second :=
  List.foldl_append

end Console

end VerifiedBuild
