import VerifiedBuild.Toolchain
/-!
# Rehearsals

Collaborators that follow a script instead of working: every answer is written down beforehand, so
that a run can be rehearsed without a proof engine or a compiler. A script may also make one kind of
call raise a failure.
-/

namespace VerifiedBuild.Rehearsal

/-! ## Scripts -/

structure Part where
  name : String := ""
  check : Outcome := .checked
  verify : Outcome := .solved
  statistics : Statistics := {}
  checkDiagnostics : List Diagnostic := []
  diagnostics : List Diagnostic := []
  absent : Bool := false
deriving DecidableEq, Repr, Inhabited

structure GeneratorScript where
  hasEntryPoint : Bool := true
  text : String := "int main() \x7b return 0; \x7d\n"
  diagnostics : List Diagnostic := []
  missing : Bool := false
deriving DecidableEq, Repr, Inhabited

structure Trap where
  kind : CallKind
  failure : Failure
deriving DecidableEq, Repr, Inhabited

/-- What all collaborators do. What is given for a program by name goes before what holds for all.
-/
structure Script where
  parts : List Part := []
  partsByProgram : NameMap (List Part) := NameMap.empty
  moduleCount : Option Nat := none
  error : Option String := none
  errorsByProgram : NameMap String := NameMap.empty
  noProgram : Bool := false
  frontendDiagnostics : List Diagnostic := []
  parseDiagnostics : List Diagnostic := []
  reparseDiagnostics : List Diagnostic := []
  failPrint : Bool := false
  failParse : Bool := false
  cpp : GeneratorScript := {}
  javaScript : GeneratorScript := {}
  trap : Option Trap := none
  build : BuildReport := { ok := true }
  run : RunReport := .exited 0
deriving DecidableEq, Repr, Inhabited

/-- Programs are known by name, and verification units by their part of the script. -/
def toolkit : Toolkit where
  Program := String
  ProofProgram := Part

def Part.unit (part : Part) : ProofUnit toolkit :=
  { name := part.name, program := if part.absent then none else some part }

namespace Script

def partsOf (script : Script) (program : String) : List Part :=
  (script.partsByProgram.find? program).getD script.parts

def errorOf (script : Script) (program : String) : Option String :=
  (script.errorsByProgram.find? program).or script.error

def generator (script : Script) : Target → GeneratorScript
  | .cpp => script.cpp
  | .javaScript => script.javaScript

end Script

/-! ## Replies -/

def viaSource (diagnostics : List Diagnostic) : List (Channel × Diagnostic) :=
  diagnostics.map (.source, ·)

def viaEngine (diagnostics : List Diagnostic) : List (Channel × Diagnostic) :=
  diagnostics.map (.engine, ·)

/-- Print a unit: its name as the only line of a file. -/
def printPart (failing : Bool) (part : Part) (path : String) (host : Host) : Option String × Host :=
  if failing then (some ("cannot write " ++ path), host)
  else match host.store.write path (part.name ++ "\n") with
    | (some (.cannotOpen _), _) => (some ("cannot open " ++ path), host)
    | (_, store) => (none, { host with store })

def firstLine? (host : Host) (path : String) : Option String :=
  match host.store.read? path with
  | none | some "" => none
  | some text => some (String.ofList (text.toList.takeWhile (· ≠ '\n')))

/-- Read a unit back: it is known by name only and fails to resolve. -/
def parsePart (script : Script) (path : String) (host : Host) : Option Part :=
  if script.failParse then none
  else (firstLine? host path).map fun name =>
    { name, check := .unresolved, checkDiagnostics := script.reparseDiagnostics }

def reply (script : Script) (toCall : Call toolkit) (host : Host) : Reply toCall :=
  match toCall with
  | .readProgram name _ =>
      { reports := viaSource script.frontendDiagnostics
        host
        result := .ok { program := if script.noProgram then none else some name
                        error := script.errorOf name } }
  | .showStatistics (name : String) =>
      { printed := "stats of " ++ name ++ "\n", host, result := .ok () }
  | .showCallGraph (name : String) =>
      { printed := "call graph of " ++ name ++ "\n", host, result := .ok () }
  | .countModules name =>
      { host, result := .ok (script.moduleCount.getD (script.partsOf name).length) }
  | .translate name => { host, result := .ok ((script.partsOf name).map Part.unit) }
  | .check _ (part : Part) _ =>
      { reports := viaEngine part.checkDiagnostics, host, result := .ok part.check }
  | .transform _ _ => { host, result := .ok () }
  | .verify (part : Part) _ =>
      { reports := viaEngine part.diagnostics
        host
        result := .ok { outcome := part.verify, statistics := part.statistics } }
  | .print part path =>
      let (error, after) := printPart script.failPrint part path host
      { host := after, result := .ok error }
  | .parse path =>
      { reports := viaEngine script.parseDiagnostics
        host
        result := .ok (parsePart script path host) }
  | .provides target => { host, result := .ok !(script.generator target).missing }
  | .hasEntryPoint target _ => { host, result := .ok (script.generator target).hasEntryPoint }
  | .generate target _ =>
      { reports := viaSource (script.generator target).diagnostics
        host
        result := .ok (script.generator target).text }
  | .build _ => { host, result := .ok script.build }
  | .run _ => { host, result := .ok script.run }

def collaborators (script : Script) : Collaborators toolkit :=
  fun _ toCall host =>
    match script.trap with
    | some trap =>
        if trap.kind = toCall.kind then { host, result := .error trap.failure }
        else reply script toCall host
    | none => reply script toCall host

end VerifiedBuild.Rehearsal
