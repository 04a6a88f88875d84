import VerifiedBuild.Failure
import VerifiedBuild.Diagnostic
import VerifiedBuild.Native
import VerifiedBuild.Host
/-!
# Toolchains

The collaborators of a run: a front end that parses programs, a translator into verification units,
a proof engine, code generators, and a native compiler. What they do is not known here. A run makes
*calls* to them, and each call gets a *reply*: the answer or a failure, and what else happened
during the call. The programs they pass around are opaque values of the toolkit's types.
-/

namespace VerifiedBuild

structure Toolkit where
  Program : Type
  ProofProgram : Type

/-- Something to verify: a named program of the proof engine, if it has one. -/
structure ProofUnit (K : Toolkit) where
  name : String
  program : Option K.ProofProgram

/-- What the front end answers: the program, or an error in the sources, or even both. -/
structure ParseReport (K : Toolkit) where
  program : Option K.Program := none
  error : Option String := none

structure Verdict where
  outcome : Outcome := .solved
  statistics : Statistics := {}
deriving DecidableEq, Repr, Inhabited

inductive Pass where
  | deadVariables
  | modifiedSets
  | blockMerging
  | inlining
deriving DecidableEq, Repr, Inhabited

/-- Where a program of the proof engine comes from: the translator, or its own printed form. -/
inductive Origin where
  | translated
  | reparsed
deriving DecidableEq, Repr, Inhabited

inductive CallKind where
  | readProgram
  | showStatistics
  | showCallGraph
  | countModules
  | translate
  | check
  | transform (pass : Pass)
  | verify
  | print
  | parse
  | provides
  | hasEntryPoint
  | generate
  | build
  | run
deriving DecidableEq, Repr, Inhabited

inductive Call (K : Toolkit) where
  | readProgram (name : String) (files : List Source)
  | showStatistics (program : K.Program)
  | showCallGraph (program : K.Program)
  | countModules (program : K.Program)
  | translate (program : K.Program)
  | check (origin : Origin) (program : K.ProofProgram) (fileName : String)
  | transform (pass : Pass) (program : K.ProofProgram)
  | verify (program : K.ProofProgram) (reuseKey : Option String)
  | print (program : K.ProofProgram) (path : String)
  | parse (path : String)
  | provides (target : Target)
  | hasEntryPoint (target : Target) (program : K.Program)
  | generate (target : Target) (program : K.Program)
  | build (plan : BuildPlan)
  | run (artifact : String)

namespace Call

variable {K : Toolkit}

@[reducible] def Answer : Call K → Type
  | .readProgram _ _ => ParseReport K
  | .showStatistics _ => Unit
  | .showCallGraph _ => Unit
  | .countModules _ => Nat
  | .translate _ => List (ProofUnit K)
  | .check _ _ _ => Outcome
  | .transform _ _ => Unit
  | .verify _ _ => Verdict
  | .print _ _ => Option String
  | .parse _ => Option K.ProofProgram
  | .provides _ => Bool
  | .hasEntryPoint _ _ => Bool
  | .generate _ _ => String
  | .build _ => BuildReport
  | .run _ => RunReport

def kind : Call K → CallKind
  | .readProgram _ _ => .readProgram
  | .showStatistics _ => .showStatistics
  | .showCallGraph _ => .showCallGraph
  | .countModules _ => .countModules
  | .translate _ => .translate
  | .check _ _ _ => .check
  | .transform pass _ => .transform pass
  | .verify _ _ => .verify
  | .print _ _ => .print
  | .parse _ => .parse
  | .provides _ => .provides
  | .hasEntryPoint _ _ => .hasEntryPoint
  | .generate _ _ => .generate
  | .build _ => .build
  | .run _ => .run

def isNative : Call K → Bool
  | .build _ | .run _ => true
  | _ => false

end Call

/-- How a collaborator shows a diagnostic: in the coordinates of the sources, or in those of the
proof engine. -/
inductive Channel where
  | source
  | engine
deriving DecidableEq, Repr, Inhabited

/-- What happened during a call: the diagnostics reported, the text put on the output stream, what
child processes wrote to the streams of the process, the time taken, the host afterwards, and the
answer or the failure raised. -/
structure Reply {K : Toolkit} (call : Call K) where
  reports : List (Channel × Diagnostic) := []
  printed : String := ""
  childOut : String := ""
  childErr : String := ""
  nanoseconds : Nat := 0
  host : Host
  result : Except Failure call.Answer

/-- The collaborators: how each call is replied to, given all calls before it and the host. -/
abbrev Collaborators (K : Toolkit) :=
  List (Call K) → (call : Call K) → Host → Reply call

end VerifiedBuild
