import VerifiedBuild.Source
import VerifiedBuild.Store
/-!
# Inputs

Sorting the inputs of a command line into program files and native files. A program file must exist,
or have a first snapshot when snapshots are looked for; native files need not.
-/

namespace VerifiedBuild

inductive Refusal where
  | notFound (input : String)
  | unsupported (input : String)
deriving DecidableEq, Repr, Inhabited

def Refusal.message : Refusal → String
  | .notFound input => "*** Error: '" ++ input ++ "': file not found"
  | .unsupported input =>
      "*** Error: '" ++ input ++ "': Filename extension '" ++ Path.extension input ++
        "' is not supported. Input files must be proof programs (.prf), " ++
        "C++ sources (.cc, .cpp) or native libraries (.a, .so)"

/-- The inputs before the first that is refused, by use, and that refusal. -/
structure Inputs where
  programs : List Source := []
  others : List Source := []
  refusal : Option Refusal := none
deriving DecidableEq, Repr, Inhabited

namespace Inputs

/-- Whether a program file, or its first snapshot if those count, exists. -/
def isPresent (store : Store) (snapshots : Bool) (path : String) : Bool :=
  store.pathExists path || (snapshots && store.pathExists (Path.snapshot path 0))

def accept (store : Store) (snapshots : Bool) (input : String) : Except Refusal Source :=
  match SourceRole.ofPath? input with
  | none => .error (.unsupported input)
  | some .program =>
      if isPresent store snapshots input then .ok ⟨input, .program⟩
      else .error (.notFound input)
  | some role => .ok ⟨input, role⟩

def cons (source : Source) (inputs : Inputs) : Inputs :=
  match source.role with
  | .program => { inputs with programs := source :: inputs.programs }
  | _ => { inputs with others := source :: inputs.others }

def ofPaths (store : Store) (snapshots : Bool) : List String → Inputs
  | [] => {}
  | path :: rest =>
      match accept store snapshots path with
      | .error refusal => { refusal := some refusal }
      | .ok source => (ofPaths store snapshots rest).cons source

end Inputs

end VerifiedBuild
