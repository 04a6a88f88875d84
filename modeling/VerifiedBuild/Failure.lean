import VerifiedBuild.Outcome
/-!
# Failures

What ends a run early. A failure is either noticed by the run itself or raised by a collaborator;
its kind decides how the process reports it.
-/

namespace VerifiedBuild

inductive FailureKind where
  | config
  | backend
  | pipeline
  | toolchain
  | general
  | foreign
deriving DecidableEq, Repr, Inhabited

inductive PluginError where
  | notLoaded (path reason : String)
  | missingSymbols (path reason : String)
  | noToolchain (path : String)
deriving DecidableEq, Repr, Inhabited

def PluginError.message : PluginError → String
  | .notLoaded path reason => "cannot load toolchain plugin '" ++ path ++ "': " ++ reason
  | .missingSymbols path reason =>
      "toolchain plugin '" ++ path ++
        "' does not export proofc_create_toolchain/proofc_destroy_toolchain (" ++ reason ++ ")"
  | .noToolchain path => "toolchain plugin '" ++ path ++ "' returned no toolchain"

inductive Failure where
  | noProgramFiles
  | unitWithoutProgram (unit : String)
  | duplicateUnit (unit : String)
  | unexpectedCheck (outcome : Outcome)
  | plugin (error : PluginError)
  | stackRefused (size : Nat)
  | workerNotCreated
  | raised (kind : FailureKind) (message : String)
deriving DecidableEq, Repr, Inhabited

namespace Failure

def kind : Failure → FailureKind
  | .noProgramFiles | .unitWithoutProgram _ | .duplicateUnit _ | .unexpectedCheck _ => .pipeline
  | .plugin _ => .toolchain
  | .stackRefused _ => .config
  | .workerNotCreated => .backend
  | .raised kind _ => kind

def message : Failure → String
  | .noProgramFiles => "no program files to process"
  | .unitWithoutProgram unit => "verification unit '" ++ unit ++ "' has no program"
  | .duplicateUnit unit => "duplicate verification unit '" ++ unit ++ "'"
  | .unexpectedCheck outcome =>
      "proof engine returned " ++ outcome.name ++ " from resolve/typecheck"
  | .plugin error => error.message
  | .stackRefused size => "invalid worker stack size " ++ toString size ++ ": Invalid argument"
  | .workerNotCreated => "failed to create worker thread: Resource temporarily unavailable"
  | .raised _ message => message

end Failure

end VerifiedBuild
