import VerifiedBuild.Toolchain
import VerifiedBuild.Process.Launch
import VerifiedBuild.Text.Lines
/-!
# The native compiler

Building and running by processes of the host: the compiler is launched with the arguments of a
plan, and what it writes to its error stream are its messages. How a process is launched is up to
the host.
-/

namespace VerifiedBuild

def joinArguments (arguments : List String) : String :=
  String.intercalate " " arguments

namespace Compiler

/-- The messages of a build whose compiler failed: its own, then a summary. -/
def failureMessages (compiler diagnostics : String) (ending : Ending) (arguments : List String) :
    List String :=
  let code := match ending with
    | .exited code => toString code
    | .signaled _ => "-1"
  Text.messageLines diagnostics ++
    [compiler ++ " invocation failed (rc=" ++ code ++ "): " ++ joinArguments arguments]

def build {K : Toolkit} (launcher : Launcher) (compiler : String) (plan : BuildPlan)
    (host : Host) : Reply (K := K) (.build plan) :=
  let arguments := plan.arguments compiler
  match launcher host arguments with
  | .error error => { host, result := .ok { errors := [error.message] } }
  | .ok finished =>
      let report : BuildReport :=
        if finished.ending = .exited 0 then
          { ok := true, warnings := Text.messageLines finished.stderr }
        else { errors := failureMessages compiler finished.stderr finished.ending arguments }
      { childOut := finished.stdout
        host := { host with store := finished.store }
        result := .ok report }

/-- The path under which a built program is launched: a bare name means the working directory. -/
def launchPath (artifact : String) : String :=
  if artifact.toList.contains '/' then artifact else "./" ++ artifact

def signalDetail (signal : Nat) : String :=
  "terminated by signal " ++ toString signal ++ " (" ++ signalDescription signal ++ ")"

def run {K : Toolkit} (launcher : Launcher) (artifact : String) (host : Host) :
    Reply (K := K) (.run artifact) :=
  match launcher host [launchPath artifact] with
  | .error error => { host, result := .ok (.notLaunched error.message) }
  | .ok finished =>
      let report : RunReport := match finished.ending with
        | .exited code => .exited code
        | .signaled signal => .signaled signal (signalDetail signal)
      { childOut := finished.stdout
        childErr := finished.stderr
        host := { host with store := finished.store }
        result := .ok report }

end Compiler

def withCompiler {K : Toolkit} (compiler : String) (toolchain : Collaborators K)
    (launcher : Launcher := launch) : Collaborators K :=
  fun history toCall host => match toCall with
    | .build plan => Compiler.build launcher compiler plan host
    | .run artifact => Compiler.run launcher artifact host
    | other => toolchain history other host

end VerifiedBuild
