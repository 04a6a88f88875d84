import VerifiedBuild.Process.Utility.Files
import VerifiedBuild.Process.Utility.Texts
/-!
# Utilities

The programs of the system by name, other than those that run programs themselves.
-/

namespace VerifiedBuild.Utility

def run (name : String) (process : Process) : Work Nat :=
  match name with
  | "[" | "test" => decideCondition process
  | "basename" => printBaseName process
  | "cat" => concatenate process
  | "chmod" => changeModes process
  | "cp" => copyFiles process
  | "dirname" => printDirectory process
  | "echo" => printArguments process
  | "false" => return 1
  | "head" => printParts process firstPart
  | "ls" => listFiles process
  | "mkdir" => makeDirectories process
  | "mv" => moveFiles process
  | "printenv" => printVariables process
  | "printf" => printFormatted process
  | "pwd" => printWorkingDirectory process
  | "rm" => removeFiles process
  | "rmdir" => removeDirectories process
  | "seq" => printSequence process
  | "sleep" => sleep process
  | "tail" => printParts process lastPart
  | "tee" => copyToFiles process
  | "touch" => touchFiles process
  | "wc" => countTexts process
  | _ => return 0

end VerifiedBuild.Utility
