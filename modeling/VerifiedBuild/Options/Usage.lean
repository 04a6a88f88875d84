import VerifiedBuild.Path
/-!
# Usage

The help text, and the version of the program.
-/

namespace VerifiedBuild

def versionText : String := "proofc 0.1.0"

/-- The name to show in the help text: that of the file the program was started as. -/
def shownName (startedAs : Option String) : String :=
  match startedAs with
  | none | some "" => "proofc"
  | some path => Path.fileName path

def usageLines : List String :=
  ["",
    "General:",
    "  -h, --help                   Print this help and exit",
    "  --toolchain=<plugin.so>      Toolchain plugin (default: $PROOFC_TOOLCHAIN)",
    "  --metrics[=json|text]        Print pipeline metrics (default: text)",
    "  --stack-size=<bytes>         Worker thread stack size (default: 256 MiB)",
    "  --diag-log=<file>            Also write error lines to <file>",
    "  --nologo                     Do not print the version banner",
    "  --show-env                   Echo the command line options",
    "",
    "Verification:",
    "  --no-verify                  Skip translation and verification",
    "  --no-resolve, --no-typecheck Stop after parsing",
    "  --verify-separately          Verify each program file on its own",
    "  --verify-snapshots=<n>       Verify <stem>.v<k><ext> snapshots; n>1 reuses results",
    "  --separate-module-output     Report time and statistics per module",
    "  --print-vc=<file>            Write verification conditions to <file>",
    "  --dump-dir=<dir>             Directory for temporary artifacts",
    "  --proc=<name>                Only verify procedure <name> (repeatable)",
    "  --count-verification-errors=<0|1>  Non-zero exit code on failures (default: 1)",
    "",
    "Compilation:",
    "  --compile=<0|1>              Compile verified programs (default: 1)",
    "  --force-compile              Compile even when verification fails",
    "  --run                        Run the compiled program",
    "  --spill=<0..3>               Write generated source (2: when verified, 3: always)",
    "  --target=<cpp|js>            Code generation target (default: cpp)",
    "  --out=<file>                 Name generated files after <file>",
    "  --optimize                   Optimized build with immutable collections",
    "  --runtime-lib                Link libproofc_runtime.a",
    "  --runtime-lib-dir=<dir>      Runtime library directory",
    "  --cxx=<compiler>             C++ compiler (default: clang++)",
    "",
    "Reports:",
    "  --print-stats                Print program statistics",
    "  --print-call-graph           Print the function call graph",
    "  --                           End of options"]

def usage (startedAs : Option String) : String :=
  String.join ((("Usage: " ++ shownName startedAs ++
    " [options] file.prf... [file.cc|file.cpp|file.a|file.so...]") :: usageLines).map (· ++ "\n"))

end VerifiedBuild
