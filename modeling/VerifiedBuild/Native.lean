import VerifiedBuild.Path
import VerifiedBuild.Source
import VerifiedBuild.Config
/-!
# Native builds

A build plan says what to compile and link into an executable or a library; its arguments are how a
compiler is asked for it.
-/

namespace VerifiedBuild

inductive Product where
  | executable
  | library
deriving DecidableEq, Repr, Inhabited

namespace Product

/-- A program with an entry point becomes an executable, any other a library. -/
def ofEntryPoint (hasEntryPoint : Bool) : Product :=
  if hasEntryPoint then .executable else .library

def extension : Product → String
  | .executable => "out"
  | .library => "so"

def productPath (kind : Product) (basePath : String) : String :=
  Path.withExtension basePath kind.extension

end Product

structure BuildPlan where
  /-- The generated source first, then native sources. -/
  sources : List String := []
  libraries : List String := []
  options : List String := []
  /-- Libraries by name, to be searched by the linker. -/
  linkNames : List String := []
  output : String := ""
  kind : Product := .executable
deriving DecidableEq, Repr, Inhabited

structure BuildReport where
  ok : Bool := false
  errors : List String := []
  warnings : List String := []
deriving DecidableEq, Repr, Inhabited

inductive RunReport where
  | exited (code : Int)
  | signaled (signal : Int) (detail : String)
  | notLaunched (detail : String)
deriving DecidableEq, Repr, Inhabited

def collectionsLibrary (config : Config) : String :=
  Path.join config.runtimeDirectory "libproofc_immutable.so"

def runtimeLibrary (config : Config) : String :=
  Path.join config.runtimeDirectory "libproofc_runtime.a"

namespace BuildPlan

def commonOptions : List String :=
  ["-g", "-Wno-unused-label", "-Wno-unused-variable", "-Wno-self-assign", "-Wno-unreachable-code"]

def pathsOfRole (role : SourceRole) (others : List Source) : List String :=
  (others.filter (·.role = role)).map (·.path)

/-- The plan that builds `output` from generated code and the native files given along with it. -/
def make (generated : String) (hasEntryPoint : Bool) (output : String) (others : List Source)
    (config : Config) : BuildPlan where
  sources := generated :: pathsOfRole .nativeCode others
  libraries :=
    (if config.linkRuntime then [runtimeLibrary config] else []) ++
      (if config.optimize then [collectionsLibrary config] else []) ++
      pathsOfRole .nativeLibrary others
  options :=
    commonOptions ++ if config.optimize then ["-O2", "-DPROOFC_USE_IMMUTABLE_COLLECTIONS"] else []
  linkNames := "m" :: if config.optimize then ["pthread"] else []
  output := output
  kind := Product.ofEntryPoint hasEntryPoint

def arguments (plan : BuildPlan) (compiler : String) : List String :=
  compiler :: plan.options ++ (if plan.kind = .library then ["-shared", "-fPIC"] else []) ++
    ["-o", plan.output] ++ plan.sources ++ plan.libraries ++
    plan.linkNames.map fun reference => "-l" ++ reference

end BuildPlan

end VerifiedBuild
