import VerifiedBuild.Config
import VerifiedBuild.Metrics.Report
import VerifiedBuild.Text.Integer
/-!
# Options

The options of the command line. Each token is read on its own into a *directive*, and directives
are applied in order; a token that is none ends the reading with a complaint. After the token `--`
all others are inputs.
-/

namespace VerifiedBuild

structure Options where
  inputs : List String := []
  arguments : List String := []
  config : Config := {}
  pluginFile : String := ""
  logFile : String := ""
  stackSize : Nat := 268435456
  wantsHelp : Bool := false
  noBanner : Bool := false
  echoArguments : Bool := false
  metrics : Bool := false
  reportFormat : ReportFormat := .text
deriving DecidableEq, Repr, Inhabited

inductive Directive where
  | help
  | metrics (format : ReportFormat)
  | noBanner
  | echoArguments
  | separately
  | noVerify
  | noResolve
  | noTypecheck
  | reportUnits
  | force
  | run
  | optimize
  | runtimeLib
  | showStatistics
  | showCallGraph
  | toolchain (path : String)
  | logFile (path : String)
  | stackSize (bytes : Nat)
  | snapshotLevel (level : Int)
  | conditionsFile (path : String)
  | scratchDirectory (path : String)
  | compile (on : Bool)
  | spill (level : Int)
  | procedure (name : String)
  | target (target : Target)
  | outputName (path : String)
  | runtimeDirectory (path : String)
  | compiler (compiler : String)
  | countErrors (on : Bool)
  | input (path : String)
  | nothing
deriving DecidableEq, Repr, Inhabited

inductive Complaint where
  | unknownMetricsFormat (value : String)
  | missingValue (option : String)
  | invalidValue (option value expected : String)
  | unknownOption (token : String)
deriving DecidableEq, Repr, Inhabited

def Complaint.message : Complaint → String
  | .unknownMetricsFormat value =>
      "proofc: error: unknown metrics format '" ++ value ++ "' (expected json or text)"
  | .missingValue option => "proofc: error: missing value after '" ++ option ++ "='"
  | .invalidValue option value expected =>
      "proofc: error: invalid value '" ++ value ++ "' for '" ++ option ++ "' (expected " ++
        expected ++ ")"
  | .unknownOption token => "proofc: error: unknown option '" ++ token ++ "'"

namespace Options

def configure (options : Options) (change : Config → Config) : Options :=
  { options with config := change options.config }

def apply (options : Options) : Directive → Options
  | .help => { options with wantsHelp := true }
  | .metrics format => { options with metrics := true, reportFormat := format }
  | .noBanner => { options with noBanner := true }
  | .echoArguments => { options with echoArguments := true }
  | .separately => options.configure ({ · with separately := true })
  | .noVerify => options.configure ({ · with verify := false })
  | .noResolve => options.configure ({ · with noResolve := true })
  | .noTypecheck => options.configure ({ · with noTypecheck := true })
  | .reportUnits => options.configure ({ · with reportUnits := true })
  | .force => options.configure ({ · with force := true })
  | .run => options.configure ({ · with runAfterwards := true })
  | .optimize => options.configure ({ · with optimize := true })
  | .runtimeLib => options.configure ({ · with linkRuntime := true })
  | .showStatistics => options.configure ({ · with showStatistics := true })
  | .showCallGraph => options.configure ({ · with showCallGraph := true })
  | .toolchain path => { options with pluginFile := path }
  | .logFile path => { options with logFile := path }
  | .stackSize bytes => { options with stackSize := bytes }
  | .snapshotLevel level => options.configure ({ · with snapshotLevel := level })
  | .conditionsFile path => options.configure ({ · with conditionsFile := some path })
  | .scratchDirectory path => options.configure ({ · with scratchDirectory := path })
  | .compile on => options.configure ({ · with compile := on })
  | .spill level => options.configure ({ · with spillLevel := level })
  | .procedure name =>
      options.configure fun config => { config with procedures := config.procedures ++ [name] }
  | .target target => options.configure ({ · with target })
  | .outputName path => options.configure ({ · with outputName := some path })
  | .runtimeDirectory path => options.configure ({ · with runtimeDirectory := path })
  | .compiler compiler => options.configure ({ · with compiler := compiler })
  | .countErrors on => options.configure ({ · with countErrors := on })
  | .input path => { options with inputs := options.inputs ++ [path] }
  | .nothing => options

/-- The options after a complaint: asking for metrics counts even in an unknown format. -/
def afterComplaint (options : Options) : Complaint → Options
  | .unknownMetricsFormat _ => { options with metrics := true }
  | _ => options

end Options

end VerifiedBuild
