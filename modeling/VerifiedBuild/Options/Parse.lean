import VerifiedBuild.Options
/-!
# Reading the command line

The families of tokens, each with its own reader, and the reading of a whole command line. A reader
says that a token is not of its family, or gives the directive or the complaint for it.
-/

namespace VerifiedBuild.Options

/-! ## Tokens with a fixed text -/

def switches : List (String × Directive) :=
  [("--nologo", .noBanner), ("--show-env", .echoArguments), ("--verify-separately", .separately),
    ("--no-verify", .noVerify), ("--no-resolve", .noResolve), ("--no-typecheck", .noTypecheck),
    ("--separate-module-output", .reportUnits), ("--force-compile", .force),
    ("--run", .run), ("--optimize", .optimize), ("--runtime-lib", .runtimeLib),
    ("--print-stats", .showStatistics), ("--print-call-graph", .showCallGraph)]

/-! ## Tokens with a value -/

structure ValueOption where
  name : String
  expected : String := ""
  read : String → Option Directive

def flag? (value : String) : Option Bool :=
  if value = "1" then some true else if value = "0" then some false else none

def minStackSize : Int := 65536

def maxStackSize : Int := 1073741824

def maxLevel : Int := 2147483647

def valueOptions : List ValueOption :=
  [⟨"--toolchain", "", fun value => some (.toolchain value)⟩,
    ⟨"--diag-log", "", fun value => some (.logFile value)⟩,
    ⟨"--stack-size", "a byte count between 65536 and 1073741824", fun value =>
      (Text.boundedInteger? value minStackSize maxStackSize).map fun bytes =>
        .stackSize bytes.toNat⟩,
    ⟨"--verify-snapshots", "a non-negative integer", fun value =>
      (Text.boundedInteger? value 0 maxLevel).map .snapshotLevel⟩,
    ⟨"--print-vc", "", fun value => some (.conditionsFile value)⟩,
    ⟨"--dump-dir", "", fun value => some (.scratchDirectory value)⟩,
    ⟨"--compile", "0 or 1", fun value => (flag? value).map .compile⟩,
    ⟨"--spill", "0, 1, 2 or 3", fun value => (Text.boundedInteger? value 0 3).map .spill⟩,
    ⟨"--proc", "", fun value => some (.procedure value)⟩,
    ⟨"--target", "cpp or js", fun value => (Target.ofName? value).map .target⟩,
    ⟨"--out", "", fun value => some (.outputName value)⟩,
    ⟨"--runtime-lib-dir", "", fun value => some (.runtimeDirectory value)⟩,
    ⟨"--cxx", "", fun value => some (.compiler value)⟩,
    ⟨"--count-verification-errors", "0 or 1", fun value =>
      (flag? value).map .countErrors⟩]

/-- The name and the value of a token, cut at its first equals sign. -/
def splitValue? (token : String) : Option (String × String) :=
  match token.toList.dropWhile (· ≠ '=') with
  | _ :: value => some (String.ofList (token.toList.takeWhile (· ≠ '=')), String.ofList value)
  | [] => none

/-! ## Families of tokens -/

inductive Reading where
  | otherFamily
  | directive (directive : Directive)
  | endOfOptions
  | refused (complaint : Complaint)
deriving DecidableEq, Repr, Inhabited

inductive Family where
  | help
  | metrics
  | switch
  | value
  | terminator
  | positional
deriving DecidableEq, Repr, Inhabited

def families : List Family :=
  [.help, .metrics, .switch, .value, .terminator, .positional]

def readMetricsFormat (value : String) : Reading :=
  if value = "json" then .directive (.metrics .json)
  else if value = "text" then .directive (.metrics .text)
  else .refused (.unknownMetricsFormat value)

def ValueOption.readValue (option : ValueOption) (value : String) : Reading :=
  if value = "" then .refused (.missingValue option.name)
  else match option.read value with
    | some directive => .directive directive
    | none => .refused (.invalidValue option.name value option.expected)

def Family.read (family : Family) (token : String) : Reading :=
  match family with
  | .help => if token = "-h" ∨ token = "--help" then .directive .help else .otherFamily
  | .metrics =>
      if token = "--metrics" then .directive (.metrics .text)
      else match splitValue? token with
        | some ("--metrics", format) => readMetricsFormat format
        | _ => .otherFamily
  | .switch => match switches.find? (·.1 = token) with
      | some (_, directive) => .directive directive
      | none => .otherFamily
  | .value => match splitValue? token with
      | none => .otherFamily
      | some (name, given) => match valueOptions.find? (·.name = name) with
          | some option => option.readValue given
          | none => .otherFamily
  | .terminator => if token = "--" then .endOfOptions else .otherFamily
  | .positional =>
      if token.toList.head? = some '-' then .refused (.unknownOption token)
      else if token = "" then .directive .nothing
      else .directive (.input token)

def readToken (token : String) : Reading :=
  ((families.map (·.read token)).find? (· ≠ .otherFamily)).getD .otherFamily

/-! ## Steps and whole command lines -/

inductive StepStatus where
  | otherFamily
  | accepted
  | refused (complaint : Complaint)
deriving DecidableEq, Repr, Inhabited

structure Step where
  status : StepStatus
  options : Options
  moved : Nat := 0
deriving DecidableEq, Repr, Inhabited

/-- Act on what a token was read as; `rest` holds the tokens after it. -/
def act (options : Options) (rest : List String) : Reading → Step
  | .otherFamily => ⟨.otherFamily, options, 0⟩
  | .directive directive => ⟨.accepted, options.apply directive, 0⟩
  | .endOfOptions =>
      ⟨.accepted, { options with inputs := options.inputs ++ rest.filter (· ≠ "") },
        rest.length + 1⟩
  | .refused complaint => ⟨.refused complaint, options.afterComplaint complaint, 0⟩

structure Parsed where
  options : Options
  complaint : Option Complaint := none
deriving DecidableEq, Repr, Inhabited

def readTokens (options : Options) : List String → Parsed
  | [] => ⟨options, none⟩
  | token :: rest =>
      let step := act options rest (readToken token)
      match step.status with
      | .refused complaint => ⟨step.options, some complaint⟩
      | _ => readTokens step.options (rest.drop step.moved)
termination_by tokens => tokens.length
decreasing_by simp only [List.length_drop, List.length_cons]; omega

/-- The tokens of a command line: the first `count` texts. A missing text counts as empty; one such
text closes every list. -/
def tokensOf (count : Int) (argv : Option (List (Option String))) : List String :=
  match argv with
  | none => []
  | some texts => ((texts.concat none).take count.toNat).map (·.getD "")

def parse (tokens : List String) : Parsed :=
  readTokens { arguments := tokens.drop 1 } (tokens.drop 1)

end VerifiedBuild.Options
