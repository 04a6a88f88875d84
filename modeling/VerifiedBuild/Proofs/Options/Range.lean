import VerifiedBuild.Proofs.ExitCode
import VerifiedBuild.Proofs.Options.Reading
import VerifiedBuild.Proofs.Text.Integer

/-!
# The range of options

Whatever the command line, and whether it is accepted or not, the options that come of it are in
range. In particular the stack of the worker is always large enough to be set.
-/

namespace VerifiedBuild

/-! ## Options in range -/

structure Options.InRange (options : Options) : Prop where
  stackSize : 65536 ≤ options.stackSize ∧ options.stackSize ≤ 1073741824
  snapshotLevel : -1 ≤ options.config.snapshotLevel ∧ options.config.snapshotLevel ≤ 2147483647
  spillLevel : 0 ≤ options.config.spillLevel ∧ options.config.spillLevel ≤ 3
  inputs : ∀ input ∈ options.inputs, input ≠ ""
  procedures : ∀ procedure ∈ options.config.procedures, procedure ≠ ""
  conditionsFile : options.config.conditionsFile ≠ some ""
  outputName : options.config.outputName ≠ some ""
  compiler : options.config.compiler ≠ ""
  reportFormat : options.reportFormat = .json → options.metrics

/-- The token gives the option of that name the number, which 64 bits hold. -/
def Options.Gives (token name : String) (number : Int) : Prop :=
  ∃ value, token = name ++ "=" ++ value ∧ Text.Decimal number value.toList ∧
    (Int64.ofInt number).toInt = number

/-- What holds of the directive of a token: values are in range, and a number is the one of the
token, also after its cast to an unsigned word of 64 bits or a signed one of 32 bits. -/
def Directive.Sound (token : String) : Directive → Prop
  | .stackSize bytes =>
      (65536 ≤ bytes ∧ bytes ≤ 1073741824) ∧ Options.Gives token "--stack-size" bytes ∧
        (Int64.ofInt bytes).toUInt64.toNat = bytes
  | .snapshotLevel level =>
      (0 ≤ level ∧ level ≤ 2147483647) ∧ Options.Gives token "--verify-snapshots" level ∧
        (Int64.ofInt level).toInt32.toInt = level
  | .spill level =>
      (0 ≤ level ∧ level ≤ 3) ∧ Options.Gives token "--spill" level ∧
        (Int64.ofInt level).toInt32.toInt = level
  | .conditionsFile path => path ≠ ""
  | .procedure name => name ≠ ""
  | .outputName path => path ≠ ""
  | .compiler name => name ≠ ""
  | .input path => path ≠ ""
  | _ => True

namespace Options

/-! ## Directives of tokens -/

theorem gives_of_boundedInteger? (name : String) {value : String} {least most number : Int}
    (read : Text.boundedInteger? value least most = some number) :
    Gives (name ++ "=" ++ value) name number := by
  obtain ⟨spelled, above, below, -⟩ := Text.boundedInteger?_eq_some_iff.mp read
  simp only [Text.int64Min, Text.int64Max] at above below
  exact ⟨value, rfl, Text.integer?_eq_some_iff.mp spelled,
    Int64.toInt_ofInt_of_le (by omega) (by omega)⟩

theorem toInt_toInt32_of_le {number : Int} (above : 0 ≤ number) (below : number ≤ 2147483647) :
    (Int64.ofInt number).toInt32.toInt = number := by
  rw [Int64.toInt_toInt32, Int64.toInt_ofInt_of_le (by omega) (by omega)]
  exact Int.bmod_eq_of_le_mul_two (by omega) (by omega)

theorem toNat_toUInt64_of_le {number : Int} (above : 0 ≤ number) (below : number ≤ 2147483647) :
    (Int64.ofInt number).toUInt64.toNat = number.toNat := by
  have value : (Int64.ofInt number).toInt = number :=
    Int64.toInt_ofInt_of_le (by omega) (by omega)
  have nonneg : 0 ≤ Int64.ofInt number := Int64.le_iff_toInt_le.mpr (by simpa [value] using above)
  rw [Int64.toNat_toUInt64_of_le nonneg, Int64.toNatClampNeg, value]

theorem sound_of_switch {entry : String × Directive} (listed : entry ∈ switches)
    (token : String) : entry.2.Sound token := by
  simp only [switches, List.mem_cons, List.not_mem_nil, or_false] at listed
  rcases listed with rfl | rfl | rfl | rfl | rfl | rfl | rfl | rfl | rfl | rfl | rfl | rfl | rfl
  all_goals trivial

theorem sound_stackSize {value : String} {number : Int}
    (read : Text.boundedInteger? value minStackSize maxStackSize = some number) :
    Directive.Sound ("--stack-size" ++ "=" ++ value) (.stackSize number.toNat) := by
  have bounds := Text.bounds_of_boundedInteger? read
  simp only [minStackSize, maxStackSize] at bounds
  have same : (number.toNat : Int) = number := Int.toNat_of_nonneg (by omega)
  refine ⟨by omega, ?_, ?_⟩
  · rw [same]
    exact gives_of_boundedInteger? _ read
  · rw [same]
    exact toNat_toUInt64_of_le (by omega) (by omega)

theorem sound_of_valueOption {option : ValueOption} (listed : option ∈ valueOptions)
    {value : String} (nonempty : value ≠ "") {directive : Directive}
    (read : option.read value = some directive) :
    directive.Sound (option.name ++ "=" ++ value) := by
  simp only [valueOptions, List.mem_cons, List.not_mem_nil, or_false] at listed
  rcases listed with rfl | rfl | rfl | rfl | rfl | rfl | rfl | rfl | rfl | rfl | rfl | rfl | rfl |
    rfl
  -- A text is taken as it is. The others are left, in the order of the table.
  all_goals try (cases read; first | exact nonempty | trivial)
  all_goals obtain ⟨found, known, rfl⟩ := Option.map_eq_some_iff.mp read
  · exact sound_stackSize known
  · have bounds := Text.bounds_of_boundedInteger? known
    exact ⟨bounds, gives_of_boundedInteger? _ known, toInt_toInt32_of_le bounds.1 bounds.2⟩
  · trivial
  · have bounds := Text.bounds_of_boundedInteger? known
    exact ⟨bounds, gives_of_boundedInteger? _ known,
      toInt_toInt32_of_le bounds.1 (by omega)⟩
  · trivial
  · trivial

theorem Means.sound {token : String} {directive : Directive} (means : Means token directive) :
    directive.Sound token := by
  cases means with
  | input nonempty => exact nonempty
  | switch listed => exact sound_of_switch listed _
  | valued listed nonempty read => exact sound_of_valueOption listed nonempty read
  | _ => trivial

/-! ## What a command line leaves -/

theorem inRange_initial (arguments : List String) : InRange { arguments } := by
  constructor <;> simp

theorem InRange.apply {options : Options} (inRange : options.InRange) {token : String}
    {directive : Directive} (sound : directive.Sound token) :
    (options.apply directive).InRange := by
  cases directive with
  | stackSize bytes => exact { inRange with stackSize := sound.1 }
  | snapshotLevel level =>
      obtain ⟨⟨above, below⟩, -⟩ := sound
      exact { inRange with snapshotLevel := ⟨Int.le_trans (by decide) above, below⟩ }
  | spill level => exact { inRange with spillLevel := sound.1 }
  | conditionsFile path =>
      exact { inRange with conditionsFile := fun same => sound (Option.some.inj same) }
  | outputName path =>
      exact { inRange with outputName := fun same => sound (Option.some.inj same) }
  | compiler name => exact { inRange with compiler := sound }
  | procedure name =>
      refine { inRange with procedures := fun procedure among => ?_ }
      rcases List.mem_append.mp among with old | new
      · exact inRange.procedures procedure old
      · exact List.mem_singleton.mp new ▸ sound
  | input path =>
      refine { inRange with inputs := fun input among => ?_ }
      rcases List.mem_append.mp among with old | new
      · exact inRange.inputs input old
      · exact List.mem_singleton.mp new ▸ sound
  | metrics format => exact { inRange with reportFormat := fun _ => rfl }
  | _ => exact { inRange with }

theorem InRange.foldl {options : Options} (inRange : options.InRange) {tokens : List String}
    {directives : List Directive} (means : List.Forall₂ Means tokens directives) :
    (directives.foldl Options.apply options).InRange := by
  induction means generalizing options with
  | nil => exact inRange
  | cons first _ ih => exact ih (inRange.apply first.sound)

theorem InRange.afterComplaint {options : Options} (inRange : options.InRange)
    (complaint : Complaint) : (options.afterComplaint complaint).InRange := by
  cases complaint with
  | unknownMetricsFormat value => exact { inRange with reportFormat := fun _ => rfl }
  | _ => exact inRange

theorem InRange.takeAll {options : Options} (inRange : options.InRange) (after : List String) :
    InRange { options with inputs := options.inputs ++ after.filter (· ≠ "") } := by
  refine { inRange with inputs := fun input among => ?_ }
  rcases List.mem_append.mp among with old | new
  · exact inRange.inputs input old
  · simpa using List.of_mem_filter new

theorem inRange_parse (tokens : List String) : (parse tokens).options.InRange := by
  obtain ⟨earlier, directives, rest, split, means, final⟩ := exists_course (tokens.drop 1)
  have taken := (inRange_initial (tokens.drop 1)).foldl means
  rw [parse_eq_of_split split means]
  cases final with
  | nothing =>
      rw [readTokens]
      exact taken
  | mark after =>
      rw [readTokens_mark]
      exact taken.takeAll after
  | @refused _ complaint read later =>
      rw [readTokens_refused _ read]
      exact taken.afterComplaint complaint

end Options

/-! ## Workers on other platforms -/

/-- What a platform can set up: stacks from `least` bytes on, and workers on some of them. -/
structure Platform where
  least : Nat
  canStart : Nat → Bool

namespace Platform

variable {K : Toolkit}

def standard : Platform :=
  ⟨Worker.minStack, fun stackSize => stackSize < Worker.addressSpace⟩

def setUp (platform : Platform) (stackSize : Nat) : Except Failure Unit :=
  if stackSize < platform.least then .error (.stackRefused stackSize)
  else if platform.canStart stackSize then .ok ()
  else .error .workerNotCreated

def perform (platform : Platform) (toolchain : Collaborators K) (options : Options)
    (machine : Machine K) (services : Services := {}) : Int × Machine K :=
  let fresh := { machine with metrics := { enabled := options.metrics } }
  let (result, worked) := match platform.setUp options.stackSize with
    | .error failure => (.error failure, fresh)
    | .ok () => work toolchain options fresh services
  let (status, settled) := settle result worked
  let report := settled.metrics.reportIf options.metrics options.reportFormat
  (status.exitCode options.config.countErrors, settled.write report)

def enact (platform : Platform) (toolchain : Collaborators K) (services : Services)
    (name : Option String) (parsed : Options.Parsed) (machine : Machine K) : Int × Machine K :=
  match parsed.complaint with
  | some complaint =>
      (ExitStatus.notStarted.exitCode true,
        (machine.complain (complaint.message ++ "\n")).complain (usage name))
  | none =>
      if parsed.options.wantsHelp then (0, machine.write (usage name))
      else platform.perform toolchain parsed.options machine services

def runCommandLine (platform : Platform) (toolchain : Collaborators K) (count : Int)
    (argv : Option (List (Option String))) (machine : Machine K) (services : Services := {}) :
    Int × Machine K :=
  platform.enact toolchain services (Options.tokensOf count argv).head?
    (Options.ofCommandLine count argv) machine

theorem setUp_standard (stackSize : Nat) : standard.setUp stackSize = Worker.setUp stackSize := by
  rw [setUp, Worker.setUp]
  by_cases possible : stackSize < Worker.addressSpace
  · simp [standard, possible, Nat.not_le.mpr possible]
  · simp [standard, possible, Nat.not_lt.mp possible]

theorem perform_standard (toolchain : Collaborators K) (options : Options) (machine : Machine K)
    (services : Services) :
    standard.perform toolchain options machine services =
      VerifiedBuild.perform toolchain options machine services := by
  rw [perform, setUp_standard]
  rfl

/-- Commands run on the standard platform as they do. -/
theorem runCommandLine_standard (toolchain : Collaborators K) (count : Int)
    (argv : Option (List (Option String))) (machine : Machine K) (services : Services) :
    standard.runCommandLine toolchain count argv machine services =
      VerifiedBuild.runCommandLine toolchain count argv machine services := by
  simp only [runCommandLine, runCommandLine_eq, enact, perform_standard]
  rfl

theorem setUp_of_least_le {platform : Platform} {stackSize : Nat}
    (enough : platform.least ≤ stackSize) :
    platform.setUp stackSize = { platform with least := 0 }.setUp stackSize := by
  simp [setUp, Nat.not_lt.mpr enough]

theorem setUp_ne_stackRefused {platform : Platform} {stackSize : Nat}
    (enough : platform.least ≤ stackSize) (refused : Nat) :
    platform.setUp stackSize ≠ .error (.stackRefused refused) := by
  rw [setUp, if_neg (Nat.not_lt.mpr enough)]
  split <;> simp

theorem perform_of_least_le {platform : Platform} {options : Options}
    (enough : platform.least ≤ options.stackSize) (toolchain : Collaborators K)
    (machine : Machine K) (services : Services) :
    platform.perform toolchain options machine services =
      { platform with least := 0 }.perform toolchain options machine services := by
  rw [perform, perform, setUp_of_least_le enough]

end Platform

/-- The options of a command line are in range, and hold the numbers of its tokens. So no platform
that can do with stacks of 64 KiB refuses to set the stack of the worker: commands run as they would
if it could do with any. -/
theorem commandLine_inRange (count : Int) (argv : Option (List (Option String))) :
    let options := (Options.ofCommandLine count argv).options
    options.InRange ∧
      (∀ token directive, Options.readToken token = .directive directive →
        directive.Sound token) ∧
      ∀ platform : Platform, platform.least ≤ 65536 →
        (∀ refused, platform.setUp options.stackSize ≠ .error (.stackRefused refused)) ∧
          ∀ (K : Toolkit) (toolchain : Collaborators K) (machine : Machine K)
            (services : Services),
            platform.runCommandLine toolchain count argv machine services =
              { platform with least := 0 }.runCommandLine toolchain count argv machine
                services := by
  intro options
  have inRange : options.InRange := Options.inRange_parse (Options.tokensOf count argv)
  refine ⟨inRange, ?_, ?_⟩
  · intro token directive read
    exact (Options.readToken_eq_directive_iff.mp read).sound
  · intro platform small
    have enough : platform.least ≤ options.stackSize := small.trans inRange.stackSize.1
    refine ⟨Platform.setUp_ne_stackRefused enough, fun K toolchain machine services => ?_⟩
    simp only [Platform.runCommandLine, Platform.enact]
    rw [Platform.perform_of_least_le enough]

theorem smallestStack_inRange :
    let argv := some [some "proofc", some "--stack-size=65536", some "--spill=4"]
    (Options.ofCommandLine 3 argv).options.stackSize = 65536 ∧
      (Options.ofCommandLine 3 argv).options.InRange ∧
      Platform.standard.setUp 65536 ≠ .error (.stackRefused 65536) ∧
      ∀ (K : Toolkit) (toolchain : Collaborators K) (machine : Machine K),
        runCommandLine toolchain 3 argv machine =
          { Platform.standard with least := 0 }.runCommandLine toolchain 3 argv machine := by
  intro argv
  have smallest : (Options.ofCommandLine 3 argv).options.stackSize = 65536 := by decide +kernel
  obtain ⟨inRange, -, platforms⟩ := commandLine_inRange 3 argv
  obtain ⟨never, same⟩ := platforms Platform.standard (by decide)
  rw [smallest] at never
  refine ⟨smallest, inRange, never 65536, fun K toolchain machine => ?_⟩
  rw [← Platform.runCommandLine_standard]
  exact same K toolchain machine {}

end VerifiedBuild
