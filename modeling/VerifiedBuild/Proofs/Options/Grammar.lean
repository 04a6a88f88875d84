import VerifiedBuild.Proofs.Options.Reading
import VerifiedBuild.Proofs.Text.Integer

/-!
# Which command lines are accepted

A command line is accepted exactly if all tokens before the mark are good. Otherwise the first bad
one is complained about, and what stood before it has been taken in.
-/

namespace VerifiedBuild.Options

/-! ## The grammar -/

inductive Values where
  | text
  | flag
  | number (least most : Int)
  | target

def Values.Admit : Values → String → Prop
  | .text, value => value ≠ ""
  | .flag, value => value = "0" ∨ value = "1"
  | .number least most, value =>
      ∃ number, Text.Decimal number value.toList ∧ least ≤ number ∧ number ≤ most
  | .target, value => value = "cpp" ∨ value = "js"

def valueNames : List (String × Values) :=
  [("--toolchain", .text), ("--diag-log", .text), ("--stack-size", .number 65536 1073741824),
    ("--verify-snapshots", .number 0 2147483647), ("--print-vc", .text), ("--dump-dir", .text),
    ("--compile", .flag), ("--spill", .number 0 3), ("--proc", .text), ("--target", .target),
    ("--out", .text), ("--runtime-lib-dir", .text), ("--cxx", .text),
    ("--count-verification-errors", .flag)]

def switchNames : List String :=
  ["--nologo", "--show-env", "--verify-separately", "--no-verify", "--no-resolve",
    "--no-typecheck", "--separate-module-output", "--force-compile", "--run", "--optimize",
    "--runtime-lib", "--print-stats", "--print-call-graph"]

/-- The tokens of the grammar. -/
inductive Good : String → Prop
  | input {token : String} (undashed : token.toList.head? ≠ some '-') : Good token
  | help {token : String} (named : token = "-h" ∨ token = "--help") : Good token
  | metrics {token : String}
      (named : token = "--metrics" ∨ token = "--metrics=json" ∨ token = "--metrics=text") :
      Good token
  | switch {token : String} (listed : token ∈ switchNames) : Good token
  | valued {name value : String} {values : Values} (listed : (name, values) ∈ valueNames)
      (admitted : values.Admit value) : Good (name ++ "=" ++ value)

/-! ## The tables and the grammar -/

/-- An option is in the grammar as an entry says. -/
structure Follows (option : ValueOption) (entry : String × Values) : Prop where
  named : option.name = entry.1
  reads (value : String) : entry.2.Admit value ↔ value ≠ "" ∧ (option.read value).isSome

theorem follows_text (name expected : String) (make : String → Directive) :
    Follows ⟨name, expected, fun value => some (make value)⟩ (name, .text) where
  named := rfl
  reads value := by simp [Values.Admit]

theorem follows_flag (name expected : String) (make : Bool → Directive) :
    Follows ⟨name, expected, fun value => (flag? value).map make⟩ (name, .flag) where
  named := rfl
  reads value := by
    by_cases one : value = "1"
    · simp [Values.Admit, flag?, one]
    · by_cases zero : value = "0"
      · simp [Values.Admit, flag?, zero]
      · simp [Values.Admit, flag?, one, zero]

theorem follows_number (name expected : String) (make : Int → Directive) {least most : Int}
    (low : Text.int64Min ≤ least) (high : most ≤ Text.int64Max) :
    Follows ⟨name, expected, fun value => (Text.boundedInteger? value least most).map make⟩
      (name, .number least most) where
  named := rfl
  reads value := by
    simp only [Values.Admit, Option.isSome_map]
    constructor
    case mp =>
      rintro ⟨number, spelled, above, below⟩
      have read := Text.integer?_eq_some_iff.mpr spelled
      have bounded := Text.boundedInteger?_eq_some_iff.mpr
        ⟨read, Int.le_trans low above, Int.le_trans below high, above, below⟩
      refine ⟨?_, by rw [bounded]; rfl⟩
      rintro rfl
      cases read
    case mpr =>
      rintro ⟨-, read⟩
      obtain ⟨number, bounded⟩ := Option.isSome_iff_exists.mp read
      obtain ⟨read, -, -, above, below⟩ := Text.boundedInteger?_eq_some_iff.mp bounded
      exact ⟨number, Text.integer?_eq_some_iff.mp read, above, below⟩

theorem follows_target (name expected : String) (make : Target → Directive) :
    Follows ⟨name, expected, fun value => (Target.ofName? value).map make⟩ (name, .target) where
  named := rfl
  reads value := by
    by_cases cpp : value = "cpp"
    · simp [Values.Admit, Target.ofName?, cpp]
    · by_cases javaScript : value = "js"
      · simp [Values.Admit, Target.ofName?, javaScript]
      · simp [Values.Admit, Target.ofName?, cpp, javaScript]

theorem valueOptions_follow : List.Forall₂ Follows valueOptions valueNames :=
  .cons (follows_text _ _ _) <| .cons (follows_text _ _ _) <|
  .cons (follows_number _ _ _ (by decide) (by decide)) <|
  .cons (follows_number _ _ _ (by decide) (by decide)) <|
  .cons (follows_text _ _ _) <| .cons (follows_text _ _ _) <| .cons (follows_flag _ _ _) <|
  .cons (follows_number _ _ _ (by decide) (by decide)) <|
  .cons (follows_text _ _ _) <| .cons (follows_target _ _ _) <| .cons (follows_text _ _ _) <|
  .cons (follows_text _ _ _) <| .cons (follows_text _ _ _) <| .cons (follows_flag _ _ _) .nil

theorem switchNames_eq : switchNames = switches.map (·.1) :=
  rfl

theorem good_of_means {token : String} {directive : Directive} (means : Means token directive) :
    Good token := by
  cases means with
  | nothing => exact .input (by decide)
  | input nonempty undashed => exact .input undashed
  | help named => exact .help named
  | metrics => exact .metrics (.inl rfl)
  | format known =>
      rcases known with ⟨rfl, -⟩ | ⟨rfl, -⟩
      · exact .metrics (.inr (.inl (by decide)))
      · exact .metrics (.inr (.inr (by decide)))
  | switch listed => exact .switch (switchNames_eq ▸ List.mem_map_of_mem listed)
  | valued listed nonempty read =>
      obtain ⟨⟨name, values⟩, known, follows⟩ := exists_related valueOptions_follow listed
      have admitted := (follows.reads _).mpr ⟨nonempty, by rw [read]; rfl⟩
      exact follows.named ▸ .valued known admitted

theorem exists_means_of_good {token : String} (good : Good token) :
    ∃ directive, Means token directive := by
  cases good with
  | input undashed =>
      by_cases empty : token = ""
      · subst empty
        exact ⟨_, .nothing⟩
      · exact ⟨_, .input empty undashed⟩
  | help named => exact ⟨_, .help named⟩
  | metrics named =>
      rcases named with rfl | rfl | rfl
      · exact ⟨_, .metrics⟩
      · exact ⟨_, .format (.inl ⟨rfl, rfl⟩)⟩
      · exact ⟨_, .format (.inr ⟨rfl, rfl⟩)⟩
  | switch listed =>
      obtain ⟨entry, known, rfl⟩ := List.mem_map.mp (switchNames_eq ▸ listed)
      exact ⟨_, .switch known⟩
  | @valued name value values listed admitted =>
      obtain ⟨option, known, follows⟩ := exists_related valueOptions_follow.flip listed
      obtain ⟨nonempty, read⟩ := (follows.reads value).mp admitted
      obtain ⟨directive, read⟩ := Option.isSome_iff_exists.mp read
      have named : option.name = name := follows.named
      exact ⟨directive, named ▸ .valued known nonempty read⟩

/-- The good tokens are those that are read as directives. -/
theorem good_iff {token : String} :
    Good token ↔ ∃ directive, readToken token = .directive directive := by
  simp only [readToken_eq_directive_iff]
  exact ⟨exists_means_of_good, fun ⟨_, means⟩ => good_of_means means⟩

theorem good_of_forall₂ {earlier : List String} {directives : List Directive}
    (means : List.Forall₂ Means earlier directives) {token : String} (among : token ∈ earlier) :
    Good token := by
  obtain ⟨directive, -, means⟩ := exists_related means among
  exact good_of_means means

/-! ## What is kept of a refused command line -/

/-- What the reading shows on the error stream. -/
def Parsed.notice (parsed : Parsed) : String :=
  match parsed.complaint with
  | none => ""
  | some complaint => complaint.message ++ "\n"

theorem complaint_eq_none_iff (tokens : List String) :
    (parse tokens).complaint = none ↔ ∀ token ∈ beforeMark (tokens.drop 1), Good token := by
  obtain ⟨earlier, directives, rest, split, means, final⟩ := exists_course (tokens.drop 1)
  rw [parse_eq_of_split split means, split, beforeMark_append means]
  cases final with
  | nothing =>
      refine iff_of_true (by rw [readTokens]) fun token among => ?_
      exact good_of_forall₂ means (by simpa using among)
  | mark after =>
      refine iff_of_true (by rw [readTokens_mark]) fun token among => ?_
      exact good_of_forall₂ means (by simpa using among)
  | @refused bad complaint read later =>
      refine iff_of_false (by simp [readTokens_refused _ read]) fun all => ?_
      have other := ne_mark_of_refused read
      have good : Good bad := all bad (by simp [beforeMark, other])
      rw [good_iff, read] at good
      obtain ⟨_, ⟨⟩⟩ := good

example : parse ["proofc", "--metrics=json", "--spill=3", "--metrics=xml", "-z"] =
    ⟨{ arguments := ["--metrics=json", "--spill=3", "--metrics=xml", "-z"]
       metrics := true
       reportFormat := .json
       config := { spillLevel := 3 } }, some (.unknownMetricsFormat "xml")⟩ := by
  decide +kernel

end VerifiedBuild.Options
