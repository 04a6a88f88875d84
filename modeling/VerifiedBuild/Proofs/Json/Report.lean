import Mathlib.Data.List.Basic
import VerifiedBuild.Metrics.Report
import VerifiedBuild.Proofs.Json.Reader
import VerifiedBuild.Proofs.Text.Integer

/-!
# The metrics report as JSON

The report of an enabled registry is the text of one object, and what a reader of JSON finds in it
are the durations and the counters of the registry: escapes, separators and empty lists lose
nothing.
-/

namespace VerifiedBuild

namespace Json

/-! ## Texts of numbers and strings -/

theorem digits_toDigits (n : Nat) : Digits (Nat.toDigits 10 n) where
  nonempty := Nat.toDigits_ne_nil
  digits := List.all_eq_true.mpr fun _ member =>
    Nat.isDigit_of_mem_toDigits (by decide) (by decide) member

theorem whole_toDigits (n : Nat) : Whole (Nat.toDigits 10 n) := by
  rcases Nat.eq_zero_or_pos n with rfl | positive
  · exact .zero
  · obtain ⟨lead, others, same, nonzero⟩ := Text.lead_toDigits positive
    have digits := digits_toDigits n
    rw [same] at digits ⊢
    exact .positive nonzero digits

theorem numeral_toString (n : Nat) : Numeral (.number n 0) (toString n).toList := by
  have magnitude := Magnitude.mk (whole_toDigits n) .absent .absent
  have digits : (toString n).toList = Nat.toDigits 10 n := Nat.toList_repr
  rw [digits]
  simpa [decimal] using Numeral.positive magnitude

theorem hexValue?_of_control {n : Nat} (control : n < 32) :
    hexValue? ['0', '0', upperHexDigit (n / 16), upperHexDigit (n % 16)] = some n := by
  have all : ∀ n < 32, hexValue? ['0', '0', upperHexDigit (n / 16), upperHexDigit (n % 16)] =
      some n := by
    decide
  exact all n control

theorem mark_escapeChar (c : Char) : Mark c (escapeChar c) := by
  by_cases named : c ∈ ['"', '\\', '\x08', '\x0c', '\n', '\r', '\t']
  case pos =>
    simp only [List.mem_cons, List.not_mem_nil, or_false] at named
    rcases named with rfl | rfl | rfl | rfl | rfl | rfl | rfl <;> exact .escape (by decide)
  case neg =>
    simp only [List.mem_cons, List.not_mem_nil, or_false, not_or] at named
    obtain ⟨quote, backslash, others⟩ := named
    by_cases control : c.toNat < 32
    · simp only [escapeChar, quote, backslash, others, control, if_true, if_false]
      exact .unit ⟨rfl, hexValue?_of_control control⟩
    · simp only [escapeChar, quote, backslash, others, control, if_false]
      exact .plain quote backslash (by omega)

theorem quoted_escapeText (text : String) : Quoted text.toList (escapeText text).toList := by
  rw [escapeText, String.toList_ofList]
  induction text.toList with
  | nil => exact .nil
  | cons c rest ih => exact .cons (mark_escapeChar c) ih

theorem quoted_self {chars : List Char}
    (plain : ∀ c ∈ chars, c ≠ '"' ∧ c ≠ '\\' ∧ 32 ≤ c.toNat) : Quoted chars chars := by
  induction chars with
  | nil => exact .nil
  | cons c rest ih =>
      obtain ⟨⟨quote, backslash, printable⟩, others⟩ := List.forall_mem_cons.mp plain
      exact .cons (.plain quote backslash printable) (ih others)

/-! ## Texts of lists -/

/-- The texts of the items of a list with commas between them spell the list: elements of an array
as well as members of an object. -/
theorem spells_intercalate {α : Type} (phrase : α → Phrase) (list : List α → Phrase)
    (last : ∀ {item text}, Spells (phrase item) text → Spells (list [item]) text)
    (more : ∀ {item items text others}, Spells (phrase item) text → Spells (list items) others →
      Spells (list (item :: items)) (text ++ ',' :: others))
    {text : α → List Char}
    (spelled : ∀ item gap, Blank gap → Spells (phrase item) (text item ++ gap))
    {gap : List Char} (blank : Blank gap) {items : List α} (nonempty : items ≠ []) :
    Spells (list items) ([','].intercalate (items.map text) ++ gap) := by
  induction items with
  | nil => exact absurd rfl nonempty
  | cons item rest ih =>
      cases rest with
      | nil => simpa using last (spelled item gap blank)
      | cons next others =>
          have first := spelled item [] rfl
          have later := more first (ih (List.cons_ne_nil next others))
          simpa [List.intercalate_cons_cons] using later

theorem spells_array {α : Type} {value : α → Json} {text : α → List Char}
    (spelled : ∀ item gap, Blank gap → Spells (.element (value item)) (text item ++ gap))
    {gap : List Char} (blank : Blank gap) (items : List α) :
    Spells (.value (.array (items.map value)))
      ('[' :: ([','].intercalate (items.map text) ++ gap) ++ [']']) := by
  by_cases empty : items = []
  · rw [empty]
    exact .emptyArray blank
  · exact .array (spells_intercalate (fun item => .element (value item))
      (fun items => .elements (items.map value)) .lastElement .elements spelled blank empty)

theorem spells_object {α : Type} {member : α → String × Json} {text : α → List Char}
    (spelled : ∀ item gap, Blank gap →
      Spells (.member (member item).1 (member item).2) (text item ++ gap))
    {gap : List Char} (blank : Blank gap) (items : List α) :
    Spells (.value (.object (items.map member)))
      ('\x7b' :: ([','].intercalate (items.map text) ++ gap) ++ ['\x7d']) := by
  by_cases empty : items = []
  · rw [empty]
    exact .emptyObject blank
  · exact .object (spells_intercalate (fun item => .member (member item).1 (member item).2)
      (fun items => .members (items.map member)) .lastMember .members spelled blank empty)

theorem spells_member {name : String} {value : Json} {front inner text gap : List Char}
    (before : Blank front) (quoted : Quoted name.toList inner)
    (spelled : Spells (.value value) text) (blank : Blank gap) :
    Spells (.member name value) (front ++ '"' :: inner ++ '"' :: ':' :: ' ' :: (text ++ gap)) := by
  have element := Spells.element (rfl : Blank [' ']) blank spelled
  simpa using Spells.member before (rfl : Blank []) quoted element

end Json

/-! ## The report -/

theorem Phase.quoted_name (phase : Phase) : Json.Quoted phase.name.toList phase.name.toList := by
  apply Json.quoted_self
  cases phase <;> simp [name]

namespace Metrics

open Json

/-- The durations with the names of their phases. -/
def namedDurations (metrics : Metrics) : List (String × UInt64) :=
  metrics.durations.map fun (phase, nanoseconds) => (phase.name, nanoseconds)

def durationAsJson (duration : String × UInt64) : Json :=
  .object [("phase", .text duration.1), ("ns", .number duration.2.toNat 0)]

def counterAsJson (counter : String × UInt64) : String × Json :=
  (counter.1, .number counter.2.toNat 0)

/-- What the report of a registry says. -/
def asJson (metrics : Metrics) : Json :=
  .object [("durations_ns", .array (metrics.namedDurations.map durationAsJson)),
    ("counters", .object (metrics.counters.entries.map counterAsJson))]

theorem spells_durationToJson (duration : Phase × UInt64) (gap : List Char)
    (blank : Blank gap) :
    Spells (.element (durationAsJson (duration.1.name, duration.2)))
      ((durationToJson duration.1 duration.2).toList ++ gap) := by
  have phase : Spells (.member "phase" (.text duration.1.name)) _ :=
    spells_member (rfl : Blank []) (quoted_self (by simp)) (.text duration.1.quoted_name)
      (rfl : Blank [])
  have ns : Spells (.member "ns" (.number duration.2.toNat 0)) _ :=
    spells_member (rfl : Blank [' ']) (quoted_self (by simp))
      (.number (numeral_toString duration.2.toNat)) (rfl : Blank [])
  have whole := Spells.element (rfl : Blank ['\n', ' ', ' ', ' ', ' ']) blank
    (.object (.members phase (.lastMember ns)))
  unfold durationToJson
  simpa [durationAsJson] using whole

theorem spells_counterToJson (counter : String × UInt64) (gap : List Char)
    (blank : Blank gap) :
    Spells (.member (counterAsJson counter).1 (counterAsJson counter).2)
      ((counterToJson counter.1 counter.2).toList ++ gap) := by
  have member := spells_member (rfl : Blank [' ']) (quoted_escapeText counter.1)
    (.number (numeral_toString counter.2.toNat)) blank
  simpa [counterToJson, counterAsJson] using member

theorem isText_toJson {metrics : Metrics} (enabled : metrics.enabled) :
    Json.IsText metrics.asJson metrics.toJson := by
  have durations : Spells (.member "durations_ns" _) _ :=
    spells_member (rfl : Blank ['\n', ' ', ' ']) (quoted_self (by simp))
      (spells_array spells_durationToJson (rfl : Blank ['\n', ' ', ' ']) metrics.durations)
      (rfl : Blank [])
  have counters : Spells (.member "counters" _) _ :=
    spells_member (rfl : Blank ['\n', ' ', ' ']) (quoted_self (by simp))
      (spells_object spells_counterToJson (rfl : Blank [' ']) metrics.counters.entries)
      (rfl : Blank ['\n'])
  have whole := Spells.element (rfl : Blank []) (rfl : Blank ['\n'])
    (.object (.members durations (.lastMember counters)))
  simpa [IsText, asJson, namedDurations, toJson, enabled, Function.comp_def]
    using whole

theorem toNat_of_number {first second : UInt64}
    (same : Json.number first.toNat 0 = .number second.toNat 0) : first = second := by
  injection same with coefficient
  exact UInt64.toNat_inj.mp (Int.ofNat_inj.mp coefficient)

theorem durationAsJson_injective : Function.Injective durationAsJson := by
  intro first second same
  simp only [durationAsJson, Json.object.injEq, List.cons.injEq, Prod.mk.injEq, true_and,
    and_true, Json.text.injEq] at same
  exact Prod.ext same.1 (toNat_of_number same.2)

theorem counterAsJson_injective : Function.Injective counterAsJson := by
  intro first second same
  obtain ⟨key, value⟩ := Prod.mk.inj same
  exact Prod.ext key (toNat_of_number value)

theorem eq_of_asJson_eq {first second : Metrics} (same : first.asJson = second.asJson) :
    first.counters = second.counters ∧ first.namedDurations = second.namedDurations := by
  simp only [asJson, Json.object.injEq, List.cons.injEq, Prod.mk.injEq, true_and, and_true,
    Json.array.injEq] at same
  obtain ⟨durations, counters⟩ := same
  have entries := List.map_injective_iff.mpr counterAsJson_injective counters
  constructor
  case left =>
    generalize first.counters = map, second.counters = other at entries
    cases map
    cases other
    cases entries
    rfl
  case right => exact List.map_injective_iff.mpr durationAsJson_injective durations

/-- The report of an enabled registry is a JSON text that says what the registry holds and can be
read in no other way; two registries with one report have the same counters and durations. -/
theorem toJson_lossless {metrics : Metrics} (enabled : metrics.enabled) :
    Json.IsText metrics.asJson metrics.toJson ∧
      (∀ value, Json.parse? metrics.toJson = some value ↔ value = metrics.asJson) ∧
      (∀ value, Json.IsText value metrics.toJson → value = metrics.asJson) ∧
      ∀ other : Metrics, other.enabled → other.toJson = metrics.toJson →
        other.counters = metrics.counters ∧ other.namedDurations = metrics.namedDurations := by
  have spelled := isText_toJson enabled
  have read : Json.parse? metrics.toJson = some metrics.asJson :=
    Json.parse?_eq_some_iff.mpr spelled
  refine ⟨spelled, fun value => ?_, fun value given => ?_, fun other on same => ?_⟩
  · rw [read, Option.some.injEq, eq_comm]
  · rw [← Json.parse?_eq_some_iff, read] at given
    exact (Option.some.inj given).symm
  · have readOther := Json.parse?_eq_some_iff.mpr (isText_toJson on)
    rw [same, read] at readOther
    exact eq_of_asJson_eq (Option.some.inj readOther).symm

def sample : Metrics where
  enabled := true
  durations := [(.solve, 1500), (.run, 0)]
  counters := .ofList [("", 0), ("a \"b\" \\ \x01\n", 18446744073709551615)]

theorem sample_lossless :
    sample.enabled ∧ Json.parse? sample.toJson =
      some (.object [
        ("durations_ns", .array [.object [("phase", .text "Solve"), ("ns", .number 1500 0)],
          .object [("phase", .text "Run"), ("ns", .number 0 0)]]),
        ("counters", .object [("", .number 0 0),
          ("a \"b\" \\ \x01\n", .number 18446744073709551615 0)])]) := by
  have lossless := toJson_lossless (rfl : sample.enabled)
  exact ⟨rfl, (lossless.2.1 _).mpr rfl⟩

end Metrics

end VerifiedBuild
