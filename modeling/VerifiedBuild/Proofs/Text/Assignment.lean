import Mathlib.Data.List.TakeWhile
import VerifiedBuild.Proofs.Text.Integer

/-!
# Integers read into variables

A number is scanned from the start of a text into 64 bits. It is stored in a variable if nothing
follows it and it lies within its bounds. So exactly the decimal texts of the integers within the
bounds are accepted, however many digits they have, and a refused text leaves the variable alone.
-/

namespace VerifiedBuild.Text

/-- What a text starts with: no number, one that 64 bits do not hold, or one that they hold. The
rest is what follows the number. -/
inductive Scan where
  | missing
  | outOfRange (rest : List Char)
  | number (value : Int64) (rest : List Char)
deriving DecidableEq, Repr

namespace Scan

variable {sign : Int} {chars : List Char} {value : Int64}

/-- A number goes as far as its digits go. -/
def ofDigits (sign : Int) (chars : List Char) : Scan :=
  let digits := chars.takeWhile Char.isDigit
  let rest := chars.dropWhile Char.isDigit
  let value := sign * Nat.ofDigitChars 10 digits 0
  if digits = [] then .missing
  else if int64Min ≤ value ∧ value ≤ int64Max then .number (Int64.ofInt value) rest
  else .outOfRange rest

def ofChars (chars : List Char) : Scan :=
  match chars with
  | '-' :: digits => ofDigits (-1) digits
  | digits => ofDigits 1 digits

theorem toInt_ofInt {value : Int} (least : int64Min ≤ value) (most : value ≤ int64Max) :
    (Int64.ofInt value).toInt = value := by
  rw [int64Min] at least
  rw [int64Max] at most
  exact Int64.toInt_ofInt_of_le (by omega) (by omega)

theorem range_toInt (value : Int64) : int64Min ≤ value.toInt ∧ value.toInt ≤ int64Max := by
  have least := value.le_toInt
  have most := value.toInt_lt
  rw [int64Min, int64Max]
  omega

theorem ofDigits_eq_number_iff : ofDigits sign chars = .number value [] ↔
    chars ≠ [] ∧ chars.all Char.isDigit ∧
      value.toInt = sign * Nat.ofDigitChars 10 chars 0 := by
  constructor
  case mp =>
    intro scanned
    rw [ofDigits] at scanned
    split at scanned
    next => cases scanned
    next some =>
      split at scanned
      next range =>
        obtain ⟨rfl, ended⟩ := Scan.number.inj scanned
        have spelled := List.dropWhile_eq_nil_iff.mp ended
        have all : chars.takeWhile Char.isDigit = chars := List.takeWhile_eq_self_iff.mpr spelled
        rw [all] at some range ⊢
        exact ⟨some, List.all_eq_true.mpr spelled, toInt_ofInt range.1 range.2⟩
      next => cases scanned
  case mpr =>
    rintro ⟨some, spelled, same⟩
    have digits := List.all_eq_true.mp spelled
    have all : chars.takeWhile Char.isDigit = chars := List.takeWhile_eq_self_iff.mpr digits
    have ended : chars.dropWhile Char.isDigit = [] := List.dropWhile_eq_nil_iff.mpr digits
    simp only [ofDigits, all, ended, ← same, if_neg some, range_toInt, and_self, if_true,
      Int64.ofInt_toInt]

theorem ofChars_eq_number_iff : ofChars chars = .number value [] ↔ Decimal value.toInt chars := by
  constructor
  case mp =>
    intro scanned
    unfold ofChars at scanned
    split at scanned
    next digits =>
      obtain ⟨some, spelled, same⟩ := ofDigits_eq_number_iff.mp scanned
      rw [same, Int.neg_one_mul]
      exact .negative some spelled
    next =>
      obtain ⟨some, spelled, same⟩ := ofDigits_eq_number_iff.mp scanned
      rw [same, Int.one_mul]
      exact .unsigned some spelled
  case mpr =>
    intro spelled
    generalize same : value.toInt = number at spelled
    cases spelled with
    | negative some digits =>
        exact ofDigits_eq_number_iff.mpr ⟨some, digits, by rw [same, Int.neg_one_mul]⟩
    | unsigned some digits =>
        have scanned := ofDigits_eq_number_iff.mpr ⟨some, digits, by rw [same, Int.one_mul]⟩
        unfold ofChars
        split
        next => simp at digits
        next => exact scanned

end Scan

/-! ## Storing -/

/-- Read a text into a variable: whether the text is accepted, and the variable afterwards. -/
def readInto (text : String) (least most before : Int64) : Bool × Int64 :=
  if text.isEmpty then (false, before)
  else match Scan.ofChars text.toList with
    | .number value rest =>
        if rest ≠ [] ∨ value < least ∨ most < value then (false, before) else (true, value)
    | _ => (false, before)

variable {text : String} {least most before : Int64}

theorem readInto_of_decimal {value : Int64} (spelled : Decimal value.toInt text.toList)
    (above : least ≤ value) (below : value ≤ most) (before : Int64) :
    readInto text least most before = (true, value) := by
  have scanned := Scan.ofChars_eq_number_iff.mpr spelled
  have some : text.isEmpty = false := by
    apply Bool.eq_false_iff.mpr
    intro empty
    obtain rfl := String.isEmpty_iff.mp empty
    exact spelled.ne_nil rfl
  have within : ¬(value < least ∨ most < value) := by
    rw [Int64.le_iff_toInt_le] at above below
    rw [Int64.lt_iff_toInt_lt, Int64.lt_iff_toInt_lt]
    omega
  simp [readInto, some, scanned, within]

theorem readInto_of_refused (refused : ∀ value : Int64, Decimal value.toInt text.toList →
    least ≤ value → ¬value ≤ most) : readInto text least most before = (false, before) := by
  rw [readInto]
  split
  next => rfl
  next =>
    split
    next value rest scanned =>
      split
      next => rfl
      next accepted =>
        rw [not_or, not_or, not_ne_iff] at accepted
        obtain ⟨rfl, above, below⟩ := accepted
        rw [Int64.not_lt] at above below
        exact absurd below (refused value (Scan.ofChars_eq_number_iff.mp scanned) above)
    next => rfl

/-- The text is accepted if it spells an integer within the bounds, which is then stored; otherwise
nothing is. The bounded reader says the same. -/
structure ReadsExactly (text : String) (least most before : Int64) (read : Bool × Int64) :
    Prop where
  accepted : read.1 = true ↔ ∃ value, Decimal value text.toList ∧
    int64Min ≤ value ∧ value ≤ int64Max ∧ least.toInt ≤ value ∧ value ≤ most.toInt
  stored : read.1 = true → ∀ value, Decimal value text.toList ↔ value = read.2.toInt
  kept : read.1 = false → read.2 = before
  bounded : boundedInteger? text least.toInt most.toInt =
    if read.1 then some read.2.toInt else none

theorem readsExactly_of_decimal {value : Int64} (spelled : Decimal value.toInt text.toList)
    (above : least ≤ value) (below : value ≤ most) (before : Int64) :
    ReadsExactly text least most before (true, value) := by
  have range := Scan.range_toInt value
  rw [Int64.le_iff_toInt_le] at above below
  constructor
  case accepted =>
    exact iff_of_true rfl ⟨value.toInt, spelled, range.1, range.2, above, below⟩
  case stored =>
    exact fun _ other => ⟨fun also => also.unique spelled, fun same => same ▸ spelled⟩
  case kept => nofun
  case bounded =>
    rw [if_pos rfl, boundedInteger?_eq_some_iff, integer?_eq_some_iff]
    exact ⟨spelled, range.1, range.2, above, below⟩

theorem readsExactly_of_refused (refused : ∀ value : Int64, Decimal value.toInt text.toList →
    least ≤ value → ¬value ≤ most) (before : Int64) :
    ReadsExactly text least most before (false, before) := by
  -- An integer that the text spells and that has 64 bits is the value of a variable.
  have none : ¬∃ value, Decimal value text.toList ∧
      int64Min ≤ value ∧ value ≤ int64Max ∧ least.toInt ≤ value ∧ value ≤ most.toInt := by
    rintro ⟨value, spelled, range⟩
    rw [← Scan.toInt_ofInt range.1 range.2.1] at spelled range
    rw [← Int64.le_iff_toInt_le, ← Int64.le_iff_toInt_le] at range
    exact refused _ spelled range.2.2.1 range.2.2.2
  constructor
  case accepted => exact iff_of_false Bool.false_ne_true none
  case stored => nofun
  case kept => exact fun _ => rfl
  case bounded =>
    rw [if_neg Bool.false_ne_true, Option.eq_none_iff_forall_ne_some]
    intro value bounded
    rw [boundedInteger?_eq_some_iff, integer?_eq_some_iff] at bounded
    exact none ⟨value, bounded⟩

/-- Reading is exact for every text, all bounds and every variable, and every integer between the
bounds is read back from its decimal text. -/
theorem readInto_exact (text : String) (least most before : Int64) :
    ReadsExactly text least most before (readInto text least most before) ∧
    ∀ value, least ≤ value → value ≤ most →
      readInto (toString value) least most before = (true, value) := by
  constructor
  · by_cases spelled : ∃ value : Int64, Decimal value.toInt text.toList ∧
      least ≤ value ∧ value ≤ most
    case pos =>
      obtain ⟨value, spelled, above, below⟩ := spelled
      rw [readInto_of_decimal spelled above below]
      exact readsExactly_of_decimal spelled above below before
    case neg =>
      have refused (value : Int64) (also : Decimal value.toInt text.toList)
          (above : least ≤ value) : ¬value ≤ most :=
        fun below => spelled ⟨value, also, above, below⟩
      rw [readInto_of_refused refused]
      exact readsExactly_of_refused refused before
  · intro value above below
    exact readInto_of_decimal (decimal_toString value.toInt) above below before

/-- The least integer is read back. One less is refused, zeros in front or not. -/
theorem leastInteger_readBack :
    Int64.minValue ≤ Int64.minValue ∧ Int64.minValue ≤ Int64.maxValue ∧
      readInto "-9223372036854775808" Int64.minValue Int64.maxValue 7 = (true, Int64.minValue) ∧
      ReadsExactly "-009223372036854775809" Int64.minValue Int64.maxValue 7 (false, 7) := by
  have least : Int64.minValue ≤ Int64.minValue := Int64.le_refl _
  have most : Int64.minValue ≤ Int64.maxValue := by decide
  have shown : toString Int64.minValue = "-9223372036854775808" := by decide +kernel
  have refused : readInto "-009223372036854775809" Int64.minValue Int64.maxValue 7 = (false, 7) := by
    decide +kernel
  obtain ⟨exact, back⟩ := readInto_exact "-009223372036854775809" Int64.minValue Int64.maxValue 7
  exact ⟨least, most, shown ▸ back Int64.minValue least most, refused ▸ exact⟩

end VerifiedBuild.Text
