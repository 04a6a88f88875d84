import Mathlib.Algebra.Ring.Nat
import Mathlib.Data.List.Basic
import Mathlib.Data.List.Induction
import VerifiedBuild.Metrics.Milliseconds
import VerifiedBuild.Proofs.Text.Integer

/-!
# Numbers in so many places

A number that is too short for its places has zeros in front. Each number has one text in a given
number of places, which takes more places if they are too few, and it is read back from this text.
-/

namespace VerifiedBuild.Text

/-! ## Values of digits -/

theorem toNat_of_concat {digits : List Char} {last : Char}
    (spelled : (digits ++ [last]).all Char.isDigit) :
    digits.all Char.isDigit ∧ 48 ≤ last.toNat ∧ last.toNat ≤ 57 := by
  rw [List.all_append, Bool.and_eq_true, List.all_cons, Bool.and_eq_true] at spelled
  exact ⟨spelled.1, Char.isDigit_iff_toNat.mp spelled.2.1⟩

theorem ofDigitChars_concat (digits : List Char) (last : Char) :
    Nat.ofDigitChars 10 (digits ++ [last]) 0 =
      10 * Nat.ofDigitChars 10 digits 0 + (last.toNat - 48) := by
  rw [Nat.ofDigitChars_append, Nat.ofDigitChars_cons, Nat.ofDigitChars_nil]
  rfl

theorem ofDigitChars_lt {digits : List Char} (spelled : digits.all Char.isDigit) :
    Nat.ofDigitChars 10 digits 0 < 10 ^ digits.length := by
  induction digits using List.reverseRecOn with
  | nil => decide
  | append_singleton digits last ih =>
      obtain ⟨front, range⟩ := toNat_of_concat spelled
      have below := ih front
      rw [ofDigitChars_concat, List.length_append, List.length_singleton, Nat.pow_succ]
      omega

theorem le_ofDigitChars {lead : Char} {digits : List Char} (digit : lead.isDigit)
    (nonzero : lead ≠ '0') : 10 ^ digits.length ≤ Nat.ofDigitChars 10 (lead :: digits) 0 := by
  have above : '0'.toNat ≤ lead.toNat := (Char.isDigit_iff_toNat.mp digit).1
  have apart : '0'.toNat ≠ lead.toNat := fun same => nonzero (Char.toNat_inj.mp same.symm)
  have positive : 0 < lead.toNat - '0'.toNat :=
    Nat.sub_pos_of_lt (Nat.lt_of_le_of_ne above apart)
  rw [Nat.ofDigitChars_cons, Nat.mul_zero, Nat.zero_add, Nat.ofDigitChars_eq_ofDigitChars_zero]
  exact Nat.le_trans (Nat.le_mul_of_pos_right _ positive) (Nat.le_add_right _ _)

/-- Digits in equally many places are told apart by their values. -/
theorem eq_of_ofDigitChars_eq {first second : List Char} (spelled : first.all Char.isDigit)
    (alsoSpelled : second.all Char.isDigit) (places : first.length = second.length)
    (same : Nat.ofDigitChars 10 first 0 = Nat.ofDigitChars 10 second 0) : first = second := by
  induction first using List.reverseRecOn generalizing second with
  | nil => exact (List.length_eq_zero_iff.mp places.symm).symm
  | append_singleton first last ih =>
      obtain rfl | ⟨others, other, rfl⟩ := List.eq_nil_or_concat' second
      · simp at places
      · obtain ⟨front, range⟩ := toNat_of_concat spelled
        obtain ⟨otherFront, otherRange⟩ := toNat_of_concat alsoSpelled
        rw [ofDigitChars_concat, ofDigitChars_concat] at same
        have fronts : first = others := ih front otherFront (by simpa using places) (by omega)
        have lasts : last = other := Char.toNat_inj.mp (by omega)
        rw [fronts, lasts]

/-! ## Padding -/

/-- The digits of a number in at least so many places. If there are more, the first is no zero. -/
structure Padded (width value : Nat) (digits : List Char) : Prop where
  spelled : digits.all Char.isDigit
  worth : Nat.ofDigitChars 10 digits 0 = value
  wide : width ≤ digits.length
  tight : width < digits.length → digits.head? ≠ some '0'

namespace Padded

variable {width value : Nat} {digits : List Char}

theorem length_le (padded : Padded width value digits) {places : Nat} (wide : width ≤ places)
    (small : value < 10 ^ places) : digits.length ≤ places := by
  by_contra long
  -- No zero stands in front of so many digits, and so their value is too large.
  have nonzero := padded.tight (by omega)
  cases digits with
  | nil => exact long (Nat.zero_le _)
  | cons lead others =>
      have digit : lead.isDigit := List.all_eq_true.mp padded.spelled lead List.mem_cons_self
      have large : 10 ^ others.length ≤ value :=
        padded.worth ▸ le_ofDigitChars digit fun same => nonzero (congrArg some same)
      have more : 10 ^ places ≤ 10 ^ others.length :=
        Nat.pow_le_pow_right (by decide) (Nat.le_of_not_lt fun short => long short)
      omega

theorem unique {others : List Char} (padded : Padded width value digits)
    (also : Padded width value others) : digits = others := by
  -- The value fits the places of either text, and so neither takes more places than the other.
  have below {shown : List Char} (shows : Padded width value shown) :
      value < 10 ^ shown.length :=
    shows.worth ▸ ofDigitChars_lt shows.spelled
  have places : digits.length = others.length := Nat.le_antisymm
    (padded.length_le also.wide (below also)) (also.length_le padded.wide (below padded))
  exact eq_of_ofDigitChars_eq padded.spelled also.spelled places
    (padded.worth.trans also.worth.symm)

end Padded

theorem padded_zeroPadded {width : Nat} (positive : 0 < width) (value : Nat) :
    Padded width value (zeroPadded width (toString value)).toList := by
  have chars : (toString value).toList = Nat.toDigits 10 value := Nat.toList_repr
  have whole : (zeroPadded width (toString value)).toList =
      List.replicate (width - (Nat.toDigits 10 value).length) '0' ++ Nat.toDigits 10 value := by
    rw [zeroPadded, String.toList_append, String.toList_ofList, ← String.length_toList, chars]
  rw [whole]
  constructor
  case spelled =>
    rw [List.all_append, all_isDigit_toDigits, Bool.and_true, List.all_replicate]
    simp
  case worth =>
    rw [Nat.ofDigitChars_append, Nat.ofDigitChars_replicate_zero, Nat.mul_zero,
      Nat.ofDigitChars_ten_toDigits]
  case wide =>
    rw [List.length_append, List.length_replicate]
    omega
  case tight =>
    intro longer
    rw [List.length_append, List.length_replicate] at longer
    have unpadded : width - (Nat.toDigits 10 value).length = 0 := by omega
    have large : 0 < value := by
      apply Nat.pos_of_ne_zero
      rintro rfl
      rw [Nat.toDigits_zero, List.length_singleton] at longer
      omega
    obtain ⟨lead, others, digits, nonzero⟩ := lead_toDigits large
    rw [unpadded, List.replicate_zero, List.nil_append, digits, List.head?_cons]
    exact fun same => nonzero (Option.some.inj same)

/-! ## Reading -/

/-- The number that digits spell in at least so many places. -/
def padded? (width : Nat) (digits : List Char) : Option Nat :=
  if width ≤ digits.length ∧ (width < digits.length → digits.head? ≠ some '0') then
    natural? digits
  else none

theorem padded?_eq_some_iff {width value : Nat} {digits : List Char} (positive : 0 < width) :
    padded? width digits = some value ↔ Padded width value digits := by
  rw [padded?]
  constructor
  case mp =>
    intro read
    split at read
    next shape =>
      obtain ⟨-, spelled, worth⟩ := natural?_eq_some_iff.mp read
      exact ⟨spelled, worth, shape.1, shape.2⟩
    next => cases read
  case mpr =>
    intro padded
    have nonempty : digits ≠ [] :=
      List.ne_nil_of_length_pos (Nat.lt_of_lt_of_le positive padded.wide)
    rw [if_pos ⟨padded.wide, padded.tight⟩]
    exact natural?_eq_some_iff.mpr ⟨nonempty, padded.spelled, padded.worth⟩

end VerifiedBuild.Text
