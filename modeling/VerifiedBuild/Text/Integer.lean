/-!
# Decimal integers

Reading a signed 64-bit integer from its decimal text, with bounds. A text is an integer when it is
an optional minus sign followed by one or more ASCII digits; leading zeros are allowed, a plus sign
and blanks are not.
-/

namespace VerifiedBuild.Text

/-- The value of a list of decimal digits, most significant first. -/
def digitsValue (digits : List Char) : Nat :=
  digits.foldl (fun value digit => 10 * value + (digit.toNat - '0'.toNat)) 0

def natural? (digits : List Char) : Option Nat :=
  if digits ≠ [] ∧ digits.all Char.isDigit then some (digitsValue digits) else none

def integer? (text : String) : Option Int :=
  match text.toList with
  | '-' :: digits => (natural? digits).map fun value => -(value : Int)
  | digits => (natural? digits).map fun value => (value : Int)

def int64Min : Int := -9223372036854775808

def int64Max : Int := 9223372036854775807

/-- The integer that a text spells, if it fits 64 bits and lies between the bounds. -/
def boundedInteger? (text : String) (least most : Int) : Option Int :=
  (integer? text).filter fun value =>
    int64Min ≤ value ∧ value ≤ int64Max ∧ least ≤ value ∧ value ≤ most

theorem boundedInteger?_eq_some_iff {text : String} {least most value : Int} :
    boundedInteger? text least most = some value ↔
      integer? text = some value ∧
        int64Min ≤ value ∧ value ≤ int64Max ∧ least ≤ value ∧ value ≤ most := by
  simp [boundedInteger?, Option.filter_eq_some_iff]

end VerifiedBuild.Text
