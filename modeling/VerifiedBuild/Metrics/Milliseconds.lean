/-!
# Milliseconds

Durations are shown in milliseconds with three decimals. The number shown is a 64-bit floating-point
quotient, so two roundings count: that of the nanoseconds and that of their quotient by a million,
each to the nearest number with a 53-bit significand; the decimals are then rounded from that exact
value. In all three a tie goes to the even neighbour.
-/

namespace VerifiedBuild

/-- The integer nearest to a quotient; a tie goes to the even one. -/
def roundedQuotient (numerator denominator : Nat) : Nat :=
  let quotient := numerator / denominator
  let twice := 2 * (numerator % denominator)
  if twice < denominator then quotient
  else if denominator < twice then quotient + 1
  else quotient + quotient % 2

/-- The number `significand * 2 ^ up / 2 ^ down`. -/
structure Binary where
  significand : Nat
  up : Nat
  down : Nat
deriving DecidableEq, Repr

namespace Binary

def numerator (value : Binary) : Nat := value.significand <<< value.up

def denominator (value : Binary) : Nat := 1 <<< value.down

/-- The quotient scaled down by `2 ^ up` and up by `2 ^ down`, rounded to an integer. -/
def scaled (numerator denominator up down : Nat) : Binary :=
  ⟨roundedQuotient (numerator <<< down) (denominator <<< up), up, down⟩

/-- The number with a 53-bit significand nearest to a quotient. The scale is chosen by the number of
bits of both sides and moved by one place when the significand comes out a bit short. -/
def nearest (numerator denominator : Nat) : Binary :=
  if numerator = 0 then ⟨0, 0, 0⟩
  else
    let exponent : Int := (numerator.log2 : Int) - (denominator.log2 : Int) - 52
    let (up, down) := (exponent.toNat, (-exponent).toNat)
    if (numerator <<< down) / (denominator <<< up) < 1 <<< 52 then
      scaled numerator denominator (exponent - 1).toNat (1 - exponent).toNat
    else scaled numerator denominator up down

end Binary

def zeroPadded (width : Nat) (digits : String) : String :=
  String.ofList (List.replicate (width - digits.length) '0') ++ digits

def threeDecimals (numerator denominator : Nat) : String :=
  let thousandths := roundedQuotient (numerator * 1000) denominator
  toString (thousandths / 1000) ++ "." ++ zeroPadded 3 (toString (thousandths % 1000))

def milliseconds (nanoseconds : UInt64) : String :=
  let whole := Binary.nearest nanoseconds.toNat 1
  let quotient := Binary.nearest whole.numerator (whole.denominator * 1000000)
  threeDecimals quotient.numerator quotient.denominator

end VerifiedBuild
