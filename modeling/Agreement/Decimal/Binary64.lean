import Agreement.Text.Basic

/-!
# Binary floating-point numbers as exact fractions

A finite number of the 64-bit binary format is a sign and `mantissa * 2 ^ exponent`. All decimal
texts are computed from that exact value with integer arithmetic.
-/

namespace Agreement

/-- What the bits of a floating-point number say. -/
inductive Binary64 where
  | nan
  | infinite (negative : Bool)
  | finite (negative : Bool) (mantissa : Nat) (exponent : Int)
  deriving DecidableEq, Repr

/-- A fraction that is not negative; the denominator is positive. -/
structure Fraction where
  numerator : Nat
  denominator : Nat

namespace Binary64

/-- The number with the given 64 bits. -/
def ofBits (bits : Nat) : Binary64 :=
  let negative : Bool := bits / Nat.pow 2 63 % 2 = 1
  let biased : Nat := bits / Nat.pow 2 52 % 2048
  let fraction := bits % Nat.pow 2 52
  if biased = 2047 then if fraction = 0 then .infinite negative else .nan
  else if biased = 0 then .finite negative fraction (-1074)
  else .finite negative (fraction + Nat.pow 2 52) ((biased : Int) - 1075)

/-- The number that a float holds. -/
def ofFloat (x : Float) : Binary64 :=
  ofBits x.toBits.toNat

/-- The value of `mantissa * 2 ^ exponent`. -/
def magnitude (mantissa : Nat) (exponent : Int) : Fraction :=
  if exponent < 0 then ⟨mantissa, Nat.pow 2 exponent.natAbs⟩
  else ⟨mantissa * Nat.pow 2 exponent.natAbs, 1⟩

/-- The integer part of a finite number, toward zero. -/
def truncate (negative : Bool) (mantissa : Nat) (exponent : Int) : Int :=
  let whole : Nat := (magnitude mantissa exponent).numerator /
    (magnitude mantissa exponent).denominator
  if negative then -whole else whole

end Binary64

namespace Fraction

/-- The fraction times `2 ^ power`. -/
def scaleBinary (x : Fraction) (power : Int) : Fraction :=
  if power < 0 then ⟨x.numerator, x.denominator * Nat.pow 2 power.natAbs⟩
  else ⟨x.numerator * Nat.pow 2 power.natAbs, x.denominator⟩

/-- The fraction times `10 ^ power`. -/
def scale (x : Fraction) (power : Int) : Fraction :=
  if power < 0 then ⟨x.numerator, x.denominator * Nat.pow 10 power.natAbs⟩
  else ⟨x.numerator * Nat.pow 10 power.natAbs, x.denominator⟩

/-- The nearest integer; of two equally near ones the even one. -/
def round (x : Fraction) : Nat :=
  let whole := x.numerator / x.denominator
  let twice := 2 * (x.numerator % x.denominator)
  if twice < x.denominator then whole
  else if x.denominator < twice then whole + 1
  else whole + whole % 2

/-- The exponent of the leading decimal digit of a positive number of the 64-bit format. -/
def leadingExponent (x : Fraction) : Int :=
  (Nat.toDigits 10 (x.numerator * Nat.pow 10 400 / x.denominator)).length - 401

end Fraction

namespace Binary64

/-- The exponent for a positive fraction whose mantissa has 53 bits, or fewer near zero. -/
def exponentFor (x : Fraction) : Int :=
  let estimate : Int := (x.numerator.log2 : Int) - x.denominator.log2 - 53
  let scaled := x.scaleBinary (-estimate)
  let fits := scaled.numerator < Nat.pow 2 53 * scaled.denominator
  max (-1074) (if fits then estimate else estimate + 1)

/-- The number nearest to a fraction; of two equally near ones the one with the even mantissa.
Fractions that round to `2 ^ 1024` or more are infinite. -/
def nearest (negative : Bool) (x : Fraction) : Binary64 :=
  if x.numerator = 0 then .finite negative 0 (-1074)
  else
    let exponent := exponentFor x
    let mantissa := (x.scaleBinary (-exponent)).round
    let (mantissa, exponent) :=
      if mantissa = Nat.pow 2 53 then (Nat.pow 2 52, exponent + 1) else (mantissa, exponent)
    if 971 < exponent then .infinite negative else .finite negative mantissa exponent

/-- The number nearest to an integer. -/
def ofInt (n : Int) : Binary64 :=
  nearest (n < 0) ⟨n.natAbs, 1⟩

/-- The bits of a number, for a mantissa of 53 bits or the exponent -1074. -/
def toBits : Binary64 → Nat
  | .nan => 2047 * Nat.pow 2 52 + Nat.pow 2 51
  | .infinite negative => negative.toNat * Nat.pow 2 63 + 2047 * Nat.pow 2 52
  | .finite negative mantissa exponent =>
    negative.toNat * Nat.pow 2 63 +
      if mantissa < Nat.pow 2 52 then mantissa
      else (exponent + 1075).toNat * Nat.pow 2 52 + (mantissa - Nat.pow 2 52)

/-- The float that holds a number. -/
def toFloat (x : Binary64) : Float :=
  Float.ofBits (UInt64.ofNat x.toBits)

end Binary64

/-- Decimal digits without leading zeros, with the exponent of the first one. -/
structure Digits10 where
  digits : Text
  exponent : Int

namespace Digits10

/-- The digits of a positive integer `n` that counts units of `10 ^ unit`. -/
def ofUnits (n : Nat) (unit : Int) : Digits10 :=
  let digits := Nat.toDigits 10 n
  ⟨digits, unit + digits.length - 1⟩

end Digits10

end Agreement
