import Agreement.Decimal.Binary64

/-!
# Decimal notations

Three notations for floating-point numbers. `general` is positional for exponents from -4 up to a
bound and has a power of ten elsewhere; `fixed` has a given number of places; `scientific` always
has one digit before the point and a power of ten. `shortest` is the general notation of the
shortest digits that read back.

These are the fewest decimal digits that read back as a given binary number. A decimal reads back if
it lies between the midpoints to the two neighbouring binary numbers, the midpoints included when
the mantissa is even. If a point of a decimal grid lies there, so does one of the two grid points
around the number itself, so it is enough to look at these for one digit, two digits, and so on up
to seventeen, which always suffice.
-/

namespace Agreement.Shortest

/-- The interval of the numbers that read back as a binary number, in units of a quarter of its last
place: `low` to `high` times `2 ^ unit`, with the number at `middle`. -/
structure Interval where
  low : Nat
  middle : Nat
  high : Nat
  unit : Int
  closed : Bool

/-- The interval of a positive finite number. Below a power of two the neighbour is half as far. -/
def interval (mantissa : Nat) (exponent : Int) : Interval where
  low := if mantissa = Nat.pow 2 52 ∧ -1074 < exponent then 4 * mantissa - 1 else 4 * mantissa - 2
  middle := 4 * mantissa
  high := 4 * mantissa + 2
  unit := exponent - 2
  closed := mantissa % 2 = 0

/-- Whether `n * 10 ^ grid` lies in the interval. -/
def Interval.has (i : Interval) (n : Nat) (grid : Int) : Bool :=
  let point := Fraction.scale ⟨n, 1⟩ grid
  let unit := Binary64.magnitude 1 i.unit
  let x := point.numerator * unit.denominator
  let y := point.denominator * unit.numerator
  if i.closed then i.low * y ≤ x && x ≤ i.high * y else i.low * y < x && x < i.high * y

/-- The digits on the grid of `10 ^ grid`, if a point of it next to the number reads back. Of two
such points the nearer one is taken, and of two equally near ones the even one. -/
def onGrid? (i : Interval) (grid : Int) : Option Digits10 :=
  let value := (Binary64.magnitude i.middle i.unit).scale (-grid)
  let below := value.numerator / value.denominator
  let nearest := value.round
  if i.has nearest grid then some (Digits10.ofUnits nearest grid)
  else if i.has below grid then some (Digits10.ofUnits below grid)
  else if i.has (below + 1) grid then some (Digits10.ofUnits (below + 1) grid)
  else none

/-- The digits on the first grid that has some, starting with one of `count` digits. -/
def search (i : Interval) (leading : Int) : (fuel count : Nat) → Digits10
  | 0, count => Digits10.ofUnits
      ((Binary64.magnitude i.middle i.unit).scale (count - 1 - leading)).round (leading - count + 1)
  | fuel + 1, count => (onGrid? i (leading - count + 1)).getD (search i leading fuel (count + 1))

/-- The shortest digits of a positive finite number. -/
def digits (mantissa : Nat) (exponent : Int) : Digits10 :=
  let found := search (interval mantissa exponent)
    (Binary64.magnitude mantissa exponent).leadingExponent 16 1
  ⟨Text.dropZeros found.digits, found.exponent⟩

end Agreement.Shortest

namespace Agreement.Notation

/-- The texts of what is no finite number. -/
def special (nan : Bool) (negative : Bool) : Text :=
  if nan then "nan" else if negative then "-inf" else "inf"

/-- Digits with a point behind the first `whole` of them, if any digit follows it or `keepPoint`
asks for the point. -/
def withPoint (keepPoint : Bool) (whole : Nat) (digits : Text) : Text :=
  let places := digits.drop whole
  digits.take whole ++ (if places ≠ [] then '.' :: places else if keepPoint then ['.'] else [])

/-- A power of ten: the mark, the sign, and at least two digits. -/
def power (exponent : Int) : Text :=
  'e' :: (if exponent < 0 then '-' else '+') ::
    Text.padLeft 2 '0' (Nat.toDigits 10 exponent.natAbs)

/-- One digit, a point, the other digits and a power of ten. -/
def scientificDigits (keepPoint : Bool) (d : Digits10) : Text :=
  withPoint keepPoint 1 d.digits ++ power d.exponent

/-- Digits in positional notation. -/
def positional (keepPoint : Bool) (d : Digits10) : Text :=
  if d.exponent < 0 then
    withPoint keepPoint 1 (List.replicate d.exponent.natAbs '0' ++ d.digits)
  else
    let whole := d.exponent.toNat + 1
    withPoint keepPoint whole (Text.padRight whole '0' d.digits)

/-- The shortest text that reads back: positional for exponents from -4 to 15, with at least one
place. -/
def shortest (x : Float) : Text :=
  match Binary64.ofFloat x with
  | .nan => special true false
  | .infinite negative => special false negative
  | .finite negative mantissa exponent =>
    let sign : Text := if negative then "-" else []
    if mantissa = 0 then sign ++ "0.0"
    else
      let d := Shortest.digits mantissa exponent
      if d.exponent < -4 ∨ 16 ≤ d.exponent then sign ++ scientificDigits false d
      else if d.digits.length ≤ d.exponent + 1 then sign ++ positional false d ++ ".0"
      else sign ++ positional false d

/-- A fraction with a given number of places. -/
def fixed (keepPoint : Bool) (places : Nat) (x : Fraction) : Text :=
  let digits := Text.padLeft (places + 1) '0' (Nat.toDigits 10 (x.scale places).round)
  withPoint keepPoint (digits.length - places) digits

/-- A fraction rounded to `count` significant digits, at least one. -/
def significant (count : Nat) (x : Fraction) : Digits10 :=
  if x.numerator = 0 then ⟨List.replicate count '0', 0⟩
  else
    let unit := x.leadingExponent - count + 1
    let d := Digits10.ofUnits (x.scale (-unit)).round unit
    ⟨d.digits.take count, d.exponent⟩

/-- A fraction in scientific notation with a given number of places. -/
def scientific (keepPoint : Bool) (places : Nat) (x : Fraction) : Text :=
  scientificDigits keepPoint (significant (places + 1) x)

/-- A fraction with at most `count` significant digits, positional for exponents from -4 to
`count - 1`. Zeros at the end are dropped unless `keepZeros` is set. -/
def general (keepZeros : Bool) (count : Nat) (x : Fraction) : Text :=
  let d := significant count x
  let kept := if keepZeros then d.digits else Text.dropZeros d.digits
  if -4 ≤ d.exponent ∧ d.exponent < count then positional keepZeros ⟨kept, d.exponent⟩
  else scientificDigits keepZeros ⟨kept, d.exponent⟩

end Agreement.Notation
