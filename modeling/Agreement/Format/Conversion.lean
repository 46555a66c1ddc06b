import Agreement.Value

/-!
# Conversions

How one argument of a format is written. A conversion has flags, a least width, a precision and a
mark that says what is written: `d`, `i` and `u` an integer, `o`, `x` and `X` an integer in another
radix, `e`, `f`, `g` and their capitals a floating-point number, `c` a character, `s` a value as
references print it, `r` and `a` a value as messages show it. `Conversion.write` writes a value, and
`FormatError` says why a format cannot be filled in with arguments.
-/

namespace Agreement

/-- Why a format cannot be filled in. -/
inductive FormatError where
  /-- A conversion names its argument, but arguments have no names. -/
  | named
  | tooFewArguments
  | tooManyArguments
  /-- The format ends inside a conversion. -/
  | incomplete
  /-- A width or precision taken from the arguments is no integer. -/
  | extentNotInteger
  | writtenWidth
  | writtenPrecision
  | argumentWidth
  | argumentPrecision
  /-- The precision is too great for an integer. -/
  | integerPrecision
  /-- No conversion has this mark, which stands at `index`. -/
  | unknownMark (mark : Char) (index : Nat)
  | notNumber (mark : Char) (typeName : Text)
  | notInteger (mark : Char) (typeName : Text)
  | notReal (typeName : Text)
  | notCharacter
  | noSuchCharacter
  | infiniteInteger
  | nanInteger
  /-- The integer is too great for a floating-point number. -/
  | outOfRange
  | integer (cause : IntegerError)
  deriving DecidableEq, Repr

namespace FormatError

/-- A mark as messages show it; only printable ASCII characters stand for themselves. -/
def shownMark (mark : Char) : Char :=
  if 31 ≤ mark.toNat ∧ mark.toNat ≤ 126 then mark else '?'

/-- The wording of a format's error. -/
def message : FormatError → Text
  | .named => "format requires a mapping"
  | .tooFewArguments => "not enough arguments for format string"
  | .tooManyArguments => "not all arguments converted during string formatting"
  | .incomplete => "incomplete format"
  | .extentNotInteger => "* wants int"
  | .writtenWidth => "width too big"
  | .writtenPrecision => "precision too big"
  | .argumentWidth => "Python int too large to convert to C ssize_t"
  | .argumentPrecision => "Python int too large to convert to C int"
  | .integerPrecision => "precision too large"
  | .unknownMark mark index =>
    "unsupported format character '" ++ [shownMark mark] ++ "' (0x" ++
      Nat.toDigits 16 mark.toNat ++ ") at index " ++ Nat.toDigits 10 index
  | .notNumber mark typeName =>
    "%" ++ [mark] ++ " format: a real number is required, not " ++ typeName
  | .notInteger mark typeName =>
    "%" ++ [mark] ++ " format: an integer is required, not " ++ typeName
  | .notReal typeName => "must be real number, not " ++ typeName
  | .notCharacter => "%c requires int or char"
  | .noSuchCharacter => "%c arg not in range(0x110000)"
  | .infiniteInteger => "cannot convert float infinity to integer"
  | .nanInteger => "cannot convert float NaN to integer"
  | .outOfRange => "int too large to convert to float"
  | .integer cause => cause.message

end FormatError

end Agreement

namespace Agreement.Format

/-- How one argument of a format is written. -/
structure Conversion where
  /-- Whether the text stands at the left of its width. -/
  leftAligned : Bool := false
  /-- Whether a number that is not negative gets a plus sign. -/
  plus : Bool := false
  /-- Whether a number that is not negative gets a space for its sign. -/
  blank : Bool := false
  /-- Whether the radix is marked, and the point of a floating-point number kept. -/
  marked : Bool := false
  /-- Whether a number is filled up with zeros. -/
  zeros : Bool := false
  /-- The least number of characters. -/
  width : Nat := 0
  precision : Option Nat := none
  deriving DecidableEq, Repr

namespace Conversion

/-- The text at its place in the width of the conversion. -/
def align (c : Conversion) (t : Text) : Text :=
  if c.leftAligned then t.padRight c.width ' ' else t.padLeft c.width ' '

/-- The sign of a number. -/
def sign (c : Conversion) (negative : Bool) : Text :=
  if negative then "-" else if c.plus then "+" else if c.blank then " " else []

/-- A number from its sign, the mark of its radix and its digits. Zeros are filled in before the
digits. -/
def alignNumber (c : Conversion) (negative : Bool) (radixMark digits : Text) : Text :=
  let front := c.sign negative ++ radixMark
  if c.zeros && !c.leftAligned then front ++ digits.padLeft (c.width - front.length) '0'
  else c.align (front ++ digits)

/-- The first characters of a text, as many as the precision says. -/
def alignText (c : Conversion) (t : Text) : Text :=
  c.align (match c.precision with
    | some count => t.take count
    | none => t)

/-- The capital of a small ASCII letter. -/
def capital (t : Text) : Text :=
  t.map Char.toUpper

/-- The greatest precision of an integer. -/
def integerPrecisionLimit : Nat := Nat.pow 2 31 - 4

/-- An integer in a radix. The precision is the least number of digits. -/
def writeInteger (c : Conversion) (mark : Char) (n : Int) : Except FormatError Text :=
  let precision := c.precision.getD 0
  if integerPrecisionLimit < precision then .error .integerPrecision
  else
    let number (radixMark digits : Text) : Except FormatError Text :=
      .ok (c.alignNumber (n < 0) (if c.marked then radixMark else [])
        (digits.padLeft precision '0'))
    match mark with
    | 'o' => number "0o" (Nat.toDigits 8 n.natAbs)
    | 'x' => number "0x" (Nat.toDigits 16 n.natAbs)
    | 'X' => number "0X" (capital (Nat.toDigits 16 n.natAbs))
    | _ => do
      let _ ← (Integer.write n).mapError .integer
      number [] (Nat.toDigits 10 n.natAbs)

/-- The integer that a value stands for in decimal; floating-point numbers are cut toward zero. -/
def integerOf (mark : Char) : Value → Except FormatError Int
  | .int n => .ok n
  | .bool b => .ok b.toInt
  | .float x =>
    match Binary64.ofFloat x with
    | .nan => .error .nanInteger
    | .infinite _ => .error .infiniteInteger
    | .finite negative mantissa exponent => .ok (Binary64.truncate negative mantissa exponent)
  | v => .error (.notNumber mark v.typeName)

/-- The integer that a value stands for in another radix. -/
def exactIntegerOf (mark : Char) : Value → Except FormatError Int
  | .int n => .ok n
  | .bool b => .ok b.toInt
  | v => .error (.notInteger mark v.typeName)

/-- The floating-point number that a value stands for. -/
def realOf : Value → Except FormatError Binary64
  | .float x => .ok (Binary64.ofFloat x)
  | .bool b => .ok (Binary64.ofInt b.toInt)
  | .int n =>
    match Binary64.ofInt n with
    | .infinite _ => .error .outOfRange
    | x => .ok x
  | v => .error (.notReal v.typeName)

/-- The digits of a floating-point number in the notation of a mark, without the sign. -/
def magnitudeText (c : Conversion) (mark : Char) (x : Fraction) : Text :=
  let precision := c.precision.getD 6
  match mark with
  | 'f' => Notation.fixed c.marked precision x
  | 'e' => Notation.scientific c.marked precision x
  | _ => Notation.general c.marked (max precision 1) x

/-- A floating-point number in the notation of a small mark. -/
def writeReal (c : Conversion) (mark : Char) (x : Binary64) (style : Text → Text) : Text :=
  match x with
  | .nan => c.alignNumber false [] (style (Notation.special true false))
  | .infinite negative => c.alignNumber negative [] (style (Notation.special false false))
  | .finite negative mantissa exponent =>
    c.alignNumber negative [] (style (c.magnitudeText mark (Binary64.magnitude mantissa exponent)))

/-- The character that a value stands for. -/
def characterOf : Value → Except FormatError Char
  | .text [c] => .ok c
  | .int n => ofCode n
  | .bool b => ofCode b.toInt
  | _ => .error .notCharacter
where
  /-- The character with a code point. -/
  ofCode (n : Int) : Except FormatError Char :=
    if n < 0 ∨ 0x110000 ≤ n then .error .noSuchCharacter else .ok (Char.ofNat n.toNat)

/-- A value as the conversion with a mark, which stands at `index`, writes it. -/
def write (c : Conversion) (mark : Char) (index : Nat) (v : Value) : Except FormatError Text :=
  match mark with
  | 's' => (v.shown.mapError .integer).map c.alignText
  | 'r' => (v.quoted.mapError .integer).map c.alignText
  | 'a' => ((v.quotedWith Text.quotedAscii).mapError .integer).map c.alignText
  | 'c' => (characterOf v).map fun x => c.align [x]
  | 'd' | 'i' | 'u' => do c.writeInteger mark (← integerOf mark v)
  | 'o' | 'x' | 'X' => do c.writeInteger mark (← exactIntegerOf mark v)
  | 'e' | 'f' | 'g' => (realOf v).map fun x => c.writeReal mark x id
  | 'E' => (realOf v).map fun x => c.writeReal 'e' x capital
  | 'F' => (realOf v).map fun x => c.writeReal 'f' x capital
  | 'G' => (realOf v).map fun x => c.writeReal 'g' x capital
  | _ => .error (.unknownMark mark index)

end Conversion

end Agreement.Format
