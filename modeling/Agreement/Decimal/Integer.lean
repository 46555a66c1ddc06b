import Agreement.Text.Basic
import Agreement.Text.Quoted
import Agreement.Text.WordChar

/-!
# Integers in decimal

Writing and reading integers. Both refuse integers of more than 4300 digits, so that no text can
make the library spend quadratic time on a number. `Integer.write` fails exactly from `10 ^ 4300`
on, and `Integer.read` counts the digits of the text, leading zeros included. Blanks around the text
are read over, where the four ASCII separators count as no blanks.
-/

namespace Agreement

/-- The greatest number of digits that an integer may be written or read with. -/
def digitLimit : Nat := 4300

/-- Why an integer cannot be written or read. -/
inductive IntegerError where
  /-- The text is no integer. -/
  | malformed (t : Text)
  /-- The integer has too many digits to be written. -/
  | tooLongToWrite
  /-- The text has this many digits, which is too many to be read. -/
  | tooLongToRead (digits : Nat)
  deriving DecidableEq, Repr

namespace Integer

/-- The digits of an integer behind its sign, whatever their number. -/
def text (n : Int) : Text :=
  if n < 0 then '-' :: Nat.toDigits 10 n.natAbs else Nat.toDigits 10 n.natAbs

/-- The text of an integer, unless it has too many digits. -/
def write (n : Int) : Except IntegerError Text :=
  if n.natAbs < Nat.pow 10 digitLimit then .ok (text n) else .error .tooLongToWrite

/-- The sign at the start of a text, and the rest. -/
def splitSign : Text → Bool × Text
  | '-' :: rest => (true, rest)
  | '+' :: rest => (false, rest)
  | t => (false, t)

/-- Whether a text is an optional sign and one or more decimal digits of any script. -/
def isNumeral (t : Text) : Bool :=
  let digits := (splitSign t).2
  !digits.isEmpty && digits.all isDecimal

/-- Whether a character is read over around an integer. -/
def isAround (c : Char) : Bool :=
  isBlank c && !(28 ≤ c.toNat && c.toNat ≤ 31)

/-- The number that decimal digits denote. -/
def ofDigits (digits : Text) : Nat :=
  digits.foldl (fun n c => n * 10 + (digitValue? c).getD 0) 0

/-- The integer that a text denotes: an optional sign and one or more digits of any script. -/
def read (t : Text) : Except IntegerError Int :=
  let (negative, rest) := splitSign (t.dropWhile isAround)
  let digits := rest.takeWhile isDecimal
  if digitLimit < digits.length then .error (.tooLongToRead digits.length)
  else if digits = [] ∨ !(rest.dropWhile isDecimal).all isAround then .error (.malformed t)
  else .ok (if negative then -ofDigits digits else ofDigits digits)

end Integer

namespace IntegerError

/-- The wording of an error about an integer's length. -/
def message : IntegerError → Text
  | .malformed t => "invalid literal for int() with base 10: " ++ t.quoted.take 200
  | .tooLongToWrite =>
    "Exceeds the limit (4300 digits) for integer string conversion; use " ++
      "sys.set_int_max_str_digits() to increase the limit"
  | .tooLongToRead digits =>
    "Exceeds the limit (4300 digits) for integer string conversion: value has " ++
      Integer.text digits ++ " digits; use sys.set_int_max_str_digits() to increase the limit"

end IntegerError

end Agreement
