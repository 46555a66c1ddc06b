import Agreement.Decimal.Integer

/-!
# Numbers in words

The words for a number. A cardinal is written out, "two hundred and four" or "one thousand, zero":
hundreds are joined with "and", larger scales with a comma, and the part below a scale is always
written, even when it is zero; words exist below one trillion. An ordinal is written in digits with
a suffix ("21st", "112th") or, below one hundred, in words ("twenty-first"). A count can also be
given as a vague quantity, such as "a couple of", and some of these have another form at the end of
a sentence. `NumberError` says why a number cannot be written in one of these or in the other
formats.
-/

namespace Agreement

/-- Why a number cannot be written in a format. -/
inductive NumberError where
  /-- The number has no name in words. -/
  | unnamed
  /-- No digits exist for this radix. -/
  | unsupportedRadix (radix : Int)
  /-- The padding is not a single character. -/
  | padding
  /-- The number has too many digits. -/
  | integer (cause : IntegerError)
  deriving DecidableEq, Repr

namespace NumberError

/-- The wording of a number format's error. -/
def message : NumberError → Text
  | .unnamed => "Numbers greater than or equal to 1 trillion are not supported."
  | .unsupportedRadix radix =>
    "Radix " ++ Integer.text radix ++ " is outside the supported range 2-62"
  | .padding => "The fill character must be exactly one character long"
  | .integer cause => cause.message

/-- Whether an error is about the number itself, and so is reported; any other ends the program. -/
def isReported : NumberError → Bool
  | .unnamed => true
  | .unsupportedRadix _ => true
  | .padding => false
  | .integer _ => false

end NumberError

/-- The decimal digits of a number, as a number format. -/
def writeInteger (n : Int) : Except NumberError Text :=
  (Integer.write n).mapError .integer

namespace Cardinal

/-- The numbers up to twenty in words. -/
def small : List Text :=
  ["zero", "one", "two", "three", "four", "five", "six", "seven", "eight", "nine", "ten", "eleven",
   "twelve", "thirteen", "fourteen", "fifteen", "sixteen", "seventeen", "eighteen", "nineteen",
   "twenty"]

/-- The multiples of ten up to ninety in words. -/
def tens : List Text :=
  ["zero", "ten", "twenty", "thirty", "forty", "fifty", "sixty", "seventy", "eighty", "ninety"]

/-- The scales from the largest down, and their words. -/
def scales : List (Nat × Text) :=
  [(1000000000, "billion"), (1000000, "million"), (1000, "thousand")]

/-- The least number without words. -/
def limit : Nat := 1000000000000

/-- A number below one hundred in words. -/
def belowHundred (n : Nat) : Text :=
  if n ≤ 20 then small.getD n []
  else if n % 10 = 0 then tens.getD (n / 10) []
  else tens.getD (n / 10) [] ++ "-" ++ small.getD (n % 10) []

/-- A number below one thousand in words. -/
def belowThousand (n : Nat) : Text :=
  if n < 100 then belowHundred n
  else belowHundred (n / 100) ++ " hundred and " ++ belowHundred (n % 100)

/-- A number in words, split at each of the given scales that it reaches. -/
def byScales : List (Nat × Text) → Nat → Text
  | [], n => belowThousand n
  | (scale, word) :: rest, n =>
    if n < scale then byScales rest n
    else belowThousand (n / scale) ++ " " ++ word ++ ", " ++ byScales rest (n % scale)

/-- A number below one trillion in words. -/
def spell (n : Nat) : Text :=
  byScales scales n

end Cardinal

/-- An integer in words; from the threshold on, if there is one, in digits instead. -/
def cardinal (n : Int) (threshold : Option Int := none) : Except NumberError Text :=
  if threshold.any (· ≤ n) then writeInteger n
  else if Cardinal.limit ≤ n.natAbs then .error .unnamed
  else if n < 0 then .ok ("negative " ++ Cardinal.spell n.natAbs)
  else .ok (Cardinal.spell n.natAbs)

namespace Ordinal

/-- The ordinals below twenty in words. -/
def small : List Text :=
  ["zeroth", "first", "second", "third", "fourth", "fifth", "sixth", "seventh", "eighth", "ninth",
   "tenth", "eleventh", "twelfth", "thirteenth", "fourteenth", "fifteenth", "sixteenth",
   "seventeenth", "eighteenth", "nineteenth"]

/-- The ordinals of the multiples of ten in words. -/
def tens : List Text :=
  ["zeroth", "tenth", "twentieth", "thirtieth", "fortieth", "fiftieth", "sixtieth", "seventieth",
   "eightieth", "ninetieth"]

/-- The threshold that stands for none: the greatest 64-bit integer. -/
def unlimited : Int := 9223372036854775807

/-- The suffix of an ordinal in digits: the last digit decides, except that all teens take "th". -/
def suffix (n : Nat) : Text :=
  if n % 100 / 10 = 1 then "th"
  else if n % 10 = 1 then "st"
  else if n % 10 = 2 then "nd"
  else if n % 10 = 3 then "rd"
  else "th"

/-- The ordinal of a number below one hundred in words. -/
def spell (n : Nat) : Text :=
  if n < 20 then small.getD n []
  else if n % 10 = 0 then tens.getD (n / 10) []
  else Cardinal.tens.getD (n / 10) [] ++ "-" ++ small.getD (n % 10) []

/-- The ordinal of a number that is not negative; from the threshold on its plain digits. -/
def ofNat (n : Nat) (threshold : Int) (inWords : Bool) : Except NumberError Text :=
  if threshold ≤ n then writeInteger n
  else if inWords ∧ n < 100 then .ok (spell n)
  else (writeInteger n).map (· ++ suffix n)

end Ordinal

/-- The ordinal of an integer; from the threshold on its plain digits. The threshold is compared
with the signed number, and below zero only the size of the number is written. -/
def ordinal (n : Int) (threshold : Int := Ordinal.unlimited) (inWords : Bool := false) :
    Except NumberError Text :=
  if threshold ≤ n then writeInteger n
  else if n < 0 then (Ordinal.ofNat n.natAbs Ordinal.unlimited inWords).map ("minus " ++ ·)
  else Ordinal.ofNat n.natAbs threshold inWords

/-- The vague quantity of a count; `atEnd` chooses the forms for the end of a sentence. -/
def summarize (n : Int) (atEnd : Bool := false) : Text :=
  if n = 0 then if atEnd then "none" else "no"
  else if n = 1 then "one"
  else if n = 2 then if atEnd then "a couple" else "a couple of"
  else if 3 ≤ n ∧ n ≤ 5 then "a few"
  else if 6 ≤ n ∧ n ≤ 9 then "several"
  else "many"

end Agreement
