import Agreement.Number.Words

/-!
# Grouped digits

Integers in any radix up to 62, with the digits in groups, an optional plus sign, and padding on the
left. `grouped` writes the groups and `ungrouped` the digits in one run.
-/

namespace Agreement

/-- How an integer is laid out in digits. -/
structure DigitLayout where
  /-- The number of columns to fill; a number that needs more takes them. -/
  columns : Int := 0
  /-- The character to fill columns with; empty for none. -/
  padding : Text := " "
  /-- The number of digits in a group, of either sign; zero for a single group. -/
  interval : Int := 3
  /-- The text between two groups. -/
  separator : Text := ","
  /-- Whether a number that is not negative gets a plus sign. -/
  signed : Bool := false
  /-- The radix, from 2 to 62. -/
  radix : Int := 10

namespace Digits

/-- The digit of a value below 62: the ten digits, then capital and small letters. -/
def symbol (value : Nat) : Char :=
  if value < 10 then Char.ofNat (48 + value)
  else if value < 36 then Char.ofNat (55 + value)
  else Char.ofNat (61 + value)

/-- The digits of a number in a radix, the first one not zero unless the number is. -/
def ofNat (radix n : Nat) : Text :=
  if _h : radix < 2 ∨ n < radix then [symbol n]
  else ofNat radix (n / radix) ++ [symbol (n % radix)]
termination_by n
decreasing_by
  simp only [not_or, Nat.not_lt] at _h
  exact Nat.div_lt_self (by omega) (by omega)

/-- Puts the separator after every digit that a positive multiple of `size` digits follow. -/
def separate (size : Nat) (separator : Text) : Text → Text
  | [] => []
  | c :: rest =>
    if rest ≠ [] ∧ size ≠ 0 ∧ rest.length % size = 0
    then c :: (separator ++ separate size separator rest)
    else c :: separate size separator rest

end Digits

/-- The sign and the grouped digits of an integer, before any padding. -/
def DigitLayout.unpadded (layout : DigitLayout) (n : Int) : Text :=
  (if n < 0 then ("-" : Text) else if layout.signed then "+" else []) ++
    Digits.separate layout.interval.natAbs layout.separator
      (Digits.ofNat layout.radix.toNat n.natAbs)

/-- An integer in grouped digits. -/
def grouped (layout : DigitLayout) (n : Int) : Except NumberError Text :=
  if layout.radix < 2 ∨ 62 < layout.radix then .error (.unsupportedRadix layout.radix)
  else match layout.padding with
    | [] => .ok (layout.unpadded n)
    | [c] => .ok (Text.padLeft layout.columns.toNat c (layout.unpadded n))
    | _ => .error .padding

/-- An integer in digits without groups. -/
def ungrouped (layout : DigitLayout) (n : Int) : Except NumberError Text :=
  grouped { layout with interval := 0, separator := "," } n

end Agreement
