import Agreement.Text.Basic

/-!
# Roman numerals

Roman numerals in two notations. The additive one writes 4 as "IIII", the subtractive one as "IV".
Zero is "N", and negative numbers get a minus sign. Each notation is a table of symbols, which takes
what it can from a number and leaves the rest to the table behind it (`Roman.numeral_append`); the
same symbols at a larger scale write the number of units (`Roman.numeral_scale`).
-/

namespace Agreement.Roman

/-- The symbols of the additive notation, from the largest down. -/
def additive : List (Nat × Text) :=
  [(1000, "M"), (500, "D"), (100, "C"), (50, "L"), (10, "X"), (5, "V"), (1, "I")]

/-- The symbols of the subtractive notation and its pairs of symbols, from the largest down. -/
def subtractive : List (Nat × Text) :=
  [(1000, "M"), (900, "CM"), (500, "D"), (400, "CD"), (100, "C"), (90, "XC"), (50, "L"),
   (40, "XL"), (10, "X"), (9, "IX"), (5, "V"), (4, "IV"), (1, "I")]

/-- A number as a numeral, each symbol as often as it fits into what is left. -/
def numeral : List (Nat × Text) → Nat → Text
  | [], _ => []
  | (value, symbol) :: rest, n => Text.times (n / value) symbol ++ numeral rest (n % value)

/-- What is left of a number behind the symbols of a table. -/
def remainder : List (Nat × Text) → Nat → Nat
  | [], n => n
  | (value, _) :: rest, n => remainder rest (n % value)

/-- The symbols of one table come in front of those of the next one, for what is left. -/
theorem numeral_append (table rest : List (Nat × Text)) (n : Nat) :
    numeral (table ++ rest) n = numeral table n ++ numeral rest (remainder table n) := by
  induction table generalizing n with
  | nil => rfl
  | cons entry table ih =>
      obtain ⟨value, symbol⟩ := entry
      show _ ++ numeral (table ++ rest) (n % value) = _
      rw [ih, ← List.append_assoc]
      rfl

/-- An entry of a table with its value multiplied. -/
def scale (unit : Nat) (entry : Nat × Text) : Nat × Text :=
  (unit * entry.1, entry.2)

/-- A table that is scaled by a unit gives the numeral of the number of units, and leaves what is
smaller. -/
theorem numeral_scale (unit : Nat) (table : List (Nat × Text)) (n : Nat) :
    numeral (table.map (scale unit)) n = numeral table (n / unit) ∧
      remainder (table.map (scale unit)) n = unit * remainder table (n / unit) + n % unit := by
  induction table generalizing n with
  | nil => exact ⟨rfl, (Nat.div_add_mod n unit).symm⟩
  | cons entry table ih =>
      obtain ⟨value, symbol⟩ := entry
      obtain ⟨hnumeral, hremainder⟩ := ih (n % (unit * value))
      have hdiv : n % (unit * value) / unit = n / unit % value :=
        Nat.mod_mul_right_div_self n unit value
      have hmod : n % (unit * value) % unit = n % unit := Nat.mod_mul_right_mod n unit value
      rw [hdiv] at hnumeral hremainder
      rw [hmod] at hremainder
      refine ⟨?_, hremainder⟩
      show Text.times (n / (unit * value)) symbol ++ numeral (table.map (scale unit)) _ = _
      rw [hnumeral, ← Nat.div_div_eq_div_mul]
      rfl

end Roman

/-- The Roman numeral of an integer; `classic` chooses the additive notation. -/
def roman (n : Int) (classic : Bool := false) : Text :=
  if n = 0 then "N"
  else
    (if n < 0 then ("-" : Text) else []) ++
      Roman.numeral (if classic then Roman.additive else Roman.subtractive) n.natAbs

end Agreement
