import Agreement.Text.Basic

/-!
# Tables of character ranges

A character property beyond ASCII is given as an increasing table of ranges of code points. A range
can have a step of two, since upper- and lowercase letters often alternate. Membership searches
the table by halving.
-/

namespace Agreement

/-- The code points `first`, `first + step`, …, up to and including `last`. -/
structure CharRange where
  first : Nat
  last : Nat
  step : Nat := 1

namespace CharRange

/-- Whether the code point lies in the range. -/
def has (r : CharRange) (n : Nat) : Bool :=
  r.first ≤ n && n ≤ r.last && (n - r.first) % r.step == 0

end CharRange

/-- Ranges in increasing order that do not overlap. -/
abbrev CharTable := Array CharRange

namespace CharTable

/-- The last range in positions `low` to `high - 1` that starts at or below `n`; `fuel` bounds the
number of halvings. -/
def search (table : CharTable) (n : Nat) : (fuel low high : Nat) → Option CharRange
  | 0, _, _ => none
  | fuel + 1, low, high =>
    if high ≤ low then none
    else
      let middle := (low + high) / 2
      match table[middle]? with
      | none => none
      | some r =>
        if n < r.first then search table n fuel low middle
        else if n ≤ r.last then some r
        else search table n fuel (middle + 1) high

/-- The range that spans the code point, if any. -/
def spanning? (table : CharTable) (n : Nat) : Option CharRange :=
  search table n (table.size + 1) 0 table.size

/-- Whether the table holds the character. -/
def has (table : CharTable) (c : Char) : Bool :=
  match spanning? table c.toNat with
  | none => false
  | some r => r.has c.toNat

end CharTable

end Agreement
