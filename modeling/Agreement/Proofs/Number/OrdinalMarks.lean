import Agreement.Proofs.Number.CardinalReading

/-!
# Marks of ordinals

An ordinal is told from a plain number by its end: an ordinal word or a suffix behind digits.
`Ordinal.marked` says which, by the rules by which ordinals are made from cardinals and not by
tables of them. Below its threshold an integer gets these marks with its sign in front
(`ordinal_marked`), except from `-Ordinal.unlimited` down: the threshold that stands for none is
applied to the size of a negative number, and a size that reaches it is left as plain digits.
-/

namespace Agreement

namespace Ordinal

/-- The ordinals that are not made from their cardinals by a rule. -/
def irregular : List (Text × Text) :=
  [("one", "first"), ("two", "second"), ("three", "third"), ("five", "fifth"),
   ("eight", "eighth"), ("nine", "ninth"), ("twelve", "twelfth")]

/-- The ordinal of a cardinal that is a single name: with "th" at its end, and "ie" for a "y" in
front of it. -/
def ofName (w : Text) : Text :=
  match irregular.lookup w with
  | some word => word
  | none => if w.getLast? = some 'y' then w.dropLast ++ "ieth" else w ++ "th"

/-- The ordinal of a cardinal below one hundred: the name behind the hyphen is the one that
changes. -/
def ofCardinal (w : Text) : Text :=
  match Cardinal.cut? "-" w with
  | none => ofName w
  | some (ten, one) => ten ++ "-" ++ ofName one

/-- The suffix behind the digits of a number: "th" if the tens digit is one, and otherwise by the
last digit. -/
def ending (n : Nat) : Text :=
  if n / 10 % 10 = 1 then "th"
  else match n % 10 with
    | 1 => "st"
    | 2 => "nd"
    | 3 => "rd"
    | _ => "th"

/-- A number as an ordinal: in words if they are asked for and there are any, and otherwise digits
with a suffix. -/
def marked (n : Nat) (inWords : Bool) : Except NumberError Text :=
  if inWords ∧ n < 100 then .ok (ofCardinal (Cardinal.spell n))
  else (writeInteger n).map (· ++ ending n)

/-- The sign in front of an ordinal. -/
def sign (n : Int) : Text :=
  if n < 0 then "minus " else []

/-- Whether a text ends in a letter. -/
def endsInLetter (t : Text) : Bool :=
  t.getLast?.any Char.isAlpha

section Marks

variable {n : Nat} {k : Int} {front out : Text} {inWords : Bool}

/-- The ordinals below one hundred are those of the cardinals. -/
theorem spell_eq_ofCardinal : ∀ n < 100, spell n = ofCardinal (Cardinal.spell n) := by
  decide

/-- The suffix is that of the tens digit and the last digit. -/
theorem suffix_eq_ending (n : Nat) : suffix n = ending n := by
  have htens : n % 100 / 10 = n / 10 % 10 := by omega
  have hlast : n % 10 < 10 := Nat.mod_lt n (by decide)
  unfold suffix ending
  rw [htens]
  generalize n / 10 % 10 = ten
  generalize n % 10 = one at hlast
  split
  · rfl
  · revert one
    decide

/-- Below the threshold a number that is not negative is marked. -/
theorem ofNat_eq_marked {threshold : Int} (hbelow : n < threshold) (inWords : Bool) :
    ofNat n threshold inWords = marked n inWords := by
  rw [ofNat, if_neg (Int.not_le.2 hbelow), marked, suffix_eq_ending]
  split
  · next hwords => rw [spell_eq_ofCardinal n hwords.2]
  · rfl

/-- What is in front of a letter at the end does not matter. -/
theorem endsInLetter_append (h : endsInLetter out = true) :
    endsInLetter (front ++ out) = true := by
  unfold endsInLetter at *
  rw [List.getLast?_append]
  cases hlast : out.getLast? with
  | none => rw [hlast] at h; cases h
  | some c => rwa [hlast] at h

/-- Ordinal words end in a letter. -/
theorem endsInLetter_words : ∀ n < 100, endsInLetter (ofCardinal (Cardinal.spell n)) = true := by
  decide

/-- A suffix ends in a letter. -/
theorem endsInLetter_ending (n : Nat) : endsInLetter (ending n) = true := by
  unfold ending
  split
  · rfl
  · split <;> rfl

/-- Whatever is marked ends in a letter. -/
theorem endsInLetter_marked (h : marked n inWords = .ok out) : endsInLetter out = true := by
  unfold marked at h
  split at h
  · next hwords =>
      rw [← Except.ok.inj h]
      exact endsInLetter_words n hwords.2
  · cases hdigits : writeInteger n with
    | error cause => rw [hdigits] at h; cases h
    | ok digits =>
        rw [hdigits] at h
        rw [← Except.ok.inj h]
        exact endsInLetter_append (endsInLetter_ending n)

/-- Digits do not end in a letter. -/
theorem endsInLetter_append_text (front : Text) (k : Int) :
    endsInLetter (front ++ Integer.text k) = false := by
  unfold endsInLetter
  obtain ⟨start, c, htext⟩ := (List.eq_nil_or_concat (Integer.text k)).resolve_left
    (Integer.text_ne_nil k)
  have hc : c = '-' ∨ c.isDigit := Integer.mem_text (by rw [htext]; simp)
  rw [htext, List.concat_eq_append, ← List.append_assoc, List.getLast?_concat]
  show c.isAlpha = false
  rcases hc with rfl | hdigit
  · rfl
  · exact isAlpha_of_isDigit hdigit

end Marks

end Ordinal

section Ordinals

variable {n threshold : Int} {inWords : Bool} {out : Text}

/-- Below the threshold an integer is marked if its size is below the threshold that stands for
none. -/
theorem ordinal_eq_marked (hbelow : n < threshold) (hsize : -Ordinal.unlimited < n) :
    ordinal n threshold inWords =
      (Ordinal.marked n.natAbs inWords).map (Ordinal.sign n ++ ·) := by
  rw [ordinal, if_neg (Int.not_le.2 hbelow), Ordinal.sign]
  split
  · next hneg =>
      have hlt : (n.natAbs : Int) < Ordinal.unlimited := by omega
      rw [Ordinal.ofNat_eq_marked hlt]
  · next hnonneg =>
      have hlt : (n.natAbs : Int) < threshold := by omega
      rw [Ordinal.ofNat_eq_marked hlt]
      exact (congrFun Except.map_id _).symm

/-- An integer whose size reaches the threshold that stands for none is written in plain digits. -/
theorem ordinal_eq_writeInteger (hbelow : n < threshold) (hsize : n ≤ -Ordinal.unlimited) :
    ordinal n threshold inWords = (writeInteger n.natAbs).map (Ordinal.sign n ++ ·) := by
  have hneg : n < 0 := Int.lt_of_le_of_lt hsize (by decide)
  have hle : Ordinal.unlimited ≤ (n.natAbs : Int) := by omega
  rw [ordinal, if_neg (Int.not_le.2 hbelow), if_pos hneg, Ordinal.ofNat, if_pos hle, Ordinal.sign,
    if_pos hneg]

/-- Below its threshold an integer has its sign and then, in words or in digits, the mark of an
ordinal, except from `-Ordinal.unlimited` down, where plain digits follow the sign. So the text ends
in a letter exactly above that. Every integer that can be written at all has such a text. -/
theorem ordinal_marked (hbelow : n < threshold) (inWords : Bool) :
    (-Ordinal.unlimited < n → ordinal n threshold inWords =
      (Ordinal.marked n.natAbs inWords).map (Ordinal.sign n ++ ·)) ∧
    (n ≤ -Ordinal.unlimited → ordinal n threshold inWords =
      (writeInteger n.natAbs).map (Ordinal.sign n ++ ·)) ∧
    (∀ out, ordinal n threshold inWords = .ok out →
      (Ordinal.endsInLetter out = true ↔ -Ordinal.unlimited < n)) ∧
    (Integer.IsShort n → ∃ out, ordinal n threshold inWords = .ok out) := by
  refine ⟨ordinal_eq_marked hbelow, ordinal_eq_writeInteger hbelow, ?_, ?_⟩
  · intro out hout
    constructor
    · intro hletter
      refine Int.not_le.1 fun hsize => ?_
      rw [ordinal_eq_writeInteger hbelow hsize, Except.map_eq_ok_iff] at hout
      obtain ⟨digits, hdigits, rfl⟩ := hout
      rw [eq_text_of_writeInteger hdigits, Ordinal.endsInLetter_append_text] at hletter
      cases hletter
    · intro hsize
      rw [ordinal_eq_marked hbelow hsize, Except.map_eq_ok_iff] at hout
      obtain ⟨word, hword, rfl⟩ := hout
      exact Ordinal.endsInLetter_append (Ordinal.endsInLetter_marked hword)
  · intro hshort
    exact exists_ordinal hshort inWords

/-- The mark in words behind a sign. -/
theorem ordinal_marked_twelve :
    (-12 : Int) < 0 ∧ ordinal (-12) 0 true = .ok "minus twelfth" := by
  have hbelow : (-12 : Int) < 0 := by decide
  have hsize : -Ordinal.unlimited < -12 := by decide
  have hmarked := (ordinal_marked hbelow true).1 hsize
  exact ⟨hbelow, hmarked⟩

/-- The largest integer without a mark below a threshold of zero, and what it would be with one. -/
theorem ordinal_unlimited :
    ordinal (-9223372036854775807) 0 = .ok "minus 9223372036854775807" ∧
      (Ordinal.marked 9223372036854775807 false).map
          (Ordinal.sign (-9223372036854775807) ++ ·) =
        .ok "minus 9223372036854775807th" := by
  decide +kernel

end Ordinals

end Agreement
