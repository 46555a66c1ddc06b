import Agreement.Text.CaseMap
import Mathlib.Tactic.Common

/-!
# Capitals at the start of a text

What the case mappings make of a text whose first letter is made a capital, as at the start of a
sentence. The lowercase form is the same (`Text.lower_capitalized`): the letters behind the first
one are mapped alike, since a sigma asks only whether the characters before it have case, and a
letter has case as a small one and as a capital. A small letter in second place keeps a text from
being its own uppercase form, whatever the first letter is (`Text.ne_upper`).
-/

namespace Agreement

/-- What holds of the code points below 128 holds of every ASCII character. -/
theorem forall_ascii {p : Char → Prop} (h : ∀ n < 128, p (Char.ofNat n)) {c : Char}
    (hc : c.toNat < 128) : p c := by
  have hcode := h c.toNat hc
  rwa [Char.ofNat_toNat] at hcode

section Letter

variable {c : Char}

/-- Small letters are ASCII characters. -/
theorem toNat_lt_of_isLower (hc : c.isLower = true) : c.toNat < 128 := by
  have hrange : (decide (97 ≤ c.val) && decide (c.val ≤ 122)) = true := hc
  rw [Bool.and_eq_true, decide_eq_true_eq, decide_eq_true_eq] at hrange
  have hlast : c.toNat ≤ 122 := hrange.2
  omega

/-- Small letters are letters. -/
theorem isAlpha_of_isLower (hc : c.isLower = true) : c.isAlpha = true := by
  show (c.isUpper || c.isLower) = true
  rw [hc, Bool.or_true]

/-- The capital of a small letter is an ASCII letter, and the small letter is its lowercase
form. -/
theorem ascii_toUpper (hc : c.isLower = true) :
    c.toUpper.toNat < 128 ∧ c.toUpper.isAlpha = true ∧ c.toUpper.toLower = c.toLower :=
  forall_ascii (p := fun c => c.isLower = true →
    c.toUpper.toNat < 128 ∧ c.toUpper.isAlpha = true ∧ c.toUpper.toLower = c.toLower)
    (by decide) (toNat_lt_of_isLower hc) hc

/-- A small letter is not its own capital. -/
theorem toUpper_ne_of_isLower (hc : c.isLower = true) : c.toUpper ≠ c :=
  forall_ascii (p := fun c => c.isLower = true → c.toUpper ≠ c) (by decide)
    (toNat_lt_of_isLower hc) hc

/-- A character that is no small letter is its own capital. -/
theorem toUpper_of_not_isLower (hc : c.isLower = false) : c.toUpper = c := by
  have hrange : (decide (97 ≤ c.val) && decide (c.val ≤ 122)) = false := hc
  rw [Bool.and_eq_false_iff, decide_eq_false_iff_not, decide_eq_false_iff_not] at hrange
  refine dif_neg fun h => ?_
  rcases hrange with hfirst | hlast
  · exact hfirst h.1
  · exact hlast h.2

/-- A text that starts with an ASCII letter starts with case. -/
theorem startsCased_of_isAlpha (hc : c.toNat < 128) (hletter : c.isAlpha = true) (t : Text) :
    startsCased (c :: t) = true := by
  have hskipped : isSkipped c = false :=
    forall_ascii (p := fun c => c.isAlpha = true → isSkipped c = false) (by decide) hc hletter
  rw [startsCased, List.dropWhile_cons_of_neg (by simp [hskipped])]
  show isCased c = true
  rw [isCased, if_pos hc, hletter]

/-- Whether a text starts with case is up to its first character, or to the rest if that character
is skipped. -/
theorem startsCased_cons (c : Char) (t : Text) :
    startsCased (c :: t) = if isSkipped c then startsCased t else isCased c := by
  cases hskipped : isSkipped c with
  | true => rw [startsCased, List.dropWhile_cons_of_pos hskipped, if_pos rfl, startsCased]
  | false => rw [startsCased, List.dropWhile_cons_of_neg (by simp [hskipped])]; rfl

end Letter

namespace Text

/-- A text with a capital in place of a small letter that it starts with. -/
def capitalized : Text → Text
  | [] => []
  | c :: t => c.toUpper :: t

/-- Texts behind characters have the same lowercase form if both or neither of these start with
case. -/
theorem lowerAfter_congr {earlier earlier' : Text} (h : startsCased earlier = startsCased earlier')
    (t : Text) : lowerAfter earlier t = lowerAfter earlier' t := by
  induction t generalizing earlier earlier' with
  | nil => rfl
  | cons c later ih =>
      have hchar : lowerChar earlier c later = lowerChar earlier' c later := by
        rw [lowerChar, lowerChar, h]
      have hrest : startsCased (c :: earlier) = startsCased (c :: earlier') := by
        rw [startsCased_cons, startsCased_cons, h]
      rw [lowerAfter, lowerAfter, hchar, ih hrest]

/-- A capital at the start of a text does not change its lowercase form. -/
theorem lower_capitalized (t : Text) : t.capitalized.lower = t.lower := by
  cases t with
  | nil => rfl
  | cons c t =>
      cases hc : c.isLower with
      | false => rw [capitalized, toUpper_of_not_isLower hc]
      | true =>
          obtain ⟨hascii, hletter, hlower⟩ := ascii_toUpper hc
          have hascii' := toNat_lt_of_isLower hc
          have hrest : lowerAfter [c.toUpper] t = lowerAfter [c] t := by
            apply lowerAfter_congr
            rw [startsCased_of_isAlpha hascii hletter,
              startsCased_of_isAlpha hascii' (isAlpha_of_isLower hc)]
          rw [capitalized, lower, lower, lowerAfter, lowerAfter, hrest, lowerChar, lowerChar,
            if_pos hascii, if_pos hascii', hlower]

/-- A text with a small letter behind an ASCII character is not its own uppercase form. -/
theorem ne_upper {c d : Char} (hc : c.toNat < 128) (hd : d.isLower = true) (t : Text) :
    c :: d :: t ≠ upper (c :: d :: t) := by
  intro h
  rw [upper, List.flatMap_cons, List.flatMap_cons, upperChar, upperChar, if_pos hc,
    if_pos (toNat_lt_of_isLower hd)] at h
  obtain ⟨-, hrest⟩ := List.cons.inj h
  obtain ⟨hsecond, -⟩ := List.cons.inj hrest
  exact toUpper_ne_of_isLower hd hsecond.symm

end Text

end Agreement
