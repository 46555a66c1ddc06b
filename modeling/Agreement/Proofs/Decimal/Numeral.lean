import Agreement.Proofs.Decimal.ReadBack
import Mathlib.Tactic.Common

/-!
# Numerals between blanks

A text that is a numeral once it is trimmed is the numeral with blanks around it
(`Text.exists_of_trim`). Reading it as an integer can still fail, for two reasons: one of the blanks
is an ASCII separator, which is trimmed but not read over, or the numeral has more digits than the
limit (`Integer.read_eq_error_iff`).
-/

namespace Agreement

/-- Whether a character is one of the four ASCII separators. -/
def isSeparator (c : Char) : Bool :=
  28 ≤ c.toNat && c.toNat ≤ 31

/-- The code points of the blanks. -/
def blankCodes : List Nat :=
  List.range' 9 5 ++ List.range' 28 5 ++ [0x85, 0xA0, 0x1680] ++ List.range' 0x2000 11 ++
    [0x2028, 0x2029, 0x202F, 0x205F, 0x3000]

/-- A blank has one of these code points. -/
theorem toNat_mem_blankCodes {c : Char} (hc : isBlank c = true) : c.toNat ∈ blankCodes := by
  simp only [isBlank, Bool.or_eq_true, Bool.and_eq_true, decide_eq_true_eq, beq_iff_eq] at hc
  simp only [blankCodes, List.mem_append, List.mem_range'_1, List.mem_cons, List.not_mem_nil,
    or_false]
  omega

/-- A blank is no digit. -/
theorem isDecimal_of_isBlank {c : Char} (hc : isBlank c = true) : isDecimal c = false := by
  have hcodes : ∀ n ∈ blankCodes, isDecimal (Char.ofNat n) = false := by decide
  have h := hcodes _ (toNat_mem_blankCodes hc)
  rwa [Char.ofNat_toNat] at h

/-- A separator is a blank. -/
theorem isBlank_of_isSeparator {c : Char} (hc : isSeparator c = true) : isBlank c = true := by
  simp only [isSeparator, Bool.and_eq_true, decide_eq_true_eq] at hc
  simp only [isBlank, Bool.or_eq_true, Bool.and_eq_true, decide_eq_true_eq, beq_iff_eq]
  omega

namespace Integer

variable {t v front back : Text}

/-- A numeral between blanks that cannot be read as an integer: a separator is among the blanks, or
there are more digits than the limit. -/
structure IsUnreadable (t : Text) : Prop where
  isNumeral : isNumeral t.trim = true
  cause : (∃ c ∈ t, isSeparator c = true) ∨ digitLimit < (splitSign t.trim).2.length

/-- A numeral has digits and nothing else behind its sign. -/
theorem isNumeral_iff :
    isNumeral v = true ↔ (splitSign v).2 ≠ [] ∧ ∀ c ∈ (splitSign v).2, isDecimal c = true := by
  simp [isNumeral]

/-- Only a sign is taken from the start of a text. -/
theorem splitSign_cases (t : Text) : (splitSign t).2 = t ∨
    ∃ sign, (sign = '-' ∨ sign = '+') ∧ t = sign :: (splitSign t).2 := by
  unfold splitSign
  split
  · exact .inr ⟨_, .inl rfl, rfl⟩
  · exact .inr ⟨_, .inr rfl, rfl⟩
  · exact .inl rfl

/-- What follows a numeral follows its digits. -/
theorem splitSign_append (h : v ≠ []) (back : Text) :
    splitSign (v ++ back) = ((splitSign v).1, (splitSign v).2 ++ back) := by
  obtain ⟨c, rest, rfl⟩ := List.exists_cons_of_ne_nil h
  rw [List.cons_append]
  unfold splitSign
  split <;> simp_all

/-- The characters of a numeral are its sign and digits. -/
theorem mem_numeral (hv : isNumeral v = true) {c : Char} (hc : c ∈ v) :
    c = '-' ∨ c = '+' ∨ isDecimal c = true := by
  have hdigits := (isNumeral_iff.1 hv).2
  rcases splitSign_cases v with heq | ⟨sign, hsign, heq⟩
  · exact .inr (.inr (hdigits c (by rwa [heq])))
  · rw [heq] at hc
    rcases List.mem_cons.1 hc with rfl | hc
    · exact hsign.imp_right .inl
    · exact .inr (.inr (hdigits c hc))

/-- No character of a numeral is a blank. -/
theorem isBlank_of_mem_numeral (hv : isNumeral v = true) {c : Char} (hc : c ∈ v) :
    isBlank c = false := by
  rcases mem_numeral hv hc with rfl | rfl | hdecimal
  · decide
  · decide
  · by_contra hblank
    rw [isDecimal_of_isBlank (by simpa using hblank)] at hdecimal
    cases hdecimal

/-- A text with a character that is neither a blank nor part of a numeral is none when it is
trimmed. -/
theorem not_isNumeral_trim {c : Char} (hc : c ∈ t) (hblank : isBlank c = false)
    (hsign : c ≠ '-' ∧ c ≠ '+') (hdecimal : isDecimal c = false) : ¬ isNumeral t.trim = true := by
  intro h
  obtain ⟨front, back, ht, hfront, hback⟩ := Text.exists_of_trim t
  rw [ht, List.mem_append, List.mem_append] at hc
  rcases hc with hc | hc | hc
  · exact Bool.eq_false_iff.1 hblank (hfront c hc)
  · rcases mem_numeral h hc with hc | hc | hc
    · exact hsign.1 hc
    · exact hsign.2 hc
    · exact Bool.eq_false_iff.1 hdecimal hc
  · exact Bool.eq_false_iff.1 hblank (hback c hc)

/-- Blanks around an integer are read over if there is no separator among them. -/
theorem isAround_iff {blanks : Text} (h : ∀ c ∈ blanks, isBlank c = true) :
    (∀ c ∈ blanks, isAround c = true) ↔ ¬ ∃ c ∈ blanks, isSeparator c = true := by
  simp only [not_exists, not_and]
  refine forall₂_congr fun c hc => ?_
  rw [isAround, h c hc, isSeparator, Bool.true_and, Bool.not_eq_true', Bool.not_eq_true]

/-- A text that starts with a blank has no sign. -/
theorem splitSign_of_isBlank {c : Char} (hc : isBlank c = true) (rest : Text) :
    splitSign (c :: rest) = (false, c :: rest) := by
  unfold splitSign
  split
  · next heq =>
      cases heq
      exact absurd hc (by decide)
  · next heq =>
      cases heq
      exact absurd hc (by decide)
  · rfl

/-- A separator in front of a numeral keeps it from being read. -/
theorem read_of_separator_in_front (hfront : ∀ c ∈ front, isBlank c = true)
    (h : ∃ c ∈ front, isSeparator c = true) (rest : Text) :
    read (front ++ rest) = .error (.malformed (front ++ rest)) := by
  have hne : front.dropWhile isAround ≠ [] := fun hnil =>
    (isAround_iff hfront).1 (List.dropWhile_eq_nil_iff.1 hnil) h
  obtain ⟨d, later, hdrop⟩ := List.exists_cons_of_ne_nil hne
  -- the first separator stays, and no integer starts with a blank
  have hblank : isBlank d = true :=
    hfront d ((List.dropWhile_suffix _).subset (hdrop ▸ List.mem_cons_self))
  rw [read, List.dropWhile_append, hdrop, List.isEmpty_cons, if_neg Bool.false_ne_true,
    List.cons_append, splitSign_of_isBlank hblank]
  simp [isDecimal_of_isBlank hblank]

/-- Without a separator in front of it, the digits of a numeral are found, and what follows it is
looked at. -/
theorem read_of_no_separator_in_front (hv : isNumeral v = true)
    (hfront : ∀ c ∈ front, isAround c = true) (hback : ∀ c ∈ back, isBlank c = true) :
    read (front ++ (v ++ back)) =
      if digitLimit < (splitSign v).2.length then .error (.tooLongToRead (splitSign v).2.length)
      else if back.any isSeparator then .error (.malformed (front ++ (v ++ back)))
      else .ok
        (if (splitSign v).1 then -ofDigits (splitSign v).2 else ofDigits (splitSign v).2) := by
  obtain ⟨hne, hdigits⟩ := isNumeral_iff.1 hv
  have hnil : v ≠ [] := by
    rintro rfl
    exact hne rfl
  have hdrop : (front ++ (v ++ back)).dropWhile isAround = v ++ back := by
    obtain ⟨c, rest, rfl⟩ := List.exists_cons_of_ne_nil hnil
    have hc : isBlank c = false := isBlank_of_mem_numeral hv List.mem_cons_self
    rw [List.dropWhile_append_of_pos hfront, List.cons_append,
      List.dropWhile_cons_of_neg (by simp [isAround, hc])]
  have hspan : back.takeWhile isDecimal = [] ∧ back.dropWhile isDecimal = back := by
    cases back with
    | nil => exact ⟨rfl, rfl⟩
    | cons c rest =>
        have hc : ¬ isDecimal c = true := by
          simp [isDecimal_of_isBlank (hback c List.mem_cons_self)]
        exact ⟨List.takeWhile_cons_of_neg hc, List.dropWhile_cons_of_neg hc⟩
  have hbehind : (!back.all isAround) = back.any isSeparator := by
    rw [Bool.eq_iff_iff, Bool.not_eq_true', ← Bool.not_eq_true, List.all_eq_true,
      isAround_iff hback, not_not, List.any_eq_true]
  rw [read, hdrop, splitSign_append hnil]
  simp only [List.takeWhile_append_of_pos hdigits, List.dropWhile_append_of_pos hdigits, hspan.1,
    hspan.2, List.append_nil, hne, false_or, hbehind]

/-- What is read as an integer is a numeral, if there are no blanks around it. -/
theorem isNumeral_of_read (ht : ∀ c ∈ t, isBlank c = false) {n : Int} (h : read t = .ok n) :
    isNumeral t = true := by
  rw [read, dropWhile_isAround ht] at h
  dsimp only at h
  split at h
  · cases h
  · split at h
    · cases h
    · next hread =>
        obtain ⟨hdigits, hbehind⟩ := not_or.1 hread
        have hmem : ∀ c ∈ (splitSign t).2, c ∈ t := by
          rcases splitSign_cases t with heq | ⟨sign, -, heq⟩
          · exact fun c hc => heq ▸ hc
          · exact fun c hc => heq ▸ List.mem_cons_of_mem sign hc
        -- what stands behind the digits would be blanks
        have hnothing : (splitSign t).2.dropWhile isDecimal = [] := by
          refine List.eq_nil_iff_forall_not_mem.2 fun c hc => ?_
          have haround : isAround c = true := by
            simp only [Bool.not_eq_true', Bool.not_eq_false, List.all_eq_true] at hbehind
            exact hbehind c hc
          rw [isAround, ht c (hmem c ((List.dropWhile_suffix isDecimal).subset hc))] at haround
          cases haround
        rw [List.dropWhile_eq_nil_iff] at hnothing
        rw [isNumeral_iff]
        refine ⟨fun hnil => hdigits ?_, hnothing⟩
        rw [hnil, List.takeWhile_nil]

/-- A separator in a text with a numeral is among the blanks around it. -/
theorem exists_isSeparator_iff (front back : Text) (hv : isNumeral v = true) :
    (∃ c ∈ front ++ (v ++ back), isSeparator c = true) ↔
      (∃ c ∈ front, isSeparator c = true) ∨ ∃ c ∈ back, isSeparator c = true := by
  have hnone : ¬ ∃ c ∈ v, isSeparator c = true := by
    rintro ⟨c, hc, hseparator⟩
    have hblank := isBlank_of_mem_numeral hv hc
    rw [isBlank_of_isSeparator hseparator] at hblank
    cases hblank
  simp only [List.mem_append, or_and_right, exists_or, hnone, false_or]

/-- A numeral between blanks cannot be read because of a separator or of its length, and for no
other reason. -/
theorem read_eq_error_iff (h : isNumeral t.trim = true) :
    (∃ e, read t = .error e) ↔ IsUnreadable t := by
  obtain ⟨front, back, ht, hfront, hback⟩ := Text.exists_of_trim t
  have hseparator := exists_isSeparator_iff front back h
  rw [← ht] at hseparator
  by_cases hin : ∃ c ∈ front, isSeparator c = true
  · refine iff_of_true ?_ ⟨h, .inl (hseparator.2 (.inl hin))⟩
    rw [ht]
    exact ⟨_, read_of_separator_in_front hfront hin _⟩
  · have hread := read_of_no_separator_in_front h ((isAround_iff hfront).2 hin) hback
    rw [← ht] at hread
    by_cases hlong : digitLimit < (splitSign t.trim).2.length
    · rw [if_pos hlong] at hread
      exact iff_of_true ⟨_, hread⟩ ⟨h, .inr hlong⟩
    · rw [if_neg hlong] at hread
      by_cases hbehind : ∃ c ∈ back, isSeparator c = true
      · rw [if_pos (List.any_eq_true.2 hbehind)] at hread
        exact iff_of_true ⟨_, hread⟩ ⟨h, .inl (hseparator.2 (.inr hbehind))⟩
      · rw [if_neg (mt List.any_eq_true.1 hbehind)] at hread
        refine iff_of_false ?_ fun hunreadable => ?_
        · rintro ⟨e, he⟩
          cases hread.symm.trans he
        · exact hunreadable.cause.elim (fun hc => (hseparator.1 hc).elim hin hbehind) hlong

end Integer

end Agreement
