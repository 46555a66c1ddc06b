import Agreement.Decimal.Integer
import Agreement.Proofs.Text.Cuts

/-!
# Reading written integers

An integer that is short enough reads back from its text, and nothing in the text is trimmed. The
characters of the text are ASCII digits and perhaps a minus sign.
-/

namespace Agreement

/-- A digit has a code point below those of letters. -/
theorem toNat_of_isDigit {c : Char} (hc : c.isDigit) : 48 ≤ c.toNat ∧ c.toNat ≤ 57 := by
  simpa [Char.isDigit, UInt32.le_iff_toNat_le] using hc

/-- The value of an ASCII digit. -/
theorem digitValue?_of_isDigit {c : Char} (hc : c.isDigit) :
    digitValue? c = some (c.toNat - 48) := by
  have hrange := toNat_of_isDigit hc
  rw [digitValue?, if_pos (by omega), if_pos hc]

/-- ASCII digits are decimal digits. -/
theorem isDecimal_of_isDigit {c : Char} (hc : c.isDigit) : isDecimal c = true := by
  rw [isDecimal, digitValue?_of_isDigit hc]
  rfl

/-- ASCII digits are no blanks. -/
theorem isBlank_of_isDigit {c : Char} (hc : c.isDigit) : isBlank c = false := by
  have hrange := toNat_of_isDigit hc
  simp only [isBlank]
  grind

/-- ASCII digits are no letters. -/
theorem isAlpha_of_isDigit {c : Char} (hc : c.isDigit) : c.isAlpha = false := by
  have hrange := toNat_of_isDigit hc
  have hupper : ¬ 'A'.val ≤ c.val := by
    intro hle
    have hnat : 65 ≤ c.toNat := UInt32.le_iff_toNat_le.1 hle
    omega
  have hlower : ¬ 'a'.val ≤ c.val := by
    intro hle
    have hnat : 97 ≤ c.toNat := UInt32.le_iff_toNat_le.1 hle
    omega
  have hnot : c.isUpper = false := decide_eq_false fun hboth => hupper hboth.1
  show (c.isUpper || (decide ( 'a'.val ≤ c.val) && _)) = false
  rw [hnot, decide_eq_false hlower]
  rfl

namespace Integer

/-- The digits of a number are ASCII digits. -/
theorem isDigit_of_mem {n : Nat} {c : Char} (hc : c ∈ Nat.toDigits 10 n) : c.isDigit :=
  Nat.isDigit_of_mem_toDigits (by decide) (by decide) hc

/-- ASCII digits denote the number that their place values give. -/
theorem foldl_digits {digits : Text} (h : ∀ c ∈ digits, c.isDigit) (n : Nat) :
    digits.foldl (fun n c => n * 10 + (digitValue? c).getD 0) n = Nat.ofDigitChars 10 digits n := by
  induction digits generalizing n with
  | nil => rfl
  | cons c digits ih =>
      rw [List.foldl_cons, digitValue?_of_isDigit (h c (by simp)), Nat.ofDigitChars_cons,
        Nat.mul_comm 10]
      exact ih (fun d hd => h d (List.mem_cons_of_mem _ hd)) _

/-- The digits of a number denote the number. -/
theorem ofDigits_toDigits (n : Nat) : ofDigits (Nat.toDigits 10 n) = n :=
  (foldl_digits (fun _ => isDigit_of_mem) 0).trans Nat.ofDigitChars_ten_toDigits

/-- The text of an integer is not empty. -/
theorem text_ne_nil (n : Int) : text n ≠ [] := by
  rw [text]
  split
  · exact List.cons_ne_nil _ _
  · exact Nat.toDigits_ne_nil

/-- The characters of an integer's text. -/
theorem mem_text {n : Int} {c : Char} (hc : c ∈ text n) : c = '-' ∨ c.isDigit := by
  rw [text] at hc
  split at hc
  · rcases List.mem_cons.1 hc with rfl | hc
    · exact .inl rfl
    · exact .inr (isDigit_of_mem hc)
  · exact .inr (isDigit_of_mem hc)

/-- No character of an integer's text is a blank. -/
theorem isBlank_of_mem_text {n : Int} {c : Char} (hc : c ∈ text n) : isBlank c = false := by
  rcases mem_text hc with rfl | hdigit
  · decide
  · exact isBlank_of_isDigit hdigit

/-- A text without blanks loses nothing at its start. -/
theorem dropWhile_isAround {t : Text} (h : ∀ c ∈ t, isBlank c = false) :
    t.dropWhile isAround = t := by
  cases t with
  | nil => rfl
  | cons c rest => rw [List.dropWhile_cons_of_neg (by simp [isAround, h c (by simp)])]

/-- The sign of an integer and its digits. -/
theorem splitSign_text (n : Int) :
    splitSign (text n) = (decide (n < 0), Nat.toDigits 10 n.natAbs) := by
  rw [text]
  split
  · simp_all [splitSign]
  · have hne : Nat.toDigits 10 n.natAbs ≠ [] := Nat.toDigits_ne_nil
    obtain ⟨c, rest, hdigits⟩ := List.exists_cons_of_ne_nil hne
    have hc : c.isDigit := isDigit_of_mem (hdigits ▸ List.mem_cons_self)
    rw [hdigits, splitSign]
    · simp_all
    · rintro _ heq
      simp [(List.cons.inj heq).1] at hc
    · rintro _ heq
      simp [(List.cons.inj heq).1] at hc

/-- A number below a power of ten has no more digits than the exponent. -/
theorem length_toDigits_le {n limit : Nat} (hlimit : 0 < limit) (h : n < Nat.pow 10 limit) :
    (Nat.toDigits 10 n).length ≤ limit :=
  (Nat.length_toDigits_le_iff (by decide) hlimit).2 h

/-- An integer of at most as many digits as the limit reads back from its text. -/
theorem read_text {n : Int} (h : n.natAbs < Nat.pow 10 digitLimit) : read (text n) = .ok n := by
  have hdecimal : ∀ c ∈ Nat.toDigits 10 n.natAbs, isDecimal c = true :=
    fun c hc => isDecimal_of_isDigit (isDigit_of_mem hc)
  have hlength : (Nat.toDigits 10 n.natAbs).length ≤ digitLimit :=
    length_toDigits_le (by decide) h
  rw [read, dropWhile_isAround fun c => isBlank_of_mem_text, splitSign_text]
  have hvalue : (if decide (n < 0) then -(n.natAbs : Int) else n.natAbs) = n := by
    by_cases hn : n < 0
    · rw [if_pos (decide_eq_true hn), Int.ofNat_natAbs_of_nonpos (Int.le_of_lt hn), Int.neg_neg]
    · rw [if_neg (by simpa using hn), Int.natAbs_of_nonneg (Int.not_lt.1 hn)]
  simp only [List.takeWhile_eq_self_iff.2 hdecimal, List.dropWhile_eq_nil_iff.2 hdecimal,
    ofDigits_toDigits, if_neg (Nat.not_lt.2 hlength), Nat.toDigits_ne_nil, List.all_nil,
    Bool.not_true, Bool.false_eq_true, or_self, if_false, hvalue]

/-- The text of an integer is a numeral. -/
theorem isNumeral_trim_text (n : Int) : isNumeral (text n).trim = true := by
  have hdecimal : (Nat.toDigits 10 n.natAbs).all isDecimal = true :=
    List.all_eq_true.2 fun c hc => isDecimal_of_isDigit (isDigit_of_mem hc)
  rw [Text.trim_of_no_blank fun c => isBlank_of_mem_text, isNumeral, splitSign_text]
  simp [Nat.toDigits_ne_nil, hdecimal]

end Integer

end Agreement
