import Agreement.Text.Basic
import Mathlib.Data.List.TakeWhile
import Mathlib.Tactic.Common

/-!
# Texts that are trimmed and cut

What is left of a text when blanks are trimmed from its ends, where it is cut at a character, and
how its lines are cut at line breaks. Lines that are put into one text are the lines of that text
again (`lines_ofLines`).
-/

namespace Agreement.Text

section Trim

variable {front back t : Text}

/-- A text is what is left of it when it is trimmed, with blanks around. -/
theorem exists_of_trim (t : Text) :
    ∃ front back, t = front ++ (t.trim ++ back) ∧ (∀ c ∈ front, isBlank c = true) ∧
      ∀ c ∈ back, isBlank c = true := by
  refine ⟨t.takeWhile isBlank, ((t.dropWhile isBlank).reverse.takeWhile isBlank).reverse, ?_,
    fun c hc => List.mem_takeWhile_imp hc, fun c hc => ?_⟩
  · rw [trim, dropEndWhile, ← List.reverse_append, List.takeWhile_append_dropWhile,
      List.reverse_reverse, List.takeWhile_append_dropWhile]
  · exact List.mem_takeWhile_imp (List.mem_reverse.1 hc)

/-- What is left of a text is a part of it. -/
theorem isInfix_trim (t : Text) : t.trim <:+: t := by
  obtain ⟨front, back, heq, -⟩ := exists_of_trim t
  exact ⟨front, back, by rw [List.append_assoc, ← heq]⟩

/-- What is left of a trimmed text was there before. -/
theorem mem_of_mem_trim {c : Char} (h : c ∈ t.trim) : c ∈ t :=
  (isInfix_trim t).subset h

/-- A character that is no blank is left of a text that has it. -/
theorem mem_trim_iff {c : Char} (hc : isBlank c = false) : c ∈ t.trim ↔ c ∈ t := by
  refine ⟨mem_of_mem_trim, fun h => ?_⟩
  obtain ⟨front, back, heq, hfront, hback⟩ := exists_of_trim t
  have hblank {around : Text} (h : ∀ d ∈ around, isBlank d = true) : c ∉ around :=
    fun hmem => Bool.noConfusion ((h c hmem).symm.trans hc)
  rw [heq, List.mem_append, List.mem_append] at h
  exact (h.resolve_left (hblank hfront)).resolve_right (hblank hback)

/-- Characters are dropped from the start up to one that is not dropped. -/
theorem dropWhile_append_cons {kind : Char → Bool} {c : Char} (hc : kind c = false)
    (t u : Text) : (t ++ c :: u).dropWhile kind = t.dropWhile kind ++ c :: u := by
  rw [List.dropWhile_append]
  split
  · next h =>
      rw [List.isEmpty_iff.1 h, List.dropWhile_cons_of_neg (by simp [hc])]
      rfl
  · rfl

/-- Characters are dropped from the end down to one that is not dropped. -/
theorem dropEndWhile_append_cons {kind : Char → Bool} {c : Char} (hc : kind c = false)
    (t u : Text) : dropEndWhile kind (t ++ c :: u) = t ++ c :: dropEndWhile kind u := by
  have hreverse : (t ++ c :: u).reverse = u.reverse ++ c :: t.reverse := by simp
  rw [dropEndWhile, hreverse, dropWhile_append_cons hc, dropEndWhile]
  simp

/-- What is left when characters are dropped at the end was there before. -/
theorem mem_of_mem_dropEndWhile {kind : Char → Bool} {c : Char} (h : c ∈ dropEndWhile kind t) :
    c ∈ t :=
  List.mem_reverse.1 ((List.dropWhile_suffix kind).subset (List.mem_reverse.1 h))

/-- Characters at the end are dropped. -/
theorem dropEndWhile_append {kind : Char → Bool} (hback : ∀ c ∈ back, kind c = true) (t : Text) :
    dropEndWhile kind (t ++ back) = dropEndWhile kind t := by
  rw [dropEndWhile, List.reverse_append,
    List.dropWhile_append_of_pos fun c hc => hback c (List.mem_reverse.1 hc), dropEndWhile]

/-- A text is trimmed around a character that is no blank. -/
theorem trim_append_cons {c : Char} (hc : isBlank c = false) (t u : Text) :
    trim (t ++ c :: u) = t.dropWhile isBlank ++ c :: dropEndWhile isBlank u := by
  rw [trim, dropWhile_append_cons hc, dropEndWhile_append_cons hc]

/-- The first character that is left of a text is its first one that is no blank. -/
theorem head?_trim (t : Text) : t.trim.head? = t.find? fun c => !isBlank c := by
  rw [List.find?_not_eq_head?_dropWhile, trim]
  cases hdrop : t.dropWhile isBlank with
  | nil => rfl
  | cons c rest =>
      have hc : isBlank c = false := by
        have hhead := List.head?_dropWhile_not isBlank t
        rw [hdrop] at hhead
        simpa using hhead
      have hkept := dropEndWhile_append_cons hc [] rest
      rw [List.nil_append] at hkept
      rw [hkept]
      rfl

/-- What is left of a text starts with no blank. -/
theorem not_isBlank_of_mem_head?_trim {c : Char} (h : c ∈ t.trim.head?) : isBlank c = false := by
  rw [head?_trim, Option.mem_def] at h
  simpa using List.find?_some h

/-- What is left of a text ends with no blank. -/
theorem not_isBlank_of_mem_getLast?_trim {c : Char} (h : c ∈ t.trim.getLast?) :
    isBlank c = false := by
  rw [trim, dropEndWhile, List.getLast?_reverse, Option.mem_def] at h
  have hlast := List.head?_dropWhile_not isBlank (t.dropWhile isBlank).reverse
  rw [h] at hlast
  simpa using hlast

/-- Nothing is trimmed from a text that neither starts nor ends with a blank. -/
theorem trim_of_ends (hfirst : ∀ c ∈ t.head?, isBlank c = false)
    (hlast : ∀ c ∈ t.getLast?, isBlank c = false) : t.trim = t := by
  have hdrop {t : Text} (h : ∀ c ∈ t.head?, isBlank c = false) : t.dropWhile isBlank = t := by
    cases t with
    | nil => rfl
    | cons c rest => rw [List.dropWhile_cons_of_neg (by simp [h c rfl])]
  rw [← List.head?_reverse] at hlast
  rw [trim, hdrop hfirst, dropEndWhile, hdrop hlast, List.reverse_reverse]

/-- Nothing is trimmed from a text without blanks. -/
theorem trim_of_no_blank (h : ∀ c ∈ t, isBlank c = false) : t.trim = t :=
  trim_of_ends (fun c hc => h c (List.mem_of_mem_head? hc)) fun c hc =>
    h c (List.mem_of_mem_getLast? hc)

/-- Blanks around a text are trimmed. -/
theorem trim_append_of_blank (hfront : ∀ c ∈ front, isBlank c = true)
    (hback : ∀ c ∈ back, isBlank c = true) : trim (front ++ (t ++ back)) = t.trim := by
  rw [trim, List.dropWhile_append_of_pos hfront, List.dropWhile_append, trim]
  split
  · next h =>
      rw [List.isEmpty_iff.1 h, List.dropWhile_eq_nil_iff.2 hback]
  · exact dropEndWhile_append hback _

/-- Nothing more is trimmed when the blanks in front are dropped first. -/
theorem trim_dropWhile (t : Text) : trim (t.dropWhile isBlank) = t.trim := by
  have hfront : ∀ c ∈ t.takeWhile isBlank, isBlank c = true :=
    fun c hc => List.mem_takeWhile_imp hc
  have h : trim (t.takeWhile isBlank ++ (t.dropWhile isBlank ++ [])) = trim (t.dropWhile isBlank) :=
    trim_append_of_blank hfront fun c hc => absurd hc List.not_mem_nil
  rw [List.append_nil, List.takeWhile_append_dropWhile] at h
  exact h.symm

/-- Nothing more is trimmed when the blanks at the end are dropped first. -/
theorem trim_dropEndWhile (t : Text) : trim (dropEndWhile isBlank t) = t.trim := by
  have hback : ∀ c ∈ (t.reverse.takeWhile isBlank).reverse, isBlank c = true :=
    fun c hc => List.mem_takeWhile_imp (List.mem_reverse.1 hc)
  have h : trim ([] ++ (dropEndWhile isBlank t ++ (t.reverse.takeWhile isBlank).reverse)) =
      trim (dropEndWhile isBlank t) :=
    trim_append_of_blank (fun c hc => absurd hc List.not_mem_nil) hback
  rw [List.nil_append, dropEndWhile, ← List.reverse_append, List.takeWhile_append_dropWhile,
    List.reverse_reverse] at h
  exact h.symm

end Trim

section Infix

variable {c : Char} {word : Text}

/-- A word at the start of a text ends in front of each character that it does not have. -/
theorem prefix_append_cons_iff (hc : c ∉ word) (t u : Text) :
    word <+: t ++ c :: u ↔ word <+: t := by
  refine ⟨fun h => ?_, fun h => h.trans (List.prefix_append t _)⟩
  rcases Nat.lt_or_ge t.length word.length with hlt | hle
  · have hprefix : t ++ [c] <+: t ++ c :: u := ⟨u, by simp⟩
    have hlength : (t ++ [c]).length ≤ word.length := by
      rw [List.length_append, List.length_singleton]
      omega
    have hmem := (List.prefix_of_prefix_length_le hprefix h hlength).subset
    exact absurd (hmem (by simp)) hc
  · exact List.prefix_of_prefix_length_le h (List.prefix_append t _) hle

/-- A word is found on one of the sides of a character that it does not have. -/
theorem infix_append_cons_iff (hword : word ≠ []) (hc : c ∉ word) (t u : Text) :
    word <:+: t ++ c :: u ↔ word <:+: t ∨ word <:+: u := by
  have hnil : ¬ word <+: [] := fun h => hword (List.prefix_nil.1 h)
  induction t with
  | nil =>
      have hfirst : ¬ word <+: c :: u := fun h => hnil ((prefix_append_cons_iff hc [] u).1 h)
      have hnone : ¬ word <:+: [] := fun h => hword (List.infix_nil.1 h)
      rw [List.nil_append, List.infix_cons_iff]
      simp only [hfirst, hnone, false_or]
  | cons d t ih =>
      have hfirst : word <+: d :: (t ++ c :: u) ↔ word <+: d :: t :=
        prefix_append_cons_iff hc (d :: t) u
      have hlater : word <:+: t ++ c :: u ↔ word <:+: t ∨ word <:+: u := ih
      rw [List.cons_append, List.infix_cons_iff, hfirst, hlater, List.infix_cons_iff, or_assoc]

end Infix

section Cut

variable {sep : Char} {t front rest : Text}

/-- A text is cut at a character that does not occur before. -/
theorem cutAt_append (h : sep ∉ front) (rest : Text) :
    cutAt sep (front ++ sep :: rest) = (front, some rest) := by
  induction front with
  | nil => exact if_pos rfl
  | cons c front ih =>
      rw [List.mem_cons, not_or] at h
      rw [List.cons_append, cutAt, if_neg (Ne.symm h.1), ih h.2]

/-- Where a text is cut there is the character, for the first time. -/
theorem cutAt_eq_some_iff : cutAt sep t = (front, some rest) ↔
    t = front ++ sep :: rest ∧ sep ∉ front := by
  refine ⟨fun h => ?_, fun h => h.1 ▸ cutAt_append h.2 rest⟩
  induction t generalizing front with
  | nil => cases h
  | cons c t ih =>
      rw [cutAt] at h
      split at h
      · next hc =>
          cases h
          exact ⟨congrArg (· :: rest) hc, List.not_mem_nil⟩
      · next hc =>
          obtain ⟨hfront, hrest⟩ := Prod.mk.inj h
          obtain ⟨heq, hnot⟩ := ih (Prod.ext rfl hrest)
          subst hfront
          exact ⟨congrArg (c :: ·) heq, fun hmem => (List.mem_cons.1 hmem).elim (Ne.symm hc) hnot⟩

/-- A text without the character is not cut. -/
theorem cutAt_of_not_mem (h : sep ∉ t) : cutAt sep t = (t, none) := by
  induction t with
  | nil => rfl
  | cons c t ih =>
      rw [List.mem_cons, not_or] at h
      rw [cutAt, if_neg (Ne.symm h.1), ih h.2]

/-- A text does not have a character, or it is put together at the first one. -/
theorem exists_of_cut (sep : Char) (t : Text) :
    sep ∉ t ∨ ∃ front rest, t = front ++ sep :: rest ∧ sep ∉ front := by
  by_cases h : sep ∈ t
  · obtain ⟨front, rest, heq, hnot⟩ := List.eq_append_cons_of_mem h
    exact .inr ⟨front, rest, heq, hnot⟩
  · exact .inl h

/-- Induction on the number of characters of a kind in a text. -/
theorem kind_induction {kind : Char → Bool} {motive : Text → Prop}
    (none : ∀ t, (∀ c ∈ t, kind c = false) → motive t)
    (more : ∀ front c rest, (∀ c ∈ front, kind c = false) → kind c = true → motive rest →
      motive (front ++ c :: rest)) (t : Text) : motive t := by
  suffices h : ∀ front : Text, (∀ c ∈ front, kind c = false) → motive (front ++ t) from
    h [] fun c hc => absurd hc List.not_mem_nil
  -- `front` collects the characters since the last one of the kind
  induction t with
  | nil =>
      intro front hfront
      rw [List.append_nil]
      exact none front hfront
  | cons c t ih =>
      intro front hfront
      cases hc : kind c with
      | true => exact more front c t hfront hc (ih [] fun c hc => absurd hc List.not_mem_nil)
      | false =>
          have hlater := ih (front ++ [c])
            (List.forall_mem_append.2 ⟨hfront, List.forall_mem_singleton.2 hc⟩)
          rwa [List.append_assoc] at hlater

/-- Induction on the number of times that a character occurs. -/
theorem splitAt_induction {sep : Char} {motive : Text → Prop}
    (one : ∀ t, sep ∉ t → motive t)
    (more : ∀ front rest, sep ∉ front → motive rest → motive (front ++ sep :: rest)) (t : Text) :
    motive t := by
  have hnot {t : Text} (h : ∀ c ∈ t, decide (c = sep) = false) : sep ∉ t :=
    fun hmem => of_decide_eq_false (h sep hmem) rfl
  refine kind_induction (fun t h => one t (hnot h)) (fun front c rest hfront hc hrest => ?_) t
  rw [of_decide_eq_true hc]
  exact more front rest (hnot hfront) hrest

/-- A text without the character is one piece. -/
theorem splitAt_of_not_mem (h : sep ∉ t) : splitAt sep t = [t] := by
  induction t with
  | nil => rfl
  | cons c t ih =>
      rw [List.mem_cons, not_or] at h
      rw [splitAt, if_neg (Ne.symm h.1), ih h.2]
      rfl

/-- The first piece of a text ends at the first character to split at. -/
theorem splitAt_append (h : sep ∉ front) (rest : Text) :
    splitAt sep (front ++ sep :: rest) = front :: splitAt sep rest := by
  induction front with
  | nil => exact if_pos rfl
  | cons c front ih =>
      rw [List.mem_cons, not_or] at h
      rw [List.cons_append, splitAt, if_neg (Ne.symm h.1), ih h.2]
      rfl

/-- A character is counted from where it occurs for the first time. -/
theorem count_append_cons (h : sep ∉ front) (rest : Text) :
    (front ++ sep :: rest).count sep = rest.count sep + 1 := by
  rw [List.count_append, List.count_eq_zero.2 h, List.count_cons_self, Nat.zero_add]

/-- A text has at least one piece. -/
theorem splitAt_ne_nil (sep : Char) (t : Text) : splitAt sep t ≠ [] := by
  rcases exists_of_cut sep t with h | ⟨front, rest, rfl, h⟩
  · rw [splitAt_of_not_mem h]
    exact List.cons_ne_nil _ _
  · rw [splitAt_append h]
    exact List.cons_ne_nil _ _

end Cut

section Lines

/-- A text with some lines, each of which is ended by a line feed. -/
def ofLines (ls : List Text) : Text :=
  ls.flatMap (· ++ ['\n'])

/-- A character that breaks no line stays on the line. -/
theorem lines_cons {c : Char} (hc : isLineBreak c = false) (t : Text) :
    lines (c :: t) = consFirst c (lines t) := by
  have hne : c ≠ '\r' := by
    rintro rfl
    cases hc
  rw [lines, if_neg (Bool.eq_false_iff.1 hc)]
  rintro rest rfl
  exact absurd rfl hne

/-- The first line ends at the first line feed. -/
theorem lines_append {line : Text} (h : ∀ c ∈ line, isLineBreak c = false) (rest : Text) :
    lines (line ++ '\n' :: rest) = line :: lines rest := by
  induction line with
  | nil => rfl
  | cons c line ih =>
      rw [List.forall_mem_cons] at h
      rw [List.cons_append, lines_cons h.1, ih h.2]
      rfl

/-- Lines that hold no line break are the lines of a text. -/
theorem lines_ofLines {ls : List Text} (h : ∀ line ∈ ls, ∀ c ∈ line, isLineBreak c = false) :
    lines (ofLines ls) = ls := by
  induction ls with
  | nil => rfl
  | cons line ls ih =>
      rw [List.forall_mem_cons] at h
      rw [ofLines, List.flatMap_cons, List.append_assoc, List.singleton_append, lines_append h.1]
      exact congrArg (line :: ·) (ih h.2)

/-- A text without carriage returns has line endings of one form. -/
theorem unifyLineEnds_of_notMem {t : Text} (h : '\r' ∉ t) : unifyLineEnds t = t := by
  fun_induction unifyLineEnds t with
  | case1 => rfl
  | case2 rest ih => exact absurd List.mem_cons_self h
  | case3 c rest hpair ih =>
      rw [List.mem_cons, not_or] at h
      rw [if_neg (Ne.symm h.1), ih h.2]

/-- Lines that hold no line break are the lines of a file. -/
theorem lines_unifyLineEnds_ofLines {ls : List Text}
    (hlines : ∀ line ∈ ls, line.any isLineBreak = false) :
    lines (unifyLineEnds (ofLines ls)) = ls := by
  have h : ∀ line ∈ ls, ∀ c ∈ line, isLineBreak c = false := fun line hline c hc =>
    Bool.eq_false_iff.2 (List.any_eq_false.1 (hlines line hline) c hc)
  rw [unifyLineEnds_of_notMem, lines_ofLines h]
  intro hmem
  obtain ⟨line, hline, hc⟩ := List.mem_flatMap.1 hmem
  rcases List.mem_append.1 hc with hc | hc
  · cases h line hline _ hc
  · cases List.mem_singleton.1 hc

/-- No line of a text holds a line break. -/
theorem isLineBreak_of_mem_lines {t line : Text} (h : line ∈ t.lines) :
    ∀ c ∈ line, isLineBreak c = false := by
  fun_induction lines t generalizing line with
  | case1 => cases h
  | case2 rest ih =>
      rcases List.mem_cons.1 h with rfl | h
      · exact fun c hc => absurd hc List.not_mem_nil
      · exact ih h
  | case3 c rest _ hc ih =>
      rcases List.mem_cons.1 h with rfl | h
      · exact fun c hc => absurd hc List.not_mem_nil
      · exact ih h
  | case4 c rest _ hc ih =>
      cases hrest : lines rest with
      | nil =>
          rw [hrest, consFirst, List.mem_singleton] at h
          simpa [h] using hc
      | cons piece pieces =>
          rw [hrest] at h ih
          rcases List.mem_cons.1 h with rfl | h
          · exact List.forall_mem_cons.2 ⟨by simpa using hc, ih List.mem_cons_self⟩
          · exact ih (List.mem_cons_of_mem _ h)

end Lines

end Agreement.Text
