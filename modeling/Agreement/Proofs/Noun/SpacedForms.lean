import Agreement.Proofs.Noun.BoundedForms

/-!
# The forms of a spaced variant

The spaced variant of a line has the forms of the line with spaces for hyphens, as long as there is
at most one bar and no form ends in a hyphen (`RuleText.formsOf_variant`). Spaces can be put in
before or after a form is read as a phrase: `Phrase.ofForm_exchange`.
-/

namespace Agreement

section Spaced

/-- An affix with the hyphens of its suffix made spaces. -/
def Affix.spaced (a : Affix) : Affix :=
  { a with suffix := Text.exchange '-' ' ' a.suffix }

/-- A piece of a phrase with a hyphen made a space. -/
def Piece.spaced : Piece → Piece
  | .char c => .char (if c = '-' then ' ' else c)
  | .slot s => .slot s

/-- A phrase with its hyphens made spaces. -/
def Phrase.spaced (p : Phrase) : Phrase :=
  p.map Piece.spaced

/-- Plurals are mapped one function after the other. -/
theorem Plurals.map_map {α β γ : Type} (f : α → β) (g : β → γ) (plurals : Plurals α) :
    (plurals.map f).map g = plurals.map (g ∘ f) := by
  cases plurals <;> rfl

/-- Plurals are put together before or after they are mapped. -/
theorem Plurals.of?_map {α β : Type} (f : α → β) (modern classical : Option α) :
    of? (modern.map f) (classical.map f) = (of? modern classical).map (map f) := by
  cases modern <;> cases classical <;> rfl

/-- A text without the character stays as it is. -/
theorem Text.exchange_of_not_mem {c d : Char} {t : Text} (h : c ∉ t) : exchange c d t = t := by
  have hid : ∀ x ∈ t, (if x = c then d else x) = id x := by
    intro x hx
    have hne : x ≠ c := ne_of_mem_of_not_mem hx h
    exact if_neg hne
  exact (List.map_congr_left hid).trans (List.map_id t)

/-- The characters on both sides of one that is exchanged are exchanged for themselves. -/
theorem Text.exchange_append_cons (c d : Char) (t u : Text) :
    exchange c d (t ++ c :: u) = exchange c d t ++ d :: exchange c d u := by
  simp [exchange]

namespace Phrase

/-- The hyphens of a template are those of the phrase, if its slots have markers. -/
theorem template_spaced {p : Phrase} (hmarked : ∀ s ∈ p.slots, s ∈ markedSlots) :
    p.spaced.template = Text.exchange '-' ' ' p.template := by
  induction p with
  | nil => rfl
  | cons piece p ih =>
      have hpiece : templatePiece piece.spaced = Text.exchange '-' ' ' (templatePiece piece) := by
        cases piece with
        | char c =>
            by_cases hc : c = '-'
            · subst hc
              rfl
            · simp only [Piece.spaced, if_neg hc, templatePiece, Text.exchange]
              split <;> simp [hc]
        | slot s =>
            have hname : '-' ∉ s.name := notMem_name (hmarked s List.mem_cons_self) (by decide)
            have hpiece : '-' ∉ templatePiece (.slot s) := by simp [templatePiece, hname]
            exact (Text.exchange_of_not_mem hpiece).symm
      have hrest : ∀ s ∈ slots p, s ∈ markedSlots := by
        cases piece with
        | char c => exact hmarked
        | slot s => exact fun s' hs' => hmarked s' (List.mem_cons_of_mem _ hs')
      show templatePiece piece.spaced ++ template (spaced p) = Text.exchange '-' ' ' (_ ++ _)
      rw [hpiece, ih hrest, Text.exchange, Text.exchange, Text.exchange, List.map_append]
      rfl

/-- The slots stay the same when hyphens become spaces. -/
theorem slots_spaced (p : Phrase) : p.spaced.slots = p.slots := by
  induction p with
  | nil => rfl
  | cons piece p ih =>
      cases piece with
      | char c => exact ih
      | slot s => exact congrArg (s :: ·) ih

/-- A pattern stays one when hyphens become spaces. -/
theorem IsPattern.spaced {p : Phrase} (h : p.IsPattern) : p.spaced.IsPattern :=
  ⟨by rw [slots_spaced]; exact h.nodup, by rw [slots_spaced]; exact h.head_mem⟩

/-- The characters of a phrase are those of the form. -/
theorem mem_of_char_mem_ofForm {form : Text} {c : Char} (h : .char c ∈ ofForm form) :
    c ∈ form := by
  fun_induction ofForm form with
  | case1 t ih | case2 t ih | case3 t ih | case4 t ih =>
      rcases List.mem_cons.1 h with heq | h
      · cases heq
      · simp [ih h]
  | case5 d t _ _ _ _ ih =>
      rcases List.mem_cons.1 h with heq | h
      · cases heq
        exact List.mem_cons_self
      · exact List.mem_cons_of_mem _ (ih h)
  | case6 => cases h

/-- A phrase without hyphens stays as it is. -/
theorem spaced_of_not_mem {p : Phrase} (h : .char '-' ∉ p) : p.spaced = p := by
  have hid : ∀ piece ∈ p, piece.spaced = id piece := by
    intro piece hpiece
    cases piece with
    | char c =>
        have hc : c ≠ '-' := fun heq => h (heq ▸ hpiece)
        exact congrArg Piece.char (if_neg hc)
    | slot s => rfl
  exact (List.map_congr_left hid).trans (List.map_id p)

/-- The phrase of a form with spaces for hyphens is the phrase with spaces for hyphens. -/
theorem ofForm_exchange (form : Text) :
    ofForm (Text.exchange '-' ' ' form) = (ofForm form).spaced := by
  induction form using Text.splitAt_induction with
  | one t h =>
      rw [Text.exchange_of_not_mem h, spaced_of_not_mem fun hmem => h (mem_of_char_mem_ofForm hmem)]
  | more front rest h ih =>
      have hfront := spaced_of_not_mem fun hmem => h (mem_of_char_mem_ofForm hmem)
      have happend : spaced (ofForm front ++ .char '-' :: ofForm rest) =
          spaced (ofForm front) ++ .char ' ' :: spaced (ofForm rest) :=
        List.map_append
      rw [Text.exchange_append_cons, Text.exchange_of_not_mem h,
        RuleText.ofForm_append_cons (by decide), RuleText.ofForm_append_cons (by decide), ih,
        happend, hfront]

end Phrase

end Spaced

namespace RuleText

section Forms

variable {t : Text}

/-- A form keeps its first character when it is spaced. -/
theorem head?_spaced (t : Text) : (spaced t).head? = t.head? := by
  cases t <;> rfl

/-- Only an empty form is spaced to an empty one. -/
theorem spaced_eq_nil_iff : spaced t = [] ↔ t = [] := by
  cases t <;> simp [spaced]

/-- A form that does not start with a hyphen is spaced everywhere. -/
theorem spaced_of_head? (h : t.head? ≠ some '-') : spaced t = Text.exchange '-' ' ' t := by
  cases t with
  | nil => rfl
  | cons c rest =>
      have hc : c ≠ '-' := fun heq => h (congrArg some heq)
      show c :: _ = (if c = '-' then ' ' else c) :: _
      rw [if_neg hc]
      rfl

/-- A form that does not end in a hyphen keeps its last character when it is spaced. -/
theorem getLast?_spaced (h : t.getLast? ≠ some '-') : (spaced t).getLast? = t.getLast? := by
  rcases List.eq_nil_or_concat t with rfl | ⟨start, c, rfl⟩
  · rfl
  rw [List.concat_eq_append] at h ⊢
  have hc : c ≠ '-' := by simpa using h
  cases start with
  | nil => rfl
  | cons d start => simp [spaced, Text.exchange, List.getLast?_cons, hc]

/-- Nothing is trimmed from the spaced form of a trimmed one that does not end in a hyphen. -/
theorem trim_spacedForm {form : Text} (h : form.trim.getLast? ≠ some '-') :
    (spacedForm form).trim = spaced form.trim := by
  rw [spacedForm_eq]
  refine Text.trim_of_ends ?_ ?_
  · rw [head?_spaced]
    exact fun c hc => Text.not_isBlank_of_mem_head?_trim hc
  · rw [getLast?_spaced h]
    exact fun c hc => Text.not_isBlank_of_mem_getLast?_trim hc

/-- A form is there if its spaced one is. -/
theorem present?_spaced (t : Text) : present? (spaced t) = (present? t).map spaced := by
  unfold present?
  by_cases h : t = []
  · rw [if_pos h, if_pos (spaced_eq_nil_iff.2 h)]
    rfl
  · rw [if_neg h, if_neg (mt spaced_eq_nil_iff.1 h)]
    rfl

/-- A property of the empty form holds of a form that may be missing if it holds of the text. -/
theorem forall_present?_iff {P : Text → Prop} (hnil : P []) (t : Text) :
    (∀ form ∈ (present? t).toList, P form) ↔ P t := by
  unfold present?
  split
  · next h => simp [h, hnil]
  · simp

/-- A form has a hyphen if there is one behind its first character. -/
theorem hasHyphen_iff (t : Text) : hasHyphen t = true ↔ '-' ∈ t.trim.tail := by
  unfold hasHyphen
  split
  · next body heq => simp [heq]
  · next hhyphen =>
      cases htrim : t.trim with
      | nil => simp
      | cons c rest =>
          have hc : '-' ≠ c := by
            rintro rfl
            exact hhyphen rest htrim
          simp [hc]

end Forms

section Lines

variable {line variant singular plural : Text}

/-- The forms of a line: the singular, and the plurals that are there. -/
def formList (line : Text) : List Text :=
  (formsOf line).1 :: ((formsOf line).2.1.toList ++ (formsOf line).2.2.toList)

/-- A plural part with at most one bar has none, or none on either side of its bar. -/
theorem bar_cases (h : plural.count '|' ≤ 1) :
    '|' ∉ plural ∨ ∃ front rest, plural = front ++ '|' :: rest ∧ '|' ∉ front ∧ '|' ∉ rest := by
  rcases Text.exists_of_cut '|' plural with hnot | ⟨front, rest, rfl, hfront⟩
  · exact .inl hnot
  · rw [Text.count_append_cons hfront] at h
    have hrest : rest.count '|' = 0 := by omega
    exact .inr ⟨front, rest, rfl, hfront, List.count_eq_zero.1 hrest⟩

/-- The forms of the spaced variant are the spaced forms of the line, if that has at most one bar
and no form ends in a hyphen. -/
theorem formsOf_variant (hcut : cutArrow line = (singular, some plural))
    (hvariant : cutArrow variant =
      (spacedForm singular ++ [' '], some (' ' :: spacedPlurals plural)))
    (hbar : plural.count '|' ≤ 1) (hbehind : ∀ form ∈ formList line, form.getLast? ≠ some '-') :
    formsOf variant =
      (spaced (formsOf line).1, (formsOf line).2.1.map spaced, (formsOf line).2.2.map spaced) := by
  have hnil : ([] : Text).getLast? ≠ some '-' := by decide
  rw [formList, List.forall_mem_cons, List.forall_mem_append] at hbehind
  rcases bar_cases hbar with h | ⟨front, rest, rfl, hfront, hrest⟩
  · rw [formsOf_of_not_mem hcut h] at hbehind ⊢
    obtain ⟨hs, hm, -⟩ := hbehind
    rw [formsOf_variant_of_not_mem hvariant h, trim_spacedForm hs,
      trim_spacedForm ((forall_present?_iff hnil _).1 hm), present?_spaced]
    rfl
  · rw [formsOf_of_append hcut hfront] at hbehind ⊢
    obtain ⟨hs, hm, hc⟩ := hbehind
    rw [formsOf_variant_of_append hvariant hfront, trim_spacedForm hs,
      trim_spacedForm ((forall_present?_iff hnil _).1 hm), spacedPlurals_of_not_mem hrest,
      trim_spacedForm ((forall_present?_iff hnil _).1 hc), present?_spaced, present?_spaced]

/-- A line with at most one bar has no spaced variant if no form has a hyphen behind its first
character. -/
theorem spacedVariant?_eq_none_iff (hcut : cutArrow line = (singular, some plural))
    (hbar : plural.count '|' ≤ 1) :
    spacedVariant? line = none ↔ ∀ form ∈ formList line, '-' ∉ form.tail := by
  have hnil : '-' ∉ ([] : Text).tail := List.not_mem_nil
  have hvariant : spacedVariant? line = none ↔
      hasHyphen singular = false ∧ ∀ form ∈ Text.splitAt '|' plural, hasHyphen form = false := by
    unfold spacedVariant?
    rw [hcut]
    simp
  have hform (t : Text) : hasHyphen t = false ↔ '-' ∉ t.trim.tail := by
    rw [← hasHyphen_iff, Bool.not_eq_true]
  rw [hvariant, formList, List.forall_mem_cons, List.forall_mem_append]
  rcases bar_cases hbar with h | ⟨front, rest, rfl, hfront, hrest⟩
  · rw [formsOf_of_not_mem hcut h, Text.splitAt_of_not_mem h, forall_present?_iff hnil]
    simp [hform]
  · rw [formsOf_of_append hcut hfront, Text.splitAt_append hfront, Text.splitAt_of_not_mem hrest,
      forall_present?_iff hnil, forall_present?_iff hnil]
    simp [hform]

end Lines

end RuleText

end Agreement
