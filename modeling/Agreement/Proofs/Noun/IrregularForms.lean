import Agreement.Proofs.Noun.ReadingModes
import Agreement.Proofs.Noun.SpacedForms

/-!
# The forms of irregular rules

A line is cut at its comment sign, at its arrow, and at the first bar behind the arrow. Each form is
what is left of a piece when blanks are trimmed, so no form of an irregular rule that is read has a
comment sign, an arrow or a blank at its ends, and none is empty (`IsWordForm`). Bars are another
matter: one in front of the arrow stays in the singular, and a second one behind the arrow in the
classical plural (`BarsLeft`). Lines without exactly one arrow or without forms on either side of it
give no rules: `RuleText.read_irregular_forms`.
-/

namespace Agreement

/-- The modern and the classical plural are those that were put together. -/
theorem Plurals.eq_of_of? {α : Type} {modern classical : Option α} {plurals : Plurals α}
    (h : of? modern classical = some plurals) :
    plurals.modern? = modern ∧ plurals.classical? = classical := by
  cases modern <;> cases classical <;> cases h <;> exact ⟨rfl, rfl⟩

namespace RuleText

variable {patterns : PatternReader}

/-- A form that can stand between arrows and in front of a comment: it is not empty, neither starts
nor ends with a blank, and has no arrow and no comment sign. -/
structure IsWordForm (form : Text) : Prop where
  ne_nil : form ≠ []
  first_not_blank : ∀ c ∈ form.head?, isBlank c = false
  last_not_blank : ∀ c ∈ form.getLast?, isBlank c = false
  no_arrow : ¬ arrow <:+: form
  no_comment : '#' ∉ form

/-- Which bars of a line are left in the forms of an irregular rule: those in front of the arrow are
in the singular, and from the second one behind the arrow on they are in the classical plural. -/
structure BarsLeft (r : IrregularRule) (line : Text) : Prop where
  singular : '|' ∈ r.singular ↔ '|' ∈ (cutArrow line).1
  modern : ∀ form ∈ r.plurals.modern?, '|' ∉ form
  classical : (∃ form ∈ r.plurals.classical?, '|' ∈ form) ↔
    2 ≤ ((cutArrow line).2.getD []).count '|'

section Cut

variable {line singular plural : Text}

/-- The content of a line has no comment sign. -/
theorem comment_notMem_content (line : Text) : '#' ∉ content line := by
  refine fun hmem => absurd (Text.mem_of_mem_trim hmem) ?_
  rcases Text.exists_of_cut '#' line with h | ⟨front, rest, rfl, h⟩
  · rwa [Text.cutAt_of_not_mem h]
  · rwa [Text.cutAt_append h]

/-- Neither part of a line has a comment sign. -/
theorem comment_notMem_parts (hcut : cutArrow (content line) = (singular, some plural)) :
    '#' ∉ singular ∧ '#' ∉ plural := by
  have hcontent := comment_notMem_content line
  have hsingular := prefix_of_cutArrow (content line)
  rw [hcut] at hsingular
  have hplural := suffix_of_cutArrow (congrArg Prod.snd hcut)
  exact ⟨fun hmem => hcontent (hsingular.subset hmem),
    fun hmem => hcontent (hplural.subset hmem)⟩

/-- Each form of a line is what is left of a piece of the singular or the plural part. -/
theorem exists_piece (hcut : cutArrow line = (singular, some plural)) :
    ∀ form ∈ formList line, ∃ piece : Text, form = piece.trim ∧
      (piece <:+: singular ∨ piece <:+: plural) := by
  have hnil : ∃ piece : Text, [] = piece.trim ∧ (piece <:+: singular ∨ piece <:+: plural) :=
    ⟨[], rfl, .inl List.nil_infix⟩
  rw [formList, List.forall_mem_cons, List.forall_mem_append]
  rcases Text.exists_of_cut '|' plural with h | ⟨front, rest, rfl, h⟩
  · rw [formsOf_of_not_mem hcut h, forall_present?_iff hnil]
    exact ⟨⟨singular, rfl, .inl List.infix_rfl⟩, ⟨plural, rfl, .inr List.infix_rfl⟩, by simp⟩
  · rw [formsOf_of_append hcut h, forall_present?_iff hnil, forall_present?_iff hnil]
    have hfront : front <:+: front ++ '|' :: rest := (List.prefix_append front _).isInfix
    have hrest : rest <:+: front ++ '|' :: rest :=
      ((List.suffix_cons '|' rest).trans (List.suffix_append front _)).isInfix
    exact ⟨⟨singular, rfl, .inl List.infix_rfl⟩, ⟨front, rfl, .inr hfront⟩,
      ⟨rest, rfl, .inr hrest⟩⟩

/-- The forms of a line without a second arrow or a comment sign have neither. -/
theorem isWordForm_of_mem (hcut : cutArrow line = (singular, some plural))
    (hone : (cutArrow plural).2 = none) (hsingular : '#' ∉ singular) (hplural : '#' ∉ plural)
    {form : Text} (hform : form ∈ formList line) (hne : form ≠ []) : IsWordForm form := by
  obtain ⟨piece, rfl, hpiece⟩ := exists_piece hcut form hform
  have harrow : ¬ arrow <:+: singular ∧ ¬ arrow <:+: plural := by
    have hnot := not_arrow_of_cutArrow line
    rw [hcut] at hnot
    rw [← cutArrow_isSome_iff plural, hone]
    exact ⟨hnot, Bool.noConfusion⟩
  have htrim := Text.isInfix_trim piece
  refine ⟨hne, fun c hc => Text.not_isBlank_of_mem_head?_trim hc,
    fun c hc => Text.not_isBlank_of_mem_getLast?_trim hc, fun hpart => ?_, fun hmem => ?_⟩
  · rcases hpiece with hpiece | hpiece
    · exact harrow.1 (hpart.trans (htrim.trans hpiece))
    · exact harrow.2 (hpart.trans (htrim.trans hpiece))
  · rcases hpiece with hpiece | hpiece
    · exact hsingular ((htrim.trans hpiece).subset hmem)
    · exact hplural ((htrim.trans hpiece).subset hmem)

/-- An irregular rule of a line has its forms. -/
theorem irregular_of_rulesOf {rules : List Rule} {r : IrregularRule}
    (hrules : rulesOf patterns line = .ok rules) (hr : .simple (.irregular r) ∈ rules) :
    r.singular = (formsOf line).1 ∧
      Plurals.of? (formsOf line).2.1 (formsOf line).2.2 = some r.plurals := by
  have hforms := (rulesOf_eq_ok_iff.1 hrules).2.2.2
  obtain ⟨hmodern, hclassical⟩ := formsOf_ne line
  rw [rulesOfForms_eq] at hforms
  split at hforms
  · exact absurd hr (simple_notMem_compounds hmodern hclassical hforms _)
  · split at hforms
    · obtain ⟨rule, hrule, rfl⟩ := Except.map_eq_ok_iff.1 hforms
      obtain ⟨c, rfl, -⟩ := exists_affix_of_categorical hrule
      cases List.mem_singleton.1 hr
    · obtain ⟨i, hi, rfl⟩ := Except.map_eq_ok_iff.1 hforms
      cases List.mem_singleton.1 hr
      obtain ⟨-, plurals, hplurals, rfl⟩ :=
        (IrregularRule.make_eq_ok_iff hmodern hclassical).1 (Except.mapError_eq_ok_iff.1 hi)
      exact ⟨rfl, hplurals⟩

/-- No form of an accepted line is empty. -/
theorem ne_nil_of_mem_formList {rules : List Rule} (hrules : rulesOf patterns line = .ok rules) :
    ∀ form ∈ formList line, form ≠ [] := by
  have hoption {form : Option Text} (h : form ≠ some []) : ∀ t ∈ form.toList, t ≠ [] := by
    rintro t ht rfl
    exact h (Option.mem_toList.1 ht)
  obtain ⟨hmodern, hclassical⟩ := formsOf_ne line
  rw [formList, List.forall_mem_cons, List.forall_mem_append]
  exact ⟨(rulesOf_eq_ok_iff.1 hrules).2.1, hoption hmodern, hoption hclassical⟩

/-- The bars of a line that are left in the forms of its irregular rule. -/
theorem barsLeft_of_rulesOf {rules : List Rule} {r : IrregularRule}
    (hrules : rulesOf patterns line = .ok rules) (hr : .simple (.irregular r) ∈ rules) :
    BarsLeft r line := by
  obtain ⟨⟨singular, plural, hcut, -⟩, -⟩ := rulesOf_eq_ok_iff.1 hrules
  obtain ⟨hsingular, hplurals⟩ := irregular_of_rulesOf hrules hr
  obtain ⟨hmodern, hclassical⟩ := Plurals.eq_of_of? hplurals
  have hbar (t : Text) : '|' ∈ t.trim ↔ '|' ∈ t := Text.mem_trim_iff (by decide)
  have hpresent (t : Text) : (∃ form ∈ present? t.trim, '|' ∈ form) ↔ '|' ∈ t := by
    rw [← hbar t, present?]
    split
    · next hnil => simp [hnil]
    · simp
  have hnone {t : Text} (h : '|' ∉ t) : ∀ form ∈ present? t.trim, '|' ∉ form :=
    fun form hform hmem => h ((hpresent t).1 ⟨form, hform, hmem⟩)
  rcases Text.exists_of_cut '|' plural with h | ⟨front, rest, rfl, h⟩
  · rw [formsOf_of_not_mem hcut h] at hsingular hmodern hclassical
    constructor
    · rw [hsingular, hcut, hbar]
    · rw [hmodern]
      exact hnone h
    · rw [hclassical, hcut, Option.getD_some, List.count_eq_zero.2 h]
      simp
  · rw [formsOf_of_append hcut h] at hsingular hmodern hclassical
    constructor
    · rw [hsingular, hcut, hbar]
    · rw [hmodern]
      exact hnone h
    · rw [hclassical, hpresent, hcut, Option.getD_some, Text.count_append_cons h,
        ← List.count_pos_iff]
      omega

/-- The bars of the spaced variant are those of the line. -/
theorem BarsLeft.of_variant {variant : Text} {r : IrregularRule}
    (hcut : cutArrow line = (singular, some plural))
    (hvariant : cutArrow variant =
      (spacedForm singular ++ [' '], some (' ' :: spacedPlurals plural)))
    (h : BarsLeft r variant) : BarsLeft r line := by
  obtain ⟨hsingular, hmodern, hclassical⟩ := h
  rw [hvariant] at hsingular hclassical
  constructor
  · rw [hsingular, hcut]
    simp [bar_mem_spacedForm_iff]
  · exact hmodern
  · rw [hclassical, hcut, Option.getD_some, Option.getD_some, List.count_cons_of_ne (by decide),
      count_bar_spacedPlurals]

end Cut

section Lines

variable {line spelling : Text} {rules own : List Rule} {r : IrregularRule}

/-- The forms of an irregular rule have neither an arrow nor a comment sign, whether it is read from
a line or from its spaced variant, and the same bars are left in them. -/
theorem irregular_of_spelling (hown : rulesOf patterns (content line) = .ok own)
    (hspelling : spelling ∈ spellings line) (hrules : rulesOf patterns spelling = .ok rules)
    (hr : .simple (.irregular r) ∈ rules) :
    (∀ form ∈ r.forms, IsWordForm form) ∧ BarsLeft r (content line) := by
  obtain ⟨hsingular, hplurals⟩ := irregular_of_rulesOf hrules hr
  have hforms : r.forms = formList spelling := by
    rw [IrregularRule.forms, formList, hsingular, Plurals.toList_of_of? hplurals]
  have hne := ne_nil_of_mem_formList hrules
  have hbars := barsLeft_of_rulesOf hrules hr
  rw [hforms]
  obtain ⟨⟨singular, plural, hcut, hone⟩, -⟩ := rulesOf_eq_ok_iff.1 hown
  obtain ⟨hs, hp⟩ := comment_notMem_parts hcut
  rcases List.mem_cons.1 hspelling with rfl | hvariant
  · exact ⟨fun form hform => isWordForm_of_mem hcut hone hs hp hform (hne form hform), hbars⟩
  · obtain ⟨hvcut, hvone⟩ := cutArrow_spacedVariant hcut hone (Option.mem_toList.1 hvariant)
    have hs' : '#' ∉ spacedForm singular ++ [' '] := by
      simp [mem_spacedForm_iff, hs, isBlank]
    have hp' : '#' ∉ ' ' :: spacedPlurals plural := by simp [comment_notMem_spacedPlurals hp]
    exact ⟨fun form hform => isWordForm_of_mem hvcut hvone hs' hp' hform (hne form hform),
      hbars.of_variant hcut hvcut⟩

/-- The forms of a rule that is read, and the lines that give none. A form of an irregular rule is
not empty, neither starts nor ends with a blank, and has no arrow and no comment sign; it has a bar
only if the line of the rule has one in front of its arrow or a second one behind it. A line is
malformed and gives no rules unless it has exactly one arrow, a singular and a plural. -/
theorem read_irregular_forms (strict : Bool) (lines : List Text) :
    (∀ r, .simple (.irregular r) ∈ (read strict lines patterns).rules →
      (∀ form ∈ r.forms, IsWordForm form) ∧
        ∃ line ∈ lines, .simple (.irregular r) ∈ (readLine patterns line).1 ∧
          BarsLeft r (content line)) ∧
    ∀ line ∈ lines, content line ≠ [] →
      ¬ (HasOneArrow (content line) ∧ (formsOf (content line)).1 ≠ [] ∧
        ¬ ((formsOf (content line)).2.1 = none ∧ (formsOf (content line)).2.2 = none)) →
      isMalformed patterns line = true ∧ (readLine patterns line).1 = [] := by
  constructor
  · intro r hr
    obtain ⟨line, hline, hmem⟩ := exists_readLine_of_mem_read hr
    obtain ⟨own, spelling, rules, hown, hspelling, hrules, hrule⟩ :=
      exists_rulesOf_of_mem_readLine hmem
    obtain ⟨hforms, hbars⟩ := irregular_of_spelling hown hspelling hrules hrule
    exact ⟨hforms, line, hline, hmem, hbars⟩
  · intro line _ hne hno
    have hnot {rules : List Rule} (hrules : rulesOf patterns (content line) = .ok rules) :
        False := by
      obtain ⟨harrow, hsingular, hplural, -⟩ := rulesOf_eq_ok_iff.1 hrules
      exact hno ⟨harrow, hsingular, hplural⟩
    rw [isMalformed_eq]
    generalize readLine patterns line = result, readsLine patterns line = hresult
    cases hresult with
    | blank hblank => exact absurd hblank hne
    | rejected hfault => exact ⟨rfl, rfl⟩
    | plain hrules _ | variantRejected hrules _ _ | spaced hrules _ _ => exact (hnot hrules).elim

/-- The forms of the first of these lines, and nothing from the second one, which has two arrows. -/
theorem read_irregular_forms_kine :
    (∀ form ∈ (["cow", "cows", "kine"] : List Text), IsWordForm form) ∧
      isMalformed Pattern.read "a => b => c" = true ∧
        (readLine Pattern.read "a => b => c").1 = [] := by
  obtain ⟨hforms, hmalformed⟩ :=
    @read_irregular_forms Pattern.read true ["cow => cows|kine # herds", "a => b => c"]
  have hcow := hforms ⟨"cow", .both "cows" "kine", false⟩ (by decide +kernel)
  refine ⟨hcow.1, hmalformed "a => b => c" (by simp) (by decide +kernel) ?_⟩
  rintro ⟨⟨singular, plural, hcut, hone⟩, -⟩
  have hsecond : (cutArrow ((cutArrow (content "a => b => c")).2.getD [])).2 ≠ none := by
    decide +kernel
  rw [hcut] at hsecond
  exact hsecond hone

/-- The second bar of this line ends up in the classical plural. -/
theorem read_second_bar :
    read true ["a => b|c|d"] =
      ⟨[.simple (.irregular ⟨"a", .both "b" "c|d", false⟩)], none⟩ := by
  decide +kernel

end Lines

end RuleText

end Agreement
