import Agreement.Noun.English
import Agreement.Proofs.Noun.Fields
import Agreement.Proofs.Noun.LineForms

/-!
# Lines with compounds

The compound rules of a line have the forms of the line for their phrases, and each form is the
pattern of one of them (`rulesOf_shareForms`). So a rule of an accepted line can leave a slot
without a word exactly if two forms of the line differ in their slots: `readLine_neverUnfilled_iff`.
-/

namespace Agreement.RuleText

variable {patterns : PatternReader}

/-- The forms of a line with a compound. -/
def compoundForms (line : Text) : List Text :=
  if hasSingularHead (formsOf line).1 then
    (formsOf line).1 :: ((formsOf line).2.1.toList ++ (formsOf line).2.2.toList)
  else []

/-- The spellings under which a line is read: its content, and the spaced variant of that. -/
def spellings (line : Text) : List Text :=
  content line :: (spacedVariant? (content line)).toList

/-- The compound rules among some rules go by the lexicon that is asked. They have patterns with a
head and some common forms for their phrases, and each of these forms is the pattern of one of
them. -/
structure ShareForms (rules : List Rule) (forms : List Text) : Prop where
  background_eq : ∀ r, .compound r ∈ rules → r.background = {}
  isPattern : ∀ r, .compound r ∈ rules → r.pattern.IsPattern
  phrases_eq : ∀ r, .compound r ∈ rules →
    r.singular :: r.plurals.toList = forms.map Phrase.ofForm
  exists_form : ∀ r, .compound r ∈ rules → ∃ form ∈ forms, r.pattern = Phrase.ofForm form
  exists_rule : ∀ form ∈ forms, ∃ r, .compound r ∈ rules ∧ r.pattern = Phrase.ofForm form

/-- Every phrase of a rule that shares its forms is the pattern of some rule. -/
theorem ShareForms.isPattern_of_mem {rules : List Rule} {forms : List Text}
    (h : ShareForms rules forms) {r : CompoundRule} (hr : .compound r ∈ rules) {phrase : Phrase}
    (hphrase : phrase ∈ r.singular :: r.plurals.toList) : phrase.IsPattern := by
  rw [h.phrases_eq r hr] at hphrase
  obtain ⟨form, hform, rfl⟩ := List.mem_map.1 hphrase
  obtain ⟨r', hr', hpattern⟩ := h.exists_rule form hform
  exact hpattern ▸ h.isPattern r' hr'

/-- The compound rules of some forms share them. -/
theorem compounds_eq_ok {singular : Text} {modern classical : Option Text} {rules : List Rule}
    (h : compounds singular modern classical = .ok rules) (hmodern : modern ≠ some [])
    (hclassical : classical ≠ some []) :
    ShareForms rules (singular :: (modern.toList ++ classical.toList)) := by
  rw [compounds_eq] at h
  obtain ⟨hresult, hstep⟩ := mem_of_mapM_eq_ok h
  have hphrases {plurals : Plurals Phrase} (hplurals :
      Plurals.of? (modern.map Phrase.ofForm) (classical.map Phrase.ofForm) = some plurals) :
      Phrase.ofForm singular :: plurals.toList =
        (singular :: (modern.toList ++ classical.toList)).map Phrase.ofForm := by
    rw [Plurals.toList_of_of? hplurals]
    simp [Option.toList_map]
  have hofResult {r : CompoundRule} (hr : .compound r ∈ rules) :
      r.pattern ∈ (singular :: (modern.toList ++ classical.toList)).map Phrase.ofForm ∧
        r.background = {} ∧ r.pattern.IsPattern ∧ r.singular :: r.plurals.toList =
          (singular :: (modern.toList ++ classical.toList)).map Phrase.ofForm := by
    obtain ⟨pattern, hmem, heq⟩ := hresult _ hr
    obtain ⟨hpattern, plurals, hplurals, hr'⟩ := (compound_eq_ok_iff hmodern hclassical).1 heq
    cases hr'
    exact ⟨List.mem_eraseDups.1 hmem, rfl, hpattern, hphrases hplurals⟩
  constructor
  · exact fun r hr => (hofResult hr).2.1
  · exact fun r hr => (hofResult hr).2.2.1
  · exact fun r hr => (hofResult hr).2.2.2
  · intro r hr
    obtain ⟨form, hform, hof⟩ := List.mem_map.1 (hofResult hr).1
    exact ⟨form, hform, hof.symm⟩
  · intro form hform
    obtain ⟨rule, hrule, heq⟩ :=
      hstep _ (List.mem_eraseDups.2 (List.mem_map.2 ⟨form, hform, rfl⟩))
    obtain ⟨-, plurals, -, rfl⟩ := (compound_eq_ok_iff hmodern hclassical).1 heq
    exact ⟨_, hrule, rfl⟩

/-- The compound rules of a spelling share its forms. -/
theorem rulesOf_shareForms {spelling : Text} {rules : List Rule}
    (h : rulesOf patterns spelling = .ok rules) : ShareForms rules (compoundForms spelling) := by
  rcases rulesOf_cases h with ⟨hhead, hrules⟩ | ⟨hhead, r, rfl, -⟩
  · rw [compoundForms, if_pos hhead]
    exact compounds_eq_ok hrules (formsOf_ne spelling).1 (formsOf_ne spelling).2
  · have hnone : compoundForms spelling = [] := if_neg (by simp [hhead])
    have hnot (r' : CompoundRule) : .compound r' ∉ [Rule.simple r] := by simp
    rw [hnone]
    exact ⟨fun r' hr => absurd hr (hnot r'), fun r' hr => absurd hr (hnot r'),
      fun r' hr => absurd hr (hnot r'), fun r' hr => absurd hr (hnot r'), by simp⟩

/-- The rules of an accepted line are those of its spellings. -/
theorem readLine_eq_ok {line : Text} {rules : List Rule}
    (h : readLine patterns line = (rules, none)) :
    (∀ r ∈ rules, ∃ spelling ∈ spellings line,
        ∃ group, rulesOf patterns spelling = .ok group ∧ r ∈ group) ∧
      ∀ spelling ∈ spellings line, compoundForms spelling = [] ∨
        ∃ group, rulesOf patterns spelling = .ok group ∧ ∀ r ∈ group, r ∈ rules := by
  unfold spellings
  cases h ▸ readsLine patterns line with
  | blank hblank =>
      have hspellings : content line :: (spacedVariant? (content line)).toList = [[]] := by
        rw [hblank]
        rfl
      rw [hspellings]
      refine ⟨fun r hr => absurd hr List.not_mem_nil, fun spelling hspelling => .inl ?_⟩
      rw [List.mem_singleton.1 hspelling]
      rfl
  | plain hrules hvariant =>
      rw [hvariant]
      refine ⟨fun r hr => ⟨_, List.mem_cons_self, _, hrules, hr⟩,
        fun spelling hspelling => .inr ?_⟩
      rw [List.mem_singleton.1 hspelling]
      exact ⟨rules, hrules, fun r hr => hr⟩
  | spaced hrules hvariant hmore =>
      rw [hvariant]
      constructor
      · intro r hr
        rcases List.mem_append.1 hr with hr | hr
        · exact ⟨_, List.mem_cons_self, _, hrules, hr⟩
        · exact ⟨_, List.mem_cons_of_mem _ List.mem_cons_self, _, hmore, hr⟩
      · intro spelling hspelling
        rcases List.mem_cons.1 hspelling with rfl | hspelling
        · exact .inr ⟨_, hrules, fun r hr => List.mem_append_left _ hr⟩
        · rw [List.mem_singleton.1 hspelling]
          exact .inr ⟨_, hmore, fun r hr => List.mem_append_right _ hr⟩

/-- The compound rules of an accepted line never leave a slot without a word, whatever the lexicon
and the word that a rule matches, exactly if all forms of each spelling have the same slots. -/
theorem readLine_neverUnfilled_iff {line : Text} {rules : List Rule}
    (h : readLine patterns line = (rules, none)) :
    (∀ r, .compound r ∈ rules → ∀ (lexicon : Lexicon) (w : Text),
      (lexicon.inflection (.compound r)).matches? w = true →
        (lexicon.inflection (.compound r)).NeverUnfilled w) ↔
    ∀ spelling ∈ spellings line, ∀ form ∈ compoundForms spelling,
      ∀ form' ∈ compoundForms spelling, ∀ s ∈ (Phrase.ofForm form').slots,
        s ∈ (Phrase.ofForm form).slots := by
  obtain ⟨hrules, hspellings⟩ := readLine_eq_ok h
  constructor
  · intro hnever spelling hspelling form hform form' hform'
    rcases hspellings spelling hspelling with hnil | ⟨group, hgroup, hsub⟩
    · rw [hnil] at hform
      cases hform
    · have hshare := rulesOf_shareForms hgroup
      obtain ⟨r, hr, hpattern⟩ := hshare.exists_rule form hform
      rw [← hpattern]
      refine CompoundRule.covers_of_neverUnfilled (hshare.background_eq r hr)
        (hshare.isPattern r hr).head_mem (hnever r (hsub _ hr)) _ ?_
      rw [hshare.phrases_eq r hr]
      exact List.mem_map_of_mem hform'
  · intro hforms r hr lexicon w hmatch
    obtain ⟨spelling, hspelling, group, hgroup, hmem⟩ := hrules _ hr
    have hshare := rulesOf_shareForms hgroup
    obtain ⟨form, hform, hpattern⟩ := hshare.exists_form r hmem
    obtain ⟨words, hwords⟩ := Option.isSome_iff_exists.1 hmatch
    refine CompoundRule.neverUnfilled_of_covers (hshare.isPattern r hmem).head_mem ?_ hwords
    rw [hshare.phrases_eq r hmem, hpattern]
    intro phrase hphrase
    obtain ⟨form', hform', rfl⟩ := List.mem_map.1 hphrase
    exact hforms spelling hspelling form hform form' hform'

/-- The forms of a line with a preposition have the same slots, also in the spaced variant. -/
theorem readLine_neverUnfilled_hyphenated :
    readLine Pattern.read "(SING)-(PREP)-* => (PL)-(PREP)-*" =
        ([English.compound "(SING)-(PREP)-*", English.compound "(SING) (PREP) *"], none) ∧
      ∀ r, .compound r ∈
          [English.compound "(SING)-(PREP)-*", English.compound "(SING) (PREP) *"] →
        ∀ (lexicon : Lexicon) (w : Text), (lexicon.inflection (.compound r)).matches? w = true →
          (lexicon.inflection (.compound r)).NeverUnfilled w := by
  have hline : readLine Pattern.read "(SING)-(PREP)-* => (PL)-(PREP)-*" =
      ([English.compound "(SING)-(PREP)-*", English.compound "(SING) (PREP) *"], none) := by
    decide +kernel
  exact ⟨hline, (readLine_neverUnfilled_iff hline).2 (by decide +kernel)⟩

/-- The rule for the plural of `(SING) of * => (PL)`, which matches any word. -/
def pluralOfCopied : CompoundRule where
  written := "(?P<noun>\\w+)"
  pattern := Phrase.ofForm "(PL)"
  singular := Phrase.ofForm "(SING) of *"
  plurals := .modern (Phrase.ofForm "(PL)")

/-- The plural of this line has no word for the slot that is copied into the singular. -/
theorem readLine_unfilled_copied :
    (readLine Pattern.read "(SING) of * => (PL)").2 = none ∧
      .compound pluralOfCopied ∈ (readLine Pattern.read "(SING) of * => (PL)").1 ∧
      (({} : Lexicon).inflection (.compound pluralOfCopied)).matches? "cats" = true ∧
      (({} : Lexicon).inflection (.compound pluralOfCopied)).singularize "cats" =
        .error (.unfilled "scratch") := by
  decide +kernel

end Agreement.RuleText
