import Agreement.Proofs.Noun.ReadingModes
import Agreement.Proofs.Noun.SpacedForms

/-!
# The rules of a spaced variant

The rules of a spaced variant are the rules of the line with spaces for hyphens, each one once
(`RuleText.rulesOfForms_spaced`): an irregular rule has the spaced forms for its forms, a
categorical rule has affixes with the spaced suffixes, and the compound rules have the spaced
phrases for their patterns, two of which may have become equal. So a strict reading of a line with a
hyphen inside a form gives the rules of the line and then these: `RuleText.read_spaced_rules`.
-/

namespace Agreement

section Repeated

variable {α β : Type} [BEq α] [LawfulBEq α] [BEq β] [LawfulBEq β]

omit [LawfulBEq α] in
/-- Induction in which repetitions of the first entry are left out. -/
theorem eraseDups_induction {motive : List α → Prop} (nil : motive [])
    (cons : ∀ a l, motive (l.filter fun b => !b == a) → motive (a :: l)) (l : List α) :
    motive l := by
  induction hlength : l.length using Nat.strong_induction_on generalizing l with
  | h n ih =>
      cases l with
      | nil => exact nil
      | cons a l =>
          have hle := List.length_filter_le (fun b => !b == a) l
          rw [List.length_cons] at hlength
          exact cons a l (ih _ (by omega) _ rfl)

/-- Entries may be left out before or after repeated ones are. -/
theorem filter_eraseDups (p : α → Bool) (l : List α) :
    l.eraseDups.filter p = (l.filter p).eraseDups := by
  induction l using eraseDups_induction with
  | nil => simp
  | cons a l ih =>
      rw [List.eraseDups_cons, List.filter_cons, List.filter_cons, ih, List.filter_filter]
      split
      · rw [List.eraseDups_cons, List.filter_filter]
        simp only [Bool.and_comm]
      · next hp =>
          congr 1
          refine List.filter_congr fun b _ => ?_
          by_cases hb : b = a
          · simp [hb, hp]
          · simp [hb]

/-- Repeated entries may be left out before they are mapped as well as afterwards. -/
theorem eraseDups_map_eraseDups (f : α → β) (l : List α) :
    (l.eraseDups.map f).eraseDups = (l.map f).eraseDups := by
  induction l using eraseDups_induction with
  | nil => simp
  | cons a l ih =>
      rw [List.eraseDups_cons, List.map_cons, List.map_cons, List.eraseDups_cons,
        List.eraseDups_cons, ← filter_eraseDups, ih, filter_eraseDups, List.filter_map,
        List.filter_map, List.filter_filter]
      congr 3
      refine List.filter_congr fun b _ => ?_
      by_cases hb : b = a
      · simp [hb]
      · simp [hb]

/-- Repeated entries are left out before or after an injective map. -/
theorem eraseDups_map_of_injective {f : α → β} (hf : Function.Injective f) (l : List α) :
    (l.map f).eraseDups = l.eraseDups.map f := by
  induction l using eraseDups_induction with
  | nil => simp
  | cons a l ih =>
      have hfilter : (l.map f).filter (fun b => !b == f a) =
          (l.filter fun b => !b == a).map f := by
        rw [List.filter_map]
        congr 1
        refine List.filter_congr fun b _ => ?_
        simp [hf.eq_iff]
      rw [List.eraseDups_cons, List.map_cons, List.eraseDups_cons, hfilter, ih, List.map_cons]

end Repeated

/-- Steps all succeed with their results if each of them meets its condition. -/
theorem mapM_eq_ok_iff {α β ε : Type} {f : α → Except ε β} {Q : α → Prop} {g : α → β}
    (h : ∀ a b, f a = .ok b ↔ Q a ∧ b = g a) (as : List α) (bs : List β) :
    as.mapM f = .ok bs ↔ (∀ a ∈ as, Q a) ∧ bs = as.map g := by
  induction as generalizing bs with
  | nil => simp [pure, Except.pure, eq_comm]
  | cons a as ih =>
      simp only [List.mapM_cons, Except.bind_eq_ok_iff, h, ih, pure, Except.pure,
        Except.ok.injEq, List.forall_mem_cons, List.map_cons]
      constructor
      · rintro ⟨_, ⟨ha, rfl⟩, _, ⟨has, rfl⟩, rfl⟩
        exact ⟨⟨ha, has⟩, rfl⟩
      · rintro ⟨⟨ha, has⟩, rfl⟩
        exact ⟨_, ⟨ha, rfl⟩, _, ⟨has, rfl⟩, rfl⟩

section Spaced

/-- A rule with its hyphens made spaces. -/
def Rule.spaced : Rule → Rule
  | .simple .default => .simple .default
  | .simple (.irregular r) => .simple (.irregular
      { r with
        singular := Text.exchange '-' ' ' r.singular
        plurals := r.plurals.map (Text.exchange '-' ' ') })
  | .simple (.categorical r) => .simple (.categorical
      { singular := r.singular.spaced
        plurals := r.plurals.map Affix.spaced })
  | .compound r => .compound
      { r with
        written := r.pattern.spaced.pattern
        pattern := r.pattern.spaced
        singular := r.singular.spaced
        plurals := r.plurals.map Phrase.spaced }

/-- The singular and the plurals of a rule as they are written: the forms of an irregular rule, the
suffixes of a categorical one, and the templates of a compound one. -/
def Rule.texts : Rule → Option (Text × Plurals Text)
  | .simple .default => none
  | .simple (.irregular r) => some (r.singular, r.plurals)
  | .simple (.categorical r) => some (r.singular.suffix, r.plurals.map Affix.suffix)
  | .compound r => some (r.singular.template, r.plurals.map Phrase.template)

/-- A rule keeps its kind when its hyphens become spaces. -/
theorem Rule.kind_spaced (rule : Rule) : rule.spaced.kind = rule.kind := by
  rcases rule with (_ | r | r) | r <;> rfl

/-- Plurals are mapped alike by functions that agree on them. -/
theorem Plurals.map_congr {α β : Type} {f g : α → β} {plurals : Plurals α}
    (h : ∀ a ∈ plurals.toList, f a = g a) : plurals.map f = plurals.map g := by
  cases plurals <;> simp_all [Plurals.map, Plurals.toList]

/-- The written forms of a rule are spaced with the rule, if the slots of its phrases have
markers. -/
theorem Rule.texts_spaced {rule : Rule}
    (hmarked : ∀ r, rule = .compound r → ∀ phrase ∈ r.singular :: r.plurals.toList,
      ∀ s ∈ phrase.slots, s ∈ markedSlots) :
    rule.spaced.texts = rule.texts.map
      (Prod.map (Text.exchange '-' ' ') (Plurals.map (Text.exchange '-' ' '))) := by
  rcases rule with (_ | r | r) | r
  · rfl
  · rfl
  · show some (_, (r.plurals.map Affix.spaced).map Affix.suffix) =
      some (_, (r.plurals.map Affix.suffix).map (Text.exchange '-' ' '))
    rw [Plurals.map_map, Plurals.map_map]
    rfl
  · obtain ⟨hsingular, hplurals⟩ := List.forall_mem_cons.1 (hmarked r rfl)
    show some (r.singular.spaced.template, (r.plurals.map Phrase.spaced).map Phrase.template) =
      some (Text.exchange '-' ' ' r.singular.template,
        (r.plurals.map Phrase.template).map (Text.exchange '-' ' '))
    have hmap : r.plurals.map (Phrase.template ∘ Phrase.spaced) =
        r.plurals.map (Text.exchange '-' ' ' ∘ Phrase.template) :=
      Plurals.map_congr fun phrase hphrase => Phrase.template_spaced (hplurals phrase hphrase)
    rw [Plurals.map_map, Plurals.map_map, Phrase.template_spaced hsingular, hmap]

end Spaced

namespace RuleText

variable {patterns : PatternReader}

section Forms

variable {singular : Text} {modern classical : Option Text} {marker : Char}

/-- Forms that do not start with a hyphen are spaced everywhere. -/
theorem spaced_forms
    (h : ∀ form ∈ singular :: (modern.toList ++ classical.toList), form.head? ≠ some '-') :
    spaced singular = Text.exchange '-' ' ' singular ∧
      modern.map spaced = modern.map (Text.exchange '-' ' ') ∧
        classical.map spaced = classical.map (Text.exchange '-' ' ') := by
  rw [List.forall_mem_cons, List.forall_mem_append] at h
  obtain ⟨hs, hm, hc⟩ := h
  exact ⟨spaced_of_head? hs,
    Option.map_congr fun form hform => spaced_of_head? (hm form (Option.mem_toList.2 hform)),
    Option.map_congr fun form hform => spaced_of_head? (hc form (Option.mem_toList.2 hform))⟩

/-- A form that is there is not spaced to an empty one. -/
theorem map_spaced_ne {form : Option Text} (h : form ≠ some []) : form.map spaced ≠ some [] := by
  cases form with
  | none => nofun
  | some t => simpa [spaced_eq_nil_iff] using h

/-- The irregular rule of spaced forms is the spaced rule. -/
theorem irregular_spaced {r : IrregularRule} (hmodern : modern ≠ some [])
    (hclassical : classical ≠ some [])
    (hfront : ∀ form ∈ singular :: (modern.toList ++ classical.toList), form.head? ≠ some '-')
    (h : IrregularRule.make singular modern classical = .ok r) :
    ∃ r', IrregularRule.make (spaced singular) (modern.map spaced) (classical.map spaced) = .ok r' ∧
      Rule.simple (.irregular r') = (Rule.simple (.irregular r)).spaced := by
  obtain ⟨hsingular, plurals, hplurals, rfl⟩ :=
    (IrregularRule.make_eq_ok_iff hmodern hclassical).1 h
  obtain ⟨hs, hm, hc⟩ := spaced_forms hfront
  have hmake := (IrregularRule.make_eq_ok_iff (map_spaced_ne hmodern) (map_spaced_ne hclassical)).2
    ⟨mt spaced_eq_nil_iff.1 hsingular, plurals.map (Text.exchange '-' ' '), by
      rw [hm, hc, Plurals.of?_map, hplurals]
      rfl, rfl⟩
  refine ⟨_, hmake, ?_⟩
  rw [hs]
  rfl

/-- A literal affix is spaced with its form. -/
theorem affix_spaced {form : Text} {a : Affix} (h : affix patterns marker form = .ok a)
    (hliteral : Affix.isLiteral a.suffix = true) :
    affix patterns marker (spaced form) = .ok a.spaced := by
  rw [suffix_of_affix h] at hliteral
  obtain ⟨suffix, rfl⟩ := List.head?_eq_some_iff.1 (head?_of_affix h)
  have hsuffix : Affix.isLiteral suffix = true := hliteral
  rw [affix_cons, Affix.read_of_isLiteral hsuffix] at h
  cases h
  show affix patterns marker (marker :: Text.exchange '-' ' ' suffix) = _
  rw [affix_cons, Affix.read_of_isLiteral (isLiteral_exchange hsuffix)]
  rfl

/-- A literal affix that may be missing is spaced with its form. -/
theorem affix?_spaced {form : Option Text} {a : Option Affix}
    (h : affix? patterns marker form = .ok a)
    (hliteral : ∀ b ∈ a.toList, Affix.isLiteral b.suffix = true) :
    affix? patterns marker (form.map spaced) = .ok (a.map Affix.spaced) := by
  cases form with
  | none =>
      cases h
      rfl
  | some form =>
      obtain ⟨b, hb, rfl⟩ := Except.map_eq_ok_iff.1 h
      have hread := affix_spaced hb (hliteral b (Option.mem_toList.2 rfl))
      show (affix patterns marker (spaced form)).map some = _
      rw [hread]
      rfl

/-- The categorical rule of spaced forms is the spaced rule, if its affixes are literal. -/
theorem categorical_spaced {rule : Rule}
    (h : categorical patterns marker singular modern classical = .ok rule)
    (hliteral : ∀ a ∈ affixesOf rule, Affix.isLiteral a.suffix = true) :
    categorical patterns marker (spaced singular) (modern.map spaced) (classical.map spaced) =
      .ok rule.spaced := by
  obtain ⟨s, hs, m, hm, c, hc, r, hr, rfl⟩ := categorical_eq_ok_iff.1 h
  unfold CategoricalRule.make at hr
  split at hr
  · cases hr
  · next plurals hplurals =>
      cases hr
      have haffixes : affixesOf (.simple (.categorical ⟨s, plurals⟩)) =
          s :: (m.toList ++ c.toList) :=
        congrArg (s :: ·) (Plurals.toList_of_of? hplurals)
      rw [haffixes, List.forall_mem_cons, List.forall_mem_append] at hliteral
      obtain ⟨hls, hlm, hlc⟩ := hliteral
      refine categorical_eq_ok_iff.2 ⟨_, affix_spaced hs hls, _, affix?_spaced hm hlm, _,
        affix?_spaced hc hlc, ⟨s.spaced, plurals.map Affix.spaced⟩, ?_, rfl⟩
      rw [CategoricalRule.make, Plurals.of?_map, hplurals]
      rfl

/-- The compound rule with some phrases and one of them for its pattern. -/
def compoundAround (singular : Phrase) (plurals : Plurals Phrase) (pattern : Phrase) : Rule :=
  .compound ⟨pattern.pattern, pattern, singular, plurals, {}⟩

/-- Different patterns make different rules. -/
theorem compoundAround_injective (singular : Phrase) (plurals : Plurals Phrase) :
    Function.Injective (compoundAround singular plurals) :=
  fun _ _ h => congrArg CompoundRule.pattern (Rule.compound.inj h)

/-- The compound rules of a line are those around its phrases, if each of them is a pattern. -/
theorem compounds_eq_ok_iff {rules : List Rule} {plurals : Plurals Phrase}
    (hmodern : modern ≠ some []) (hclassical : classical ≠ some [])
    (hplurals : Plurals.of? (modern.map Phrase.ofForm) (classical.map Phrase.ofForm) =
      some plurals) :
    compounds singular modern classical = .ok rules ↔
      (∀ form ∈ singular :: (modern.toList ++ classical.toList),
        (Phrase.ofForm form).IsPattern) ∧
      rules = ((singular :: (modern.toList ++ classical.toList)).map Phrase.ofForm).eraseDups.map
        (compoundAround (Phrase.ofForm singular) plurals) := by
  have hcompound (pattern : Phrase) (rule : Rule) :
      compound singular modern classical pattern = .ok rule ↔
        pattern.IsPattern ∧ rule = compoundAround (Phrase.ofForm singular) plurals pattern := by
    rw [compound_eq_ok_iff hmodern hclassical, hplurals]
    simp [compoundAround]
  rw [compounds_eq, mapM_eq_ok_iff hcompound]
  simp only [List.mem_eraseDups, List.forall_mem_map]

/-- The compound rules of spaced forms are the spaced rules, each one once. -/
theorem compounds_spaced {rules : List Rule} (hmodern : modern ≠ some [])
    (hclassical : classical ≠ some []) (hplural : ¬ (modern = none ∧ classical = none))
    (hfront : ∀ form ∈ singular :: (modern.toList ++ classical.toList), form.head? ≠ some '-')
    (h : compounds singular modern classical = .ok rules) :
    compounds (spaced singular) (modern.map spaced) (classical.map spaced) =
      .ok (rules.map Rule.spaced).eraseDups := by
  obtain ⟨plurals, hplurals⟩ : ∃ plurals,
      Plurals.of? (modern.map Phrase.ofForm) (classical.map Phrase.ofForm) = some plurals := by
    rwa [Plurals.exists_of?_iff, Option.map_eq_none_iff, Option.map_eq_none_iff]
  obtain ⟨hpatterns, rfl⟩ := (compounds_eq_ok_iff hmodern hclassical hplurals).1 h
  obtain ⟨hs, hm, hc⟩ := spaced_forms hfront
  have hspace : Phrase.ofForm ∘ Text.exchange '-' ' ' = Phrase.spaced ∘ Phrase.ofForm :=
    funext Phrase.ofForm_exchange
  have hoption (form : Option Text) : (form.map (Text.exchange '-' ' ')).map Phrase.ofForm =
      (form.map Phrase.ofForm).map Phrase.spaced := by
    rw [Option.map_map, hspace, Option.map_map]
  have hplurals' : Plurals.of? ((modern.map spaced).map Phrase.ofForm)
      ((classical.map spaced).map Phrase.ofForm) = some (plurals.map Phrase.spaced) := by
    rw [hm, hc, hoption, hoption, Plurals.of?_map, hplurals]
    rfl
  have hforms : spaced singular :: ((modern.map spaced).toList ++ (classical.map spaced).toList) =
      (singular :: (modern.toList ++ classical.toList)).map (Text.exchange '-' ' ') := by
    rw [hs, hm, hc, Option.toList_map, Option.toList_map, List.map_cons, List.map_append]
  have hphrases (forms : List Text) : (forms.map (Text.exchange '-' ' ')).map Phrase.ofForm =
      (forms.map Phrase.ofForm).map Phrase.spaced := by
    rw [List.map_map, hspace, List.map_map]
  have hspaced : Rule.spaced ∘ compoundAround (Phrase.ofForm singular) plurals =
      compoundAround (Phrase.ofForm (spaced singular)) (plurals.map Phrase.spaced) ∘
        Phrase.spaced := by
    rw [hs, Phrase.ofForm_exchange]
    rfl
  refine (compounds_eq_ok_iff (map_spaced_ne hmodern) (map_spaced_ne hclassical) hplurals').2
    ⟨?_, ?_⟩
  · rw [hforms, List.forall_mem_map]
    intro form hform
    rw [Phrase.ofForm_exchange]
    exact (hpatterns form hform).spaced
  · -- equal phrases may be left out before or after they are spaced
    rw [List.map_map, eraseDups_map_eraseDups, hspaced, ← List.map_map, hforms, hphrases,
      eraseDups_map_of_injective (compoundAround_injective _ _)]

/-- The rules of spaced forms are the spaced rules, each one once, if affixes are literal and no
other form starts with a hyphen. -/
theorem rulesOfForms_spaced {rules : List Rule} (hmodern : modern ≠ some [])
    (hclassical : classical ≠ some []) (hplural : ¬ (modern = none ∧ classical = none))
    (h : rulesOfForms patterns singular modern classical = .ok rules)
    (hliteral : ∀ rule ∈ rules, ∀ a ∈ affixesOf rule, Affix.isLiteral a.suffix = true)
    (hfront : ∀ rule ∈ rules, rule.kind ≠ "categorical" →
      ∀ form ∈ singular :: (modern.toList ++ classical.toList), form.head? ≠ some '-') :
    rulesOfForms patterns (spaced singular) (modern.map spaced) (classical.map spaced) =
      .ok (rules.map Rule.spaced).eraseDups := by
  rw [rulesOfForms_eq] at h ⊢
  rw [hasSingularHead_congr (solids_spaced singular), head?_spaced]
  split at h
  · next hhead =>
      rw [if_pos hhead]
      obtain ⟨rule, hrule⟩ : ∃ rule, rule ∈ rules := by
        rw [compounds_eq] at h
        obtain ⟨rule, hrule, -⟩ := (mem_of_mapM_eq_ok h).2 (Phrase.ofForm singular) (by simp)
        exact ⟨rule, hrule⟩
      have hkind : rule.kind ≠ "categorical" := by
        rcases rule with r | r
        · exact absurd hrule (simple_notMem_compounds hmodern hclassical h r)
        · show ("compound" : Text) ≠ "categorical"
          decide
      exact compounds_spaced hmodern hclassical hplural (hfront rule hrule hkind) h
  · next hhead =>
      rw [if_neg hhead]
      split at h
      · next marker hmarker =>
          obtain ⟨rule, hrule, rfl⟩ := Except.map_eq_ok_iff.1 h
          rw [categorical_spaced hrule (hliteral rule List.mem_cons_self)]
          simp [List.eraseDups_cons]
      · next hmarker =>
          obtain ⟨r, hr, rfl⟩ := Except.map_eq_ok_iff.1 h
          rw [Except.mapError_eq_ok_iff] at hr
          have hkind : (Rule.simple (.irregular r)).kind ≠ "categorical" := by
            show ("irregular" : Text) ≠ "categorical"
            decide
          obtain ⟨r', hr', heq⟩ := irregular_spaced hmodern hclassical
            (hfront _ List.mem_cons_self hkind) hr
          rw [hr', List.map_singleton, ← heq]
          simp [List.eraseDups_cons]

end Forms

section Line

variable {line variant : Text} {rules : List Rule}

/-- Where a line has its hyphens: it has at most one bar, its affixes stand for themselves, no form
ends in a hyphen, and only affixes start with one. -/
structure HyphensInside (patterns : PatternReader) (line : Text) : Prop where
  one_bar : ((cutArrow line).2.getD []).count '|' ≤ 1
  literal : HasLiteralAffixes patterns line
  not_behind : ∀ form ∈ formList line, form.getLast? ≠ some '-'
  not_in_front : ∀ rules, rulesOf patterns line = .ok rules → ∀ rule ∈ rules,
    rule.kind ≠ "categorical" → ∀ form ∈ formList line, form.head? ≠ some '-'

instance (line : Text) : Decidable (HyphensInside patterns line) :=
  decidable_of_iff
    (((cutArrow line).2.getD []).count '|' ≤ 1 ∧ HasLiteralAffixes patterns line ∧
      (∀ form ∈ formList line, form.getLast? ≠ some '-') ∧
        ∀ rules ∈ (rulesOf patterns line).toOption, ∀ rule ∈ rules, rule.kind ≠ "categorical" →
          ∀ form ∈ formList line, form.head? ≠ some '-')
    ⟨fun ⟨hbar, hliteral, hbehind, hfront⟩ => ⟨hbar, hliteral, hbehind,
        fun rules h => hfront rules (Except.toOption_eq_some_iff.2 h)⟩,
      fun h => ⟨h.one_bar, h.literal, h.not_behind,
        fun rules hrules => h.not_in_front rules (Except.toOption_eq_some_iff.1 hrules)⟩⟩

/-- An accepted line gives its own rules, and behind them those of its spaced variant, if any. -/
theorem exists_read_eq (hne : content line ≠ []) (haccepted : isMalformed patterns line = false) :
    ∃ rules more, rulesOf patterns (content line) = .ok rules ∧
      read true [line] patterns = ⟨rules ++ more, none⟩ ∧
      (spacedVariant? (content line) = none ∧ more = [] ∨
        ∃ variant, spacedVariant? (content line) = some variant ∧
          rulesOf patterns variant = .ok more) := by
  have hread : read true [line] patterns = ⟨(readLine patterns line).1, none⟩ := by
    rw [read, readFrom_of_no_malformed (List.forall_mem_singleton.2 haccepted)]
    simp [rulesOfLines]
  rw [isMalformed_eq] at haccepted
  generalize readLine patterns line = result, readsLine patterns line = hresult at hread haccepted
  cases hresult with
  | blank hblank => exact absurd hblank hne
  | rejected hfault => cases haccepted
  | @plain rules hrules hvariant =>
      exact ⟨rules, [], hrules, by rw [hread, List.append_nil], .inl ⟨hvariant, rfl⟩⟩
  | variantRejected hrules hvariant hfault => cases haccepted
  | spaced hrules hvariant hmore => exact ⟨_, _, hrules, hread, .inr ⟨_, hvariant, hmore⟩⟩

/-- The rules of the spaced variant are the spaced rules of the line, each one once. -/
theorem rulesOf_spacedVariant (hline : HyphensInside patterns line)
    (hrules : rulesOf patterns line = .ok rules) (h : spacedVariant? line = some variant) :
    rulesOf patterns variant = .ok (rules.map Rule.spaced).eraseDups := by
  obtain ⟨⟨singular, plural, hcut, hone⟩, hsingular, hplural, hforms⟩ := rulesOf_eq_ok_iff.1 hrules
  obtain ⟨hvariant, hvone⟩ := cutArrow_spacedVariant hcut hone h
  obtain ⟨hmodern, hclassical⟩ := formsOf_ne line
  have hbar := hline.one_bar
  rw [hcut] at hbar
  have hspaced := formsOf_variant hcut hvariant hbar hline.not_behind
  rw [rulesOf_eq_ok_iff, hspaced]
  refine ⟨⟨_, _, hvariant, hvone⟩, mt spaced_eq_nil_iff.1 hsingular, ?_, ?_⟩
  · rwa [Option.map_eq_none_iff, Option.map_eq_none_iff]
  · exact rulesOfForms_spaced hmodern hclassical hplural hforms (hline.literal rules hrules)
      (hline.not_in_front rules hrules)

/-- The written forms of the rules of a line are spaced with the rules. -/
theorem texts_spaced_of_rulesOf (hrules : rulesOf patterns line = .ok rules) {rule : Rule}
    (hrule : rule ∈ rules) :
    rule.spaced.texts = rule.texts.map
      (Prod.map (Text.exchange '-' ' ') (Plurals.map (Text.exchange '-' ' '))) := by
  refine Rule.texts_spaced ?_
  rintro r rfl phrase hphrase s hs
  rw [(rulesOf_shareForms hrules).phrases_eq r hrule] at hphrase
  obtain ⟨form, -, rfl⟩ := List.mem_map.1 hphrase
  exact Phrase.mem_markedSlots hs

/-- A strict reading of an accepted line gives the rules of the line. If a form has a hyphen behind
its first character, the spaced rules stand behind them, each one once: a spaced rule has the kind
of the rule, and its written forms are those of the rule with spaces for hyphens. -/
theorem read_spaced_rules (hne : content line ≠ []) (haccepted : isMalformed patterns line = false)
    (hline : HyphensInside patterns (content line)) :
    ∃ rules, rulesOf patterns (content line) = .ok rules ∧
      ((∀ form ∈ formList (content line), '-' ∉ form.tail) →
        read true [line] patterns = ⟨rules, none⟩) ∧
      ((∃ form ∈ formList (content line), '-' ∈ form.tail) →
        read true [line] patterns = ⟨rules ++ (rules.map Rule.spaced).eraseDups, none⟩) ∧
      ∀ rule ∈ rules, rule.spaced.kind = rule.kind ∧
        rule.spaced.texts = rule.texts.map
          (Prod.map (Text.exchange '-' ' ') (Plurals.map (Text.exchange '-' ' '))) := by
  obtain ⟨rules, more, hrules, hread, hvariant⟩ := exists_read_eq hne haccepted
  obtain ⟨⟨singular, plural, hcut, -⟩, -⟩ := rulesOf_eq_ok_iff.1 hrules
  have hbar := hline.one_bar
  rw [hcut] at hbar
  have hnone := spacedVariant?_eq_none_iff hcut hbar
  refine ⟨rules, hrules, ?_, ?_, fun rule hrule =>
    ⟨rule.kind_spaced, texts_spaced_of_rulesOf hrules hrule⟩⟩
  · intro hno
    rcases hvariant with ⟨-, rfl⟩ | ⟨variant, hsome, -⟩
    · rw [hread, List.append_nil]
    · cases hsome.symm.trans (hnone.2 hno)
  · rintro ⟨form, hform, hhyphen⟩
    rcases hvariant with ⟨hvariant, -⟩ | ⟨variant, hsome, hmore⟩
    · exact absurd hhyphen (hnone.1 hvariant form hform)
    · cases (rulesOf_spacedVariant hline hrules hsome).symm.trans hmore
      exact hread

/-- The plurals of this line are spaced alike, so its spaced variant has one rule less. -/
theorem read_spaced_rules_cup :
    ∃ rules,
      rulesOf Pattern.read (content "(SING)-cup => (PL)-cup|(PL) cup # cups") = .ok rules ∧
      read true ["(SING)-cup => (PL)-cup|(PL) cup # cups"] =
        ⟨rules ++ (rules.map Rule.spaced).eraseDups, none⟩ ∧
      rules.length = 2 ∧ (rules.map Rule.spaced).eraseDups.length = 1 := by
  obtain ⟨rules, hrules, -, hhyphen, -⟩ :=
    @read_spaced_rules Pattern.read "(SING)-cup => (PL)-cup|(PL) cup # cups" (by decide +kernel)
      (by decide +kernel) (by decide +kernel)
  have hlengths : ∀ rules ∈
      (rulesOf Pattern.read (content "(SING)-cup => (PL)-cup|(PL) cup # cups")).toOption,
      rules.length = 2 ∧ (rules.map Rule.spaced).eraseDups.length = 1 := by
    decide +kernel
  exact ⟨rules, hrules, hhyphen (by decide +kernel),
    hlengths rules (Except.toOption_eq_some_iff.2 hrules)⟩

end Line

end RuleText

end Agreement
