import Agreement.Proofs.Noun.CompoundLine
import Agreement.Proofs.Noun.Families
import Agreement.Proofs.Noun.Loaders
import Agreement.Proofs.Noun.Refusal
import Agreement.Proofs.Noun.Steady

/-!
# The preferred plural of a singular

For a singular, the simple rules of a text derive the preferred plural as they derive the modern one
(`SimpleRule.plural_eq_modernPlural`). A compound rule asks for both plurals of its head. Where it
lacks the modern phrase, the preferred plural puts the preferred plural of the head into the
classical phrase, and the modern plural puts the classical plural of the head there. So the two
differ exactly if those of the head do: `Lexicon.plural_eq_modernPlural_iff`.
-/

namespace Agreement

namespace Phrase

variable {words : Filling} {p : Phrase} {a b t : Text}

/-- A phrase without a slot for the head is filled alike with every head. -/
theorem fill_of_head_notMem (h : .head ∉ p.slots) (a : Text) :
    p.fill ((.head, a) :: words) = p.fill words := by
  induction p with
  | nil => rfl
  | cons piece p ih =>
      cases piece with
      | char c => rw [fill, fill, ih h]
      | slot s =>
          rw [slots, List.mem_cons, not_or] at h
          have hlookup : List.lookup s ((.head, a) :: words) = words.lookup s := by
            rw [List.lookup_cons, beq_eq_false_iff_ne.2 (Ne.symm h.1)]
          rw [fill, fill, hlookup, ih h.2]

/-- A pattern that is filled alike with two heads has the same head in both. -/
theorem IsPattern.head_eq (h : p.IsPattern) (ha : p.fill ((.head, a) :: words) = .ok t)
    (hb : p.fill ((.head, b) :: words) = .ok t) : a = b := by
  obtain ⟨hnodup, hhead⟩ := h
  induction p generalizing t with
  | nil => cases hhead
  | cons piece p ih =>
      cases piece with
      | char c =>
          obtain ⟨u, hu, rfl⟩ := Except.map_eq_ok_iff.1 ha
          obtain ⟨v, hv, heq⟩ := Except.map_eq_ok_iff.1 hb
          cases heq
          exact ih hu hv hnodup hhead
      | slot s =>
          rw [slots, List.nodup_cons] at hnodup
          by_cases hs : s = .head
          · -- the rest is the same text on both sides
            subst hs
            rw [fill, List.lookup_cons_self] at ha hb
            obtain ⟨u, hu, rfl⟩ := Except.map_eq_ok_iff.1 ha
            obtain ⟨v, hv, heq⟩ := Except.map_eq_ok_iff.1 hb
            rw [fill_of_head_notMem hnodup.1] at hu hv
            cases hu.symm.trans hv
            exact (List.append_cancel_right heq).symm
          · have hlookup (a : Text) : List.lookup s ((.head, a) :: words) = words.lookup s := by
              rw [List.lookup_cons, beq_eq_false_iff_ne.2 hs]
            rw [fill, hlookup] at ha hb
            cases hword : words.lookup s with
            | none =>
                rw [hword] at ha
                cases ha
            | some word =>
                rw [hword] at ha hb
                obtain ⟨u, hu, rfl⟩ := Except.map_eq_ok_iff.1 ha
                obtain ⟨v, hv, heq⟩ := Except.map_eq_ok_iff.1 hb
                cases List.append_cancel_left heq
                exact ih hu hv hnodup.2 ((List.mem_cons.1 hhead).resolve_left (Ne.symm hs))

end Phrase

/-- A simple rule is not an irregular one that prefers its classical plural. -/
def SimpleRule.PrefersModern (r : SimpleRule) : Prop :=
  ∀ i, r = .irregular i → i.preferClassical = false

/-- A rule such as lines give: its preferred plurals are modern, or its plural phrases patterns and
its head one of the lexicon that is asked. -/
def Rule.OfLine : Rule → Prop
  | .simple r => r.PrefersModern
  | .compound r => r.background = {} ∧ ∀ phrase ∈ r.plurals.toList, phrase.IsPattern

/-- The modern plural of a singular is derived from it. -/
theorem Inflection.modernPlural_of_singular {i : Inflection} {w : Text}
    (h : i.isSingular w = .ok true) : i.modernPlural w = i.pluralizeModern w :=
  modernPlural_of_asSingular (asSingular_of_singular h)

/-- Where the modern plural is missing, the classical one comes first. -/
theorem Plurals.classicalFirst_eq_of_modern? {α : Type} {plurals : Plurals α}
    (h : plurals.modern? = none) : plurals.classicalFirst = plurals.modernFirst := by
  cases plurals with
  | modern m => cases h
  | classical c => rfl
  | both m c => cases h

/-- For a singular, a categorical rule derives the preferred plural as the modern one. -/
theorem CategoricalRule.pluralize_eq_of_singular {r : CategoricalRule} {w : Text}
    (hb : r.isSingular w = .ok true) : r.pluralize w = r.pluralizeWith r.plurals.modernFirst w := by
  have hhas : r.singular.has w = true := by
    by_contra hhas
    rw [isSingular, if_neg hhas] at hb
    split at hb <;> cases hb
  rw [pluralize, if_pos hhas, pluralizeWith, hb]
  rfl

/-- The preferred plural that a simple rule gives for a singular is the modern one. -/
theorem SimpleRule.plural_eq_modernPlural {r : SimpleRule} (hr : r.PrefersModern) {w : Text}
    (hb : r.inflection.isSingular w = .ok true) :
    r.inflection.plural w = r.inflection.modernPlural w := by
  rw [Inflection.plural_of_singular hb, Inflection.modernPlural_of_singular hb]
  cases r with
  | default => rfl
  | categorical r => exact CategoricalRule.pluralize_eq_of_singular hb
  | irregular r =>
      have hmatch : r.matches? w = true := by
        by_contra hmatch
        have hrefused := (IrregularRule.refuses (Bool.eq_false_iff.2 hmatch)).isSingular
        cases hb.symm.trans hrefused
      have hpreferred : r.preferred = r.plurals.modernFirst := by
        rw [IrregularRule.preferred, hr r rfl]
        rfl
      exact (if_pos hmatch).trans (congrArg Except.ok hpreferred)

namespace CompoundRule

variable {prepositions : Prepositions} {resolve : Text → SimpleRule} {r : CompoundRule}
  {w : Text} {words : Filling} {p m : Text}

/-- A compound is singular if its head is. -/
theorem isSingular_of_match? (h : r.match? prepositions w = some words) :
    (r.inflection prepositions resolve).isSingular w =
      (r.headRule resolve (headOf words)).inflection.isSingular (headOf words) := by
  show (r.parts prepositions w >>= _) = _
  rw [parts, h]
  rfl

/-- The preferred plural of a compound is its modern plural, unless the modern phrase is missing and
the classical plural of the head is another one than its preferred plural. -/
theorem plural_eq_iff (hr : (Rule.compound r).OfLine)
    (hmatch : r.match? prepositions w = some words)
    (hresolve : (resolve (headOf words)).PrefersModern)
    (hb : (r.inflection prepositions resolve).isSingular w = .ok true)
    (hp : (r.inflection prepositions resolve).plural w = .ok p)
    (hm : (r.inflection prepositions resolve).modernPlural w = .ok m) :
    let head := (resolve (headOf words)).inflection
    p = m ↔ ¬ (r.plurals.modern? = none ∧
      head.plural (headOf words) ≠ head.classicalPlural (headOf words)) := by
  intro head
  have hheadRule : r.headRule resolve (headOf words) = resolve (headOf words) :=
    congrFun (headRule_eq hr.1 resolve) _
  have hhead : head.isSingular (headOf words) = .ok true :=
    (congrArg (Inflection.isSingular ·.inflection (headOf words)) hheadRule).symm.trans
      ((isSingular_of_match? hmatch).symm.trans hb)
  rw [Inflection.plural_of_singular hb] at hp
  rw [Inflection.modernPlural_of_singular hb] at hm
  have hplural : r.inflect prepositions resolve r.plurals.modernFirst .plural w = .ok p := hp
  rw [inflect_of_match? hmatch, hheadRule] at hplural
  unfold inflection at hm
  dsimp only at hm
  cases hmodern : r.plurals.modern? with
  | some phrase =>
      -- the same phrase is filled with the same plural of the head
      rw [hmodern] at hm
      have hphrase : phrase = r.plurals.modernFirst :=
        Plurals.eq_modernFirst (by rw [hmodern, Option.some_or])
      have hmodernPlural : r.inflect prepositions resolve phrase .modernPlural w = .ok m := hm
      rw [inflect_of_match? hmatch, hheadRule, hphrase] at hmodernPlural
      have hequal : head.form .plural (headOf words) = head.form .modernPlural (headOf words) :=
        SimpleRule.plural_eq_modernPlural hresolve hhead
      rw [← hequal] at hmodernPlural
      exact iff_of_true (Except.ok.inj (hplural.symm.trans hmodernPlural)) nofun
  | none =>
      rw [hmodern] at hm
      have hphrase : r.plurals.classicalFirst = r.plurals.modernFirst :=
        Plurals.classicalFirst_eq_of_modern? hmodern
      have hclassical :
          r.inflect prepositions resolve r.plurals.classicalFirst .classicalPlural w = .ok m := hm
      rw [inflect_of_match? hmatch, hheadRule, hphrase] at hclassical
      obtain ⟨a, ha, hfilla⟩ := Except.bind_eq_ok_iff.1 hplural
      obtain ⟨b, hb, hfillb⟩ := Except.bind_eq_ok_iff.1 hclassical
      have heads : p = m ↔ a = b := by
        constructor
        · rintro rfl
          exact (hr.2 _ (Plurals.modernFirst_mem _)).head_eq hfilla hfillb
        · rintro rfl
          exact Except.ok.inj (hfilla.symm.trans hfillb)
      have hplurals : head.plural (headOf words) = head.classicalPlural (headOf words) ↔ a = b := by
        rw [show head.plural (headOf words) = .ok a from ha,
          show head.classicalPlural (headOf words) = .ok b from hb, Except.ok.injEq]
      rw [heads, ← hplurals]
      simp

end CompoundRule

/-- Every rule of a text is such as lines give. -/
theorem RuleText.ofLine_of_mem_read {patterns : PatternReader} {strict : Bool}
    {lines : List Text} {rule : Rule} (h : rule ∈ (read strict lines patterns).rules) :
    rule.OfLine := by
  obtain ⟨line, -, hline⟩ := exists_readLine_of_mem_read h
  obtain ⟨-, spelling, rules, -, -, hrules, hr⟩ := exists_rulesOf_of_mem_readLine hline
  cases rule with
  | compound r =>
      have hshare := rulesOf_shareForms hrules
      exact ⟨hshare.background_eq r hr, fun phrase hphrase =>
        hshare.isPattern_of_mem hr (List.mem_cons_of_mem _ hphrase)⟩
  | simple r =>
      rcases rulesOf_cases hrules with ⟨-, hcompounds⟩ | ⟨-, r', rfl, hkind⟩
      · obtain ⟨hmodern, hclassical⟩ := formsOf_ne spelling
        exact absurd hr (simple_notMem_compounds hmodern hclassical hcompounds r)
      · cases List.mem_singleton.1 hr
        intro i hi
        rcases hkind with ⟨c, hc⟩ | ⟨i', hi', hmodern⟩
        · cases hi.symm.trans hc
        · cases hi.symm.trans hi'
          exact hmodern

/-- A lexicon that nothing but texts were read into, into either tier and in any order, with any
readers of the suffixes. -/
inductive Lexicon.OfTexts : Lexicon → Prop
  | empty (prepositions : Prepositions) : OfTexts { prepositions }
  | populate {lexicon : Lexicon} (h : lexicon.OfTexts) (strict : Bool) (lines : List Text)
      (patterns : PatternReader) : OfTexts (lexicon.populate strict lines patterns).1
  | loadUser {lexicon : Lexicon} (h : lexicon.OfTexts) (strict : Bool) (t : Text)
      (patterns : PatternReader) : OfTexts (lexicon.loadUser strict t patterns).1

namespace Lexicon

variable {lexicon : Lexicon} {w : Text}

/-- Both tiers of a lexicon of texts hold rules such as lines give. -/
theorem OfTexts.holds (h : lexicon.OfTexts) :
    lexicon.user.Holds Rule.OfLine ∧ lexicon.predefined.Holds Rule.OfLine := by
  induction h with
  | empty prepositions => exact ⟨Tier.holds_empty, Tier.holds_empty⟩
  | populate h strict lines patterns ih =>
      rw [populate_eq]
      exact ⟨ih.1, ih.2.addAll fun rule => RuleText.ofLine_of_mem_read⟩
  | loadUser h strict t patterns ih =>
      rw [loadUser_eq]
      exact ⟨ih.1.addAll fun rule => RuleText.ofLine_of_mem_read, ih.2⟩

/-- A lexicon of texts finds rules such as lines give, and the default rule. -/
theorem OfTexts.ofLine (h : lexicon.OfTexts) (w : Text) (compounds : Bool) :
    (lexicon.lookup w compounds).rule.OfLine := by
  obtain ⟨huser, hpredefined⟩ := h.holds
  rw [lookup_eq]
  dsimp only
  cases hfind : (lexicon.user.find? lexicon.prepositions compounds w).or
      (lexicon.predefined.find? lexicon.prepositions compounds w) with
  | none => exact nofun
  | some rule =>
      rcases Option.or_eq_some_iff.1 hfind with hfind | ⟨-, hfind⟩
      · exact huser.find? hfind
      · exact hpredefined.find? hfind

/-- A word has a compound rule without a modern phrase, and the preferred plural of its head is not
the classical one. -/
def MixesPlurals (lexicon : Lexicon) (w : Text) : Prop :=
  ∃ r words, lexicon.rule w = .compound r ∧ r.plurals.modern? = none ∧
    r.match? lexicon.prepositions w = some words ∧
      let head := lexicon.head (CompoundRule.headOf words)
      (lexicon.inflection head.rule).plural head.word ≠
        (lexicon.inflection head.rule).classicalPlural head.word

/-- In a lexicon of texts, the preferred plural of a singular is its modern plural, unless a
compound rule without a modern phrase mixes the plurals of its head. -/
theorem plural_eq_modernPlural_iff (h : lexicon.OfTexts) (hb : lexicon.isSingular w = .ok true)
    {p m : Text} (hp : lexicon.inflect .plural w = .ok p)
    (hm : lexicon.inflect .modernPlural w = .ok m) : p = m ↔ ¬ lexicon.MixesPlurals w := by
  have hofLine : (lexicon.rule w).OfLine := h.ofLine w true
  cases hrule : lexicon.rule w with
  | simple r =>
      rw [isSingular_of_rule hrule] at hb
      rw [inflect_of_rule hrule] at hp hm
      rw [hrule] at hofLine
      have hequal : r.inflection.plural w = r.inflection.modernPlural w :=
        SimpleRule.plural_eq_modernPlural hofLine hb
      have hmp : r.inflection.modernPlural w = .ok p := hequal.symm.trans hp
      refine iff_of_true (Except.ok.inj (hmp.symm.trans hm)) ?_
      rintro ⟨r', words, hr', -⟩
      cases hrule.symm.trans hr'
  | compound r =>
      rw [isSingular_of_rule hrule] at hb
      rw [inflect_of_rule hrule] at hp hm
      rw [hrule] at hofLine
      cases hmatch : r.match? lexicon.prepositions w with
      | none =>
          have hrefused : (r.inflection lexicon.prepositions lexicon.simpleRule).isSingular w =
              .error (.foreign w r.describe) := (CompoundRule.refuses hmatch).isSingular
          cases hb.symm.trans hrefused
      | some words =>
          have hresolve : (lexicon.simpleRule (CompoundRule.headOf words)).PrefersModern :=
            h.ofLine _ false
          refine (CompoundRule.plural_eq_iff hofLine hmatch hresolve hb hp hm).trans
            (not_congr ⟨fun ⟨hmodern, hne⟩ => ⟨r, words, hrule, hmodern, hmatch, hne⟩, ?_⟩)
          rintro ⟨r', words', hr', hmodern, hmatch', hne⟩
          cases hrule.symm.trans hr'
          cases hmatch.symm.trans hmatch'
          exact ⟨hmodern, hne⟩

/-- A head with two plurals, and a compound with a classical phrase alone. -/
def cupLines : List Text :=
  ["formula => formulas|formulae", "(SING) cup => |(PL) cup"]

/-- The lexicon of these lines. -/
def cups : Lexicon :=
  (({} : Lexicon).populate true cupLines).1

/-- The head of "cat cup" has one plural, and so has the compound. -/
theorem plural_cat_cup :
    cups.OfTexts ∧ cups.isSingular "cat cup" = .ok true ∧
      cups.inflect .plural "cat cup" = .ok "cats cup" ∧
        cups.inflect .modernPlural "cat cup" = .ok "cats cup" ∧ ¬ cups.MixesPlurals "cat cup" := by
  have htexts : cups.OfTexts := (OfTexts.empty {}).populate true cupLines Pattern.read
  have hb : cups.isSingular "cat cup" = .ok true := by decide +kernel
  have hp : cups.inflect .plural "cat cup" = .ok "cats cup" := by decide +kernel
  have hm : cups.inflect .modernPlural "cat cup" = .ok "cats cup" := by decide +kernel
  exact ⟨htexts, hb, hp, hm, (plural_eq_modernPlural_iff htexts hb hp hm).1 rfl⟩

/-- The preferred plural of "formula cup" has the preferred plural of the head, and its modern
plural the classical one. -/
theorem plural_formula_cup :
    (({} : Lexicon).populate true cupLines).2 = none ∧
      cups.isSingular "formula cup" = .ok true ∧
        cups.inflect .plural "formula cup" = .ok "formulas cup" ∧
          cups.inflect .modernPlural "formula cup" = .ok "formulae cup" := by
  decide +kernel

end Lexicon

end Agreement
