import Agreement.Proofs.Noun.HeadFirst
import Agreement.Proofs.Noun.Registration

/-!
# Rules that accept the forms they derive

A rule derives the modern and the classical plural from a singular that it may have derived itself,
so it answers only if it accepts its own singulars. Steady rules do (`Rule.Steady`), and a lexicon
of steady rules answers every question about a word (`Lexicon.Steady.answers`), unless it is a
compound and nothing is left of its head in the singular (`Lexicon.HeadVanishes`). Then the modern
and the classical plural are refused, and all else is still answered (`Lexicon.Steady.form_cases`).
-/

namespace Agreement

/-- A rule that accepts its singulars, which are words: an irregular rule, a categorical rule whose
affixes are a family, or a compound rule with the head in front. -/
inductive Rule.Steady : Rule → Prop
  | irregular {r : IrregularRule} : r.singular.OneWord → Steady (.simple (.irregular r))
  | categorical {r : CategoricalRule} :
    r.IsFamily → r.singular.suffix.OneWord → Steady (.simple (.categorical r))
  | compound {r : CompoundRule} {c : Char} {p : Phrase} : r.HeadFirst c p → Steady (.compound r)

namespace Rule.Steady

variable {r : SimpleRule} {w : Text}

/-- A steady simple rule answers for every word that it matches. -/
theorem answers (hr : (Rule.simple r).Steady) (h : r.inflection.matches? w = true) :
    r.inflection.Answers w := by
  cases hr with
  | irregular hsingular => exact IrregularRule.answers h
  | categorical hfamily hsuffix => exact hfamily.answers h

/-- A steady simple rule makes every word that it matches a singular word. -/
theorem exists_asSingular (hr : (Rule.simple r).Steady) (h : r.inflection.matches? w = true)
    (hw : w.OneWord) : ∃ v, r.inflection.asSingular w = .ok v ∧ v.OneWord := by
  cases hr with
  | irregular hsingular => exact IrregularRule.exists_asSingular h hsingular hw
  | categorical hfamily hsuffix => exact hfamily.exists_asSingular h hsuffix hw

end Rule.Steady

/-- A simple rule is found for single words only. -/
def SimpleRule.ForWords (r : SimpleRule) : Prop :=
  ∀ w, r.FoundFor w → w.OneWord

/-- An irregular rule is found for single words only if its forms are. -/
theorem IrregularRule.forWords {r : IrregularRule} (h : ∀ form ∈ r.forms, form.OneWord) :
    (SimpleRule.irregular r).ForWords :=
  fun w hw => h w hw

/-- A family of affixes is found for single words only if the affixes are words. -/
theorem CategoricalRule.IsFamily.forWords {r : CategoricalRule} (hr : r.IsFamily)
    (h : ∀ a ∈ r.affixes, a.suffix.OneWord) : (SimpleRule.categorical r).ForWords :=
  fun _ hw => hr.oneWord_of_matches hw h

namespace Lexicon

/-- Whether a word is singular. -/
def isSingular (lexicon : Lexicon) (w : Text) : Except NounError Bool :=
  (lexicon.inflection (lexicon.lookup w).rule).isSingular w

/-- Whether a word is plural. -/
def isPlural (lexicon : Lexicon) (w : Text) : Except NounError Bool :=
  (lexicon.inflection (lexicon.lookup w).rule).isPlural w

section Lookup

variable {lexicon : Lexicon} {w : Text} {rule : Rule}

/-- A lookup finds the rule of a word. -/
theorem lookup_rule (lexicon : Lexicon) (w : Text) : (lexicon.lookup w).rule = lexicon.rule w :=
  rfl

/-- Whether a word is singular is asked of its rule. -/
theorem isSingular_of_rule (h : lexicon.rule w = rule) :
    lexicon.isSingular w = (lexicon.inflection rule).isSingular w := by
  rw [← h]
  rfl

/-- Whether a word is plural is asked of its rule. -/
theorem isPlural_of_rule (h : lexicon.rule w = rule) :
    lexicon.isPlural w = (lexicon.inflection rule).isPlural w := by
  rw [← h]
  rfl

/-- A form of a word is asked of its rule. -/
theorem inflect_of_rule (h : lexicon.rule w = rule) (form : NounForm) :
    lexicon.inflect form w = (lexicon.inflection rule).form form w := by
  rw [← h]
  rfl

end Lookup

/-- The rule of each word is a steady one that matches it, or the default rule, with and without
compound rules. -/
structure Steady (lexicon : Lexicon) : Prop where
  rule : ∀ w, lexicon.rule w = .simple .default ∨
    (lexicon.rule w).Steady ∧ (lexicon.rule w).matches? lexicon.prepositions w = true
  simpleRule : ∀ w, lexicon.simpleRule w = .default ∨
    (Rule.simple (lexicon.simpleRule w)).Steady ∧
      (lexicon.simpleRule w).inflection.matches? w = true

/-- A lexicon of predefined rules is steady if these rules are. -/
theorem steady_addAllPredefined (prepositions : Prepositions) {rules : List Rule}
    (h : ∀ rule ∈ rules, rule.Steady) :
    (({ prepositions } : Lexicon).addAllPredefined rules).Steady where
  rule w := by
    rw [prepositions_addAllPredefined]
    exact (rule_addAllPredefined_cases prepositions rules w).imp_right (.imp_left (h _))
  simpleRule w :=
    (simpleRule_addAllPredefined_cases prepositions rules w).imp_right (.imp_left (h _))

/-- Where the predefined rules are steady, a single word has the same rule as the head of a
compound. -/
theorem rule_of_oneWord (prepositions : Prepositions) {rules : List Rule}
    (h : ∀ rule ∈ rules, rule.Steady) {w : Text} (hw : w.OneWord) :
    let lexicon := ({ prepositions } : Lexicon).addAllPredefined rules
    lexicon.rule w = .simple (lexicon.simpleRule w) := by
  refine rule_eq_simple prepositions rules w fun rule hrule hkind => ?_
  cases h rule hrule with
  | irregular hsingular => cases hkind
  | categorical hfamily hsuffix => cases hkind
  | compound hr =>
      rw [Rule.matches?, hr.match?_oneWord hw]
      rfl

/-- A compound has a head with the default rule, which leaves nothing of it in the singular. -/
structure HeadVanishes (lexicon : Lexicon) (w : Text) : Prop where
  isCompound : (lexicon.lookup w).rule.isCompound = true
  default : lexicon.simpleRule (firstWord w) = .default
  vanishes : firstWord w = "s" ∨ firstWord w = "ses"

instance (lexicon : Lexicon) (w : Text) : Decidable (lexicon.HeadVanishes w) :=
  decidable_of_iff
    ((lexicon.lookup w).rule.isCompound = true ∧ lexicon.simpleRule (firstWord w) = .default ∧
      (firstWord w = "s" ∨ firstWord w = "ses"))
    ⟨fun h => ⟨h.1, h.2.1, h.2.2⟩, fun h => ⟨h.isCompound, h.default, h.vanishes⟩⟩

/-- Only compounds have heads. -/
theorem not_headVanishes {lexicon : Lexicon} {w : Text} {r : SimpleRule}
    (h : lexicon.rule w = .simple r) : ¬ lexicon.HeadVanishes w := by
  intro hvanishes
  have hcompound : (lexicon.rule w).isCompound = true := hvanishes.isCompound
  rw [h] at hcompound
  cases hcompound

namespace Steady

variable {lexicon : Lexicon} {w : Text} {form : NounForm}

/-- The simple rule of a word answers for it. -/
theorem answers_simpleRule (hl : lexicon.Steady) (w : Text) :
    (lexicon.simpleRule w).inflection.Answers w := by
  rcases hl.simpleRule w with h | ⟨hsteady, hmatches⟩
  · rw [h]
    exact SimpleRule.answers_default w
  · exact hsteady.answers hmatches

/-- A compound is a head in front of the rest that its rule matches. -/
theorem exists_head (hl : lexicon.Steady) {r : CompoundRule} (h : lexicon.rule w = .compound r) :
    ∃ c p head rest words, r.HeadFirst c p ∧ head.OneWord ∧ w = head ++ c :: rest ∧
      r.tail? lexicon.prepositions p rest = some words := by
  rcases hl.rule w with hdefault | ⟨hsteady, hmatches⟩
  · rw [hdefault] at h
    cases h
  · rw [h] at hsteady hmatches
    cases hsteady with
    | compound hr =>
        obtain ⟨words, hwords⟩ := Option.isSome_iff_exists.1 hmatches
        obtain ⟨head, rest, words', hhead, hw, htail⟩ := hr.exists_of_match? hwords
        exact ⟨_, _, head, rest, words', hr, hhead, hw, htail⟩

/-- Unless the head vanishes, its singular is a word. -/
theorem exists_asSingular (hl : lexicon.Steady) (hw : w.OneWord)
    (h : lexicon.simpleRule w = .default → w ≠ "s" ∧ w ≠ "ses") :
    ∃ v, (lexicon.simpleRule w).inflection.asSingular w = .ok v ∧ v.OneWord := by
  rcases hl.simpleRule w with hdefault | ⟨hsteady, hmatches⟩
  · rw [hdefault]
    exact SimpleRule.exists_asSingular_default hw (h hdefault).1 (h hdefault).2
  · exact hsteady.exists_asSingular hmatches hw

/-- A lexicon answers every question about a word, unless it is a compound with a head that
vanishes. -/
theorem answers (hl : lexicon.Steady) (h : ¬ lexicon.HeadVanishes w) :
    (lexicon.inflection (lexicon.rule w)).Answers w := by
  cases hrule : lexicon.rule w with
  | simple r =>
      rcases hl.rule w with hdefault | ⟨hsteady, hmatches⟩
      · cases hrule.symm.trans hdefault
        exact SimpleRule.answers_default w
      · rw [hrule] at hsteady hmatches
        exact hsteady.answers hmatches
  | compound r =>
      obtain ⟨c, p, head, rest, words, hr, hhead, rfl, htail⟩ := hl.exists_head hrule
      have hfirst := hhead.firstWord_append_cons hr.not_word rest
      obtain ⟨v, hv, hword⟩ := hl.exists_asSingular hhead fun hdefault => by
        rw [← not_or]
        exact fun hvanishes => h ⟨congrArg Rule.isCompound hrule, by rwa [hfirst], by rwa [hfirst]⟩
      exact hr.answers hhead htail (hl.answers_simpleRule head) hv hword
        ((hl.answers_simpleRule v).form .modernPlural)

/-- Every word is singular or plural. -/
theorem exists_isSingular (hl : lexicon.Steady) (w : Text) :
    ∃ b, (lexicon.inflection (lexicon.rule w)).isSingular w = .ok b := by
  cases hrule : lexicon.rule w with
  | simple r => exact hrule ▸ (hl.answers (not_headVanishes hrule)).isSingular
  | compound r =>
      obtain ⟨c, p, head, rest, words, hr, hhead, rfl, htail⟩ := hl.exists_head hrule
      obtain ⟨b, hb⟩ := (hl.answers_simpleRule head).isSingular
      exact ⟨b, (hr.isSingular_append hhead htail).trans hb⟩

/-- Every word has a singular and a plural. -/
theorem exists_form (hl : lexicon.Steady) (w : Text) (hform : form = .singular ∨ form = .plural) :
    ∃ v, (lexicon.inflection (lexicon.rule w)).form form w = .ok v := by
  cases hrule : lexicon.rule w with
  | simple r => exact hrule ▸ (hl.answers (not_headVanishes hrule)).form form
  | compound r =>
      obtain ⟨c, p, head, rest, words, hr, hhead, rfl, htail⟩ := hl.exists_head hrule
      exact hr.exists_form_append hhead htail (hl.answers_simpleRule head) hform

/-- The singular of a compound is refused if its head vanishes. -/
theorem form_eq_error (hl : lexicon.Steady) (h : lexicon.HeadVanishes w)
    (hform : form = .modernPlural ∨ form = .classicalPlural) :
    (lexicon.inflection (lexicon.rule w)).form form w =
      .error (.foreign (w.drop (firstWord w).length) (lexicon.rule w).describe) := by
  cases hrule : lexicon.rule w with
  | simple r => exact absurd h (not_headVanishes hrule)
  | compound r =>
      obtain ⟨c, p, head, rest, words, hr, hhead, rfl, htail⟩ := hl.exists_head hrule
      have hfirst := hhead.firstWord_append_cons hr.not_word rest
      have hdefault := h.default
      have hvanishes := h.vanishes
      rw [hfirst] at hdefault hvanishes
      have hv : (lexicon.simpleRule head).inflection.asSingular head = .ok [] := by
        rw [hdefault]
        rcases hvanishes with rfl | rfl <;> rfl
      rw [hfirst, List.drop_left]
      exact hr.form_eq_error hhead htail hv hform

/-- Every form of a word is given but for the plurals of a compound whose head vanishes. -/
theorem form_cases (hl : lexicon.Steady) (w : Text) :
    let noun := lexicon.lookup w
    let i := lexicon.inflection noun.rule
    (∃ b, i.isSingular w = .ok b ∧ i.isPlural w = .ok !b) ∧
      ∀ form,
        if lexicon.HeadVanishes w ∧ (form = .modernPlural ∨ form = .classicalPlural) then
          i.form form w = .error (.foreign (w.drop (firstWord w).length) noun.rule.describe)
        else ∃ v, i.form form w = .ok v := by
  constructor
  · obtain ⟨b, hb⟩ := hl.exists_isSingular w
    exact ⟨b, hb, Inflection.isPlural_eq hb⟩
  · intro form
    split
    · next h => exact hl.form_eq_error h.1 h.2
    · next h =>
        by_cases hvanishes : lexicon.HeadVanishes w
        · refine hl.exists_form w ?_
          cases form with
          | singular => exact .inl rfl
          | plural => exact .inr rfl
          | modernPlural => exact absurd ⟨hvanishes, .inl rfl⟩ h
          | classicalPlural => exact absurd ⟨hvanishes, .inr rfl⟩ h
        · exact (hl.answers hvanishes).form form

end Steady

end Lexicon

end Agreement
