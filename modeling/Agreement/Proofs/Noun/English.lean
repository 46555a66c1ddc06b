import Agreement.Noun.English
import Agreement.Proofs.Noun.Steady

/-!
# What the English lexicon answers

The English rules are steady, so the English lexicon answers every question about every word but for
the plurals of a compound whose head vanishes. Its heads that vanish are "s" and "ses", which no
irregular rule and no family of affixes matches: `Lexicon.english_form_cases`. The simple rules are
found for single words only (`English.forWords`), and the compound rules are those of titles and of
phrases with a preposition (`English.compound_cases`).
-/

namespace Agreement

/-- The plurals of a rule are those that it is made from. -/
theorem Plurals.toList_map {α β : Type} (f : α → β) (plurals : Plurals α) :
    (plurals.map f).toList = plurals.toList.map f := by
  cases plurals <;> rfl

namespace English

/-- The forms of the irregular nouns are words. -/
theorem oneWord_of_mem_irregularNouns :
    ∀ entry ∈ irregularNouns, ∀ form ∈ entry.1 :: (pluralsOf entry.2.1 entry.2.2).toList,
      Text.OneWord form.toList := by
  decide +kernel

/-- The affixes of the families are words. -/
theorem oneWord_of_mem_families :
    ∀ entry ∈ families, ∀ suffix ∈ entry.2.1 :: (pluralsOf entry.2.2.1 entry.2.2.2).toList,
      Text.OneWord suffix.toList := by
  decide +kernel

/-- The rule of an irregular noun has the forms of the noun. -/
theorem forms_eq {entry : String × String × Option String} {r : IrregularRule}
    (hr : irregular entry = .simple (.irregular r)) :
    r.forms = (entry.1 :: (pluralsOf entry.2.1 entry.2.2).toList).map String.toList := by
  cases hr
  rw [IrregularRule.forms, Plurals.toList_map]
  rfl

/-- The forms of the rule of an irregular noun are words. -/
theorem oneWord_of_mem_forms {entry : String × String × Option String}
    (hentry : entry ∈ irregularNouns) {r : IrregularRule}
    (hr : irregular entry = .simple (.irregular r)) : ∀ form ∈ r.forms, form.OneWord := by
  intro form hform
  rw [forms_eq hr] at hform
  obtain ⟨t, ht, rfl⟩ := List.mem_map.1 hform
  exact oneWord_of_mem_irregularNouns entry hentry t ht

/-- The affixes of the rule of a family are words. -/
theorem oneWord_of_mem_affixes {entry : Bool × String × String × Option String}
    (hentry : entry ∈ families) {r : CategoricalRule}
    (hr : family entry = .simple (.categorical r)) : ∀ a ∈ r.affixes, a.suffix.OneWord := by
  cases hr
  intro a ha
  rw [CategoricalRule.affixes, Plurals.toList_map, ← List.map_cons (f := literalAffix _)] at ha
  obtain ⟨t, ht, rfl⟩ := List.mem_map.1 ha
  exact oneWord_of_mem_families entry hentry t ht

/-- All affixes of a family stand for themselves, and all or none may be whole words. -/
theorem isFamily (complete : Bool) (singular : String) (plurals : Plurals String) :
    CategoricalRule.IsFamily
      ⟨literalAffix complete singular, plurals.map (literalAffix complete)⟩ := by
  have hmem : ∀ a ∈ literalAffix complete singular :: (plurals.map (literalAffix complete)).toList,
      ∃ suffix, literalAffix complete suffix = a := by
    intro a ha
    rw [Plurals.toList_map, ← List.map_cons (f := literalAffix complete)] at ha
    exact (List.mem_map.1 ha).imp fun _ h => h.2
  constructor
  · intro a ha
    obtain ⟨suffix, rfl⟩ := hmem a ha
    rfl
  · intro a ha
    obtain ⟨suffix, rfl⟩ := hmem a ha
    rfl

/-- What stands behind the head of a compound and a character: a preposition and, behind the same
character, a word. -/
def prepositional (c : Char) : Phrase :=
  [.slot .preposition, .char c, .slot .copied]

/-- What stands behind the head of a title and a blank. -/
def general : Phrase :=
  ("general" : Text).map .char

/-- A simple rule is that of an irregular noun or of a family of affixes. -/
theorem simple_cases {r : SimpleRule} (h : .simple r ∈ rules) :
    (∃ entry ∈ irregularNouns, irregular entry = .simple r) ∨
      ∃ entry ∈ families, family entry = .simple r := by
  rcases List.mem_append.1 h with h | h
  · exact (List.mem_append.1 h).imp List.mem_map.1 List.mem_map.1
  · simp only [List.mem_cons, List.not_mem_nil, or_false] at h
    rcases h with h | h | h <;> cases h

/-- The rule of hyphenated compounds has the head in front. -/
theorem headFirst_hyphen {r : CompoundRule} (h : .compound r = compound "(SING)-(PREP)-*") :
    r.HeadFirst '-' (prepositional '-') := by
  cases h
  exact ⟨rfl, by decide, rfl, rfl, by decide, by decide⟩

/-- The rule of compounds with blanks has the head in front. -/
theorem headFirst_blank {r : CompoundRule} (h : .compound r = compound "(SING) (PREP) *") :
    r.HeadFirst ' ' (prepositional ' ') := by
  cases h
  exact ⟨rfl, by decide, rfl, rfl, by decide, by decide⟩

/-- The rule of titles has the head in front. -/
theorem headFirst_general {r : CompoundRule} (h : .compound r = compound "(SING) general") :
    r.HeadFirst ' ' general := by
  cases h
  exact ⟨rfl, by decide, rfl, rfl, by decide, by decide⟩

/-- Compounds with a preposition have a rule for hyphens and one for blanks. -/
theorem exists_prepositional {c : Char} (hc : c = '-' ∨ c = ' ') :
    ∃ r, .compound r ∈ rules ∧ r.HeadFirst c (prepositional c) := by
  rcases hc with rfl | rfl
  · exact ⟨_, List.mem_append_right _ List.mem_cons_self, headFirst_hyphen rfl⟩
  · exact ⟨_, List.mem_append_right _ (.tail _ List.mem_cons_self), headFirst_blank rfl⟩

/-- Titles have a rule. -/
theorem exists_general : ∃ r, .compound r ∈ rules ∧ r.HeadFirst ' ' general :=
  ⟨_, List.mem_append_right _ (.tail _ (.tail _ List.mem_cons_self)), headFirst_general rfl⟩

/-- There are no other compound rules. -/
theorem compound_cases {r : CompoundRule} (h : .compound r ∈ rules) :
    (∃ c, (c = '-' ∨ c = ' ') ∧ r.HeadFirst c (prepositional c)) ∨ r.HeadFirst ' ' general := by
  rcases List.mem_append.1 h with h | h
  · rcases List.mem_append.1 h with h | h
    · obtain ⟨entry, -, hr⟩ := List.mem_map.1 h
      cases hr
    · obtain ⟨entry, -, hr⟩ := List.mem_map.1 h
      cases hr
  · simp only [List.mem_cons, List.not_mem_nil, or_false] at h
    rcases h with h | h | h
    · exact .inl ⟨'-', .inl rfl, headFirst_hyphen h⟩
    · exact .inl ⟨' ', .inr rfl, headFirst_blank h⟩
    · exact .inr (headFirst_general h)

/-- The English rules are steady. -/
theorem steady : ∀ rule ∈ rules, rule.Steady := by
  intro rule hrule
  cases rule with
  | simple r =>
      rcases simple_cases hrule with ⟨entry, hentry, hr⟩ | ⟨entry, hentry, hr⟩
      · cases hr
        exact .irregular (oneWord_of_mem_forms hentry rfl _ List.mem_cons_self)
      · cases hr
        exact .categorical (isFamily ..) (oneWord_of_mem_affixes hentry rfl _ List.mem_cons_self)
  | compound r =>
      rcases compound_cases hrule with ⟨c, -, hr⟩ | hr
      · exact .compound hr
      · exact .compound hr

/-- The simple English rules are found for single words only. -/
theorem forWords : ∀ r, .simple r ∈ rules → r.ForWords := by
  intro r hr
  rcases simple_cases hr with ⟨entry, hentry, hr⟩ | ⟨entry, hentry, hr⟩
  · cases hr
    exact IrregularRule.forWords (oneWord_of_mem_forms hentry rfl)
  · cases hr
    exact (isFamily ..).forWords (oneWord_of_mem_affixes hentry rfl)

/-- No irregular rule and no family of affixes matches what vanishes in the singular. -/
theorem not_matches_vanishing {w : Text} (h : w = "s" ∨ w = "ses") :
    ∀ r ∈ rules.filterMap Rule.simple?, r.inflection.matches? w = false := by
  have hnone : ∀ r ∈ rules.filterMap Rule.simple?,
      r.inflection.matches? "s" = false ∧ r.inflection.matches? "ses" = false := by
    decide +kernel
  intro r hr
  rcases h with rfl | rfl
  · exact (hnone r hr).1
  · exact (hnone r hr).2

end English

namespace Lexicon

variable (prepositions : Prepositions)

/-- The English lexicon is steady, whatever the prepositions. -/
theorem english_steady : (english prepositions).Steady :=
  steady_addAllPredefined prepositions English.steady

/-- "person" and "people" are forms of an irregular noun. -/
theorem english_rule_person :
    let person := Rule.simple (.irregular ⟨"person", .both "people" "persons", false⟩)
    english.rule "person" = person ∧ english.rule "people" = person := by
  rw [english, addAllPredefined_eq, rule_registerAll, rule_registerAll]
  decide +kernel

/-- The words that vanish in the singular have the default rule. -/
theorem english_simpleRule_eq_default {w : Text} (h : w = "s" ∨ w = "ses") :
    (english prepositions).simpleRule w = .default := by
  rcases simpleRule_addAllPredefined_cases prepositions English.rules w with hd | ⟨hmem, hmatches⟩
  · exact hd
  · have hnone := English.not_matches_vanishing h _ (List.mem_filterMap.2 ⟨_, hmem, rfl⟩)
    exact absurd hmatches (Bool.eq_false_iff.1 hnone)

/-- A head vanishes if it is "s" or "ses". -/
theorem english_headVanishes_iff (w : Text) :
    (english prepositions).HeadVanishes w ↔
      ((english prepositions).lookup w).rule.isCompound = true ∧
        (firstWord w = "s" ∨ firstWord w = "ses") :=
  ⟨fun h => ⟨h.isCompound, h.vanishes⟩,
    fun h => ⟨h.1, english_simpleRule_eq_default prepositions h.2, h.2⟩⟩

/-- The English lexicon answers every question about every word, except that a compound whose head
is "s" or "ses" has no modern and no classical plural: both are derived from the singular, where
nothing is left of the head, and the rule refuses the singular that it derived. -/
theorem english_form_cases (w : Text) :
    let noun := (english prepositions).lookup w
    let i := (english prepositions).inflection noun.rule
    (∃ b, i.isSingular w = .ok b ∧ i.isPlural w = .ok !b) ∧
      ∀ form,
        if (noun.rule.isCompound = true ∧ (firstWord w = "s" ∨ firstWord w = "ses")) ∧
            (form = .modernPlural ∨ form = .classicalPlural) then
          i.form form w = .error (.foreign (w.drop (firstWord w).length) noun.rule.describe)
        else ∃ v, i.form form w = .ok v := by
  simpa only [english_headVanishes_iff] using (english_steady prepositions).form_cases w

/-- Nothing is left of the head of "s general", and its rule refuses the singular " general". -/
theorem english_plurals_general :
    let noun := english.lookup "s general"
    let i := english.inflection noun.rule
    let refused := NounError.foreign " general" "CompoundRule('(?P<noun>\\\\w+)\\\\ general')"
    i.modernPlural noun.word = .error refused ∧ i.classicalPlural noun.word = .error refused := by
  have hrule : english.rule "s general" = English.compound "(SING) general" := by
    rw [english, addAllPredefined_eq, rule_registerAll]
    decide +kernel
  have hlookup : english.lookup "s general" = ⟨"s general", English.compound "(SING) general"⟩ := by
    rw [lookup, if_pos rfl, hrule]
  have hvanishes : english.HeadVanishes "s general" :=
    (english_headVanishes_iff _ _).2 ⟨by rw [hlookup]; rfl, .inl (by decide +kernel)⟩
  have herror {form : NounForm} (hform : form = .modernPlural ∨ form = .classicalPlural) :=
    (english_steady English.prepositions).form_eq_error hvanishes hform
  rw [hrule] at herror
  rw [hlookup]
  exact ⟨(herror (.inl rfl)).trans (by decide +kernel),
    (herror (.inr rfl)).trans (by decide +kernel)⟩

end Lexicon

end Agreement
