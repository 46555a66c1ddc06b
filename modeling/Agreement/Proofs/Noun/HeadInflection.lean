import Agreement.Proofs.Noun.English

/-!
# Compounds inflect as their heads

A compound is singular if its head is, and its forms are those of its head with the rest of the
compound behind them: `Lexicon.InflectsHead`. This is true of every compound with the head in front
that a lexicon of steady rules has a compound rule for (`Steady.inflectsHead`). In the English
lexicon these are the titles and the phrases with a preposition, and a phrase with another word in
place of the preposition has the default rule (`english_inflectsHead`). A singular and a plural look
the same with hyphens and with blanks.
-/

namespace Agreement

namespace Lexicon

/-- A word followed by a rest is a compound that inflects as the word, with the rest behind each
form. -/
structure InflectsHead (lexicon : Lexicon) (head rest : Text) : Prop where
  isCompound : (lexicon.lookup (head ++ rest)).rule.isCompound = true
  isSingular : ∃ b, lexicon.isSingular head = .ok b ∧ lexicon.isSingular (head ++ rest) = .ok b
  form : ∀ form, form = .singular ∨ form = .plural →
    ∃ v, lexicon.inflect form head = .ok v ∧ lexicon.inflect form (head ++ rest) = .ok (v ++ rest)
  modernPlural : lexicon.isSingular head = .ok true →
    ∃ v, lexicon.inflect .modernPlural head = .ok v ∧
      lexicon.inflect .modernPlural (head ++ rest) = .ok (v ++ rest) ∧
        lexicon.inflect .classicalPlural (head ++ rest) = .ok (v ++ rest)

variable {lexicon : Lexicon}

/-- Where single words have the rules that they have as heads, a compound inflects as its head. -/
theorem Steady.inflectsHead (hl : lexicon.Steady)
    (hwords : ∀ w : Text, w.OneWord → lexicon.rule w = .simple (lexicon.simpleRule w))
    {head rest : Text} {c : Char} (hhead : head.OneWord) (hc : isWord c = false)
    (hcompound : (lexicon.rule (head ++ c :: rest)).isCompound = true) :
    lexicon.InflectsHead head (c :: rest) := by
  cases hrule : lexicon.rule (head ++ c :: rest) with
  | simple r =>
      rw [hrule] at hcompound
      cases hcompound
  | compound r =>
      obtain ⟨c', p, head', rest', words, hr, hhead', heq, htail⟩ := hl.exists_head hrule
      obtain rfl : head = head' := by
        rw [← hhead.firstWord_append_cons hc rest, heq,
          hhead'.firstWord_append_cons hr.not_word rest']
      cases List.append_cancel_left heq
      have hanswers := hl.answers_simpleRule head
      have hsimple := hwords head hhead
      refine ⟨congrArg Rule.isCompound hrule, ?_, ?_, ?_⟩
      · obtain ⟨b, hb⟩ := hanswers.isSingular
        exact ⟨b, (isSingular_of_rule hsimple).trans hb,
          (isSingular_of_rule hrule).trans ((hr.isSingular_append hhead htail).trans hb)⟩
      · intro form hform
        obtain ⟨v, hv⟩ := hanswers.form form
        exact ⟨v, (inflect_of_rule hsimple form).trans hv, (inflect_of_rule hrule form).trans
          ((hr.form_append hhead htail hform).trans (congrArg (Except.map _) hv))⟩
      · intro hb
        rw [isSingular_of_rule hsimple] at hb
        obtain ⟨v, hv⟩ := hanswers.form .modernPlural
        have hplural {form : NounForm} (hform : form = .modernPlural ∨ form = .classicalPlural) :
            lexicon.inflect form (head ++ c :: rest) = .ok (v ++ c :: rest) :=
          (inflect_of_rule hrule form).trans
            ((hr.plural_of_singular_append hhead htail hb hform).trans
              (congrArg (Except.map _) hv))
        exact ⟨v, (inflect_of_rule hsimple _).trans hv, hplural (.inl rfl), hplural (.inr rfl)⟩

end Lexicon

/-- A word is a preposition if it is listed in lowercase. -/
theorem Prepositions.has_oneWord (prepositions : Prepositions) {p : Text} (hp : p.OneWord) :
    prepositions.has p = true ↔ p.lower ∈ prepositions.words := by
  rw [has, Bool.and_eq_true, decide_eq_true_eq, List.contains_iff_mem]
  exact and_iff_right hp.ne_nil

namespace English

variable {prepositions : Prepositions} {r : CompoundRule} {c d : Char} {h p s : Text}

/-- Hyphens and blanks belong to no word. -/
theorem isWord_separator (hd : d = '-' ∨ d = ' ') : isWord d = false := by
  rcases hd with rfl | rfl <;> decide

/-- A simple rule is found for no text with a character that belongs to no word. -/
theorem not_foundFor (hd : isWord d = false) (before after : Text) :
    ∀ r, .simple r ∈ rules → ¬ r.FoundFor (before ++ d :: after) :=
  fun r hr hfound => (forWords r hr _ hfound).not_mem hd (by simp)

/-- A rule of compounds with a preposition matches three words, of which the one in the middle is a
preposition, with the character of the rule in between. -/
theorem match?_prepositional (hr : r.HeadFirst c (prepositional c)) (hh : h.OneWord)
    (hp : p.OneWord) (hs : s.OneWord) (hd : isWord d = false) :
    r.match? prepositions (h ++ d :: (p ++ d :: s)) =
      if d = c ∧ p.lower ∈ prepositions.words then
        some [(.head, h), (.preposition, p), (.copied, s)]
      else none := by
  by_cases hdc : d = c
  · subst hdc
    have hslot : r.hasPreposition = true := by
      rw [CompoundRule.hasPreposition, hr.pattern_eq]
      rfl
    rw [hr.match?_append hh, CompoundRule.tail?, prepositional, Phrase.match?_slot_char hp hd,
      Phrase.match?_slot_nil hs, Option.map_some, Option.filter_some, hslot]
    simp only [Bool.not_true, Bool.false_or, List.lookup_cons_self, Option.getD_some,
      prepositions.has_oneWord hp, true_and]
    split <;> rfl
  · rw [hr.match?_append_of_ne hh hd hdc, if_neg fun h => hdc h.1]

/-- The rule of titles matches a word in front of "general". -/
theorem match?_general (hr : r.HeadFirst ' ' general) (hh : h.OneWord) :
    r.match? prepositions (h ++ " general") = some [(.head, h)] := by
  have hslot : r.hasPreposition = false := by
    rw [CompoundRule.hasPreposition, hr.pattern_eq]
    decide
  have hmatch : general.match? "general" = some [] := by decide
  have htail : r.tail? prepositions general "general" = some [] := by
    rw [CompoundRule.tail?, hslot, hmatch]
    rfl
  exact (hr.match?_append hh _).trans (congrArg (Option.map _) htail)

/-- The rule of titles does not match three words. -/
theorem match?_general_eq_none (hr : r.HeadFirst ' ' general) (hh : h.OneWord)
    (hd : isWord d = false) : r.match? prepositions (h ++ d :: (p ++ d :: s)) = none := by
  by_cases hdc : d = ' '
  · subst hdc
    rw [hr.match?_append hh, Option.map_eq_none_iff]
    refine Option.eq_none_iff_forall_ne_some.2 fun words htail => ?_
    have hspells := Phrase.spells_of_match? (Option.filter_eq_some_iff.1 htail).1
    have hmem : ' ' ∈ ("general" : Text) := hspells.eq_of_chars ▸ by simp
    exact absurd hmem (by decide)
  · exact hr.match?_append_of_ne hh hd hdc _

end English

namespace Lexicon

variable (prepositions : Prepositions) {d : Char} {h p s : Text}

/-- A single word has a simple rule in the English lexicon. -/
theorem english_rule_of_oneWord (w : Text) (hw : w.OneWord) :
    (english prepositions).rule w = .simple ((english prepositions).simpleRule w) :=
  rule_of_oneWord prepositions English.steady hw

/-- A text inflects as its first word in the English lexicon if a compound rule matches it. -/
theorem english_inflectsHead_of_match {r : CompoundRule} (hr : .compound r ∈ English.rules)
    (hh : h.OneWord) (hd : isWord d = false) {rest : Text} {words : Filling}
    (hmatch : r.match? prepositions (h ++ d :: rest) = some words) :
    (english prepositions).InflectsHead h (d :: rest) :=
  (english_steady prepositions).inflectsHead (english_rule_of_oneWord prepositions) hh hd
    (isCompound_rule (English.not_foundFor hd h rest) hr hmatch)

/-- A title inflects as the word in front of "general". -/
theorem english_inflectsHead_general (hh : h.OneWord) :
    (english prepositions).InflectsHead h " general" := by
  obtain ⟨r, hr, hfirst⟩ := English.exists_general
  exact english_inflectsHead_of_match prepositions hr hh (English.isWord_separator (.inr rfl))
    (English.match?_general hfirst hh)

variable (hh : h.OneWord) (hp : p.OneWord) (hs : s.OneWord)
include hh hp hs

/-- Three words inflect as the first one in the English lexicon if the one in the middle is a
preposition. -/
theorem english_inflectsHead_prepositional (hd : d = '-' ∨ d = ' ')
    (hmem : p.lower ∈ prepositions.words) :
    (english prepositions).InflectsHead h (d :: (p ++ d :: s)) := by
  obtain ⟨r, hr, hfirst⟩ := English.exists_prepositional hd
  have hnot := English.isWord_separator hd
  exact english_inflectsHead_of_match prepositions hr hh hnot
    ((English.match?_prepositional hfirst hh hp hs hnot).trans (if_pos ⟨rfl, hmem⟩))

/-- Three words have the default rule in the English lexicon if the one in the middle is no
preposition. -/
theorem english_rule_eq_default (hd : d = '-' ∨ d = ' ') (hmem : p.lower ∉ prepositions.words) :
    (english prepositions).rule (h ++ d :: (p ++ d :: s)) = .simple .default := by
  have hnot := English.isWord_separator hd
  refine rule_eq_default (English.not_foundFor hnot h _) fun r hr => ?_
  rcases English.compound_cases hr with ⟨c, -, hfirst⟩ | hfirst
  · exact (English.match?_prepositional hfirst hh hp hs hnot).trans
      (if_neg fun hmatch => hmem hmatch.2)
  · exact English.match?_general_eq_none hfirst hh hnot

/-- In the English lexicon, three words with hyphens or blanks in between inflect as the first one
if the second one is a preposition, and otherwise have the default rule; titles inflect as the word
in front of "general". Hyphens and blanks make no difference to a singular or a plural. -/
theorem english_inflectsHead :
    let lexicon := english prepositions
    (∀ d, d = '-' ∨ d = ' ' →
        if p.lower ∈ prepositions.words then lexicon.InflectsHead h (d :: (p ++ d :: s))
        else (lexicon.lookup (h ++ d :: (p ++ d :: s))).rule = .simple .default) ∧
      lexicon.InflectsHead h " general" ∧
        ∀ form, form = .singular ∨ form = .plural →
          ∃ h' s', ∀ d, d = '-' ∨ d = ' ' →
            lexicon.inflect form (h ++ d :: (p ++ d :: s)) = .ok (h' ++ d :: (p ++ d :: s')) := by
  intro lexicon
  by_cases hmem : p.lower ∈ prepositions.words
  · have hcompound {d} (hd : d = '-' ∨ d = ' ') : lexicon.InflectsHead h (d :: (p ++ d :: s)) :=
      english_inflectsHead_prepositional prepositions hh hp hs hd hmem
    refine ⟨fun d hd => ?_, english_inflectsHead_general prepositions hh, fun form hform => ?_⟩
    · rw [if_pos hmem]
      exact hcompound hd
    · obtain ⟨v, hv, -⟩ := (hcompound (.inl rfl)).form form hform
      refine ⟨v, s, fun d hd => ?_⟩
      obtain ⟨v', hv', hform⟩ := (hcompound hd).form form hform
      cases hv.symm.trans hv'
      exact hform
  · have hdefault {d} (hd : d = '-' ∨ d = ' ') :
        lexicon.rule (h ++ d :: (p ++ d :: s)) = .simple .default :=
      english_rule_eq_default prepositions hh hp hs hd hmem
    refine ⟨fun d hd => ?_, english_inflectsHead_general prepositions hh, fun form _ => ?_⟩
    · rw [if_neg hmem]
      exact (lookup_rule _ _).trans (hdefault hd)
    · refine ⟨h, SimpleRule.defaultForm s form, fun d hd => ?_⟩
      have hlast :=
        SimpleRule.defaultForm_append (h ++ d :: p) s (English.isWord_separator hd) form
      rw [List.append_assoc, List.cons_append, List.append_assoc, List.cons_append] at hlast
      rw [inflect_of_rule (hdefault hd)]
      exact (SimpleRule.form_default form _).trans (congrArg Except.ok hlast)

omit hh hp hs in
/-- A "person-In-charge" and a "person general" inflect as a "person". -/
theorem english_inflectsHead_person :
    english.InflectsHead "person" "-In-charge" ∧ english.InflectsHead "person" " general" ∧
      english.inflect .plural "person-In-charge" = .ok "people-In-charge" ∧
        english.inflect .plural "person In charge" = .ok "people In charge" := by
  have hmem : Text.lower "In" ∈ English.prepositions.words := by decide +kernel
  have hperson : english.inflect .plural "person" = .ok "people" := by
    rw [inflect_of_rule english_rule_person.1]
    decide
  obtain ⟨hcompound, hgeneral, -⟩ := english_inflectsHead English.prepositions (h := "person")
    (p := "In") (s := "charge") (by decide) (by decide) (by decide)
  have hhyphen := hcompound '-' (.inl rfl)
  have hblank := hcompound ' ' (.inr rfl)
  rw [if_pos hmem] at hhyphen hblank
  obtain ⟨v, hv, hplural⟩ := hhyphen.form .plural (.inr rfl)
  obtain ⟨v', hv', hplural'⟩ := hblank.form .plural (.inr rfl)
  cases hv.symm.trans hperson
  cases hv'.symm.trans hperson
  exact ⟨hhyphen, hgeneral, hplural, hplural'⟩

end Lexicon

end Agreement
