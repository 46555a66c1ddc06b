import Agreement.Proofs.Decimal.Numeral
import Agreement.Proofs.Noun.CompoundLine
import Agreement.Proofs.Noun.SpacedVariant
import Agreement.Proofs.Noun.WrittenPhrases
import Mathlib.Data.List.Chain

/-!
# Compound lines with bounded markers

A form is bounded if no marker in it stands next to another one or to a character of a word. A
bounded phrase spells a text in one way only (`Phrase.Spells.unique`), so the pattern of a compound
rule finds again what a phrase was filled with. If all forms of a line are bounded, every form that
a rule of the line derives is matched by a rule of the line, as long as the head stays a word. The
main statement is `RuleText.readLine_closed`, which also says what the written forms of a phrase
have to do with each other.
-/

namespace Agreement

/-- Two pieces that stand next to each other keep slots apart from slots and from the characters of
words. -/
def Piece.Apart : Piece → Piece → Prop
  | .slot _, .slot _ => False
  | .slot _, .char c => isWord c = false
  | .char c, .slot _ => isWord c = false
  | .char _, .char _ => True

instance (p q : Piece) : Decidable (p.Apart q) :=
  match p, q with
  | .slot _, .slot _ => inferInstanceAs (Decidable False)
  | .slot _, .char c => inferInstanceAs (Decidable (isWord c = false))
  | .char c, .slot _ => inferInstanceAs (Decidable (isWord c = false))
  | .char _, .char _ => inferInstanceAs (Decidable True)

namespace Phrase

/-- Forms have markers for these slots only. -/
theorem mem_markedSlots {form : Text} {s : Slot} (hs : s ∈ (ofForm form).slots) :
    s ∈ markedSlots := by
  fun_induction ofForm form with
  | case1 t ih | case2 t ih | case3 t ih | case4 t ih =>
      rcases List.mem_cons.1 hs with rfl | hs
      · decide
      · exact ih hs
  | case5 c t _ _ _ _ ih => exact ih hs
  | case6 => cases hs

/-- Every slot of a phrase is bounded by characters of no word, or by the ends of the phrase. -/
def IsBounded (p : Phrase) : Prop :=
  List.IsChain Piece.Apart p

instance (p : Phrase) : Decidable p.IsBounded :=
  inferInstanceAs (Decidable (List.IsChain _ _))

/-- A bounded slot holds the first word of the text. -/
theorem Spells.firstWord_eq {s : Slot} {p : Phrase} (hp : IsBounded (.slot s :: p)) {w rest : Text}
    (hw : w.OneWord) {words : Filling} (h : p.Spells words rest) : firstWord (w ++ rest) = w := by
  cases h with
  | nil => simpa [firstWord] using hw.firstWord_append []
  | char c h =>
      have hapart : isWord c = false := (List.isChain_cons_cons.1 hp).1
      exact hw.firstWord_append_cons hapart _
  | slot s' hw' h => exact absurd (List.isChain_cons_cons.1 hp).1 id

/-- A bounded phrase spells a text in one way. -/
theorem Spells.unique {p : Phrase} (hp : p.IsBounded) {words words' : Filling} {t : Text}
    (h : p.Spells words t) (h' : p.Spells words' t) : words = words' := by
  induction h generalizing words' with
  | nil =>
      cases h'
      rfl
  | char c h ih =>
      cases h' with
      | char c h' => exact ih hp.tail h'
  | @slot p words rest s w hw h ih =>
      generalize ht : w ++ rest = t at h'
      cases h' with
      | @slot _ words' rest' _ w' hw' h' =>
          have hsame : w = w' := by
            rw [← Spells.firstWord_eq hp hw h, ht, Spells.firstWord_eq hp hw' h']
          subst hsame
          rw [← List.append_cancel_left ht] at h'
          rw [ih hp.tail h']

end Phrase

namespace RuleText

/-- A break belongs to no word. -/
theorem not_isWord_of_isBreak {c : Char} (hc : isBreak c = true) : isWord c = false := by
  have hcodes : ∀ n ∈ blankCodes, isWord (Char.ofNat n) = false := by decide +kernel
  simp only [isBreak, Bool.or_eq_true, decide_eq_true_eq] at hc
  rcases hc with (hblank | rfl) | rfl
  · have hword := hcodes _ (toNat_mem_blankCodes hblank)
    rwa [Char.ofNat_toNat] at hword
  · decide
  · decide

/-- A form is bounded if it is on both sides of a break. -/
theorem isBounded_append_cons {c : Char} (hc : isBreak c = true) (t u : Text) :
    (Phrase.ofForm (t ++ c :: u)).IsBounded =
      ((Phrase.ofForm t).IsBounded ∧ (Phrase.ofForm u).IsBounded) := by
  have hword := not_isWord_of_isBreak hc
  have hleft (p : Piece) : p.Apart (.char c) := by
    cases p with
    | char d => exact trivial
    | slot s => exact hword
  have hright (p : Piece) : Piece.Apart (.char c) p := by
    cases p with
    | char d => exact trivial
    | slot s => exact hword
  rw [ofForm_append_cons hc, Phrase.IsBounded, List.isChain_append, List.isChain_cons]
  simp [hleft, hright, Phrase.IsBounded]

/-- Whether a form is bounded depends on its solid pieces. -/
theorem isBounded_congr {t u : Text} (h : solids t = solids u) :
    (Phrase.ofForm t).IsBounded ↔ (Phrase.ofForm u).IsBounded := by
  have hnil : (Phrase.ofForm []).IsBounded = True := eq_true List.IsChain.nil
  refine iff_of_eq (eq_of_solids_eq (fun t => (Phrase.ofForm t).IsBounded) And ?_ ?_
    (fun _ hc t u => isBounded_append_cons hc t u) h)
  · intro p
    rw [hnil, true_and]
  · intro p
    rw [hnil, and_true]

/-- Every form of a spelling of an accepted line has the solid pieces of a form of the line. -/
theorem exists_solids_eq {line : Text} {rules : List Rule}
    (h : readLine patterns line = (rules, none)) {spelling : Text}
    (hspelling : spelling ∈ spellings line) {form : Text} (hform : form ∈ compoundForms spelling) :
    ∃ form' ∈ compoundForms (content line), solids form = solids form' := by
  rcases List.mem_cons.1 hspelling with rfl | hspelling
  · exact ⟨form, hform, rfl⟩
  rw [Option.mem_toList] at hspelling
  cases h ▸ readsLine patterns line with
  | blank hblank =>
      rw [hblank] at hspelling
      cases hspelling
  | plain hrules hvariant =>
      rw [hvariant] at hspelling
      cases hspelling
  | spaced hrules hvariant hmore =>
      obtain ⟨⟨singular, plural, hcut, hone⟩, -⟩ := rulesOf_eq_ok_iff.1 hrules
      obtain ⟨hvariant, -⟩ := cutArrow_spacedVariant hcut hone hspelling
      obtain ⟨hs, hm, hc⟩ := formsOf_spaced hcut hvariant
      unfold compoundForms at hform ⊢
      split at hform
      · next hhead =>
          rw [hasSingularHead_congr hs.solids_eq] at hhead
          rw [if_pos hhead]
          obtain ⟨form', hform', hrel⟩ := exists_respelled hs hm hc form hform
          exact ⟨form', hform', hrel.solids_eq⟩
      · cases hform

/-- If the forms of an accepted line are bounded, so are those of its spaced variant. -/
theorem isBounded_of_mem_spellings {line : Text} {rules : List Rule}
    (h : readLine patterns line = (rules, none))
    (hbounded : ∀ form ∈ compoundForms (content line), (Phrase.ofForm form).IsBounded)
    {spelling : Text} (hspelling : spelling ∈ spellings line) :
    ∀ form ∈ compoundForms spelling, (Phrase.ofForm form).IsBounded := by
  intro form hform
  obtain ⟨form', hform', hsolids⟩ := exists_solids_eq h hspelling hform
  exact (isBounded_congr hsolids).2 (hbounded form' hform')

end RuleText

/-- A form of a word as a rule derives it, whatever number the word has. -/
def Inflection.derived (i : Inflection) : NounForm → Text → Except NounError Text
  | .singular => i.singularize
  | .plural => i.pluralize
  | .modernPlural => i.pluralizeModern
  | .classicalPlural => i.pluralizeClassical

namespace CompoundRule

/-- The form of the head in a derived form. A plural that a rule lacks is the other one. -/
def headForm (r : CompoundRule) : NounForm → NounForm
  | .modernPlural => if r.plurals.modern?.isSome then .modernPlural else .classicalPlural
  | .classicalPlural => if r.plurals.classical?.isSome then .classicalPlural else .modernPlural
  | form => form

/-- The phrase of a derived form. -/
def phraseFor (r : CompoundRule) : NounForm → Phrase
  | .singular => r.singular
  | .plural | .modernPlural => r.plurals.modernFirst
  | .classicalPlural => r.plurals.classicalFirst

variable {prepositions : Prepositions} {resolve : Text → SimpleRule} {r r' : CompoundRule}
  {form : NounForm} {w v head : Text} {words : Filling}

/-- A derived form is the phrase for it, with the head in the form for it. -/
theorem derived_eq (r : CompoundRule) (form : NounForm) :
    (r.inflection prepositions resolve).derived form =
      r.inflect prepositions resolve (r.phraseFor form) (r.headForm form) := by
  obtain ⟨written, pattern, singular, plurals, background⟩ := r
  cases form with
  | singular | plural => rfl
  | modernPlural | classicalPlural => cases plurals <;> rfl

/-- The phrase of a derived form is one of the rule. -/
theorem phraseFor_mem (r : CompoundRule) (form : NounForm) :
    r.phraseFor form ∈ r.singular :: r.plurals.toList := by
  cases form with
  | singular => exact List.mem_cons_self
  | plural | modernPlural => exact List.mem_cons_of_mem _ (Plurals.modernFirst_mem _)
  | classicalPlural => exact List.mem_cons_of_mem _ (Plurals.classicalFirst_mem _)

/-- What a phrase is filled with after a match, where the head is a word, is what it spells. -/
theorem spells_of_render {phrase : Phrase} (hwords : ∀ word ∈ words, word.2.OneWord)
    (hhead : head.OneWord) (h : render phrase words head = .ok v) :
    ∃ words', phrase.Spells words' v ∧
      ∀ word ∈ words', List.lookup word.1 ((.head, head) :: words) = some word.2 := by
  rcases Phrase.fill_cases ((.head, head) :: words) phrase with ⟨-, hslots⟩ | ⟨s, -, -, herror⟩
  · have htable : ∀ s ∈ phrase.slots,
        ∃ u, List.lookup s ((.head, head) :: words) = some u ∧ u.OneWord := by
      intro s hs
      obtain ⟨u, hu⟩ := Option.ne_none_iff_exists'.1
        (mt Phrase.lookup_eq_none_iff.1 (not_not.2 (hslots s hs)))
      refine ⟨u, hu, ?_⟩
      rcases List.mem_cons.1 (Phrase.mem_of_lookup_eq_some hu) with heq | hmem
      · cases heq
        exact hhead
      · exact hwords _ hmem
    obtain ⟨t, words', hfill, hspells, hlookup⟩ := Phrase.exists_fill htable
    rw [render, hfill] at h
    cases h
    exact ⟨words', hspells, hlookup⟩
  · rw [render, herror] at h
    cases h

/-- A bounded pattern finds again what its phrase was filled with after the match of another rule,
the preposition included, if both rules go by the lexicon. -/
theorem isSome_match?_of_render (hr : r.background = {}) (hr' : r'.background = {})
    (hmatch : r.match? prepositions w = some words) (hbounded : r'.pattern.IsBounded)
    (hnodup : r'.pattern.slots.Nodup) (hhead : head.OneWord)
    (h : render r'.pattern words head = .ok v) : (r'.match? prepositions v).isSome = true := by
  obtain ⟨hpattern, hpreposition⟩ := Option.filter_eq_some_iff.1 hmatch
  rw [prepositionsIn_eq hr] at hpreposition
  have hspells := Phrase.spells_of_match? hpattern
  obtain ⟨words', hspells', hlookup⟩ := spells_of_render hspells.oneWord hhead h
  obtain ⟨found, hfound⟩ := Option.isSome_iff_exists.1
    (Phrase.match?_isSome_iff.2 ⟨words', hspells'⟩)
  -- the match finds the words that the phrase was filled with
  obtain rfl := (Phrase.spells_of_match? hfound).unique hbounded hspells'
  have haccepted : (!r'.hasPreposition ||
      prepositions.has ((found.lookup .preposition).getD [])) = true := by
    cases hslot : r'.hasPreposition with
    | false => rfl
    | true =>
        rw [hasPreposition, List.contains_iff_mem, ← hspells'.map_fst] at hslot
        obtain ⟨⟨_, u⟩, hmem, rfl⟩ := List.mem_map.1 hslot
        have hu : words.lookup .preposition = some u := hlookup _ hmem
        have hu' : found.lookup .preposition = some u :=
          Phrase.lookup_eq_some_of_mem (hspells'.map_fst ▸ hnodup) hmem
        have hslot' : r.hasPreposition = true := by
          rw [hasPreposition, List.contains_iff_mem, ← hspells.map_fst]
          exact List.mem_map_of_mem (Phrase.mem_of_lookup_eq_some hu)
        rw [hslot', hu] at hpreposition
        rw [hu']
        exact hpreposition
  rw [match?, hfound, prepositionsIn_eq hr', Option.filter_some, if_pos haccepted]
  rfl

end CompoundRule

namespace RuleText

/-- A pattern and a template are two written forms of one phrase. For every form without repeated
markers, the pattern matches the texts that the phrase matches; what is matched is filled again to
the text; and what is filled with words is matched. Hence, if the markers in the forms of an
accepted line are bounded, every form that a rule of the line derives from a word is matched by a
rule of the line, as long as the head in it is a word. -/
theorem readLine_closed :
    (∀ form : Text, (Phrase.ofForm form).slots.Nodup →
      ∃ p : Phrase, Phrase.ofPattern? (Phrase.ofForm form).pattern = some p ∧
        Phrase.ofTemplate? (Phrase.ofForm form).template = some p ∧
        (∃ q, Pattern.read (Phrase.ofForm form).pattern = .ok q ∧
          ∀ t, (q.fullMatch? t).isSome = (p.match? t).isSome) ∧
        (∀ t words, p.match? t = some words → p.fill words = .ok t) ∧
        ∀ words, (∀ s ∈ p.slots, ∃ w, words.lookup s = some w ∧ w.OneWord) →
          ∃ t, p.fill words = .ok t ∧ (p.match? t).isSome = true) ∧
    ∀ (line : Text) (rules : List Rule), readLine patterns line = (rules, none) →
      (∀ form ∈ compoundForms (content line), (Phrase.ofForm form).IsBounded) →
      ∀ r, .compound r ∈ rules → ∀ (lexicon : Lexicon) (w : Text) (words : Filling),
        r.match? lexicon.prepositions w = some words →
        ∀ (form : NounForm) (head v : Text),
          (lexicon.simpleRule (CompoundRule.headOf words)).inflection.form (r.headForm form)
              (CompoundRule.headOf words) = .ok head →
          head.OneWord → (lexicon.inflection (.compound r)).derived form w = .ok v →
            ∃ r' ∈ rules, (lexicon.inflection r').matches? v = true := by
  constructor
  · intro form hnodup
    have hmarked : ∀ s ∈ (Phrase.ofForm form).slots, s ∈ markedSlots :=
      fun s hs => Phrase.mem_markedSlots hs
    refine ⟨Phrase.ofForm form, Phrase.ofPattern?_pattern hmarked,
      Phrase.ofTemplate?_template hmarked, Phrase.exists_read_pattern hmarked hnodup,
      fun t words => Phrase.fill_of_match? hnodup, fun words hwords => ?_⟩
    obtain ⟨t, words', hfill, hspells, -⟩ := Phrase.exists_fill hwords
    exact ⟨t, hfill, Phrase.match?_isSome_iff.2 ⟨words', hspells⟩⟩
  · intro line rules hline hbounded r hr lexicon w words hmatch form head v hhead hone hv
    obtain ⟨spelling, hspelling, group, hgroup, hmem⟩ := (readLine_eq_ok hline).1 _ hr
    have hshare := rulesOf_shareForms hgroup
    have hderived : (lexicon.inflection (.compound r)).derived form =
        r.inflect lexicon.prepositions lexicon.simpleRule (r.phraseFor form) (r.headForm form) :=
      CompoundRule.derived_eq r form
    have hbackground := hshare.background_eq r hmem
    rw [hderived, CompoundRule.inflect_of_match? hmatch,
      CompoundRule.headRule_eq hbackground, hhead, Except.ok_bind] at hv
    -- the phrase of the derived form is the pattern of a rule of the same spelling
    have hphrase := r.phraseFor_mem form
    rw [hshare.phrases_eq r hmem] at hphrase
    obtain ⟨form', hform', hof⟩ := List.mem_map.1 hphrase
    obtain ⟨r', hr', hpattern⟩ := hshare.exists_rule form' hform'
    have hbounded' := isBounded_of_mem_spellings hline hbounded hspelling form' hform'
    rw [← hof, ← hpattern] at hv
    rw [← hpattern] at hbounded'
    have hfound := CompoundRule.isSome_match?_of_render hbackground (hshare.background_eq r' hr')
      hmatch hbounded' (hshare.isPattern r' hr').nodup hone hv
    have hsub : .compound r' ∈ rules := by
      rcases (readLine_eq_ok hline).2 spelling hspelling with hnil | ⟨group', hgroup', hsub⟩
      · rw [hnil] at hform'
        cases hform'
      · cases hgroup.symm.trans hgroup'
        exact hsub _ hr'
    exact ⟨_, hsub, hfound⟩

/-- A form with braces beside its marker, and a plural derived through the spaced variant of a
line. -/
theorem readLine_closed_hyphenated :
    (Phrase.ofForm "\x7b*\x7d (SING)").slots.Nodup ∧
      (∃ p, Phrase.ofPattern? (Phrase.ofForm "\x7b*\x7d (SING)").pattern = some p ∧
        Phrase.ofTemplate? (Phrase.ofForm "\x7b*\x7d (SING)").template = some p) ∧
      ∃ rules, readLine Pattern.read "(SING)-(PREP)-* => (PL)-(PREP)-*" = (rules, none) ∧
        ∃ r' ∈ rules, (({ prepositions := ⟨["in"]⟩ } : Lexicon).inflection r').matches?
          "mothers in law" = true := by
  have hnodup : (Phrase.ofForm "\x7b*\x7d (SING)").slots.Nodup := by decide
  obtain ⟨p, hpattern, htemplate, -⟩ :=
    (@readLine_closed Pattern.read).1 "\x7b*\x7d (SING)" hnodup
  have hline : readLine Pattern.read "(SING)-(PREP)-* => (PL)-(PREP)-*" =
      ([English.compound "(SING)-(PREP)-*", English.compound "(SING) (PREP) *"], none) := by
    decide +kernel
  have hbounded : ∀ form ∈ compoundForms (content "(SING)-(PREP)-* => (PL)-(PREP)-*"),
      (Phrase.ofForm form).IsBounded := by
    decide +kernel
  have hclosed := readLine_closed.2 _ _ hline hbounded _
    (List.mem_cons_of_mem _ List.mem_cons_self) { prepositions := ⟨["in"]⟩ } "mother in law"
    [(.head, "mother"), (.preposition, "in"), (.copied, "law")] (by decide +kernel) .modernPlural
    "mothers" "mothers in law" (by decide +kernel) (by decide) (by decide +kernel)
  exact ⟨hnodup, ⟨p, hpattern, htemplate⟩, _, hline, hclosed⟩

end RuleText

end Agreement
