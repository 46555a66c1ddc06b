import Agreement.Noun.RuleText
import Agreement.Proofs.Noun.Answers

/-!
# Slots that a compound rule cannot fill

A compound rule fills the slots of its phrases with what its pattern matched, so a slot that the
pattern lacks is left without a word. No question about a word is given up for such a slot if the
pattern has every slot of the rule's phrases (`CompoundRule.neverUnfilled_of_covers`), and only then
(`CompoundRule.covers_of_neverUnfilled`). Simple rules have no slots (`SimpleRule.neverUnfilled`).
-/

namespace Agreement

/-- An answer that was not given up for a slot without a word. -/
def SlotsFilled {α : Type} (x : Except NounError α) : Prop :=
  ∀ slot, x ≠ .error (.unfilled slot)

namespace SlotsFilled

variable {α β : Type}

/-- A success is not given up. -/
@[simp] theorem ok (a : α) : SlotsFilled (.ok a) :=
  fun _ h => by cases h

/-- A word that is refused is not given up. -/
@[simp] theorem foreign (noun rule : Text) :
    SlotsFilled (.error (.foreign noun rule) : Except NounError α) :=
  fun _ h => by cases h

/-- Two steps are not given up if neither is. -/
theorem bind_iff {x : Except NounError α} {f : α → Except NounError β} :
    SlotsFilled (x >>= f) ↔ SlotsFilled x ∧ ∀ a, x = .ok a → SlotsFilled (f a) := by
  cases x with
  | error e => simp [SlotsFilled, bind, Except.bind]
  | ok a => simp [SlotsFilled, bind, Except.bind]

end SlotsFilled

/-- No question about a word is given up for a slot without a word. -/
structure Inflection.NeverUnfilled (i : Inflection) (w : Text) : Prop where
  isSingular : SlotsFilled (i.isSingular w)
  singularize : SlotsFilled (i.singularize w)
  pluralize : SlotsFilled (i.pluralize w)
  pluralizeModern : SlotsFilled (i.pluralizeModern w)
  pluralizeClassical : SlotsFilled (i.pluralizeClassical w)

/-- If no question is given up, no form is. -/
theorem Inflection.slotsFilled_form {i : Inflection} (h : ∀ w, i.NeverUnfilled w)
    (form : NounForm) (w : Text) : SlotsFilled (i.form form w) := by
  have hasSingular : SlotsFilled (i.asSingular w) := by
    refine SlotsFilled.bind_iff.2 ⟨(h w).isSingular, fun b _ => ?_⟩
    cases b with
    | true => exact .ok w
    | false => exact (h w).singularize
  cases form with
  | singular => exact (h w).singularize
  | plural =>
      refine SlotsFilled.bind_iff.2 ⟨SlotsFilled.bind_iff.2 ⟨(h w).isSingular, fun b _ => .ok _⟩,
        ?_⟩
      rintro (_ | _) -
      · exact (h w).pluralize
      · exact .ok w
  | modernPlural =>
      exact SlotsFilled.bind_iff.2 ⟨hasSingular, fun v _ => (h v).pluralizeModern⟩
  | classicalPlural =>
      exact SlotsFilled.bind_iff.2 ⟨hasSingular, fun v _ => (h v).pluralizeClassical⟩

/-- Exchanging affixes fills no slots. -/
theorem Affix.slotsFilled_exchange (a b : Affix) (w : Text) : SlotsFilled (a.exchange b w) := by
  unfold exchange strip
  cases a.stem? w with
  | none => exact fun slot h => by cases h
  | some stem => cases stem <;> exact fun slot h => by cases h

/-- An irregular rule has no slots. -/
theorem IrregularRule.neverUnfilled (r : IrregularRule) (w : Text) :
    r.inflection.NeverUnfilled w where
  isSingular := by
    change SlotsFilled (if r.isSingularForm w then _ else if r.isPluralForm w then _ else _)
    split
    · exact .ok _
    · split <;> simp
  singularize := by
    change SlotsFilled (if r.matches? w then _ else _)
    split <;> simp
  pluralize := by
    change SlotsFilled (if r.matches? w then _ else _)
    split <;> simp
  pluralizeModern := .ok _
  pluralizeClassical := .ok _

namespace CategoricalRule

variable (r : CategoricalRule) (w : Text)

/-- Telling singular from plural fills no slots. -/
theorem slotsFilled_isSingular : SlotsFilled (r.isSingular w) := by
  unfold isSingular
  split
  · exact .ok _
  · split <;> simp

/-- Deriving the singular fills no slots. -/
theorem slotsFilled_singularize : SlotsFilled (r.singularize w) := by
  unfold singularize
  split
  · exact .ok _
  · split
    · exact Affix.slotsFilled_exchange _ _ _
    · exact .foreign _ _

/-- Deriving a plural fills no slots. -/
theorem slotsFilled_pluralizeWith (affix : Affix) : SlotsFilled (r.pluralizeWith affix w) := by
  refine SlotsFilled.bind_iff.2 ⟨r.slotsFilled_isSingular w, fun b _ => ?_⟩
  cases b with
  | true => exact Affix.slotsFilled_exchange _ _ _
  | false =>
      exact SlotsFilled.bind_iff.2
        ⟨r.slotsFilled_singularize w, fun v _ => Affix.slotsFilled_exchange _ _ _⟩

/-- A categorical rule has no slots. -/
theorem neverUnfilled : r.inflection.NeverUnfilled w where
  isSingular := r.slotsFilled_isSingular w
  singularize := r.slotsFilled_singularize w
  pluralize := by
    change SlotsFilled (r.pluralize w)
    unfold pluralize
    split
    · exact Affix.slotsFilled_exchange _ _ _
    · split <;> simp
  pluralizeModern := r.slotsFilled_pluralizeWith w _
  pluralizeClassical := r.slotsFilled_pluralizeWith w _

end CategoricalRule

/-- Simple rules have no slots. -/
theorem SimpleRule.neverUnfilled (r : SimpleRule) (w : Text) : r.inflection.NeverUnfilled w := by
  cases r with
  | default => constructor <;> exact .ok _
  | irregular r => exact r.neverUnfilled w
  | categorical r => exact r.neverUnfilled w

namespace Plurals

variable {α : Type} {plurals : Plurals α} {a : α}

/-- The modern plural, or else the classical one, is there. -/
theorem modernFirst_mem (plurals : Plurals α) : plurals.modernFirst ∈ plurals.toList := by
  cases plurals <;> simp [modernFirst, toList]

/-- The classical plural, or else the modern one, is there. -/
theorem classicalFirst_mem (plurals : Plurals α) : plurals.classicalFirst ∈ plurals.toList := by
  cases plurals <;> simp [classicalFirst, toList]

/-- A modern plural is there. -/
theorem mem_of_modern? (h : plurals.modern? = some a) : a ∈ plurals.toList := by
  cases plurals <;> simp_all [modern?, toList]

/-- A classical plural is there. -/
theorem mem_of_classical? (h : plurals.classical? = some a) : a ∈ plurals.toList := by
  cases plurals <;> simp_all [classical?, toList]

/-- A plural that is there is the modern or the classical one. -/
theorem modern?_or_classical? (h : a ∈ plurals.toList) :
    plurals.modern? = some a ∨ plurals.classical? = some a := by
  cases plurals <;> simp_all [modern?, classical?, toList, eq_comm]

end Plurals

namespace CompoundRule

variable {prepositions : Prepositions} {resolve : Text → SimpleRule} {r : CompoundRule}
  {phrase : Phrase} {form : NounForm} {w : Text} {words : Filling}

/-- A phrase is filled if each of its slots is one of the pattern. -/
theorem slotsFilled_render_iff (hhead : .head ∈ r.pattern.slots)
    (h : r.match? prepositions w = some words) (head : Text) :
    SlotsFilled (render phrase words head) ↔ ∀ s ∈ phrase.slots, s ∈ r.pattern.slots := by
  have hkeys (s : Slot) : s ∈ ((.head, head) :: words : Filling).map Prod.fst ↔
      s ∈ r.pattern.slots := by
    rw [List.map_cons, (spells_of_match? h).map_fst, List.mem_cons]
    exact or_iff_right_of_imp fun heq => heq ▸ hhead
  rcases Phrase.fill_cases ((.head, head) :: words) phrase with ⟨⟨t, ht⟩, hall⟩ | ⟨s, hs, hnot, he⟩
  · rw [render, ht]
    exact iff_of_true (.ok t) fun s hs => (hkeys s).1 (hall s hs)
  · rw [render, he]
    exact iff_of_false (fun hfilled => hfilled _ rfl) fun hall => hnot ((hkeys s).2 (hall s hs))

/-- A form is given if each slot of its phrase is one of the pattern. -/
theorem slotsFilled_inflect (hhead : .head ∈ r.pattern.slots)
    (h : r.match? prepositions w = some words) (hcover : ∀ s ∈ phrase.slots, s ∈ r.pattern.slots) :
    SlotsFilled (r.inflect prepositions resolve phrase form w) := by
  rw [inflect_of_match? h]
  refine SlotsFilled.bind_iff.2 ⟨?_, fun head _ => (slotsFilled_render_iff hhead h head).2 hcover⟩
  exact Inflection.slotsFilled_form (r.headRule resolve _).neverUnfilled form _

/-- A form is given up if its head has the form and a slot of its phrase is none of the pattern. -/
theorem not_slotsFilled_inflect (hhead : .head ∈ r.pattern.slots)
    (h : r.match? prepositions w = some words) {head : Text}
    (hform : (r.headRule resolve (headOf words)).inflection.form form (headOf words) = .ok head)
    {s : Slot} (hs : s ∈ phrase.slots) (hnot : s ∉ r.pattern.slots) :
    ¬ SlotsFilled (r.inflect prepositions resolve phrase form w) := by
  rw [inflect_of_match? h]
  intro hfilled
  have hrender := (SlotsFilled.bind_iff.1 hfilled).2 head hform
  exact hnot ((slotsFilled_render_iff hhead h head).1 hrender s hs)

/-- No question is given up if every slot of the rule's phrases is one of the pattern. -/
theorem neverUnfilled_of_covers (hhead : .head ∈ r.pattern.slots)
    (hcover : ∀ phrase ∈ r.singular :: r.plurals.toList, ∀ s ∈ phrase.slots, s ∈ r.pattern.slots)
    (h : r.match? prepositions w = some words) :
    (r.inflection prepositions resolve).NeverUnfilled w := by
  have hinflect {phrase : Phrase} (hmem : phrase ∈ r.plurals.toList) (form : NounForm) :
      SlotsFilled (r.inflect prepositions resolve phrase form w) :=
    slotsFilled_inflect hhead h (hcover phrase (List.mem_cons_of_mem _ hmem))
  constructor
  · refine SlotsFilled.bind_iff.2
      ⟨?_, fun words _ => ((r.headRule resolve _).neverUnfilled _).isSingular⟩
    rw [parts, h]
    exact .ok words
  · exact slotsFilled_inflect hhead h (hcover _ List.mem_cons_self)
  · exact hinflect (Plurals.modernFirst_mem _) _
  · unfold inflection
    dsimp only
    cases hphrase : r.plurals.modern? with
    | none => exact hinflect (Plurals.classicalFirst_mem _) _
    | some phrase => exact hinflect (Plurals.mem_of_modern? hphrase) _
  · unfold inflection
    dsimp only
    cases hphrase : r.plurals.classical? with
    | none => exact hinflect (Plurals.modernFirst_mem _) _
    | some phrase => exact hinflect (Plurals.mem_of_classical? hphrase) _

/-- Every rule that goes by the lexicon matches some word, with suitable prepositions. -/
theorem exists_match? (hbackground : r.background = {}) :
    ∃ prepositions w words, r.match? prepositions w = some words := by
  obtain ⟨filling, w, hspells⟩ := r.pattern.exists_spells
  obtain ⟨words, hwords⟩ := Option.isSome_iff_exists.1 (Phrase.match?_isSome_iff.2 ⟨_, hspells⟩)
  have hspells := Phrase.spells_of_match? hwords
  refine ⟨⟨[((words.lookup .preposition).getD []).lower]⟩, w, words,
    Option.filter_eq_some_iff.2 ⟨hwords, ?_⟩⟩
  cases hpreposition : r.hasPreposition with
  | false => rfl
  | true =>
      rw [hasPreposition, List.contains_iff_mem, ← hspells.map_fst] at hpreposition
      cases hlookup : words.lookup .preposition with
      | none => exact absurd hpreposition (Phrase.lookup_eq_none_iff.1 hlookup)
      | some preposition =>
          have hne : preposition ≠ [] :=
            (hspells.oneWord _ (Phrase.mem_of_lookup_eq_some hlookup)).ne_nil
          simp [prepositionsIn_eq hbackground, Prepositions.has, hne]

/-- A slot that is none of the pattern is left without a word, in some lexicon and for some word. -/
theorem covers_of_neverUnfilled (hbackground : r.background = {})
    (hhead : .head ∈ r.pattern.slots)
    (h : ∀ (lexicon : Lexicon) (w : Text), (lexicon.inflection (.compound r)).matches? w = true →
      (lexicon.inflection (.compound r)).NeverUnfilled w) :
    ∀ phrase ∈ r.singular :: r.plurals.toList, ∀ s ∈ phrase.slots, s ∈ r.pattern.slots := by
  intro phrase hphrase s hs
  by_contra hnot
  obtain ⟨prepositions, w, words, hmatch⟩ := exists_match? hbackground
  -- without other rules the head has the default rule, which gives every form
  have hunfilled (form : NounForm) : ¬ SlotsFilled
      (r.inflect prepositions ({ prepositions } : Lexicon).simpleRule phrase form w) := by
    obtain ⟨head, hform⟩ := (SimpleRule.answers_default (headOf words)).form form
    have hheadForm : (r.headRule ({ prepositions } : Lexicon).simpleRule
        (headOf words)).inflection.form form (headOf words) = .ok head := by
      rw [headRule_eq hbackground]
      exact hform
    exact not_slotsFilled_inflect hhead hmatch hheadForm hs hnot
  have hnever := h { prepositions } w (Option.isSome_iff_exists.2 ⟨words, hmatch⟩)
  rcases List.mem_cons.1 hphrase with rfl | hplural
  · exact hunfilled _ hnever.singularize
  · rcases Plurals.modern?_or_classical? hplural with hmodern | hclassical
    · refine hunfilled .modernPlural ?_
      have hgiven := hnever.pluralizeModern
      simpa only [Lexicon.inflection, Rule.inflection, inflection, hmodern] using hgiven
    · refine hunfilled .classicalPlural ?_
      have hgiven := hnever.pluralizeClassical
      simpa only [Lexicon.inflection, Rule.inflection, inflection, hclassical] using hgiven

end CompoundRule

end Agreement
