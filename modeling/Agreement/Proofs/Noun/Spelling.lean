import Agreement.Noun.Rule
import Mathlib.Data.List.TakeWhile
import Mathlib.Tactic.Common

/-!
# Phrases and the texts they spell

`Phrase.Spells` says which text a phrase makes with a word in each slot, whatever the order in which
a match is searched. A match is such a reading of the text (`spells_of_match?`), and one is found if
there is any (`match?_isSome_iff`). A slot in front of a character that belongs to no word has only
one reading (`match?_slot_char`). Filling a phrase fails at a slot without a word, and only there
(`fill_cases`).
-/

namespace Agreement

/-- A text is one word: word characters, at least one. -/
structure Text.OneWord (w : Text) : Prop where
  ne_nil : w ≠ []
  isWord_of_mem : ∀ c ∈ w, isWord c = true

instance (w : Text) : Decidable w.OneWord :=
  decidable_of_iff (w ≠ [] ∧ w.all isWord = true)
    ⟨fun h => ⟨h.1, List.all_eq_true.1 h.2⟩, fun h => ⟨h.1, List.all_eq_true.2 h.2⟩⟩

/-- A word has a first character. -/
theorem Text.OneWord.exists_length_eq {w : Text} (hw : w.OneWord) : ∃ n, w.length = n + 1 :=
  Nat.exists_eq_succ_of_ne_zero (mt List.length_eq_zero_iff.1 hw.ne_nil)

/-- A character that belongs to no word is in none. -/
theorem Text.OneWord.not_mem {w : Text} (hw : w.OneWord) {c : Char} (hc : isWord c = false) :
    c ∉ w := by
  intro hmem
  rw [hw.isWord_of_mem c hmem] at hc
  cases hc

/-- Word characters in front of a word make a word. -/
theorem Text.OneWord.append_left {stem w : Text} (hw : w.OneWord)
    (hstem : ∀ c ∈ stem, isWord c = true) : OneWord (stem ++ w) := by
  refine ⟨by simp [hw.ne_nil], fun c hc => ?_⟩
  rcases List.mem_append.1 hc with hc | hc
  · exact hstem c hc
  · exact hw.isWord_of_mem c hc

/-- A word at the start of a text goes on with what follows. -/
theorem Text.OneWord.firstWord_append {w : Text} (hw : w.OneWord) (rest : Text) :
    firstWord (w ++ rest) = w ++ firstWord rest :=
  List.takeWhile_append_of_pos hw.isWord_of_mem

/-- A word is the first word in front of a character that belongs to none. -/
theorem Text.OneWord.firstWord_append_cons {w : Text} (hw : w.OneWord) {c : Char}
    (hc : isWord c = false) (rest : Text) : firstWord (w ++ c :: rest) = w := by
  rw [hw.firstWord_append, firstWord, List.takeWhile_cons_of_neg (by simp [hc]), List.append_nil]

/-- A word without one of its suffixes is a word, unless it is the suffix. -/
theorem Text.OneWord.take_of_isSuffixOf {w suffix : Text} (hw : w.OneWord)
    (h : suffix.isSuffixOf w = true) (hne : w ≠ suffix) :
    OneWord (w.take (w.length - suffix.length)) := by
  obtain ⟨t, rfl⟩ := List.isSuffixOf_iff_suffix.1 h
  rw [List.length_append, Nat.add_sub_cancel, List.take_left]
  refine ⟨fun ht => hne ?_, fun c hc => hw.isWord_of_mem c (List.mem_append_left _ hc)⟩
  rw [ht, List.nil_append]

/-- What stands in the first word of a text, from its start on, is one word. -/
theorem Text.oneWord_take {t : Text} {n : Nat} (h : n < (firstWord t).length) :
    OneWord (t.take (n + 1)) := by
  obtain ⟨rest, hrest⟩ := (List.takeWhile_prefix isWord : firstWord t <+: t)
  have htake : t.take (n + 1) = (firstWord t).take (n + 1) := by
    conv_lhs => rw [← hrest]
    exact List.take_append_of_le_length h
  rw [htake]
  refine ⟨fun hnil => ?_, fun c hc => List.mem_takeWhile_imp (List.mem_of_mem_take hc)⟩
  have hlength := congrArg List.length hnil
  rw [List.length_take, List.length_nil] at hlength
  omega

namespace Phrase

/-- A phrase with words in its slots, from left to right, is a text. -/
inductive Spells : Phrase → Filling → Text → Prop
  | nil : Spells [] [] []
  | char {p : Phrase} {words : Filling} {t : Text} (c : Char) :
    Spells p words t → Spells (.char c :: p) words (c :: t)
  | slot {p : Phrase} {words : Filling} {t : Text} (s : Slot) {w : Text} :
    w.OneWord → Spells p words t → Spells (.slot s :: p) ((s, w) :: words) (w ++ t)

variable {p : Phrase} {words : Filling} {t : Text}

/-- The words are those of the slots, in order. -/
theorem Spells.map_fst (h : p.Spells words t) : words.map Prod.fst = p.slots := by
  induction h with
  | nil => rfl
  | char c h ih => exact ih
  | slot s hw h ih => exact congrArg (s :: ·) ih

/-- The text in each slot is one word. -/
theorem Spells.oneWord (h : p.Spells words t) : ∀ word ∈ words, word.2.OneWord := by
  induction h with
  | nil => exact fun word hmem => absurd hmem List.not_mem_nil
  | char c h ih => exact ih
  | slot s hw h ih =>
      intro word hmem
      rcases List.mem_cons.1 hmem with rfl | hmem
      · exact hw
      · exact ih word hmem

/-- A slot is matched by word characters in front of a match of the rest. -/
theorem match?_slot_eq_some {s : Slot} (h : match? (.slot s :: p) t = some words) :
    ∃ w rest words', w.OneWord ∧ t = w ++ rest ∧ match? p rest = some words' ∧
      words = (s, w) :: words' := by
  obtain ⟨n, hn, hmatch⟩ := List.exists_of_findSome?_eq_some h
  obtain ⟨words', hwords', rfl⟩ := Option.map_eq_some_iff.1 hmatch
  have hlt : n < (firstWord t).length := by simpa using hn
  exact ⟨_, _, words', Text.oneWord_take hlt, (List.take_append_drop _ t).symm, hwords', rfl⟩

/-- A match spells the text. -/
theorem spells_of_match? (h : p.match? t = some words) : p.Spells words t := by
  induction p generalizing t words with
  | nil =>
      rw [match?] at h
      split at h
      · next ht => cases h; exact ht ▸ .nil
      · cases h
  | cons piece p ih =>
      cases piece with
      | char c =>
          cases t with
          | nil => cases h
          | cons d rest =>
              rw [match?] at h
              split at h
              · next hcd => exact hcd ▸ .char c (ih h)
              · cases h
      | slot s =>
          obtain ⟨w, rest, words', hw, rfl, hmatch, rfl⟩ := match?_slot_eq_some h
          exact .slot s hw (ih hmatch)

/-- A text has a match if the phrase spells it in any way. -/
theorem match?_isSome_iff : (p.match? t).isSome ↔ ∃ words, p.Spells words t := by
  constructor
  · intro h
    obtain ⟨words, hmatch⟩ := Option.isSome_iff_exists.1 h
    exact ⟨words, spells_of_match? hmatch⟩
  · rintro ⟨words, h⟩
    induction h with
    | nil => rfl
    | char c h ih => rwa [match?, if_pos rfl]
    | @slot p words rest s w hw h ih =>
        rw [match?, List.findSome?_isSome_iff]
        have hpos := List.length_pos_iff.2 hw.ne_nil
        refine ⟨w.length - 1, ?_, ?_⟩
        · rw [List.mem_reverse, List.mem_range, hw.firstWord_append, List.length_append]
          omega
        · rwa [Nat.sub_add_cancel hpos, List.drop_left, Option.isSome_map]

/-- A phrase spells some text. -/
theorem exists_spells (p : Phrase) : ∃ words t, p.Spells words t := by
  induction p with
  | nil => exact ⟨[], [], .nil⟩
  | cons piece p ih =>
      obtain ⟨words, t, h⟩ := ih
      cases piece with
      | char c => exact ⟨words, c :: t, .char c h⟩
      | slot s => exact ⟨_, _, .slot s (w := ['a']) (by decide) h⟩

/-- A slot in front of a character that belongs to no word is matched by one word only. -/
theorem match?_slot_char {s : Slot} {c : Char} {w rest : Text} (hw : w.OneWord)
    (hc : isWord c = false) :
    match? (.slot s :: .char c :: p) (w ++ c :: rest) = (match? p rest).map ((s, w) :: ·) := by
  obtain ⟨k, hk⟩ := hw.exists_length_eq
  -- a shorter word leaves a word character in front of the rest
  have hshorter : ∀ n ∈ (List.range k).reverse,
      (match? (.char c :: p) ((w ++ c :: rest).drop (n + 1))).map
        ((s, (w ++ c :: rest).take (n + 1)) :: ·) = none := by
    intro n hn
    have hlt : n + 1 < w.length := by
      rw [List.mem_reverse, List.mem_range] at hn
      omega
    have hne : c ≠ w[n + 1] := fun heq => hw.not_mem hc (heq ▸ List.getElem_mem hlt)
    rw [List.drop_append_of_le_length (Nat.le_of_lt hlt), List.drop_eq_getElem_cons hlt,
      List.cons_append, match?, if_neg hne]
    rfl
  rw [match?, hw.firstWord_append_cons hc, hk, List.range_succ, List.reverse_append,
    List.reverse_singleton, List.singleton_append, List.findSome?_cons,
    List.findSome?_eq_none_iff.2 hshorter, ← hk, List.drop_left, List.take_left, match?, if_pos rfl]
  cases match? p rest <;> rfl

/-- A slot in front of a character is not matched by a word that another one follows. -/
theorem match?_slot_char_of_ne {s : Slot} {c d : Char} {w rest : Text} (hw : w.OneWord)
    (hc : isWord c = false) (hd : isWord d = false) (hne : d ≠ c) :
    match? (.slot s :: .char c :: p) (w ++ d :: rest) = none := by
  refine Option.eq_none_iff_forall_ne_some.2 fun words hmatch => ?_
  obtain ⟨v, t, words', hv, heq, hchar, -⟩ := match?_slot_eq_some hmatch
  obtain ⟨t', rfl⟩ : ∃ t', t = c :: t' := by
    cases spells_of_match? hchar with
    | char c h => exact ⟨_, rfl⟩
  -- both readings end the first word of the text, with different characters behind it
  have hfirst : w = v := by
    rw [← hw.firstWord_append_cons hd rest, heq, hv.firstWord_append_cons hc]
  rw [hfirst, List.append_cancel_left_eq] at heq
  exact hne (List.cons.inj heq).1

/-- A slot at the end of a phrase is matched by any word. -/
theorem match?_slot_nil {s : Slot} {w : Text} (hw : w.OneWord) :
    match? [.slot s] w = some [(s, w)] := by
  have hfirst : firstWord w = w := by
    simpa [firstWord] using hw.firstWord_append []
  obtain ⟨k, hk⟩ := hw.exists_length_eq
  rw [match?, hfirst, hk, List.range_succ, List.reverse_append, List.reverse_singleton,
    List.singleton_append, List.findSome?_cons, ← hk, List.drop_length, List.take_length]
  rfl

/-- A slot needs a word. -/
theorem match?_slot_eq_none {s : Slot} {c : Char} {rest : Text} (hc : isWord c = false) :
    match? (.slot s :: p) (c :: rest) = none := by
  rw [match?, firstWord, List.takeWhile_cons_of_neg (by simp [hc])]
  rfl

/-- A phrase without slots spells only its characters. -/
theorem Spells.eq_of_chars {u : Text} (h : Spells (t.map .char) words u) : u = t := by
  induction t generalizing u words with
  | nil => cases h; rfl
  | cons c t ih =>
      cases h with
      | char c h => exact congrArg (c :: ·) (ih h)

/-- A slot has no word if it is not among the slots of the words. -/
theorem lookup_eq_none_iff {words : Filling} {s : Slot} :
    words.lookup s = none ↔ s ∉ words.map Prod.fst := by
  rw [List.lookup_eq_none_iff]
  simp only [List.mem_map, not_exists, not_and, bne_iff_ne]
  exact forall₂_congr fun _ _ => ne_comm

/-- The word that a slot is looked up to is the word of the slot. -/
theorem mem_of_lookup_eq_some {words : Filling} {s : Slot} {w : Text}
    (h : words.lookup s = some w) : (s, w) ∈ words := by
  obtain ⟨before, after, rfl, -⟩ := List.lookup_eq_some_iff.1 h
  simp

/-- Filling a phrase fails at a slot without a word, and only there. -/
theorem fill_cases (words : Filling) (p : Phrase) :
    ((∃ t, fill words p = .ok t) ∧ ∀ s ∈ p.slots, s ∈ words.map Prod.fst) ∨
      ∃ s ∈ p.slots, s ∉ words.map Prod.fst ∧ fill words p = .error (.unfilled s.name) := by
  induction p with
  | nil => exact .inl ⟨⟨[], rfl⟩, fun s hs => absurd hs List.not_mem_nil⟩
  | cons piece p ih =>
      cases piece with
      | char c =>
          rcases ih with ⟨⟨t, ht⟩, hmem⟩ | ⟨s, hs, hnot, herror⟩
          · exact .inl ⟨⟨c :: t, by rw [fill, ht]; rfl⟩, hmem⟩
          · exact .inr ⟨s, hs, hnot, by rw [fill, herror]; rfl⟩
      | slot s =>
          cases hlookup : words.lookup s with
          | none =>
              refine .inr ⟨s, List.mem_cons_self, lookup_eq_none_iff.1 hlookup, ?_⟩
              rw [fill, hlookup]
          | some w =>
              have hmem : s ∈ words.map Prod.fst := by
                by_contra hnot
                rw [lookup_eq_none_iff.2 hnot] at hlookup
                cases hlookup
              rcases ih with ⟨⟨t, ht⟩, hall⟩ | ⟨s', hs', hnot, herror⟩
              · refine .inl ⟨⟨w ++ t, by rw [fill, hlookup, ht]; rfl⟩, fun s' hs' => ?_⟩
                rcases List.mem_cons.1 hs' with rfl | hs'
                · exact hmem
                · exact hall s' hs'
              · refine .inr ⟨s', List.mem_cons_of_mem _ hs', hnot, ?_⟩
                rw [fill, hlookup, herror]
                rfl

/-- A phrase is filled as it is spelled by words that its slots are looked up to. -/
theorem Spells.fill_eq {p : Phrase} {words : Filling} {t : Text} (h : p.Spells words t)
    {table : Filling} (htable : ∀ word ∈ words, table.lookup word.1 = some word.2) :
    fill table p = .ok t := by
  induction h with
  | nil => rfl
  | char c h ih => rw [fill, ih htable]; rfl
  | slot s hw h ih =>
      have hs := htable _ List.mem_cons_self
      rw [fill, hs, ih fun word hmem => htable word (List.mem_cons_of_mem _ hmem)]
      rfl

/-- Where each slot occurs once, a slot is looked up to its word. -/
theorem lookup_eq_some_of_mem {words : Filling} (h : (words.map Prod.fst).Nodup)
    {word : Slot × Text} (hmem : word ∈ words) : words.lookup word.1 = some word.2 := by
  induction words with
  | nil => cases hmem
  | cons first words ih =>
      rw [List.map_cons, List.nodup_cons] at h
      rcases List.mem_cons.1 hmem with rfl | hmem
      · exact List.lookup_cons_self
      · have hne : word.1 ≠ first.1 := by
          intro heq
          exact h.1 (heq ▸ List.mem_map_of_mem hmem)
        rw [List.lookup_cons, beq_eq_false_iff_ne.2 hne, ih h.2 hmem]

end Phrase

namespace CompoundRule

variable {prepositions : Prepositions} {resolve : Text → SimpleRule} {r : CompoundRule}
  {phrase : Phrase} {form : NounForm} {w : Text} {words : Filling}

/-- What a rule matches spells the word. -/
theorem spells_of_match? (h : r.match? prepositions w = some words) : r.pattern.Spells words w :=
  Phrase.spells_of_match? (Option.filter_eq_some_iff.1 h).1

/-- There is no form of a word that does not match. -/
theorem inflect_eq_error (h : r.match? prepositions w = none) :
    r.inflect prepositions resolve phrase form w = .error (.foreign w r.describe) := by
  rw [inflect, parts, h]
  rfl

/-- A form of a word that matches is the phrase with the form of the head. -/
theorem inflect_of_match? (h : r.match? prepositions w = some words) :
    r.inflect prepositions resolve phrase form w =
      (r.headRule resolve (headOf words)).inflection.form form (headOf words) >>=
        render phrase words := by
  rw [inflect, parts, h]
  rfl

end CompoundRule

end Agreement
