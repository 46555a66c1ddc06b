import Agreement.Proofs.Noun.Spelling
import Agreement.Proofs.Success

/-!
# Rules that answer every question

A rule answers for a word if it tells singular from plural and gives each form of the noun. The
default rule answers for every word (`SimpleRule.answers_default`) and inflects the last word of a
text (`SimpleRule.defaultForm_append`), and an irregular rule answers for each word that it matches
(`IrregularRule.answers`). A categorical rule does so too if its affixes are a family
(`CategoricalRule.IsFamily.answers`): then every affix goes with every stem of another, and the rule
accepts each form that it derives. The singular of a word is a word again, except for the words "s"
and "ses", of which the default rule leaves nothing (`SimpleRule.exists_asSingular_default`).
-/

namespace Agreement

/-- A rule answers every question about a noun. -/
structure Inflection.Answers (i : Inflection) (w : Text) : Prop where
  isSingular : ∃ b, i.isSingular w = .ok b
  form : ∀ form, ∃ v, i.form form w = .ok v

namespace Inflection

variable {i : Inflection} {w v : Text}

/-- A word is plural if it is not singular. -/
theorem isPlural_eq {b : Bool} (h : i.isSingular w = .ok b) : i.isPlural w = .ok !b := by
  rw [isPlural, h]
  rfl

/-- A word that is singular is its own singular. -/
theorem asSingular_of_singular (h : i.isSingular w = .ok true) : i.asSingular w = .ok w := by
  rw [asSingular, h]
  rfl

/-- The singular of a plural is derived. -/
theorem asSingular_of_plural (h : i.isSingular w = .ok false) :
    i.asSingular w = i.singularize w := by
  rw [asSingular, h]
  rfl

/-- The plural of a singular is derived. -/
theorem plural_of_singular (h : i.isSingular w = .ok true) : i.plural w = i.pluralize w := by
  rw [plural, isPlural_eq h]
  rfl

/-- A plural stays as it is. -/
theorem plural_of_plural (h : i.isSingular w = .ok false) : i.plural w = .ok w := by
  rw [plural, isPlural_eq h]
  rfl

/-- The modern plural is derived from the singular. -/
theorem modernPlural_of_asSingular (h : i.asSingular w = .ok v) :
    i.modernPlural w = i.pluralizeModern v := by
  rw [modernPlural, h]
  rfl

/-- The classical plural is derived from the singular. -/
theorem classicalPlural_of_asSingular (h : i.asSingular w = .ok v) :
    i.classicalPlural w = i.pluralizeClassical v := by
  rw [classicalPlural, h]
  rfl

/-- A rule answers for a word if it tells its number, and derives the plurals that are asked of the
word or of its singular. -/
theorem Answers.of_singular {b : Bool} (hb : i.isSingular w = .ok b)
    (hsingular : ∃ u, i.singularize w = .ok u) (hplural : ∃ u, i.plural w = .ok u)
    (hv : i.asSingular w = .ok v) (hmodern : ∃ u, i.pluralizeModern v = .ok u)
    (hclassical : ∃ u, i.pluralizeClassical v = .ok u) : i.Answers w where
  isSingular := ⟨b, hb⟩
  form form := by
    cases form with
    | singular => exact hsingular
    | plural => exact hplural
    | modernPlural => rwa [Inflection.form, modernPlural_of_asSingular hv]
    | classicalPlural => rwa [Inflection.form, classicalPlural_of_asSingular hv]

end Inflection

/-- The default rule leaves a singular as it is. -/
theorem SimpleRule.defaultSingular_of_singular {w : Text}
    (h : ("s" : Text).isSuffixOf w = false) : defaultSingular w = w := by
  have hses : ("ses" : Text).isSuffixOf w ≠ true := by
    intro hses
    have hs : ("s" : Text) <:+ w :=
      (List.suffix_append ['s', 'e'] ['s']).trans (List.isSuffixOf_iff_suffix.1 hses)
    rw [List.isSuffixOf_iff_suffix.2 hs] at h
    cases h
  rw [defaultSingular, if_neg hses, if_neg (Bool.eq_false_iff.1 h)]

/-- The default rule makes every word singular. -/
theorem SimpleRule.asSingular_default (w : Text) :
    SimpleRule.default.inflection.asSingular w = .ok (defaultSingular w) := by
  have hb : SimpleRule.default.inflection.isSingular w = .ok (!("s" : Text).isSuffixOf w) := rfl
  cases h : ("s" : Text).isSuffixOf w with
  | true =>
      rw [h] at hb
      exact Inflection.asSingular_of_plural hb
  | false =>
      rw [h] at hb
      rw [Inflection.asSingular_of_singular hb, defaultSingular_of_singular h]

/-- A form of a word by the default rule. -/
def SimpleRule.defaultForm (w : Text) : NounForm → Text
  | .singular => defaultSingular w
  | .plural => if ("s" : Text).isSuffixOf w then w else defaultPlural w
  | .modernPlural => defaultPlural (defaultSingular w)
  | .classicalPlural => defaultPlural (defaultSingular w)

/-- The default rule gives each form of every word. -/
theorem SimpleRule.form_default (form : NounForm) (w : Text) :
    SimpleRule.default.inflection.form form w = .ok (defaultForm w form) := by
  cases form with
  | singular => rfl
  | plural =>
      show SimpleRule.default.inflection.plural w = .ok (if _ then w else defaultPlural w)
      cases h : ("s" : Text).isSuffixOf w with
      | true => exact Inflection.plural_of_plural (congrArg (fun s => Except.ok (!s)) h)
      | false => exact Inflection.plural_of_singular (congrArg (fun s => Except.ok (!s)) h)
  | modernPlural => exact Inflection.modernPlural_of_asSingular (asSingular_default w)
  | classicalPlural => exact Inflection.classicalPlural_of_asSingular (asSingular_default w)

/-- The default rule answers for every word. -/
theorem SimpleRule.answers_default (w : Text) : SimpleRule.default.inflection.Answers w where
  isSingular := ⟨_, rfl⟩
  form form := ⟨_, form_default form w⟩

/-- The default rule leaves a word of every word but "s" and "ses". -/
theorem SimpleRule.oneWord_defaultSingular {w : Text} (hw : w.OneWord) (hs : w ≠ "s")
    (hses : w ≠ "ses") : (defaultSingular w).OneWord := by
  unfold defaultSingular
  split
  · next h => exact hw.take_of_isSuffixOf h hses
  · split
    · next h => exact hw.take_of_isSuffixOf h hs
    · exact hw

/-- The singular that the default rule gives for any word but "s" and "ses" is a word. -/
theorem SimpleRule.exists_asSingular_default {w : Text} (hw : w.OneWord) (hs : w ≠ "s")
    (hses : w ≠ "ses") : ∃ v, SimpleRule.default.inflection.asSingular w = .ok v ∧ v.OneWord :=
  ⟨_, asSingular_default w, oneWord_defaultSingular hw hs hses⟩

section Append

variable {c : Char} (t w : Text)

/-- A suffix that does not have a character is found behind the character. -/
theorem Text.isSuffixOf_append_cons {suffix : Text} (hc : c ∉ suffix) :
    suffix.isSuffixOf (t ++ c :: w) = suffix.isSuffixOf w := by
  rw [Bool.eq_iff_iff, List.isSuffixOf_iff_suffix, List.isSuffixOf_iff_suffix]
  constructor
  · intro h
    rcases List.suffix_or_suffix_of_suffix h (List.suffix_append t (c :: w)) with h | h
    · rcases List.suffix_cons_iff.1 h with rfl | h
      · exact absurd List.mem_cons_self hc
      · exact h
    · exact absurd (h.subset List.mem_cons_self) hc
  · exact fun h => h.trans ((List.suffix_cons c w).trans (List.suffix_append t _))

/-- What is dropped at the end of a word is dropped at the end of a text with the word. -/
theorem Text.take_append_cons {n : Nat} (h : n ≤ w.length) :
    (t ++ c :: w).take ((t ++ c :: w).length - n) = t ++ c :: w.take (w.length - n) := by
  have hlength : (t ++ c :: w).length - n = t.length + (w.length - n + 1) := by
    rw [List.length_append, List.length_cons]
    omega
  rw [hlength, List.take_length_add_append, List.take_succ_cons]

variable (hc : isWord c = false)
include hc

/-- A text is plural for the default rule if its last word is. -/
theorem SimpleRule.isSuffixOf_append_cons :
    ("s" : Text).isSuffixOf (t ++ c :: w) = ("s" : Text).isSuffixOf w :=
  Text.isSuffixOf_append_cons t w (Text.OneWord.not_mem (by decide) hc)

/-- The singular by the default rule is that of the last word. -/
theorem SimpleRule.defaultSingular_append :
    defaultSingular (t ++ c :: w) = t ++ c :: defaultSingular w := by
  rw [defaultSingular, Text.isSuffixOf_append_cons t w (Text.OneWord.not_mem (by decide) hc),
    isSuffixOf_append_cons t w hc, defaultSingular]
  split
  · next h => exact Text.take_append_cons t w (List.isSuffixOf_iff_suffix.1 h).length_le
  · split
    · next h => exact Text.take_append_cons t w (List.isSuffixOf_iff_suffix.1 h).length_le
    · rfl

/-- The plural by the default rule is that of the last word. -/
theorem SimpleRule.defaultPlural_append :
    defaultPlural (t ++ c :: w) = t ++ c :: defaultPlural w := by
  rw [defaultPlural, isSuffixOf_append_cons t w hc, defaultPlural]
  split <;> simp

/-- The default rule inflects the last word of a text. -/
theorem SimpleRule.defaultForm_append (form : NounForm) :
    defaultForm (t ++ c :: w) form = t ++ c :: defaultForm w form := by
  have hplural : defaultPlural (defaultSingular (t ++ c :: w)) =
      t ++ c :: defaultPlural (defaultSingular w) := by
    rw [defaultSingular_append t w hc, defaultPlural_append t _ hc]
  cases form with
  | singular => exact defaultSingular_append t w hc
  | plural =>
      rw [defaultForm, isSuffixOf_append_cons t w hc, defaultPlural_append t w hc, defaultForm]
      split <;> rfl
  | modernPlural => exact hplural
  | classicalPlural => exact hplural

end Append

/-- An irregular rule answers for every word that it matches. -/
theorem IrregularRule.answers {r : IrregularRule} {w : Text} (h : r.matches? w = true) :
    r.inflection.Answers w := by
  have hsingular : r.inflection.singularize w = .ok r.singular := if_pos h
  cases hs : r.isSingularForm w with
  | true =>
      have hb : r.inflection.isSingular w = .ok true := if_pos hs
      have hplural : r.inflection.pluralize w = .ok r.preferred := if_pos h
      exact .of_singular hb ⟨_, hsingular⟩ ⟨_, (Inflection.plural_of_singular hb).trans hplural⟩
        (Inflection.asSingular_of_singular hb) ⟨_, rfl⟩ ⟨_, rfl⟩
  | false =>
      have hp : r.isPluralForm w = true := by simpa [matches?, hs] using h
      have hb : r.inflection.isSingular w = .ok false := by simp [inflection, hs, hp]
      exact .of_singular hb ⟨_, hsingular⟩ ⟨w, Inflection.plural_of_plural hb⟩
        ((Inflection.asSingular_of_plural hb).trans hsingular) ⟨_, rfl⟩ ⟨_, rfl⟩

/-- The singular that an irregular rule gives for a word is the word itself or its own singular. -/
theorem IrregularRule.exists_asSingular {r : IrregularRule} {w : Text} (h : r.matches? w = true)
    (hsingular : r.singular.OneWord) (hw : w.OneWord) :
    ∃ v, r.inflection.asSingular w = .ok v ∧ v.OneWord := by
  obtain ⟨b, hb⟩ := (IrregularRule.answers h).isSingular
  cases b with
  | true => exact ⟨w, Inflection.asSingular_of_singular hb, hw⟩
  | false => exact ⟨r.singular, (Inflection.asSingular_of_plural hb).trans (if_pos h), hsingular⟩

namespace Affix

/-- A literal suffix is one without pattern marks. -/
theorem isLiteral_iff {suffix : Text} :
    isLiteral suffix = true ↔ ∀ c ∈ suffix, c ∉ patternMarks := by
  simp [isLiteral]

/-- A suffix without pattern marks stands for itself. -/
theorem read_of_isLiteral {suffix : Text} (h : isLiteral suffix = true) (complete : Bool)
    (patterns : PatternReader) :
    read complete suffix patterns = .ok ⟨suffix, complete, .literal⟩ :=
  if_pos h

/-- A text can stand in front of an affix: it consists of word characters, and there is at least one
if the affix is not complete. -/
def IsStem (a : Affix) (stem : Text) : Prop :=
  (∀ c ∈ stem, isWord c = true) ∧ (a.complete = true ∨ stem ≠ [])

variable {a b : Affix} {w stem : Text}

/-- An affix that stands for itself is found behind each of its stems. -/
theorem stem?_append (ha : a.form = .literal) (h : a.IsStem stem) :
    a.stem? (stem ++ a.suffix) = some (some stem) := by
  have htake : (stem ++ a.suffix).take ((stem ++ a.suffix).length - a.suffix.length) = stem := by
    simp
  rw [stem?, ha]
  dsimp only
  rw [literalStem?, htake]
  exact congrArg (Option.map some) (if_pos ⟨rfl, List.all_eq_true.2 h.1, h.2⟩)

/-- An affix that stands for itself is found nowhere else. -/
theorem exists_of_has (ha : a.form = .literal) (h : a.has w = true) :
    ∃ stem, a.IsStem stem ∧ w = stem ++ a.suffix := by
  rw [has, stem?, ha] at h
  simp only [literalStem?, Option.isSome_map, Option.isSome_ite] at h
  exact ⟨_, ⟨List.all_eq_true.1 h.2.1, h.2.2⟩, h.1⟩

/-- An affix that stands for itself can be exchanged behind its stems. -/
theorem exchange_append (ha : a.form = .literal) (h : a.IsStem stem) (b : Affix) :
    a.exchange b (stem ++ a.suffix) = .ok (stem ++ b.suffix) := by
  rw [exchange, strip, stem?_append ha h]
  rfl

end Affix

namespace CategoricalRule

/-- The affixes of a rule. -/
def affixes (r : CategoricalRule) : List Affix :=
  r.singular :: r.plurals.toList

/-- The affixes of a rule stand for themselves, and all of them or none may be whole words. -/
structure IsFamily (r : CategoricalRule) : Prop where
  literal : ∀ a ∈ r.affixes, a.form = .literal
  complete_eq : ∀ a ∈ r.affixes, a.complete = r.singular.complete

variable {r : CategoricalRule} {w stem : Text}

namespace IsFamily

/-- The affixes have the same stems. -/
theorem isStem (hr : r.IsFamily) {a : Affix} (ha : a ∈ r.affixes) :
    a.IsStem stem ↔ r.singular.IsStem stem := by
  rw [Affix.IsStem, Affix.IsStem, hr.complete_eq a ha]

/-- The singular affix stands for itself. -/
theorem literal_singular (hr : r.IsFamily) : r.singular.form = .literal :=
  hr.literal _ List.mem_cons_self

/-- A word that matches is a stem with an affix, and its singular the stem with the singular one. -/
theorem exists_stem (hr : r.IsFamily) (h : r.matches? w = true) :
    ∃ stem, r.singular.IsStem stem ∧ r.singularize w = .ok (stem ++ r.singular.suffix) ∧
      ((r.isSingular w = .ok true ∧ w = stem ++ r.singular.suffix) ∨
        r.isSingular w = .ok false) := by
  cases hs : r.singular.has w with
  | true =>
      obtain ⟨stem, hstem, rfl⟩ := Affix.exists_of_has hr.literal_singular hs
      exact ⟨stem, hstem, if_pos hs, .inl ⟨if_pos hs, rfl⟩⟩
  | false =>
      have hsome : (r.pluralAffix? w).isSome = true := by simpa [matches?, hs] using h
      obtain ⟨a, ha⟩ := Option.isSome_iff_exists.1 hsome
      have hmem : a ∈ r.affixes := List.mem_cons_of_mem _ (List.mem_of_find?_eq_some ha)
      have hfind : r.plurals.toList.find? (fun affix => affix.has w) = some a := ha
      have hhas := List.find?_some hfind
      obtain ⟨stem, hstem, rfl⟩ := Affix.exists_of_has (hr.literal a hmem) hhas
      refine ⟨stem, (hr.isStem hmem).1 hstem, ?_, .inr (by simp [isSingular, hs, hsome])⟩
      simp [singularize, hs, ha, Affix.exchange_append (hr.literal a hmem) hstem]

/-- A stem has the singular affix when it is attached. -/
theorem has_append (hr : r.IsFamily) (h : r.singular.IsStem stem) :
    r.singular.has (stem ++ r.singular.suffix) = true := by
  rw [Affix.has, Affix.stem?_append hr.literal_singular h]
  rfl

/-- A stem with the singular affix gets any other affix. -/
theorem pluralizeWith_append (hr : r.IsFamily) (h : r.singular.IsStem stem) (a : Affix) :
    r.pluralizeWith a (stem ++ r.singular.suffix) = .ok (stem ++ a.suffix) := by
  have hb : r.isSingular (stem ++ r.singular.suffix) = .ok true := if_pos (hr.has_append h)
  rw [pluralizeWith, hb]
  exact Affix.exchange_append hr.literal_singular h a

/-- A rule whose affixes are a family answers for every word that it matches. -/
theorem answers (hr : r.IsFamily) (h : r.matches? w = true) : r.inflection.Answers w := by
  obtain ⟨stem, hstem, hsingular, ⟨hb, rfl⟩ | hb⟩ := hr.exists_stem h
  · have hplural : r.pluralize (stem ++ r.singular.suffix) =
        .ok (stem ++ r.plurals.modernFirst.suffix) :=
      (if_pos (hr.has_append hstem)).trans (Affix.exchange_append hr.literal_singular hstem _)
    exact .of_singular hb ⟨_, hsingular⟩ ⟨_, (Inflection.plural_of_singular hb).trans hplural⟩
      (Inflection.asSingular_of_singular hb)
      ⟨_, hr.pluralizeWith_append hstem _⟩ ⟨_, hr.pluralizeWith_append hstem _⟩
  · exact .of_singular hb ⟨_, hsingular⟩ ⟨w, Inflection.plural_of_plural hb⟩
      ((Inflection.asSingular_of_plural hb).trans hsingular)
      ⟨_, hr.pluralizeWith_append hstem _⟩ ⟨_, hr.pluralizeWith_append hstem _⟩

/-- The singular that such a rule gives for a word is the word itself or a stem with the singular
affix. -/
theorem exists_asSingular (hr : r.IsFamily) (h : r.matches? w = true)
    (hsuffix : r.singular.suffix.OneWord) (hw : w.OneWord) :
    ∃ v, r.inflection.asSingular w = .ok v ∧ v.OneWord := by
  obtain ⟨stem, hstem, hsingular, ⟨hb, rfl⟩ | hb⟩ := hr.exists_stem h
  · exact ⟨_, Inflection.asSingular_of_singular hb, hw⟩
  · exact ⟨_, (Inflection.asSingular_of_plural hb).trans hsingular, hsuffix.append_left hstem.1⟩

/-- A word that matches is a word if the affixes are. -/
theorem oneWord_of_matches (hr : r.IsFamily) (h : r.matches? w = true)
    (haffixes : ∀ a ∈ r.affixes, a.suffix.OneWord) : w.OneWord := by
  obtain ⟨a, ha, hhas⟩ : ∃ a ∈ r.affixes, a.has w = true := by
    rcases Bool.or_eq_true_iff.1 h with hs | hp
    · exact ⟨_, List.mem_cons_self, hs⟩
    · obtain ⟨a, ha, hhas⟩ := List.find?_isSome.1 hp
      exact ⟨a, List.mem_cons_of_mem _ ha, hhas⟩
  obtain ⟨stem, hstem, rfl⟩ := Affix.exists_of_has (hr.literal a ha) hhas
  exact (haffixes a ha).append_left hstem.1

end IsFamily

end CategoricalRule

end Agreement
