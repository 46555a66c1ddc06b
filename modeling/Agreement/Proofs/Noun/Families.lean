import Agreement.Proofs.Noun.Answers
import Mathlib.Data.List.Pairwise

/-!
# From a singular to its plurals and back

What a simple rule makes of the forms that it derives itself. A categorical rule whose suffixes
cannot be mistaken for each other inflects every member of a family alike, from whichever member it
starts (`CategoricalRule.Unambiguous.inflectsAs`). The default rule finds the singular of its own
plurals only for words that end neither with "s" nor with "se":
`SimpleRule.singularize_pluralize_default`.
-/

namespace Agreement

/-- A rule gives the forms `singular`, `modern` and `classical` for a word that is one of them. The
preferred plural of the singular is the modern one, and a plural is kept. -/
structure Inflection.InflectsAs (i : Inflection) (w singular modern classical : Text) : Prop where
  matches? : i.matches? w = true
  isSingular : i.isSingular w = .ok (w = singular)
  isPlural : i.isPlural w = .ok (w ≠ singular)
  singularize : i.singularize w = .ok singular
  pluralize : i.pluralize w = .ok (if w = singular then modern else w)
  pluralizeModern : i.pluralizeModern w = .ok modern
  pluralizeClassical : i.pluralizeClassical w = .ok classical

namespace Inflection.InflectsAs

variable {i : Inflection} {w singular modern classical : Text}

/-- A rule gives the forms for the singular. -/
theorem of_singular (hmatches : i.matches? w = true) (hb : i.isSingular w = .ok true)
    (hsingular : i.singularize w = .ok w) (hplural : i.pluralize w = .ok modern)
    (hmodern : i.pluralizeModern w = .ok modern)
    (hclassical : i.pluralizeClassical w = .ok classical) :
    i.InflectsAs w w modern classical where
  matches? := hmatches
  isSingular := by rw [hb, decide_eq_true rfl]
  isPlural := by rw [isPlural_eq hb, decide_eq_false (not_not.2 rfl), Bool.not_true]
  singularize := hsingular
  pluralize := by rw [hplural, if_pos rfl]
  pluralizeModern := hmodern
  pluralizeClassical := hclassical

/-- A rule gives the forms for a plural. -/
theorem of_plural (hne : w ≠ singular) (hmatches : i.matches? w = true)
    (hb : i.isSingular w = .ok false) (hsingular : i.singularize w = .ok singular)
    (hplural : i.pluralize w = .ok w) (hmodern : i.pluralizeModern w = .ok modern)
    (hclassical : i.pluralizeClassical w = .ok classical) :
    i.InflectsAs w singular modern classical where
  matches? := hmatches
  isSingular := by rw [hb, decide_eq_false hne]
  isPlural := by rw [isPlural_eq hb, decide_eq_true hne, Bool.not_false]
  singularize := hsingular
  pluralize := by rw [hplural, if_neg hne]
  pluralizeModern := hmodern
  pluralizeClassical := hclassical

end Inflection.InflectsAs

/-- Texts that end alike have a common suffix. -/
theorem Text.suffix_or_suffix_of_append_eq {stem stem' suffix suffix' : Text}
    (h : stem ++ suffix = stem' ++ suffix') : suffix <:+ suffix' ∨ suffix' <:+ suffix :=
  List.suffix_or_suffix_of_suffix (List.suffix_append stem suffix)
    (h ▸ List.suffix_append stem' suffix')

/-- The modern plural, or else the classical one, is the one that comes first. -/
theorem Plurals.eq_modernFirst {α : Type} {plurals : Plurals α} {a : α}
    (h : plurals.modern?.or plurals.classical? = some a) : a = plurals.modernFirst := by
  cases plurals <;> exact (Option.some.inj h).symm

/-- The classical plural, or else the modern one, is the one that comes first. -/
theorem Plurals.eq_classicalFirst {α : Type} {plurals : Plurals α} {a : α}
    (h : plurals.classical?.or plurals.modern? = some a) : a = plurals.classicalFirst := by
  cases plurals <;> exact (Option.some.inj h).symm

namespace CategoricalRule

/-- The affixes of a rule are read from suffixes without pattern marks, all of them as complete
affixes or none, and no suffix ends with another one. -/
structure Unambiguous (r : CategoricalRule) : Prop where
  read_eq : ∀ a ∈ r.affixes, Affix.read r.singular.complete a.suffix = .ok a
  isLiteral : ∀ a ∈ r.affixes, Affix.isLiteral a.suffix = true
  suffixFree : (r.affixes.map Affix.suffix).Pairwise fun s t => ¬ s <:+ t ∧ ¬ t <:+ s

variable {r : CategoricalRule} {stem : Text} {a b : Affix}

namespace Unambiguous

/-- An affix is read from its suffix. -/
theorem eq_literal (hr : r.Unambiguous) (ha : a ∈ r.affixes) :
    a = ⟨a.suffix, r.singular.complete, .literal⟩ := by
  have hread := hr.read_eq a ha
  rw [Affix.read_of_isLiteral (hr.isLiteral a ha)] at hread
  exact (Except.ok.inj hread).symm

/-- The affixes are a family. -/
theorem isFamily (hr : r.Unambiguous) : r.IsFamily where
  literal a ha := congrArg Affix.form (hr.eq_literal ha)
  complete_eq a ha := by rw [hr.eq_literal ha]

/-- A stem with an affix has no other affix. -/
theorem has_append_iff (hr : r.Unambiguous) (ha : a ∈ r.affixes) (hb : b ∈ r.affixes)
    (hstem : r.singular.IsStem stem) : b.has (stem ++ a.suffix) = true ↔ b = a := by
  constructor
  · intro hhas
    by_contra hne
    have hsuffix : b.suffix ≠ a.suffix := by
      intro heq
      apply hne
      rw [hr.eq_literal ha, hr.eq_literal hb, heq]
    have : Std.Symm fun s t : Text => ¬ s <:+ t ∧ ¬ t <:+ s := ⟨fun s t h => h.symm⟩
    have hapart := hr.suffixFree.forall (List.mem_map_of_mem hb) (List.mem_map_of_mem ha) hsuffix
    obtain ⟨stem', -, heq⟩ := Affix.exists_of_has (hr.isFamily.literal b hb) hhas
    rcases Text.suffix_or_suffix_of_append_eq heq with h | h
    · exact hapart.2 h
    · exact hapart.1 h
  · rintro rfl
    rw [Affix.has, Affix.stem?_append (hr.isFamily.literal b hb) ((hr.isFamily.isStem hb).2 hstem)]
    rfl

/-- A plural affix is not the singular one. -/
theorem ne_singular (hr : r.Unambiguous) (ha : a ∈ r.plurals.toList) :
    a.suffix ≠ r.singular.suffix := by
  intro heq
  have hfree := hr.suffixFree
  rw [affixes, List.map_cons, List.pairwise_cons] at hfree
  have hapart := hfree.1 _ (List.mem_map_of_mem ha)
  exact hapart.1 (heq ▸ List.suffix_rfl)

/-- The plural affix of a stem with a plural affix is that one. -/
theorem pluralAffix?_append (hr : r.Unambiguous) (ha : a ∈ r.plurals.toList)
    (hstem : r.singular.IsStem stem) : r.pluralAffix? (stem ++ a.suffix) = some a := by
  have hmem : a ∈ r.affixes := List.mem_cons_of_mem _ ha
  have hsome : (r.pluralAffix? (stem ++ a.suffix)).isSome = true :=
    List.find?_isSome.2 ⟨a, ha, (hr.has_append_iff hmem hmem hstem).2 rfl⟩
  obtain ⟨b, hb⟩ := Option.isSome_iff_exists.1 hsome
  have hbmem : b ∈ r.affixes := List.mem_cons_of_mem _ (List.mem_of_find?_eq_some hb)
  have hfind : r.plurals.toList.find? (fun b => b.has (stem ++ a.suffix)) = some b := hb
  have hhas := List.find?_some hfind
  rw [hb, (hr.has_append_iff hmem hbmem hstem).1 hhas]

/-- A stem with the singular affix is singular, and gets the plural affixes. -/
theorem inflectsAs_singular (hr : r.Unambiguous) (hstem : r.singular.IsStem stem) :
    r.inflection.InflectsAs (stem ++ r.singular.suffix) (stem ++ r.singular.suffix)
      (stem ++ r.plurals.modernFirst.suffix) (stem ++ r.plurals.classicalFirst.suffix) := by
  have hhas := hr.isFamily.has_append hstem
  have hplural : r.pluralize (stem ++ r.singular.suffix) =
      .ok (stem ++ r.plurals.modernFirst.suffix) :=
    (if_pos hhas).trans (Affix.exchange_append hr.isFamily.literal_singular hstem _)
  exact .of_singular (Bool.or_eq_true_iff.2 (.inl hhas)) (if_pos hhas) (if_pos hhas) hplural
    (hr.isFamily.pluralizeWith_append hstem _) (hr.isFamily.pluralizeWith_append hstem _)

/-- A stem with a plural affix is plural, and gets any other affix by way of the singular. -/
theorem inflectsAs_plural (hr : r.Unambiguous) (hstem : r.singular.IsStem stem)
    (ha : a ∈ r.plurals.toList) :
    r.inflection.InflectsAs (stem ++ a.suffix) (stem ++ r.singular.suffix)
      (stem ++ r.plurals.modernFirst.suffix) (stem ++ r.plurals.classicalFirst.suffix) := by
  have hmem : a ∈ r.affixes := List.mem_cons_of_mem _ ha
  have hne : stem ++ a.suffix ≠ stem ++ r.singular.suffix :=
    fun heq => hr.ne_singular ha (List.append_cancel_left heq)
  have hhas : ¬ r.singular.has (stem ++ a.suffix) = true := by
    rw [hr.has_append_iff hmem List.mem_cons_self hstem]
    exact fun heq => hr.ne_singular ha (congrArg Affix.suffix heq.symm)
  have hfind := hr.pluralAffix?_append ha hstem
  have hb : r.isSingular (stem ++ a.suffix) = .ok false := by
    rw [isSingular, if_neg hhas, hfind]
    rfl
  have hsingular : r.singularize (stem ++ a.suffix) = .ok (stem ++ r.singular.suffix) := by
    rw [singularize, if_neg hhas, hfind]
    exact Affix.exchange_append (hr.isFamily.literal a hmem) ((hr.isFamily.isStem hmem).2 hstem) _
  have hplural : r.pluralize (stem ++ a.suffix) = .ok (stem ++ a.suffix) := by
    rw [pluralize, if_neg hhas, hfind]
    rfl
  -- both plurals are attached to the stem of the singular
  have hwith (b : Affix) : r.pluralizeWith b (stem ++ a.suffix) = .ok (stem ++ b.suffix) := by
    rw [pluralizeWith, hb]
    show (r.singularize (stem ++ a.suffix) >>= r.singular.exchange b) = _
    rw [hsingular]
    exact Affix.exchange_append hr.isFamily.literal_singular hstem b
  have hmatches : r.matches? (stem ++ a.suffix) = true := by
    rw [matches?, hfind]
    exact Bool.or_true _
  exact .of_plural hne hmatches hb hsingular hplural (hwith _) (hwith _)

/-- A rule inflects every member of a family alike, whatever affix it has: its singular is the stem
with the singular affix, and a plural that the rule lacks is the other one. -/
theorem inflectsAs (hr : r.Unambiguous) (hstem : r.singular.IsStem stem) (ha : a ∈ r.affixes)
    {modern classical : Affix} (hmodern : r.plurals.modern?.or r.plurals.classical? = some modern)
    (hclassical : r.plurals.classical?.or r.plurals.modern? = some classical) :
    r.inflection.InflectsAs (stem ++ a.suffix) (stem ++ r.singular.suffix)
      (stem ++ modern.suffix) (stem ++ classical.suffix) := by
  rw [Plurals.eq_modernFirst hmodern, Plurals.eq_classicalFirst hclassical]
  rcases List.mem_cons.1 ha with rfl | ha
  · exact hr.inflectsAs_singular hstem
  · exact hr.inflectsAs_plural hstem ha

end Unambiguous

/-- The family of "plateau". -/
def eau : CategoricalRule :=
  ⟨⟨"eau", false, .literal⟩, .both ⟨"eaus", false, .literal⟩ ⟨"eaux", false, .literal⟩⟩

/-- The classical plural of "plateau" is a member of the family. -/
theorem inflectsAs_plateaux :
    eau.Unambiguous ∧ eau.singular.IsStem "plat" ∧ ⟨"eaux", false, .literal⟩ ∈ eau.affixes ∧
      eau.inflection.InflectsAs "plateaux" "plateau" "plateaus" "plateaux" := by
  have hr : eau.Unambiguous := ⟨by decide, by decide, by decide⟩
  have hstem : eau.singular.IsStem "plat" := ⟨List.all_eq_true.1 (by decide), by decide⟩
  have ha : ⟨"eaux", false, .literal⟩ ∈ eau.affixes := by decide
  exact ⟨hr, hstem, ha, hr.inflectsAs hstem ha rfl rfl⟩

end CategoricalRule

namespace SimpleRule

/-- The default rule takes off its own plural ending, and in front of it another "s" or "se". -/
theorem defaultSingular_defaultPlural (w : Text) :
    defaultSingular (defaultPlural w) =
      if ("s" : Text).isSuffixOf w then w.take (w.length - 1)
      else if ("se" : Text).isSuffixOf w then w.take (w.length - 2)
      else w := by
  unfold defaultPlural
  cases hs : ("s" : Text).isSuffixOf w with
  | true =>
      obtain ⟨v, rfl⟩ := List.isSuffixOf_iff_suffix.1 hs
      have hses : ("ses" : Text).isSuffixOf (v ++ ['s'] ++ ['e', 's']) = true :=
        List.isSuffixOf_iff_suffix.2 ⟨v, by simp⟩
      show defaultSingular (v ++ ['s'] ++ ['e', 's']) = (v ++ ['s']).take _
      rw [defaultSingular, if_pos hses]
      simp
  | false =>
      show defaultSingular (w ++ ['s']) = if _ then _ else w
      have hses : ("ses" : Text).isSuffixOf (w ++ ['s']) = ("se" : Text).isSuffixOf w := by
        rw [Bool.eq_iff_iff, List.isSuffixOf_iff_suffix, List.isSuffixOf_iff_suffix]
        show ['s', 'e'] ++ ['s'] <:+ w ++ ['s'] ↔ _
        exact List.suffix_append_self_iff
      have hs' : ("s" : Text).isSuffixOf (w ++ ['s']) = true :=
        List.isSuffixOf_iff_suffix.2 (List.suffix_append w _)
      rw [defaultSingular, hses, if_pos hs']
      split
      · next h =>
          obtain ⟨v, rfl⟩ := List.isSuffixOf_iff_suffix.1 h
          simp
      · simp

/-- The singular of the plural that the default rule gives for a word. It is the word itself exactly
if the word ends neither with "s" nor with "se"; otherwise that is lost as well. -/
theorem singularize_pluralize_default (w : Text) :
    let i := SimpleRule.default.inflection
    let back := i.pluralize w >>= i.singularize
    back = .ok (if ("s" : Text).isSuffixOf w then w.take (w.length - 1)
        else if ("se" : Text).isSuffixOf w then w.take (w.length - 2)
        else w) ∧
      (back = .ok w ↔ ¬ ("s" : Text).isSuffixOf w ∧ ¬ ("se" : Text).isSuffixOf w) := by
  intro i back
  have hback : back = .ok (defaultSingular (defaultPlural w)) := rfl
  have hlost (suffix : Text) (hne : 0 < suffix.length) (h : suffix.isSuffixOf w = true) :
      w.take (w.length - suffix.length) ≠ w := by
    intro heq
    have hlength := congrArg List.length heq
    have hle := (List.isSuffixOf_iff_suffix.1 h).length_le
    rw [List.length_take] at hlength
    omega
  rw [hback, defaultSingular_defaultPlural]
  refine ⟨rfl, ?_⟩
  rw [Except.ok.injEq]
  split
  · next hs => exact iff_of_false (hlost "s" (by decide) hs) fun h => h.1 hs
  · next hs =>
      split
      · next hse => exact iff_of_false (hlost "se" (by decide) hse) fun h => h.2 hse
      · next hse => exact iff_of_true rfl ⟨hs, hse⟩

/-- The plural of "base" is "bases", and the singular of that "ba". -/
theorem singularize_pluralize_base :
    ("s" : Text).isSuffixOf "base" = false ∧
      SimpleRule.default.inflection.pluralize "base" = .ok "bases" ∧
      SimpleRule.default.inflection.singularize "bases" = .ok "ba" := by
  decide

end SimpleRule

end Agreement
