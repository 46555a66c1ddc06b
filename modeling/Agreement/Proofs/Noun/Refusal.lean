import Agreement.Proofs.Noun.Registration
import Agreement.Proofs.Noun.Spelling

/-!
# Words that a rule does not match

A rule that does not match a word refuses it, with an error that shows the word and the rule. It
tells neither singular from plural nor derives the singular and the preferred plural
(`Inflection.Refuses`). Of the modern and the classical plural this is true for all but the
irregular rules, which look at no word there and give their own plurals: `Rule.refuses_unmatched`.
-/

namespace Agreement

/-- A rule gives an error for a word in place of its number, its singular and its preferred
plural. -/
structure Inflection.Refuses (i : Inflection) (w : Text) (e : NounError) : Prop where
  isSingular : i.isSingular w = .error e
  singularize : i.singularize w = .error e
  pluralize : i.pluralize w = .error e

/-- A word that is refused is not plural either. -/
theorem Inflection.Refuses.isPlural {i : Inflection} {w : Text} {e : NounError}
    (h : i.Refuses w e) : i.isPlural w = .error e := by
  rw [Inflection.isPlural, h.isSingular]
  rfl

/-- An irregular rule refuses a word that is none of its forms. -/
theorem IrregularRule.refuses {r : IrregularRule} {w : Text} (h : r.matches? w = false) :
    r.inflection.Refuses w (.foreign w r.describe) := by
  have hmatches : ¬ r.matches? w = true := by simp [h]
  rw [matches?, Bool.or_eq_false_iff] at h
  refine ⟨?_, if_neg hmatches, if_neg hmatches⟩
  show (if r.isSingularForm w then _ else if r.isPluralForm w then _ else _) = _
  rw [if_neg (by simp [h.1]), if_neg (by simp [h.2])]

namespace CategoricalRule

variable {r : CategoricalRule} {w : Text}

/-- A word that does not match has none of the affixes. -/
theorem no_affix_of_not_matches (h : r.matches? w = false) :
    r.singular.has w = false ∧ r.pluralAffix? w = none := by
  rw [matches?, Bool.or_eq_false_iff, Option.isSome_eq_false_iff, Option.isNone_iff_eq_none] at h
  exact h

/-- A categorical rule refuses a word that has none of its affixes. -/
theorem refuses (h : r.matches? w = false) :
    r.inflection.Refuses w (.foreign w r.describe) := by
  obtain ⟨hsingular, hplural⟩ := no_affix_of_not_matches h
  constructor
  · show r.isSingular w = _
    simp [isSingular, hsingular, hplural]
  · show r.singularize w = _
    simp [singularize, hsingular, hplural]
  · show r.pluralize w = _
    simp [pluralize, hsingular, hplural]

/-- Both plurals are derived by way of the singular, and so are refused with it. -/
theorem pluralizeWith_eq_error (h : r.matches? w = false) (affix : Affix) :
    r.pluralizeWith affix w = .error (.foreign w r.describe) := by
  have hnumber : r.isSingular w = .error (.foreign w r.describe) := (refuses h).isSingular
  rw [pluralizeWith, hnumber]
  rfl

end CategoricalRule

namespace CompoundRule

variable {prepositions : Prepositions} {resolve : Text → SimpleRule} {r : CompoundRule} {w : Text}

/-- A compound rule refuses a word that does not have the form of its pattern. -/
theorem refuses (h : r.match? prepositions w = none) :
    (r.inflection prepositions resolve).Refuses w (.foreign w r.describe) := by
  refine ⟨?_, inflect_eq_error h, inflect_eq_error h⟩
  show (r.parts prepositions w >>= _) = _
  rw [parts, h]
  rfl

/-- Both plurals of a compound are refused too, whichever of them stands in for the other. -/
theorem pluralizeBoth_eq_error (h : r.match? prepositions w = none) :
    (r.inflection prepositions resolve).pluralizeModern w = .error (.foreign w r.describe) ∧
      (r.inflection prepositions resolve).pluralizeClassical w =
        .error (.foreign w r.describe) := by
  unfold inflection
  cases r.plurals with
  | modern m => exact ⟨inflect_eq_error h, inflect_eq_error h⟩
  | classical c => exact ⟨inflect_eq_error h, inflect_eq_error h⟩
  | both m c => exact ⟨inflect_eq_error h, inflect_eq_error h⟩

end CompoundRule

namespace Rule

/-- A rule that does not match a word refuses to tell its number and to derive its singular and its
preferred plural. It refuses the modern and the classical plural as well, unless it is irregular:
then it gives the plurals of its own noun. -/
theorem refuses_unmatched (prepositions : Prepositions) (resolve : Text → SimpleRule) {r : Rule}
    {w : Text} (h : r.matches? prepositions w = false) :
    let i := r.inflection prepositions resolve
    let refused := NounError.foreign w r.describe
    (i.isSingular w = .error refused ∧ i.isPlural w = .error refused ∧
        i.singularize w = .error refused ∧ i.pluralize w = .error refused) ∧
      match r.irregular? with
      | none =>
        i.pluralizeModern w = .error refused ∧ i.pluralizeClassical w = .error refused
      | some irregular =>
        i.pluralizeModern w = .ok irregular.plurals.modernFirst ∧
          i.pluralizeClassical w = .ok irregular.plurals.classicalFirst := by
  intro i refused
  have hall (hrefuses : i.Refuses w refused) :
      i.isSingular w = .error refused ∧ i.isPlural w = .error refused ∧
        i.singularize w = .error refused ∧ i.pluralize w = .error refused :=
    ⟨hrefuses.isSingular, hrefuses.isPlural, hrefuses.singularize, hrefuses.pluralize⟩
  rcases r with (_ | r | r) | r
  · cases h
  · exact ⟨hall (IrregularRule.refuses h), rfl, rfl⟩
  · exact ⟨hall (CategoricalRule.refuses h), CategoricalRule.pluralizeWith_eq_error h _,
      CategoricalRule.pluralizeWith_eq_error h _⟩
  · have hmatch : r.match? prepositions w = none := by
      rwa [matches?, Option.isSome_eq_false_iff, Option.isNone_iff_eq_none] at h
    exact ⟨hall (CompoundRule.refuses hmatch), CompoundRule.pluralizeBoth_eq_error hmatch⟩

/-- The noun "ox". -/
def ox : IrregularRule := ⟨"ox", .modern "oxen", false⟩

/-- The compound rule of generals and their plurals. -/
def general : CompoundRule where
  written := "(?P<noun>\\w+)\\ general"
  pattern := Phrase.ofForm "(SING) general"
  singular := Phrase.ofForm "(SING) general"
  plurals := .modern (Phrase.ofForm "(PL) general")

/-- A plain "ox" is no general, and a "cat" no ox. -/
theorem refuses_unmatched_ox :
    let resolve := fun _ => SimpleRule.default
    let i := (Rule.compound general).inflection {} resolve
    let refused := NounError.foreign "ox" "CompoundRule('(?P<noun>\\\\w+)\\\\ general')"
    ((Rule.compound general).matches? {} "ox" = false ∧ i.isPlural "ox" = .error refused ∧
        i.singularize "ox" = .error refused ∧ i.pluralizeClassical "ox" = .error refused) ∧
      (Rule.simple (.irregular ox)).matches? {} "cat" = false ∧
        ((Rule.simple (.irregular ox)).inflection {} resolve).pluralize "cat" = .error
          (.foreign "cat" "IrregularRule(singular='ox', modern='oxen', classical=None)") := by
  intro resolve i refused
  have hox : (Rule.compound general).matches? {} "ox" = false := by decide
  have hcat : (Rule.simple (.irregular ox)).matches? {} "cat" = false := by decide
  have hgeneral : (Rule.compound general).describe =
      "CompoundRule('(?P<noun>\\\\w+)\\\\ general')" := by decide
  have hshown : (Rule.simple (.irregular ox)).describe =
      "IrregularRule(singular='ox', modern='oxen', classical=None)" := by decide
  obtain ⟨⟨-, hplural, hsingularize, -⟩, -, hclassical⟩ := refuses_unmatched {} resolve hox
  obtain ⟨⟨-, -, -, hpluralize⟩, -⟩ := refuses_unmatched {} resolve hcat
  rw [hgeneral] at hplural hsingularize hclassical
  rw [hshown] at hpluralize
  exact ⟨⟨hox, hplural, hsingularize, hclassical⟩, hcat, hpluralize⟩

/-- The rule of "ox", which can be built, does not match "cat", and yet makes "oxen" of it. -/
theorem pluralizeModern_ox_cat :
    let i := (Rule.simple (.irregular ox)).inflection {} fun _ => .default
    IrregularRule.make "ox" (some ("oxen" : Text)) none = .ok ox ∧ i.matches? "cat" = false ∧
      i.pluralizeModern "cat" = .ok "oxen" ∧ i.pluralizeClassical "cat" = .ok "oxen" := by
  decide

end Rule

end Agreement
