import Agreement.Proofs.Noun.English
import Agreement.Proofs.Template.Reading

/-!
# Words that have the number that is asked for

A rule keeps a singular if the singular that it derives from it is the word itself
(`Inflection.KeepsSingular`); a plural is kept by every rule (`Inflection.plural_of_plural`). A
simple rule keeps the words that it is found for, if it is not an irregular rule with two spellings
of its singular (`IrregularRule.SpellsSingular`), and a compound is kept if its head is. So nothing
changes a word that has the right number already: neither a lookup in the English lexicon nor a noun
directive (`english_unchanged`).
-/

namespace Agreement

/-- A rule gives a word as its singular if the word is singular. -/
def Inflection.KeepsSingular (i : Inflection) (w : Text) : Prop :=
  i.isSingular w = .ok true → i.singularize w = .ok w

/-- The forms of an irregular rule that are its singular in some case are the singular. -/
def IrregularRule.SpellsSingular (r : IrregularRule) : Prop :=
  ∀ form ∈ r.forms, form.lower = r.singular.lower → form = r.singular

section SimpleRule

variable {w : Text}

/-- The default rule keeps a singular. -/
theorem SimpleRule.keepsSingular_default : SimpleRule.default.inflection.KeepsSingular w := by
  intro h
  have hs : (!("s" : Text).isSuffixOf w) = true := Except.ok.inj h
  exact congrArg Except.ok (defaultSingular_of_singular (by simpa using hs))

/-- A categorical rule keeps a singular. -/
theorem CategoricalRule.keepsSingular {r : CategoricalRule} : r.inflection.KeepsSingular w := by
  intro h
  have hhas : r.singular.has w = true := by
    by_contra hnot
    replace h : r.isSingular w = .ok true := h
    rw [isSingular, if_neg hnot] at h
    split at h <;> cases h
  exact if_pos hhas

/-- An irregular rule keeps those of its forms that are singular, if its singular has one spelling
among them. -/
theorem IrregularRule.keepsSingular {r : IrregularRule} (hr : r.SpellsSingular)
    (hw : w ∈ r.forms) : r.inflection.KeepsSingular w := by
  intro h
  have hform : r.isSingularForm w = true := by
    by_contra hnot
    replace h : (if r.isSingularForm w then _ else _) = Except.ok true := h
    rw [if_neg hnot] at h
    split at h <;> cases h
  have heq : w = r.singular := hr w hw (of_decide_eq_true hform)
  have hsingularize : r.inflection.singularize w = .ok r.singular :=
    if_pos (matches?_of_mem_forms hw)
  exact hsingularize.trans (congrArg Except.ok heq.symm)

/-- A simple rule keeps the words that it is found for. -/
theorem SimpleRule.keepsSingular {r : SimpleRule} (hfound : r.FoundFor w)
    (hr : ∀ i, r = .irregular i → i.SpellsSingular) : r.inflection.KeepsSingular w := by
  cases r with
  | default => exact keepsSingular_default
  | irregular i => exact IrregularRule.keepsSingular (hr i rfl) hfound
  | categorical r => exact CategoricalRule.keepsSingular

end SimpleRule

/-- A compound with the head in front is kept if its head is. -/
theorem CompoundRule.HeadFirst.keepsSingular {prepositions : Prepositions}
    {resolve : Text → SimpleRule} {r : CompoundRule} {c : Char} {p : Phrase} {head rest : Text}
    {words : Filling} (hr : r.HeadFirst c p) (hhead : head.OneWord)
    (htail : r.tail? prepositions p rest = some words)
    (h : (resolve head).inflection.KeepsSingular head) :
    (r.inflection prepositions resolve).KeepsSingular (head ++ c :: rest) := by
  intro hsingular
  rw [hr.isSingular_append hhead htail] at hsingular
  rw [hr.singularize_append hhead htail, h hsingular]
  rfl

namespace Lexicon

/-- A lexicon of steady rules keeps every singular, if each irregular rule has one spelling of its
singular. -/
theorem keepsSingular (prepositions : Prepositions) {rules : List Rule}
    (hsteady : ∀ rule ∈ rules, rule.Steady)
    (hspells : ∀ r, .simple (.irregular r) ∈ rules → r.SpellsSingular) (w : Text) :
    let lexicon := ({ prepositions } : Lexicon).addAllPredefined rules
    (lexicon.inflection (lexicon.rule w)).KeepsSingular w := by
  intro lexicon
  cases hrule : lexicon.rule w with
  | simple r =>
      refine SimpleRule.keepsSingular (foundFor_of_rule hrule) fun i hi => ?_
      rcases rule_addAllPredefined_cases prepositions rules w with hdefault | ⟨hmem, -⟩
      · cases hi ▸ hrule.symm.trans hdefault
      · exact hspells i (hi ▸ hrule ▸ hmem)
  | compound r =>
      obtain ⟨c, p, head, rest, words, hr, hhead, rfl, htail⟩ :=
        (steady_addAllPredefined prepositions hsteady).exists_head hrule
      refine hr.keepsSingular hhead htail (SimpleRule.keepsSingular foundFor_simpleRule ?_)
      intro i hi
      rcases simpleRule_addAllPredefined_cases prepositions rules head with hdefault | ⟨hmem, -⟩
      · cases hi.symm.trans hdefault
      · exact hspells i (hi ▸ hmem)

end Lexicon

namespace English

/-- No form of an irregular noun is the singular in another case. -/
theorem eq_singular_of_mem_irregularNouns :
    ∀ entry ∈ irregularNouns, ∀ form ∈ entry.1 :: (pluralsOf entry.2.1 entry.2.2).toList,
      Text.lower form.toList = Text.lower entry.1.toList → form.toList = entry.1.toList := by
  decide +kernel

/-- The English irregular rules have one spelling of their singulars. -/
theorem spellsSingular : ∀ r, .simple (.irregular r) ∈ rules → r.SpellsSingular := by
  intro r hr
  rcases simple_cases hr with ⟨entry, hentry, hr⟩ | ⟨entry, -, hr⟩
  · intro form hform hlower
    rw [forms_eq hr] at hform
    obtain ⟨t, ht, rfl⟩ := List.mem_map.1 hform
    cases hr
    exact eq_singular_of_mem_irregularNouns entry hentry t ht hlower
  · cases hr

end English

section Printing

variable {inflect : Inflector} {bindings : Bindings} {before : List Directive} {w : Text}

/-- The number of the last numeric directive, after its increment. -/
def countBehind (bindings : Bindings) (before : List Directive) : Option Int :=
  match (before.filterMap Directive.numeric?).getLast? with
  | none => none
  | some (source, o) => (integerOf bindings source).toOption.map o.counted

/-- Nouns are singular behind a count of one. -/
theorem singularBehind_of_countBehind (h : countBehind bindings before = some 1) :
    singularBehind bindings before = some true := by
  cases hlast : (before.filterMap Directive.numeric?).getLast? with
  | none =>
      rw [countBehind, hlast] at h
      cases h
  | some last =>
      rw [countBehind, hlast] at h
      obtain ⟨n, hn, hcount⟩ := Option.map_eq_some_iff.1 h
      rw [singularBehind, hlast]
      show (integerOf bindings last.1).toOption.map _ = _
      rw [hn, Option.map_some, hcount]
      rfl

/-- Behind some directives, a noun directive prints a word as it is and fills the waiting article
for it. -/
def PrintsUnchanged (inflect : Inflector) (bindings : Bindings) (before : List Directive)
    (source : Source Text) (o : NounOptions) (w : Text) : Prop :=
  ∀ s, runDirectives inflect bindings {} before = .ok s →
    runDirective inflect bindings s (.noun source o) = .ok ((s.emit (.text w)).fillArticle w)

/-- A noun directive prints the word as it is if that is the form of the word which agrees. -/
theorem printsUnchanged {source : Source Text} {o : NounOptions} {singular : Bool}
    (hw : wordOf bindings source = .ok w)
    (hsingular : singularBehind bindings before = some singular)
    (hform : inflect (o.agreeing singular) w = .ok w) :
    PrintsUnchanged inflect bindings before source o w := by
  intro s hrun
  have hstart : singularBehind bindings [] = some ({} : ExecutionState).singular := rfl
  have hbehind := singularBehind_of_runDirectives ExecutionState.wellFormed_start hstart hrun
  rw [List.nil_append, hsingular] at hbehind
  obtain rfl : singular = s.singular := Option.some.inj hbehind
  rw [← NounOptions.form_eq_agreeing] at hform
  rw [runDirective, hw]
  show ((s.printNoun inflect o w).mapError ExecutionError.noun) = _
  rw [ExecutionState.printNoun, hform]
  rfl

end Printing

namespace Lexicon

variable {lexicon : Lexicon} {w : Text}

/-- The singular of a word is the word if its rule keeps it and it is singular. -/
theorem inflect_singular_eq (hkeeps : (lexicon.inflection (lexicon.rule w)).KeepsSingular w)
    (h : lexicon.isSingular w = .ok true) : lexicon.inflect .singular w = .ok w :=
  hkeeps h

/-- The plural of a word is the word if it is plural. -/
theorem inflect_plural_eq (h : lexicon.isPlural w = .ok true) :
    lexicon.inflect .plural w = .ok w := by
  replace h : (lexicon.inflection (lexicon.rule w)).isPlural w = .ok true := h
  rw [inflect, Inflection.form, Inflection.plural, h]
  rfl

/-- The English lexicon keeps every singular. -/
theorem english_keepsSingular (prepositions : Prepositions) (w : Text) :
    ((english prepositions).inflection ((english prepositions).rule w)).KeepsSingular w := by
  rw [english]
  exact keepsSingular prepositions English.steady English.spellsSingular w

/-- The English lexicon changes no word that has the requested number: a singular is its own
singular and printed as it is behind a count of one, and a plural is its own plural and printed as
it is where nouns are plural, unless the directive forces the other number or asks for the classical
plural. -/
theorem english_unchanged (prepositions : Prepositions) (w : Text) :
    let lexicon := english prepositions
    (lexicon.isSingular w = .ok true →
        lexicon.inflect .singular w = .ok w ∧
          ∀ bindings before source o, wordOf bindings source = .ok w →
            countBehind bindings before = some 1 → o.forcePlural = false →
              PrintsUnchanged lexicon.inflect bindings before source o w) ∧
      (lexicon.isPlural w = .ok true →
        lexicon.inflect .plural w = .ok w ∧
          ∀ bindings before source o, wordOf bindings source = .ok w →
            singularBehind bindings before = some false → o.classical = false →
              o.forceSingular = false →
                PrintsUnchanged lexicon.inflect bindings before source o w) := by
  intro lexicon
  constructor
  · intro hsingular
    have hform : lexicon.inflect .singular w = .ok w :=
      inflect_singular_eq (english_keepsSingular prepositions w) hsingular
    refine ⟨hform, fun bindings before source o hw hcount hforce => ?_⟩
    refine printsUnchanged hw (singularBehind_of_countBehind hcount) ?_
    have hagree : o.agreeing true = .singular := by
      simp [NounOptions.agreeing, hforce]
    rw [hagree]
    exact hform
  · intro hplural
    have hform : lexicon.inflect .plural w = .ok w := inflect_plural_eq hplural
    refine ⟨hform, fun bindings before source o hw hcount hclassical hforce => ?_⟩
    refine printsUnchanged hw hcount ?_
    have hagree : o.agreeing false = .plural := by
      simp [NounOptions.agreeing, hclassical, hforce]
    rw [hagree]
    exact hform

/-- "person" stays as it is behind "1", and "people" behind "2". -/
theorem english_unchanged_people :
    english.inflect .singular "person" = .ok "person" ∧
      english.inflect .plural "people" = .ok "people" ∧
        PrintsUnchanged english.inflect [] [.numeric (.constant 1) {}, .literal " "]
          (.constant "person") {} "person" ∧
          PrintsUnchanged english.inflect [("noun", .text "people")]
            [.numeric (.constant 2) {}, .literal " "] (.variable "noun") {} "people" := by
  have hsingular : english.isSingular "person" = .ok true := by
    rw [isSingular_of_rule english_rule_person.1]
    decide
  have hplural : english.isPlural "people" = .ok true := by
    rw [isPlural_of_rule english_rule_person.2]
    decide
  obtain ⟨hperson, hone⟩ := (english_unchanged English.prepositions "person").1 hsingular
  obtain ⟨hpeople, htwo⟩ := (english_unchanged English.prepositions "people").2 hplural
  exact ⟨hperson, hpeople, hone _ _ _ _ rfl (by decide) rfl,
    htwo _ _ _ _ (by decide) (by decide) rfl rfl⟩

end Lexicon

end Agreement
