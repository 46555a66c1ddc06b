import Agreement.Noun.Affix
import Agreement.Noun.Phrase
import Agreement.Noun.PhraseText

/-!
# Rules for nouns

The four kinds of rules. The default rule adds "s" or "es"; an irregular rule is one entry of a
dictionary; a categorical rule exchanges affixes; and a compound rule inflects the head of a phrase.
The first three are simple rules: they need nothing else to answer. A compound rule asks another
rule about its head, which is always a simple one, and needs to know which words are prepositions.
It goes by the lexicon that is asked, or by a background of its own, which is how a rule that was
built for one lexicon can be registered in another one. Its pattern is a phrase, as all patterns are
that lines of rules give.
-/

namespace Agreement

/-- A fixed singular with its plurals. -/
structure IrregularRule where
  singular : Text
  plurals : Plurals Text
  /-- Whether the classical plural is the preferred one. -/
  preferClassical : Bool := false
  deriving DecidableEq, Repr

/-- A singular affix with its plural affixes. -/
structure CategoricalRule where
  singular : Affix
  plurals : Plurals Affix
  deriving DecidableEq, Repr

/-- A rule that needs no other rule. -/
inductive SimpleRule where
  | default
  | irregular (rule : IrregularRule)
  | categorical (rule : CategoricalRule)
  deriving DecidableEq, Repr

/-- The simple rules of one tier of a lexicon: irregular rules by their forms, and the others in the
order in which they are asked. -/
structure SimpleTier where
  irregulars : List (Text × IrregularRule) := []
  rules : List SimpleRule := []
  deriving DecidableEq, Repr

/-- What a compound rule consults beside itself: the words that count as prepositions, and the
simple rules that its head is looked up in, tier by tier. What is missing is taken from the lexicon
that is asked. -/
structure Background where
  prepositions : Option Prepositions := none
  tiers : Option (List SimpleTier) := none
  deriving DecidableEq, Repr

/-- A phrase whose number is carried by a head noun. -/
structure CompoundRule where
  /-- The written pattern, as messages show it. -/
  written : Text
  pattern : Phrase
  singular : Phrase
  plurals : Plurals Phrase
  /-- What the rule consults; it is empty for rules that are read from a text, which go by the
  lexicon that is asked. -/
  background : Background := {}
  deriving DecidableEq, Repr

/-- A rule for nouns. -/
inductive Rule where
  | simple (rule : SimpleRule)
  | compound (rule : CompoundRule)
  deriving DecidableEq, Repr

/-- Why a rule cannot be built. -/
inductive RuleError where
  | noSingular
  | noPlural (singular : Text)
  | noPluralAffix (suffix : Text)
  | noHead (written : Text)
  | noPluralPhrase (singular : Text)
  | pattern (written : Text) (cause : PatternError)
  deriving DecidableEq, Repr

namespace RuleError

/-- The wording of a rule's error. -/
def message : RuleError → Text
  | .noSingular => "Singular form must not be empty"
  | .noPlural singular => "Irregular noun '" ++ singular ++ "' needs a modern or classical plural"
  | .noPluralAffix suffix =>
    "Categorical rule for '" ++ suffix ++ "' needs a modern or classical plural"
  | .noHead written => "Compound pattern " ++ written.quoted ++ " has no head noun"
  | .noPluralPhrase singular =>
    "Compound rule " ++ singular.quoted ++ " needs a modern or classical plural"
  | .pattern written cause => cause.message written

end RuleError

/-- A form as messages show it. -/
def describeForm : Option Text → Text
  | none => "None"
  | some t => t.quoted

namespace IrregularRule

/-- The rule for a singular and its plurals; an empty form counts as missing. -/
def make (singular : Text) (modern classical : Option Text) (preferClassical : Bool := false) :
    Except RuleError IrregularRule :=
  if singular = [] then .error .noSingular
  else match Plurals.of? (modern.filter (· ≠ [])) (classical.filter (· ≠ [])) with
    | none => .error (.noPlural singular)
    | some plurals => .ok ⟨singular, plurals, preferClassical⟩

/-- The rule as messages show it. -/
def describe (r : IrregularRule) : Text :=
  "IrregularRule(singular=" ++ r.singular.quoted ++ ", modern=" ++
    describeForm r.plurals.modern? ++ ", classical=" ++ describeForm r.plurals.classical? ++ ")"

/-- Whether a word is the singular, in any case. -/
def isSingularForm (r : IrregularRule) (w : Text) : Bool :=
  w.lower = r.singular.lower

/-- Whether a word is one of the plurals, in any case. -/
def isPluralForm (r : IrregularRule) (w : Text) : Bool :=
  r.plurals.toList.any fun form => w.lower = form.lower

/-- Whether a word is one of the forms, in any case. -/
def matches? (r : IrregularRule) (w : Text) : Bool :=
  r.isSingularForm w || r.isPluralForm w

/-- The preferred plural. -/
def preferred (r : IrregularRule) : Text :=
  if r.preferClassical then r.plurals.classicalFirst else r.plurals.modernFirst

/-- The forms under which the rule is registered. -/
def forms (r : IrregularRule) : List Text :=
  r.singular :: r.plurals.toList

/-- The answers of the rule. The modern and classical plurals are given for every word. -/
def inflection (r : IrregularRule) : Inflection where
  matches? := r.matches?
  isSingular w :=
    if r.isSingularForm w then .ok true
    else if r.isPluralForm w then .ok false
    else .error (.foreign w r.describe)
  singularize w := if r.matches? w then .ok r.singular else .error (.foreign w r.describe)
  pluralize w := if r.matches? w then .ok r.preferred else .error (.foreign w r.describe)
  pluralizeModern _ := .ok r.plurals.modernFirst
  pluralizeClassical _ := .ok r.plurals.classicalFirst

end IrregularRule

namespace CategoricalRule

/-- The rule for a singular affix and its plural affixes. -/
def make (singular : Affix) (modern classical : Option Affix) :
    Except RuleError CategoricalRule :=
  match Plurals.of? modern classical with
  | none => .error (.noPluralAffix singular.suffix)
  | some plurals => .ok ⟨singular, plurals⟩

/-- The rule as messages show it. -/
def describe (r : CategoricalRule) : Text :=
  "CategoricalRule(singular=" ++ r.singular.suffix.quoted ++ ", modern=" ++
    describeForm (r.plurals.modern?.map Affix.suffix) ++ ", classical=" ++
    describeForm (r.plurals.classical?.map Affix.suffix) ++ ")"

/-- The first plural affix that a word has. -/
def pluralAffix? (r : CategoricalRule) (w : Text) : Option Affix :=
  r.plurals.toList.find? fun affix => affix.has w

/-- Whether a word has one of the affixes. -/
def matches? (r : CategoricalRule) (w : Text) : Bool :=
  r.singular.has w || (r.pluralAffix? w).isSome

/-- Whether a word has the singular affix; one that has none of the affixes is refused. -/
def isSingular (r : CategoricalRule) (w : Text) : Except NounError Bool :=
  if r.singular.has w then .ok true
  else if (r.pluralAffix? w).isSome then .ok false
  else .error (.foreign w r.describe)

/-- The word with the singular affix in place of a plural one. -/
def singularize (r : CategoricalRule) (w : Text) : Except NounError Text :=
  if r.singular.has w then .ok w
  else match r.pluralAffix? w with
    | some affix => affix.exchange r.singular w
    | none => .error (.foreign w r.describe)

/-- The word with a plural affix in place of the singular one; a plural stays as it is. -/
def pluralize (r : CategoricalRule) (w : Text) : Except NounError Text :=
  if r.singular.has w then r.singular.exchange r.plurals.modernFirst w
  else if (r.pluralAffix? w).isSome then .ok w
  else .error (.foreign w r.describe)

/-- The word with a given plural affix, by way of its singular. -/
def pluralizeWith (r : CategoricalRule) (affix : Affix) (w : Text) : Except NounError Text := do
  let singular ← if ← r.isSingular w then pure w else r.singularize w
  r.singular.exchange affix singular

/-- The answers of the rule. -/
def inflection (r : CategoricalRule) : Inflection where
  matches? := r.matches?
  isSingular := r.isSingular
  singularize := r.singularize
  pluralize := r.pluralize
  pluralizeModern := r.pluralizeWith r.plurals.modernFirst
  pluralizeClassical := r.pluralizeWith r.plurals.classicalFirst

end CategoricalRule

namespace SimpleRule

/-- The singular of the default rule: "s" is dropped, and behind another "s" so is "es". -/
def defaultSingular (w : Text) : Text :=
  if ("ses" : Text).isSuffixOf w then w.take (w.length - 3)
  else if ("s" : Text).isSuffixOf w then w.take (w.length - 1)
  else w

/-- The plural of the default rule: "es" behind an "s", and "s" elsewhere. -/
def defaultPlural (w : Text) : Text :=
  if ("s" : Text).isSuffixOf w then w ++ "es" else w ++ "s"

/-- The answers of the default rule, which matches every word. -/
def defaultInflection : Inflection where
  matches? _ := true
  isSingular w := .ok (!("s" : Text).isSuffixOf w)
  singularize w := .ok (defaultSingular w)
  pluralize w := .ok (defaultPlural w)
  pluralizeModern w := .ok (defaultPlural w)
  pluralizeClassical w := .ok (defaultPlural w)

/-- The answers of a simple rule. -/
def inflection : SimpleRule → Inflection
  | .default => defaultInflection
  | .irregular r => r.inflection
  | .categorical r => r.inflection

/-- A simple rule as messages show it. -/
def describe : SimpleRule → Text
  | .default => "DefaultRule()"
  | .irregular r => r.describe
  | .categorical r => r.describe

end SimpleRule

/-- The first simple rule of a tier for a word. -/
def SimpleTier.rule? (t : SimpleTier) (w : Text) : Option SimpleRule :=
  (t.irregulars.lookup w).map .irregular <|> t.rules.find? fun r => r.inflection.matches? w

/-- The first simple rule of some tiers for a word, or else the default rule. -/
def SimpleTier.firstRule (tiers : List SimpleTier) (w : Text) : SimpleRule :=
  (tiers.findSome? fun t => t.rule? w).getD .default

namespace CompoundRule

/-- The rule for phrases with a pattern; an empty phrase counts as missing. -/
def make (written : Text) (pattern singular : Phrase) (modern classical : Option Phrase)
    (background : Background := {}) : Except RuleError CompoundRule :=
  match pattern.repeatedSlot? with
  | some cause => .error (.pattern written cause)
  | none =>
    if .head ∉ pattern.slots then .error (.noHead written)
    else match Plurals.of? (modern.filter (· ≠ [])) (classical.filter (· ≠ [])) with
      | none => .error (.noPluralPhrase singular.template)
      | some plurals => .ok ⟨written, pattern, singular, plurals, background⟩

/-- The rule as messages show it. -/
def describe (r : CompoundRule) : Text :=
  "CompoundRule(" ++ r.written.quoted ++ ")"

/-- Whether the pattern has a slot for a preposition. -/
def hasPreposition (r : CompoundRule) : Bool :=
  r.pattern.slots.contains .preposition

/-- The prepositions of a rule, which are those of the lexicon that is asked unless it has some of
its own. -/
def prepositionsIn (prepositions : Prepositions) (r : CompoundRule) : Prepositions :=
  r.background.prepositions.getD prepositions

/-- The simple rule of a head, which is looked up in the lexicon that is asked unless the rule has
tiers of its own. -/
def headRule (resolve : Text → SimpleRule) (r : CompoundRule) : Text → SimpleRule :=
  (r.background.tiers.map SimpleTier.firstRule).getD resolve

/-- A rule with an empty background goes by the prepositions of the lexicon. -/
theorem prepositionsIn_eq {r : CompoundRule} (h : r.background = {})
    (prepositions : Prepositions) : r.prepositionsIn prepositions = prepositions := by
  rw [prepositionsIn, h, Option.getD_none]

/-- A rule with an empty background looks up its head in the lexicon. -/
theorem headRule_eq {r : CompoundRule} (h : r.background = {})
    (resolve : Text → SimpleRule) : r.headRule resolve = resolve := by
  rw [headRule, h, Option.map_none, Option.getD_none]

/-- What the slots hold, if the word has the form of the pattern and the slot for a preposition
holds one. -/
def match? (prepositions : Prepositions) (r : CompoundRule) (w : Text) : Option Filling :=
  (r.pattern.match? w).filter fun words =>
    !r.hasPreposition ||
      (r.prepositionsIn prepositions).has ((words.lookup .preposition).getD [])

/-- What the slots hold; a word that does not match is refused. -/
def parts (prepositions : Prepositions) (r : CompoundRule) (w : Text) :
    Except NounError Filling :=
  match r.match? prepositions w with
  | some words => .ok words
  | none => .error (.foreign w r.describe)

/-- The word for the head among those of the slots. -/
def headOf (words : Filling) : Text :=
  (words.lookup .head).getD []

/-- A phrase with the words of a match, and the head in another form. -/
def render (phrase : Phrase) (words : Filling) (head : Text) : Except NounError Text :=
  phrase.fill ((.head, head) :: words)

/-- The word in another form: `phrase` with the form `form` of the head. -/
def inflect (prepositions : Prepositions) (resolve : Text → SimpleRule) (r : CompoundRule)
    (phrase : Phrase) (form : NounForm) (w : Text) : Except NounError Text := do
  let words ← r.parts prepositions w
  let head ← (r.headRule resolve (headOf words)).inflection.form form (headOf words)
  render phrase words head

/-- The answers of the rule in a lexicon, which gives the prepositions and finds the rules of heads.
The preferred plural fills the modern phrase if there is one, and a plural that is missing is the
other one. -/
def inflection (prepositions : Prepositions) (resolve : Text → SimpleRule) (r : CompoundRule) :
    Inflection where
  matches? w := (r.match? prepositions w).isSome
  isSingular w := do
    let words ← r.parts prepositions w
    (r.headRule resolve (headOf words)).inflection.isSingular (headOf words)
  singularize := r.inflect prepositions resolve r.singular .singular
  pluralize := r.inflect prepositions resolve r.plurals.modernFirst .plural
  pluralizeModern :=
    match r.plurals.modern? with
    | some phrase => r.inflect prepositions resolve phrase .modernPlural
    | none => r.inflect prepositions resolve r.plurals.classicalFirst .classicalPlural
  pluralizeClassical :=
    match r.plurals.classical? with
    | some phrase => r.inflect prepositions resolve phrase .classicalPlural
    | none => r.inflect prepositions resolve r.plurals.modernFirst .modernPlural

end CompoundRule

namespace Rule

/-- A rule as messages show it. -/
def describe : Rule → Text
  | .simple r => r.describe
  | .compound r => r.describe

/-- The name of a rule's kind. -/
def kind : Rule → Text
  | .simple .default => "default"
  | .simple (.irregular _) => "irregular"
  | .simple (.categorical _) => "categorical"
  | .compound _ => "compound"

/-- The simple rule that a rule is, if it is one. -/
def simple? : Rule → Option SimpleRule
  | .simple r => some r
  | .compound _ => none

/-- The answers of a rule in a lexicon, which gives the prepositions and finds the rules of
heads. -/
def inflection (prepositions : Prepositions) (resolve : Text → SimpleRule) : Rule → Inflection
  | .simple r => r.inflection
  | .compound r => r.inflection prepositions resolve

/-- Whether a rule matches a word. -/
def matches? (prepositions : Prepositions) : Rule → Text → Bool
  | .simple r, w => r.inflection.matches? w
  | .compound r, w => (r.match? prepositions w).isSome

end Rule

end Agreement
