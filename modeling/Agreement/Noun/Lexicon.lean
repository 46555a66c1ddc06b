import Agreement.Noun.Rule

/-!
# Lexicons

A lexicon finds the rule for a word. It has two tiers, the user's and the predefined one. Each tier
is asked first for an irregular rule registered under exactly the word and then for the earliest
of its other rules that matches, and the user's tier is asked before the predefined one. A word
without a rule gets the default rule. The heads of compounds are looked up without the compound
rules.
-/

namespace Agreement

/-- The rules of one tier. -/
structure Tier where
  /-- Irregular rules by their forms; each form once. -/
  irregulars : List (Text × IrregularRule) := []
  /-- All other rules, in the order of registration. -/
  rules : List Rule := []
  deriving DecidableEq, Repr

namespace Tier

/-- Registers an irregular rule under one of its forms, unless an earlier rule has the form. -/
def register (rule : IrregularRule) (table : List (Text × IrregularRule)) (form : Text) :
    List (Text × IrregularRule) :=
  if (table.lookup form).isSome then table else table ++ [(form, rule)]

/-- The tier with an irregular rule registered under each of its forms. -/
def addIrregular (t : Tier) (rule : IrregularRule) : Tier :=
  { t with irregulars := rule.forms.foldl (register rule) t.irregulars }

/-- The tier with a rule behind its other rules. -/
def addRule (t : Tier) (rule : Rule) : Tier :=
  { t with rules := t.rules ++ [rule] }

/-- The tier with a rule: irregular rules go under their forms, all others in a row. -/
def add (t : Tier) : Rule → Tier
  | .simple (.irregular rule) => t.addIrregular rule
  | rule => t.addRule rule

/-- The first rule of the tier for a word. -/
def rule? (prepositions : Prepositions) (t : Tier) (w : Text) : Option Rule :=
  (t.irregulars.lookup w).map (fun r => .simple (.irregular r)) <|>
    t.rules.find? fun r => r.matches? prepositions w

/-- The tier without its compound rules. -/
def simple (t : Tier) : SimpleTier :=
  ⟨t.irregulars, t.rules.filterMap Rule.simple?⟩

end Tier

/-- The rules that nouns are inflected by, and the prepositions of compounds. -/
structure Lexicon where
  prepositions : Prepositions := {}
  user : Tier := {}
  predefined : Tier := {}
  deriving DecidableEq, Repr

/-- A word with the rule that was found for it. -/
structure Noun where
  word : Text
  rule : Rule
  deriving DecidableEq, Repr

/-- How many forms and rules a lexicon holds. -/
structure Lexicon.Sizes where
  userIrregulars : Nat
  userRules : Nat
  predefinedIrregulars : Nat
  predefinedRules : Nat
  deriving DecidableEq, Repr

namespace Lexicon

/-- The simple rules of a lexicon, the user's tier first. -/
def simpleTiers (lexicon : Lexicon) : List SimpleTier :=
  [lexicon.user.simple, lexicon.predefined.simple]

/-- What the compound rules of a lexicon consult. -/
def background (lexicon : Lexicon) : Background :=
  ⟨lexicon.prepositions, lexicon.simpleTiers⟩

/-- The rule of a word when compound rules are left out. -/
def simpleRule (lexicon : Lexicon) (w : Text) : SimpleRule :=
  SimpleTier.firstRule lexicon.simpleTiers w

/-- The rule of a word. -/
def rule (lexicon : Lexicon) (w : Text) : Rule :=
  (lexicon.user.rule? lexicon.prepositions w <|>
    lexicon.predefined.rule? lexicon.prepositions w).getD (.simple .default)

/-- A word with its rule; `compounds` says whether compound rules are asked. -/
def lookup (lexicon : Lexicon) (w : Text) (compounds : Bool := true) : Noun :=
  ⟨w, if compounds then lexicon.rule w else .simple (lexicon.simpleRule w)⟩

/-- The head of a compound with its rule. -/
def head (lexicon : Lexicon) (w : Text) : Noun :=
  lexicon.lookup w false

/-- The answers of a rule in the lexicon. -/
def inflection (lexicon : Lexicon) (rule : Rule) : Inflection :=
  rule.inflection lexicon.prepositions lexicon.simpleRule

/-- A form of a word. -/
def inflect (lexicon : Lexicon) (form : NounForm) (w : Text) : Except NounError Text :=
  (lexicon.inflection (lexicon.rule w)).form form w

/-- The lexicon with an irregular rule under its forms in the user's tier. -/
def addUserIrregular (lexicon : Lexicon) (rule : IrregularRule) : Lexicon :=
  { lexicon with user := lexicon.user.addIrregular rule }

/-- The lexicon with a rule behind the other rules of the user's tier. -/
def addUserRule (lexicon : Lexicon) (rule : Rule) : Lexicon :=
  { lexicon with user := lexicon.user.addRule rule }

/-- The lexicon with an irregular rule under its forms in the predefined tier. -/
def addPredefinedIrregular (lexicon : Lexicon) (rule : IrregularRule) : Lexicon :=
  { lexicon with predefined := lexicon.predefined.addIrregular rule }

/-- The lexicon with a rule behind the other rules of the predefined tier. -/
def addPredefinedRule (lexicon : Lexicon) (rule : Rule) : Lexicon :=
  { lexicon with predefined := lexicon.predefined.addRule rule }

/-- The lexicon with a rule in the user's tier. -/
def addUser (lexicon : Lexicon) (rule : Rule) : Lexicon :=
  { lexicon with user := lexicon.user.add rule }

/-- The lexicon with a rule in the predefined tier. -/
def addPredefined (lexicon : Lexicon) (rule : Rule) : Lexicon :=
  { lexicon with predefined := lexicon.predefined.add rule }

/-- The sizes of a lexicon. -/
def sizes (lexicon : Lexicon) : Sizes :=
  ⟨lexicon.user.irregulars.length, lexicon.user.rules.length,
   lexicon.predefined.irregulars.length, lexicon.predefined.rules.length⟩

/-- A lexicon as messages show it. -/
def describe (lexicon : Lexicon) : Text :=
  let s := lexicon.sizes
  "NounDatabase(\x7b'user_irregulars': " ++ Nat.toDigits 10 s.userIrregulars ++
    ", 'user_rules': " ++ Nat.toDigits 10 s.userRules ++
    ", 'predefined_irregulars': " ++ Nat.toDigits 10 s.predefinedIrregulars ++
    ", 'predefined_rules': " ++ Nat.toDigits 10 s.predefinedRules ++ "\x7d)"

end Lexicon

end Agreement
