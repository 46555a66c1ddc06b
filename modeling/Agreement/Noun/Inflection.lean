import Agreement.Text.Quoted

/-!
# Inflections

What every rule for nouns can be asked about a word, and what a noun answers from it. A rule tells
singular from plural and derives forms from a word in either number; a noun is a word asked through
its rule, which keeps a plural as it is and derives the modern and classical plurals from the
singular. `Inflection` holds the questions, and the definitions behind it the answers of nouns.

A rule has a modern plural, a classical one, or both, and each stands in for the other when that is
missing. The type `Plurals` makes a rule without any plural impossible.
-/

namespace Agreement

/-- A modern plural, a classical plural, or both. -/
inductive Plurals (α : Type) where
  | modern (m : α)
  | classical (c : α)
  | both (m c : α)
  deriving DecidableEq, Repr

namespace Plurals

variable {α β : Type}

/-- The plurals that are there, if any is. -/
def of? : Option α → Option α → Option (Plurals α)
  | some m, some c => some (.both m c)
  | some m, none => some (.modern m)
  | none, some c => some (.classical c)
  | none, none => none

/-- The modern plural, if there is one. -/
def modern? : Plurals α → Option α
  | .modern m => some m
  | .classical _ => none
  | .both m _ => some m

/-- The classical plural, if there is one. -/
def classical? : Plurals α → Option α
  | .modern _ => none
  | .classical c => some c
  | .both _ c => some c

/-- The modern plural, or else the classical one. -/
def modernFirst : Plurals α → α
  | .modern m => m
  | .classical c => c
  | .both m _ => m

/-- The classical plural, or else the modern one. -/
def classicalFirst : Plurals α → α
  | .modern m => m
  | .classical c => c
  | .both _ c => c

/-- The plurals that are there, the modern one first. -/
def toList : Plurals α → List α
  | .modern m => [m]
  | .classical c => [c]
  | .both m c => [m, c]

/-- The same plurals with `f` applied to each. -/
def map (f : α → β) : Plurals α → Plurals β
  | .modern m => .modern (f m)
  | .classical c => .classical (f c)
  | .both m c => .both (f m) (f c)

end Plurals

/-- Why a rule cannot answer for a word. -/
inductive NounError where
  /-- The rule, shown as `rule`, does not match the noun. -/
  | foreign (noun rule : Text)
  /-- The word does not end with the affix. -/
  | noAffix (word suffix : Text)
  /-- The match of the affix passed the stem by. -/
  | noStem
  /-- A phrase has a slot that the matched pattern does not fill. -/
  | unfilled (slot : Text)
  deriving DecidableEq, Repr

/-- The forms of a noun. -/
inductive NounForm where
  | singular
  | plural
  | modernPlural
  | classicalPlural
  deriving DecidableEq, Repr

/-- The answers of a rule about words. -/
structure Inflection where
  /-- Whether the rule knows how to inflect a word. -/
  matches? : Text → Bool
  /-- Whether a word is singular. -/
  isSingular : Text → Except NounError Bool
  /-- The singular of a word. -/
  singularize : Text → Except NounError Text
  /-- The preferred plural of a word. -/
  pluralize : Text → Except NounError Text
  /-- The modern plural of a word. -/
  pluralizeModern : Text → Except NounError Text
  /-- The classical plural of a word. -/
  pluralizeClassical : Text → Except NounError Text

namespace Inflection

/-- Whether a word is plural, which is whether it is not singular. -/
def isPlural (i : Inflection) (w : Text) : Except NounError Bool := do
  return !(← i.isSingular w)

/-- The word itself if it is singular, and its singular otherwise. -/
def asSingular (i : Inflection) (w : Text) : Except NounError Text := do
  if ← i.isSingular w then return w else i.singularize w

/-- The plural of a noun; one that is plural already stays as it is. -/
def plural (i : Inflection) (w : Text) : Except NounError Text := do
  if ← i.isPlural w then return w else i.pluralize w

/-- The modern plural of a noun, derived from its singular. -/
def modernPlural (i : Inflection) (w : Text) : Except NounError Text := do
  i.pluralizeModern (← i.asSingular w)

/-- The classical plural of a noun, derived from its singular. -/
def classicalPlural (i : Inflection) (w : Text) : Except NounError Text := do
  i.pluralizeClassical (← i.asSingular w)

/-- A form of a noun. -/
def form (i : Inflection) : NounForm → Text → Except NounError Text
  | .singular => i.singularize
  | .plural => i.plural
  | .modernPlural => i.modernPlural
  | .classicalPlural => i.classicalPlural

end Inflection

namespace NounError

/-- The wording of a noun's error. -/
def message : NounError → Text
  | .foreign noun rule => "Noun '" ++ noun ++ "' doesn't belong to inflection " ++ rule
  | .noAffix word suffix => "'" ++ word ++ "' does not end with affix '" ++ suffix ++ "'"
  | .noStem => "unsupported operand type(s) for +: 'NoneType' and 'str'"
  | .unfilled slot => slot.quoted

/-- Whether an error is about the noun itself, and so is reported; any other ends the program. -/
def isReported : NounError → Bool
  | .foreign _ _ => true
  | _ => false

end NounError

end Agreement
