import Agreement.Number.Words
import Agreement.Value

/-!
# Directives

What a template consists of once it is compiled. A numeric directive sets the number that later
nouns agree with and prints it; a noun directive prints a noun in the form that agrees. Nested
lists of directives are trees of `Node`.
-/

namespace Agreement

/-- Where a directive takes its value from. -/
inductive Source (α : Type) where
  | constant (value : α)
  | variable (name : Text)
  deriving DecidableEq, Repr

/-- The options of a numeric directive. -/
structure NumericOptions where
  /-- Whether the number is increased first. -/
  increment : Bool := false
  /-- By how much it is increased. -/
  incrementAmount : Int := 1
  /-- Whether zero counts as singular. -/
  singularZero : Bool := false
  /-- Whether zero is written "no". -/
  zeroAsNo : Bool := false
  /-- Whether one is written as the article of the next noun. -/
  useArticle : Bool := false
  /-- Whether nothing is printed. -/
  suppressOutput : Bool := false
  /-- Whether the number is written in words. -/
  cardinalForm : Bool := false
  /-- The number from which on digits are written instead of words. -/
  cardinalThreshold : Int := 11
  /-- Whether the number is written as an ordinal. -/
  ordinalForm : Bool := false
  /-- The number from which on digits are written instead of an ordinal. -/
  ordinalThreshold : Int := Ordinal.unlimited
  /-- Whether the number is written as a vague quantity. -/
  summarizeForm : Bool := false
  /-- Whether the vague quantity stands at the end of a sentence. -/
  summarizeAtEnd : Bool := false
  deriving DecidableEq, Repr

/-- The options of a noun directive. -/
structure NounOptions where
  /-- Whether the classical plural is preferred. -/
  classical : Bool := false
  /-- Whether the noun is plural whatever the number. -/
  forcePlural : Bool := false
  /-- Whether the noun is singular whatever the number. -/
  forceSingular : Bool := false
  deriving DecidableEq, Repr

/-- A directive of a template. -/
inductive Directive where
  | literal (text : Text)
  | variable (name : Text)
  | numeric (value : Source Int) (options : NumericOptions)
  | noun (word : Source Text) (options : NounOptions)
  deriving DecidableEq, Repr

/-- An entry of a nested list of directives. -/
inductive Node where
  | directive (d : Directive)
  /-- A value that is no directive. -/
  | stray (v : Value)
  /-- A missing entry, which ends the list it stands in. -/
  | gap
  | sequence (nodes : List Node)

/-- An entry that is reached when a nested list is walked. -/
inductive Leaf where
  | directive (d : Directive)
  | stray (v : Value)

/-- The options of some directive, when a directive is put together from loose parts. -/
inductive AnyOptions where
  | numeric (options : NumericOptions)
  | noun (options : NounOptions)
  deriving DecidableEq, Repr

/-- Why a directive cannot be put together. -/
inductive DirectiveError where
  | numericSource
  | nounSource
  | numericOptions
  | nounOptions
  deriving DecidableEq, Repr

/-- The wording of a directive's error. -/
def DirectiveError.message : DirectiveError → Text
  | .numericSource => "Numeric directive needs exactly one of value / variable"
  | .nounSource => "Noun directive needs exactly one of text / variable"
  | .numericOptions => "Numeric directive does not take NounOptions"
  | .nounOptions => "Noun directive does not take NumericOptions"

/-- The source with exactly one of a value and a name. -/
def Source.of? {α : Type} : Option α → Option Text → Option (Source α)
  | some value, none => some (.constant value)
  | none, some name => some (.variable name)
  | _, _ => none

namespace Directive

/-- The numeric directive with a value or the name of one. -/
def makeNumeric (value : Option Int) (name : Option Text) (options : AnyOptions) :
    Except DirectiveError Directive :=
  match Source.of? value name, options with
  | none, _ => .error .numericSource
  | some _, .noun _ => .error .numericOptions
  | some source, .numeric options => .ok (.numeric source options)

/-- The noun directive with a word or the name of one. -/
def makeNoun (word name : Option Text) (options : AnyOptions) : Except DirectiveError Directive :=
  match Source.of? word name, options with
  | none, _ => .error .nounSource
  | some _, .numeric _ => .error .nounOptions
  | some source, .noun options => .ok (.noun source options)

end Directive

end Agreement
