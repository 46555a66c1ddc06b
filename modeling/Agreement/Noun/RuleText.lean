import Agreement.Noun.Lexicon

/-!
# Rules as text

The text form of rules, one on each line, with comments behind `#`:

* `ox => oxen` is an irregular rule, and `formula => formulas|formulae` one with a modern and a
  classical plural, either of which may be left empty;
* `-ch => -ches` is a categorical rule whose affixes need a stem, and `*man => *men` one whose
  affixes may be whole words;
* `(SING)-(PREP)-* => (PL)-(PREP)-*` is a compound rule.

A line with a hyphen inside a word also gives the rules of its spaced variant, where hyphens are
spaces. `RuleText.read` gives the rules of some lines, up to the first faulty line or, when it is
lenient, without the faulty ones. The suffixes of affixes are patterns; the reader of patterns is a
parameter throughout, so that what is said about rules as text depends on no pattern language.
-/

namespace Agreement

/-- What is wrong with a line. -/
inductive LineFault where
  | arrows
  | noSingular
  | noPlural
  | wrongMarker (form : Text) (marker : Char)
  | rule (cause : RuleError)
  deriving DecidableEq, Repr

/-- A faulty line, with its number counted from one. -/
structure RuleTextError where
  number : Nat
  line : Text
  fault : LineFault
  deriving DecidableEq, Repr

/-- The wording of a line's fault. -/
def LineFault.message : LineFault → Text
  | .arrows => "expected exactly one '=>'"
  | .noSingular => "missing singular form"
  | .noPlural => "missing plural form"
  | .wrongMarker form marker =>
    "plural form '" ++ form ++ "' must start with '" ++ [marker] ++ "' like its singular"
  | .rule cause => cause.message

/-- The wording of the error of a faulty line. -/
def RuleTextError.message (e : RuleTextError) : Text :=
  "Improperly formatted noun definition on line " ++ Nat.toDigits 10 e.number ++ " (" ++
    (Text.dropEndWhile (· = '\n') e.line).quoted ++ "): " ++ e.fault.message

namespace RuleText

/-- The text before the first arrow `=>`, and the text behind it if there is one. -/
def cutArrow : Text → Text × Option Text
  | [] => ([], none)
  | '=' :: '>' :: rest => ([], some rest)
  | c :: rest => (c :: (cutArrow rest).1, (cutArrow rest).2)

/-- A line without its comment and without blanks at its ends. -/
def content (line : Text) : Text :=
  (Text.cutAt '#' line).1.trim

/-- The text itself, unless it is empty. -/
def present? (t : Text) : Option Text :=
  if t = [] then none else some t

/-- The modern and the classical form in the plural part of a line. -/
def splitPlurals (plural : Text) : Option Text × Option Text :=
  match Text.cutAt '|' plural with
  | (modern, none) => (present? modern, none)
  | (modern, some classical) => (present? modern.trim, present? classical.trim)

/-- A form with its inner hyphens made spaces; a hyphen in front is kept. -/
def spacedForm (form : Text) : Text :=
  match form.trim with
  | '-' :: body => '-' :: Text.exchange '-' ' ' body
  | body => Text.exchange '-' ' ' body

/-- Whether a form has a hyphen that is not in front. -/
def hasHyphen (form : Text) : Bool :=
  match form.trim with
  | '-' :: body => body.contains '-'
  | body => body.contains '-'

/-- The line with spaces for inner hyphens, if it has any. -/
def spacedVariant? (line : Text) : Option Text :=
  let (singular, plural) := cutArrow line
  let plurals := Text.splitAt '|' (plural.getD [])
  if hasHyphen singular || plurals.any hasHyphen then
    some (spacedForm singular ++ " => " ++ Text.joinWith " | " (plurals.map spacedForm))
  else none

/-- The affix of a form that starts with the marker of its rule. -/
def affix (patterns : PatternReader) (marker : Char) (form : Text) : Except LineFault Affix :=
  match form with
  | [] => .error (.wrongMarker form marker)
  | c :: suffix =>
    if c ≠ marker then .error (.wrongMarker form marker)
    else
      let complete := marker = '*'
      (Affix.read complete suffix patterns).mapError fun cause =>
        .rule (.pattern (Affix.written complete suffix) cause)

/-- The affix of a form, if there is a form. -/
def affix? (patterns : PatternReader) (marker : Char) :
    Option Text → Except LineFault (Option Affix)
  | none => .ok none
  | some form => (affix patterns marker form).map some

/-- The categorical rule of a line with a marker. -/
def categorical (patterns : PatternReader) (marker : Char) (singular : Text)
    (modern classical : Option Text) : Except LineFault Rule := do
  let singular ← affix patterns marker singular
  let modern ← affix? patterns marker modern
  let classical ← affix? patterns marker classical
  let rule ← (CategoricalRule.make singular modern classical).mapError .rule
  return .simple (.categorical rule)

/-- The compound rules of a line: one for each of its phrases, so that any of them is recognised,
with equal phrases taken once. -/
def compounds (singular : Text) (modern classical : Option Text) : Except LineFault (List Rule) :=
  let singular := Phrase.ofForm singular
  let modern := modern.map Phrase.ofForm
  let classical := classical.map Phrase.ofForm
  let patterns := (singular :: (modern.toList ++ classical.toList)).eraseDups
  patterns.mapM fun pattern =>
    ((CompoundRule.make pattern.pattern pattern singular modern classical).mapError .rule).map
      .compound

/-- Whether a form has the marker of a singular head. -/
def hasSingularHead : Text → Bool
  | [] => false
  | t@(_ :: rest) => ("(SING)" : Text).isPrefixOf t || hasSingularHead rest

/-- The rules of a line that is not blank; `patterns` reads the suffixes of affixes. -/
def rulesOf (patterns : PatternReader) (line : Text) : Except LineFault (List Rule) := do
  let (singular, plural) ← match cutArrow line with
    | (_, none) => throw .arrows
    | (singular, some plural) =>
      if (cutArrow plural).2.isSome then throw .arrows else pure (singular.trim, plural.trim)
  let (modern, classical) := splitPlurals plural
  if singular = [] then throw .noSingular
  if modern = none ∧ classical = none then throw .noPlural
  if hasSingularHead singular then compounds singular modern classical
  else match singular with
    | '*' :: _ => return [← categorical patterns '*' singular modern classical]
    | '-' :: _ => return [← categorical patterns '-' singular modern classical]
    | _ =>
      let rule ← (IrregularRule.make singular modern classical).mapError .rule
      return [.simple (.irregular rule)]

/-- The rules of a line, its spaced variant included, up to a fault. -/
def readLine (patterns : PatternReader) (line : Text) : List Rule × Option LineFault :=
  let line := content line
  if line = [] then ([], none)
  else match rulesOf patterns line with
    | .error fault => ([], some fault)
    | .ok rules =>
      match spacedVariant? line with
      | none => (rules, none)
      | some variant =>
        match rulesOf patterns variant with
        | .error fault => (rules, some fault)
        | .ok more => (rules ++ more, none)

/-- The rules that were read, and the fault that ended the reading, if any. -/
structure Reading where
  rules : List Rule := []
  fault : Option RuleTextError := none
  deriving DecidableEq, Repr

/-- The rules of the lines from a number on. A strict reading ends at the first fault; a lenient one
goes on behind the faulty line. -/
def readFrom (patterns : PatternReader) (strict : Bool) : (number : Nat) → List Text → Reading
  | _, [] => {}
  | number, line :: lines =>
    match readLine patterns line with
    | (rules, some fault) =>
      if strict then ⟨rules, some ⟨number, line, fault⟩⟩
      else
        let later := readFrom patterns strict (number + 1) lines
        { later with rules := rules ++ later.rules }
    | (rules, none) =>
      let later := readFrom patterns strict (number + 1) lines
      { later with rules := rules ++ later.rules }

/-- The rules of some lines. -/
def read (strict : Bool) (lines : List Text) (patterns : PatternReader := Pattern.read) :
    Reading :=
  readFrom patterns strict 1 lines

end RuleText

namespace Lexicon

/-- The lexicon with some rules in the predefined tier, in order. -/
def addAllPredefined (lexicon : Lexicon) (rules : List Rule) : Lexicon :=
  rules.foldl addPredefined lexicon

/-- The lexicon with some rules in the user's tier, in order. -/
def addAllUser (lexicon : Lexicon) (rules : List Rule) : Lexicon :=
  rules.foldl addUser lexicon

/-- Reads lines into the predefined tier. Rules read before a fault stay. -/
def populate (lexicon : Lexicon) (strict : Bool) (lines : List Text)
    (patterns : PatternReader := Pattern.read) : Lexicon × Option RuleTextError :=
  let reading := RuleText.read strict lines patterns
  (lexicon.addAllPredefined reading.rules, reading.fault)

/-- Reads a text into the user's tier, with the number of its rules. Rules read before a fault
stay. -/
def loadUser (lexicon : Lexicon) (strict : Bool) (t : Text)
    (patterns : PatternReader := Pattern.read) : Lexicon × Except RuleTextError Nat :=
  let reading := RuleText.read strict t.lines patterns
  (lexicon.addAllUser reading.rules,
   match reading.fault with
   | some e => .error e
   | none => .ok reading.rules.length)

/-- A lexicon with prepositions and the rules of a file, which must have no faulty line if the
reading is strict. -/
def ofFile (prepositions : Prepositions) (strict : Bool) (file : Text) :
    Except RuleTextError Lexicon :=
  match ({ prepositions } : Lexicon).populate strict (Text.lines (Text.unifyLineEnds file)) with
  | (_, some e) => .error e
  | (lexicon, none) => .ok lexicon

end Lexicon

end Agreement
