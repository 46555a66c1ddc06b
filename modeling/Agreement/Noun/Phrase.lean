import Agreement.Noun.Inflection
import Agreement.Text.CaseMap
import Agreement.Text.WordChar

/-!
# Phrases and prepositions

A phrase is a text with slots for single words: the head noun, a preposition, and a word that is
copied through. It is read in two ways. As a pattern, `Phrase.match?` finds what the slots of a text
hold; as a template, `Phrase.fill` puts words into the slots. The two are inverse to each other. The
words that count as prepositions are kept in lowercase and without repetitions, and a word is looked
up in lowercase.
-/

namespace Agreement

/-- A slot of a phrase. -/
inductive Slot where
  /-- The noun that carries the number. -/
  | head
  | preposition
  /-- A word that is copied through. -/
  | copied
  /-- A slot that no pattern fills. -/
  | other (name : Text)
  deriving DecidableEq, Repr

/-- The name of a slot. -/
def Slot.name : Slot → Text
  | .head => "noun"
  | .preposition => "preposition"
  | .copied => "scratch"
  | .other name => name

/-- A character of a phrase, or a slot. -/
inductive Piece where
  | char (c : Char)
  | slot (s : Slot)
  deriving DecidableEq, Repr

/-- A text with slots. -/
abbrev Phrase := List Piece

/-- Words for slots. -/
abbrev Filling := List (Slot × Text)

namespace Phrase

/-- The slots of a phrase from left to right. -/
def slots : Phrase → List Slot
  | [] => []
  | .char _ :: p => slots p
  | .slot s :: p => s :: slots p

/-- What the slots hold if the whole text has the form of the phrase. A slot takes one or more word
characters, as many as leave a match for the rest. -/
def match? : Phrase → Text → Option Filling
  | [], t => if t = [] then some [] else none
  | .char c :: p, t =>
    match t with
    | [] => none
    | d :: rest => if c = d then match? p rest else none
  | .slot s :: p, t =>
    (List.range (firstWord t).length).reverse.findSome? fun n =>
      (match? p (t.drop (n + 1))).map ((s, t.take (n + 1)) :: ·)

/-- The text of a phrase with words for its slots. -/
def fill (words : Filling) : Phrase → Except NounError Text
  | [] => .ok []
  | .char c :: p => (fill words p).map (c :: ·)
  | .slot s :: p =>
    match words.lookup s with
    | none => .error (.unfilled s.name)
    | some w => (fill words p).map (w ++ ·)

/-- The phrase of a form in a rule: `(SING)` and `(PL)` mark the head, `(PREP)` a preposition, and
`*` a word that is copied through. -/
def ofForm : Text → Phrase
  | '(' :: 'S' :: 'I' :: 'N' :: 'G' :: ')' :: t => .slot .head :: ofForm t
  | '(' :: 'P' :: 'L' :: ')' :: t => .slot .head :: ofForm t
  | '(' :: 'P' :: 'R' :: 'E' :: 'P' :: ')' :: t => .slot .preposition :: ofForm t
  | '*' :: t => .slot .copied :: ofForm t
  | c :: t => .char c :: ofForm t
  | [] => []

end Phrase

/-- A set of prepositions, in lowercase and each once. -/
structure Prepositions where
  words : List Text := []
  deriving DecidableEq, Repr

namespace Prepositions

/-- The set of some words, each trimmed and in lowercase. -/
def ofList (words : List Text) : Prepositions :=
  ⟨((words.map Text.trim).filter (· ≠ [])).map Text.lower |>.eraseDups⟩

/-- Whether a word is a preposition, in any case. -/
def has (p : Prepositions) (w : Text) : Bool :=
  w ≠ [] && p.words.contains w.lower

/-- The number of prepositions. -/
def size (p : Prepositions) : Nat :=
  p.words.length

/-- The prepositions in the order of code points. -/
def sorted (p : Prepositions) : List Text :=
  p.words.mergeSort fun v w => !Text.before w v

/-- A set of prepositions as messages show it. -/
def describe (p : Prepositions) : Text :=
  "PrepositionSet(" ++ Nat.toDigits 10 p.size ++ " words)"

/-- The prepositions of a file: one on each line, and comments behind `#`. -/
def ofFile (content : Text) : Prepositions :=
  ofList ((Text.lines (Text.unifyLineEnds content)).map fun line =>
    (Text.cutAt '#' line).1.trim)

end Prepositions

end Agreement
