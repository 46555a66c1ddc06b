import Agreement.Noun.Phrase
import Agreement.Pattern.Error

/-!
# Written phrases

The two written forms of a phrase: as a pattern, where a slot is a named group of word characters
and marks are escaped, and as a template, where a slot is a name in braces and braces are doubled.
Both are shown in messages, and both can be read back.
-/

namespace Agreement.Phrase

/-- The characters that are escaped in written patterns. -/
def escapedMarks : Text := "()[]\x7b\x7d?*+-|^$\\.&~# \t\n\r\x0b\x0c"

/-- A piece of a phrase in a written pattern. -/
def patternPiece : Piece → Text
  | .char c => if escapedMarks.contains c then ['\\', c] else [c]
  | .slot s => "(?P<" ++ s.name ++ ">\\w+)"

/-- A phrase as a written pattern. -/
def pattern (p : Phrase) : Text :=
  p.flatMap patternPiece

/-- A piece of a phrase in a written template. -/
def templatePiece : Piece → Text
  | .char c => if c = '\x7b' ∨ c = '\x7d' then [c, c] else [c]
  | .slot s => '\x7b' :: s.name ++ ['\x7d']

/-- A phrase as a written template. -/
def template (p : Phrase) : Text :=
  p.flatMap templatePiece

/-- The slot with a name. -/
def slotNamed (name : Text) : Slot :=
  if name = "noun" then .head
  else if name = "preposition" then .preposition
  else if name = "scratch" then .copied
  else .other name

/-- The phrase with a written pattern, if it consists of characters and slots. `fuel` bounds the
number of pieces. -/
def ofPatternWithin : (fuel : Nat) → Text → Option Phrase
  | 0, _ => none
  | _ + 1, [] => some []
  | fuel + 1, '\\' :: c :: t =>
    if c.isAlphanum then none else (ofPatternWithin fuel t).map (.char c :: ·)
  | fuel + 1, '(' :: '?' :: 'P' :: '<' :: t =>
    match Text.cutAt '>' t with
    | (name, some ('\\' :: 'w' :: '+' :: ')' :: rest)) =>
      (ofPatternWithin fuel rest).map (.slot (slotNamed name) :: ·)
    | _ => none
  | fuel + 1, c :: t =>
    if (".\\[\x7b()*+?^$|" : Text).contains c then none
    else (ofPatternWithin fuel t).map (.char c :: ·)

/-- The phrase with a written pattern, if it consists of characters and slots. -/
def ofPattern? (t : Text) : Option Phrase :=
  ofPatternWithin (t.length + 1) t

/-- The phrase with a written template, if every brace is doubled or part of a slot. `fuel` bounds
the number of pieces. -/
def ofTemplateWithin : (fuel : Nat) → Text → Option Phrase
  | 0, _ => none
  | _ + 1, [] => some []
  | fuel + 1, '\x7b' :: '\x7b' :: t => (ofTemplateWithin fuel t).map (.char '\x7b' :: ·)
  | fuel + 1, '\x7d' :: '\x7d' :: t => (ofTemplateWithin fuel t).map (.char '\x7d' :: ·)
  | fuel + 1, '\x7b' :: t =>
    match Text.cutAt '\x7d' t with
    | (name, some rest) => (ofTemplateWithin fuel rest).map (.slot (slotNamed name) :: ·)
    | (_, none) => none
  | fuel + 1, c :: t => if c = '\x7d' then none else (ofTemplateWithin fuel t).map (.char c :: ·)

/-- The phrase with a written template, if every brace is doubled or part of a slot. -/
def ofTemplate? (t : Text) : Option Phrase :=
  ofTemplateWithin (t.length + 1) t

/-- The fault of the first slot that an earlier slot of the same name makes impossible, if any.
`groups` holds the slots before the phrase, latest first, and `position` its place in the written
pattern. -/
def repeatedSlotAfter (groups : List Slot) (position : Nat) : Phrase → Option PatternError
  | [] => none
  | .char c :: p => repeatedSlotAfter groups (position + (patternPiece (.char c)).length) p
  | .slot s :: p =>
    match groups.reverse.findIdx? (· = s) with
    | some earlier =>
      some ⟨.repeatedName s.name (groups.length + 1) (earlier + 1), position + 4⟩
    | none => repeatedSlotAfter (s :: groups) (position + (patternPiece (.slot s)).length) p

/-- The fault of the first slot that occurs a second time, if any. -/
def repeatedSlot? (p : Phrase) : Option PatternError :=
  repeatedSlotAfter [] 0 p

end Agreement.Phrase
