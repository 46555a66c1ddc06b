import Agreement.Noun.Inflection
import Agreement.Pattern.Reader

/-!
# Affixes

An affix is a suffix that can be tested for, stripped from a word, and attached to a stem. What
stays in front of it is the stem, which consists of word characters; a complete affix may be a whole
word, any other needs a stem of at least one character. A suffix with pattern marks is read as a
pattern behind the stem, but still attached as it is written.
-/

namespace Agreement

/-- How the end of a word is recognised. -/
inductive SuffixForm where
  /-- By exactly the suffix. -/
  | literal
  /-- By a pattern for the whole word, which captures the stem. -/
  | pattern (whole : Pattern)
  deriving DecidableEq, Repr

/-- A suffix that can be tested for, stripped and attached. -/
structure Affix where
  /-- The text that is attached to a stem. -/
  suffix : Text
  /-- Whether the suffix may be a whole word. -/
  complete : Bool
  /-- How the suffix is recognised. -/
  form : SuffixForm
  deriving DecidableEq, Repr

namespace Affix

/-- The characters that have a meaning of their own in patterns. -/
def patternMarks : Text := ".\\[\x7b()*+?^$|"

/-- Whether a suffix stands for exactly itself. -/
def isLiteral (suffix : Text) : Bool :=
  !suffix.any patternMarks.contains

/-- The written pattern for words with a suffix. -/
def written (complete : Bool) (suffix : Text) : Text :=
  (if complete then ("(?P<stem>\\w*)" : Text) else "(?P<stem>\\w+)") ++ suffix

/-- The affix with a suffix, unless the suffix is a faulty pattern; `patterns` reads patterns. -/
def read (complete : Bool) (suffix : Text) (patterns : PatternReader := Pattern.read) :
    Except PatternError Affix :=
  if isLiteral suffix then .ok ⟨suffix, complete, .literal⟩
  else (patterns (written complete suffix)).map fun p => ⟨suffix, complete, .pattern p⟩

/-- The stem of a word that ends with exactly the suffix. -/
def literalStem? (complete : Bool) (suffix w : Text) : Option Text :=
  let stem := w.take (w.length - suffix.length)
  if w = stem ++ suffix ∧ stem.all isWord ∧ (complete ∨ stem ≠ []) then some stem else none

/-- The stem of a word with the affix; missing if the match of the pattern passed it by. -/
def stem? (a : Affix) (w : Text) : Option (Option Text) :=
  match a.form with
  | .literal => (literalStem? a.complete a.suffix w).map some
  | .pattern whole => whole.fullMatch? w

/-- Whether a word has the affix. -/
def has (a : Affix) (w : Text) : Bool :=
  (a.stem? w).isSome

/-- The stem of a word, which must have the affix. -/
def strip (a : Affix) (w : Text) : Except NounError (Option Text) :=
  match a.stem? w with
  | some stem => .ok stem
  | none => .error (.noAffix w a.suffix)

/-- A stem with the affix. -/
def attach (a : Affix) (stem : Text) : Text :=
  stem ++ a.suffix

/-- The word with the affix `a` exchanged for `b`. -/
def exchange (a b : Affix) (w : Text) : Except NounError Text := do
  match ← a.strip w with
  | some stem => return b.attach stem
  | none => .error .noStem

end Affix

end Agreement
