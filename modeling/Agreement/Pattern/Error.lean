import Agreement.Text.Quoted

/-!
# Faults in patterns

What can be wrong with a written pattern, where, and the wording. Most faults have a position; those
about the width of a look-behind and about numbers in counts have none.
-/

namespace Agreement

/-- What is wrong with the flags in the front of a group. -/
inductive FlagFault where
  | unknown
  | missing
  | missingEnd
  | missingColon
  | forBytes
  | incompatible
  | globalOn
  | globalOff
  | alphabetOff
  | onAndOff
  | late
  deriving DecidableEq, Repr

/-- What is wrong with a written pattern. -/
inductive PatternFault where
  | unfinishedSet
  | badRange (first last : Text)
  | badEscape (escape : Text)
  | shortEscape (escape : Text)
  | openEscape
  | largeOctal (escape : Text)
  | noBrace
  | unknownCharacter (name : Text)
  | nothingToRepeat
  | repeatedRepeat
  | emptyRepeatRange
  | largeCount
  | longCount (digits : Nat)
  | unclosedGroup
  | unclosedComment
  | unopenedGroup
  | unknownGroup (mark : Text)
  | openGroupMark
  | flags (fault : FlagFault)
  | missingName (what : Text)
  | unclosedName (closing : Char)
  | badName (name : Text)
  | repeatedName (name : Text) (group earlier : Nat)
  | unknownName (name : Text)
  | groupZero
  | noGroup (number : Nat)
  | openGroup
  | groupBehind
  | manyBranches
  | farBehind
  | unevenBehind
  deriving DecidableEq, Repr

/-- A fault in a written pattern, with the position in it. -/
structure PatternError where
  fault : PatternFault
  position : Nat
  deriving DecidableEq, Repr

/-- The wording of a fault of flags. -/
def FlagFault.message : FlagFault → Text
  | .unknown => "unknown flag"
  | .missing => "missing flag"
  | .missingEnd => "missing -, : or )"
  | .missingColon => "missing :"
  | .forBytes => "bad inline flags: cannot use 'L' flag with a str pattern"
  | .incompatible => "bad inline flags: flags 'a', 'u' and 'L' are incompatible"
  | .globalOn => "bad inline flags: cannot turn on global flag"
  | .globalOff => "bad inline flags: cannot turn off global flag"
  | .alphabetOff => "bad inline flags: cannot turn off flags 'a', 'u' and 'L'"
  | .onAndOff => "bad inline flags: flag turned on and off"
  | .late => "global flags not at the start of the expression"

namespace PatternFault

/-- The wording of a fault. -/
def message : PatternFault → Text
  | .unfinishedSet => "unterminated character set"
  | .badRange first last => "bad character range " ++ first ++ "-" ++ last
  | .badEscape escape => "bad escape " ++ escape
  | .shortEscape escape => "incomplete escape " ++ escape
  | .openEscape => "bad escape (end of pattern)"
  | .largeOctal escape => "octal escape value " ++ escape ++ " outside of range 0-0o377"
  | .noBrace => "missing \x7b"
  | .unknownCharacter name => "undefined character name " ++ name.quoted
  | .nothingToRepeat => "nothing to repeat"
  | .repeatedRepeat => "multiple repeat"
  | .emptyRepeatRange => "min repeat greater than max repeat"
  | .largeCount => "the repetition number is too large"
  | .longCount digits =>
    "Exceeds the limit (4300 digits) for integer string conversion: value has " ++
      Nat.toDigits 10 digits ++ " digits; use sys.set_int_max_str_digits() to increase the limit"
  | .unclosedGroup => "missing ), unterminated subpattern"
  | .unclosedComment => "missing ), unterminated comment"
  | .unopenedGroup => "unbalanced parenthesis"
  | .unknownGroup mark => "unknown extension ?" ++ mark
  | .openGroupMark => "unexpected end of pattern"
  | .flags fault => fault.message
  | .missingName what => "missing " ++ what
  | .unclosedName closing => "missing " ++ closing :: ", unterminated name"
  | .badName name => "bad character in group name " ++ name.quoted
  | .repeatedName name group earlier =>
    "redefinition of group name " ++ name.quoted ++ " as group " ++ Nat.toDigits 10 group ++
      "; was group " ++ Nat.toDigits 10 earlier
  | .unknownName name => "unknown group name " ++ name.quoted
  | .groupZero => "bad group number"
  | .noGroup number => "invalid group reference " ++ Nat.toDigits 10 number
  | .openGroup => "cannot refer to an open group"
  | .groupBehind => "cannot refer to group defined in the same lookbehind subpattern"
  | .manyBranches => "conditional backref with more than two branches"
  | .farBehind => "looks too much behind"
  | .unevenBehind => "look-behind requires fixed-width pattern"

/-- Whether the position of a fault is told. -/
def isPlaced : PatternFault → Bool
  | .largeCount | .longCount _ | .farBehind | .unevenBehind => false
  | _ => true

end PatternFault

namespace PatternError

/-- The line and column of a position, both counted from one, in a text of several lines. -/
def lineAndColumn (pattern : Text) (position : Nat) : Nat × Nat :=
  let earlier := pattern.take position
  (earlier.count '\n' + 1, (earlier.reverse.takeWhile (· ≠ '\n')).length + 1)

/-- The wording of an error in the written pattern. A pattern of several lines also gets a line and
a column. -/
def message (pattern : Text) (e : PatternError) : Text :=
  let (line, column) := lineAndColumn pattern e.position
  e.fault.message ++
    (if e.fault.isPlaced then " at position " ++ Nat.toDigits 10 e.position else []) ++
    if e.fault.isPlaced && pattern.contains '\n' then
      " (line " ++ Nat.toDigits 10 line ++ ", column " ++ Nat.toDigits 10 column ++ ")"
    else []

end PatternError

end Agreement
