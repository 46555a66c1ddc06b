import Agreement.Pattern.Basic
import Agreement.Pattern.Error

/-!
# Parts of written patterns

What a reader of patterns goes by: a cursor in the written pattern, which knows the groups opened so
far, and the flags in force. Read here are the parts that contain no further patterns, which are
names, escapes and sets of characters.
-/

namespace Agreement

namespace Pattern

/-- The flags that are in force at a place of a written pattern. -/
structure Flags where
  /-- Which characters count as letters, digits and blanks. -/
  alphabet : Alphabet := .full
  ignoreCase : Bool := false
  /-- Whether lines have starts and ends of their own. -/
  multiline : Bool := false
  /-- Whether a point stands for a line feed as well. -/
  dotAll : Bool := false
  /-- Whether blanks and comments are read over. -/
  verbose : Bool := false
  deriving DecidableEq, Repr

/-- The alphabet whose case is ignored. -/
def Flags.fold (flags : Flags) : Option Alphabet :=
  if flags.ignoreCase then some flags.alphabet else none

/-- What is left to read of a pattern, and the groups opened so far with their names. -/
structure Cursor where
  /-- The characters with a name. -/
  characters : Text → Option Char
  /-- The length of the whole pattern. -/
  total : Nat
  /-- The characters not read yet. -/
  rest : Text
  /-- The number of groups opened so far. -/
  groups : Nat := 0
  /-- The names of groups, with their numbers. -/
  names : List (Text × Nat) := []
  /-- The numbers of the groups that are closed, with the width of each. -/
  widths : List (Nat × Width) := []
  /-- Inside a look-behind, the number of groups opened before the outermost one. -/
  groupsBefore : Option Nat := none
  /-- The numbers of groups that conditions ask about, with the position of the first one. -/
  asked : List (Nat × Nat) := []

namespace Cursor

/-- The position of the next character. -/
def position (c : Cursor) : Nat :=
  c.total - c.rest.length

/-- The error at the next character, or `back` characters before it. -/
def fault {α : Type} (c : Cursor) (f : PatternFault) (back : Nat := 0) : Except PatternError α :=
  .error ⟨f, c.position - back⟩

/-- The cursor behind the next `n` characters. A lone backslash at the end of the pattern is a
fault as soon as it comes next. -/
def skip (c : Cursor) (n : Nat) : Except PatternError Cursor :=
  let rest := c.rest.drop n
  if rest = ['\\'] then .error ⟨.openEscape, c.total - 1⟩ else .ok { c with rest }

/-- The next character with the backslash before it, if any, and the cursor behind it. -/
def next? (c : Cursor) : Except PatternError (Option Text × Cursor) := do
  match c.rest with
  | [] => return (none, c)
  | '\\' :: d :: _ => return (some ['\\', d], ← c.skip 2)
  | d :: _ => return (some [d], ← c.skip 1)

/-- The cursor behind `mark`, if the text goes on with it. -/
def accept? (c : Cursor) (mark : Char) : Except PatternError (Option Cursor) := do
  if c.rest.head? = some mark then return some (← c.skip 1) else return none

/-- The longest part of at most `n` characters of a kind, and the cursor behind it. -/
def takeWhile (c : Cursor) (n : Nat) (kind : Char → Bool) :
    Except PatternError (Text × Cursor) := do
  let taken := (c.rest.take n).takeWhile kind
  return (taken, ← c.skip taken.length)

/-- The cursor behind the next unescaped `mark`, if there is one; `fuel` bounds the number of
characters. -/
def pass? (mark : Char) : (fuel : Nat) → Cursor → Except PatternError (Option Cursor)
  | 0, _ => .ok none
  | fuel + 1, c => do
    match ← c.next? with
    | (none, _) => return none
    | (some token, c) => if token = [mark] then return some c else pass? mark fuel c

/-- The text up to an unescaped closing mark, behind `before`, and the cursor behind the mark;
`what` says in faults which text it is. `fuel` bounds the number of characters. -/
def nameUntil (closing : Char) (what : Text) :
    (fuel : Nat) → (before : Text) → Cursor → Except PatternError (Text × Cursor)
  | 0, _, c => c.fault (.missingName what)
  | fuel + 1, before, c => do
    match ← c.next? with
    | (none, c) =>
      if before = [] then c.fault (.missingName what)
      else c.fault (.unclosedName closing) before.length
    | (some token, c) =>
      if token ≠ [closing] then nameUntil closing what fuel (before ++ token) c
      else if before = [] then c.fault (.missingName what) 1
      else return (before, c)

/-- The text up to a closing mark. -/
def name (c : Cursor) (closing : Char) (what : Text) : Except PatternError (Text × Cursor) :=
  nameUntil closing what (c.rest.length + 1) [] c

end Cursor

/-- Whether a character is a hexadecimal digit. -/
def isHex (c : Char) : Bool :=
  c.isDigit || ('a' ≤ c && c ≤ 'f') || ('A' ≤ c && c ≤ 'F')

/-- Whether a character is an octal digit. -/
def isOctal (c : Char) : Bool :=
  '0' ≤ c && c ≤ '7'

/-- The value of digits in a radix up to sixteen. -/
def valueOf (radix : Nat) (digits : Text) : Nat :=
  digits.foldl (fun n c =>
    n * radix + (if c.isDigit then c.toNat - 48 else c.toLower.toNat - 87)) 0

/-- What an escape stands for: one character, a kind of characters, a condition, or the text of an
earlier group. -/
inductive Escaped where
  | char (code : Nat)
  | kind (k : CharKind) (outside : Bool)
  | condition (a : Anchor)
  | same (number : Nat)

/-- The escapes that name a kind of characters. -/
def kindEscape? : Char → Option Escaped
  | 'd' => some (.kind .digit false)
  | 'D' => some (.kind .digit true)
  | 's' => some (.kind .blank false)
  | 'S' => some (.kind .blank true)
  | 'w' => some (.kind .word false)
  | 'W' => some (.kind .word true)
  | _ => none

/-- The escapes that state a condition. -/
def conditionEscape? (flags : Flags) : Char → Option Escaped
  | 'A' => some (.condition .start)
  | 'b' => some (.condition (.wordEdge flags.alphabet false))
  | 'B' => some (.condition (.wordEdge flags.alphabet true))
  | 'Z' => some (.condition .textEnd)
  | _ => none

/-- The escapes for control characters. -/
def controlEscape? : Char → Option Escaped
  | 'a' => some (.char 7)
  | 'b' => some (.char 8)
  | 'f' => some (.char 12)
  | 'n' => some (.char 10)
  | 'r' => some (.char 13)
  | 't' => some (.char 9)
  | 'v' => some (.char 11)
  | _ => none

/-- An escape that goes on with exactly `n` hexadecimal digits. -/
def hexEscape (n : Nat) (d : Char) (c : Cursor) : Except PatternError (Escaped × Cursor) := do
  let (digits, c) ← c.takeWhile n isHex
  if digits.length ≠ n then c.fault (.shortEscape ('\\' :: d :: digits)) (digits.length + 2)
  else
    let code := valueOf 16 digits
    if 0x10FFFF < code then c.fault (.badEscape ('\\' :: d :: digits)) (digits.length + 2)
    else return (.char code, c)

/-- An escape that gives the octal digits of a character of one byte. -/
def octalEscape (digits : Text) (c : Cursor) : Except PatternError (Escaped × Cursor) :=
  if 0o377 < valueOf 8 digits then c.fault (.largeOctal ('\\' :: digits)) (digits.length + 1)
  else .ok (.char (valueOf 8 digits), c)

/-- An escape that gives the name of a character in braces. -/
def namedEscape (c : Cursor) : Except PatternError (Escaped × Cursor) := do
  match ← c.accept? '\x7b' with
  | none => c.fault .noBrace
  | some c =>
    let (name, c) ← c.name '\x7d' "character name"
    match c.characters name with
    | some character => return (.char character.toNat, c)
    | none => c.fault (.unknownCharacter name) (name.length + 4)

/-- A reference to a group from inside a look-behind, which must not go to a group that is open or
was opened in it. -/
def checkGroupBehind (number : Nat) (c : Cursor) : Except PatternError Unit :=
  match c.groupsBefore with
  | none => .ok ()
  | some groupsBefore =>
    if (c.widths.lookup number).isNone then c.fault .openGroup
    else if groupsBefore < number then c.fault .groupBehind
    else .ok ()

/-- An escape whose digits are the octal digits of a character, if they are three, or else the
number of an earlier group. -/
def digitEscape (d : Char) (c : Cursor) : Except PatternError (Escaped × Cursor) := do
  let (second, c) ← c.takeWhile 1 Char.isDigit
  let (third, c) ← if second ≠ [] ∧ (d :: second).all isOctal then c.takeWhile 1 isOctal
    else pure ([], c)
  if third ≠ [] then octalEscape (d :: (second ++ third)) c
  else
    let digits := d :: second
    let number := valueOf 10 digits
    if c.groups < number then c.fault (.noGroup number) digits.length
    else if (c.widths.lookup number).isNone then c.fault .openGroup (digits.length + 1)
    else
      checkGroupBehind number c
      return (.same number, c)

/-- The escape of the character `d`, with the cursor behind it. In a set, `\b` is a control
character and digits are octal; elsewhere escapes can state conditions, and digits can refer to
groups. -/
def escape (flags : Flags) (inSet : Bool) (d : Char) (c : Cursor) :
    Except PatternError (Escaped × Cursor) := do
  match (if inSet then none else conditionEscape? flags d) <|> kindEscape? d <|>
      controlEscape? d with
  | some e => return (e, c)
  | none =>
    if d = 'x' then hexEscape 2 d c
    else if d = 'u' then hexEscape 4 d c
    else if d = 'U' then hexEscape 8 d c
    else if d = 'N' then namedEscape c
    else if d = '0' || (inSet && isOctal d) then
      let (digits, c) ← c.takeWhile 2 isOctal
      octalEscape (d :: digits) c
    else if !inSet && d.isDigit then digitEscape d c
    else if d.isAlphanum then c.fault (.badEscape ['\\', d]) 2
    else return (.char d.toNat, c)

/-- The part of a set that an escape makes up. -/
def Escaped.item (flags : Flags) : Escaped → SetItem
  | .char code => .range code code
  | .kind k outside => .kind k flags.alphabet outside
  | .condition _ | .same _ => .range 1 0

/-- The pattern that an escape makes up; `c` knows the width of the group it may refer to. -/
def Escaped.pattern (flags : Flags) (c : Cursor) : Escaped → Pattern
  | .condition a => .anchor a
  | .same number => .same number flags.fold ((c.widths.lookup number).getD ⟨0, none⟩)
  | e => .one (.set flags.fold false [e.item flags])

/-- One member of a set, which was read as `token`. -/
def setMember (flags : Flags) (token : Text) (c : Cursor) :
    Except PatternError (Escaped × Cursor) := do
  match token with
  | ['\\', d] => escape flags true d c
  | [d] => return (.char d.toNat, c)
  | _ => return (.char 0, c)

/-- The parts of a set up to its closing bracket; `opening` is the position of the opening one.
A bracket that comes first stands for itself. -/
def setItems (flags : Flags) (opening : Nat) : (fuel : Nat) → List SetItem → Cursor →
    Except PatternError (List SetItem × Cursor)
  | 0, _, _ => .error ⟨.unfinishedSet, opening⟩
  | fuel + 1, items, c => do
    match ← c.next? with
    | (none, _) => .error ⟨.unfinishedSet, opening⟩
    | (some first, c) =>
      if first = [']'] ∧ items ≠ [] then return (items, c)
      let (low, c) ← setMember flags first c
      match ← c.accept? '-' with
      | none => setItems flags opening fuel (items ++ [low.item flags]) c
      | some c =>
        match ← c.next? with
        | (none, _) => .error ⟨.unfinishedSet, opening⟩
        | (some last, c) =>
          if last = [']'] then return (items ++ [low.item flags, .range 45 45], c)
          let (high, c) ← setMember flags last c
          match low, high with
          | .char a, .char b =>
            if b < a then c.fault (.badRange first last) (first.length + 1 + last.length)
            else setItems flags opening fuel (items ++ [.range a b]) c
          | _, _ => c.fault (.badRange first last) (first.length + 1 + last.length)

/-- A set of characters, read behind its opening bracket. -/
def charSet (flags : Flags) (opening : Nat) (c : Cursor) :
    Except PatternError (Pattern × Cursor) := do
  let (outside, c) := match ← c.accept? '^' with
    | some c => (true, c)
    | none => (false, c)
  let (items, c) ← setItems flags opening (c.rest.length + 1) [] c
  return (.one (.set flags.fold outside items), c)

end Pattern

end Agreement
