import Agreement.Decimal.Integer
import Agreement.Pattern.Escape

/-!
# Reading patterns

The written form of patterns: characters for themselves, `.` for any character, sets in brackets,
backslash escapes, groups in parentheses, `|` for choices, and the marks `*`, `+`, `?` and counts in
braces for repetition. What follows `(?` makes a group a named one, a reference, a comment, a
condition on the text around, a choice by an earlier group, or one that is matched in one way only
or under other flags. `Pattern.read` reports the first fault from the left with its position, and
only then the faults of the pattern as a whole.

Three things are left out. The names of characters are a parameter of `Pattern.readNaming`, and
`Pattern.read` knows none. Flags for the whole pattern have to stand in front of it, where every
pattern of this library has a group or a character of a form, and count as faults everywhere. The
name of a group consists of word characters; marks that combine with them are refused.
-/

namespace Agreement

namespace Pattern

/-- The number of repetitions that digits give. -/
def repeatCount (digits : Text) : Except PatternError Nat :=
  if digitLimit < digits.length then .error ⟨.longCount digits.length, 0⟩
  else if 0xFFFFFFFF ≤ valueOf 10 digits then .error ⟨.largeCount, 0⟩
  else .ok (valueOf 10 digits)

/-- The bounds of a repetition in braces, read behind the opening brace; none if the brace stands
for itself. -/
def braceBounds (c : Cursor) : Except PatternError (Option ((Nat × Option Nat) × Cursor)) := do
  if c.rest.head? = some '\x7d' then return none
  let (low, d) ← c.takeWhile c.rest.length Char.isDigit
  let (high, d) ← match ← d.accept? ',' with
    | some d => d.takeWhile d.rest.length Char.isDigit
    | none => pure (low, d)
  match ← d.accept? '\x7d' with
  | none => return none
  | some d =>
    let least ← repeatCount low
    if high = [] then return some ((least, none), d)
    let most ← repeatCount high
    if most < least then .error ⟨.emptyRepeatRange, c.position⟩
    else return some ((least, some most), d)

/-- The sequence of some patterns. -/
def inSequence : List Pattern → Pattern
  | [] => .empty
  | [p] => p
  | p :: ps => .both p (inSequence ps)

/-- Repeats the last of the patterns read so far, which are in reverse order; `mark` is the position
of the mark that asks for it. -/
def repeatLast (mark : Nat) (bounds : Nat × Option Nat) (read : List Pattern) (c : Cursor) :
    Except PatternError (List Pattern × Cursor) := do
  match read with
  | [] | .anchor _ :: _ => .error ⟨.nothingToRepeat, mark⟩
  | .repeated .. :: _ => .error ⟨.repeatedRepeat, mark⟩
  | p :: earlier =>
    let of (preference : Preference) := .repeated p bounds.1 bounds.2 preference :: earlier
    if let some c ← c.accept? '?' then return (of .fewest, c)
    if let some c ← c.accept? '+' then return (of .mostOnly, c)
    return (of .most, c)

/-- Whether a text can be the name of a group. -/
def isGroupName (name : Text) : Bool :=
  name ≠ [] && name.all isWord && !name.head?.any isDecimal

/-- The name of a group, up to the closing mark. -/
def groupName (closing : Char) (c : Cursor) : Except PatternError (Text × Cursor) := do
  let (name, c) ← c.name closing "group name"
  if isGroupName name then return (name, c) else c.fault (.badName name) (name.length + 1)

/-- The number of a new group, with the cursor inside it. -/
def openGroup (name : Option Text) (c : Cursor) : Except PatternError (Nat × Cursor) :=
  let number := c.groups + 1
  match name with
  | none => .ok (number, { c with groups := number })
  | some name =>
    match c.names.lookup name with
    | some earlier => c.fault (.repeatedName name number earlier) (name.length + 1)
    | none => .ok (number, { c with groups := number, names := (name, number) :: c.names })

/-- The number of the closed group with a name, up to a closing parenthesis. -/
def namedReference (c : Cursor) : Except PatternError (Nat × Cursor) := do
  let (name, c) ← groupName ')' c
  match c.names.lookup name with
  | none => c.fault (.unknownName name) (name.length + 1)
  | some number =>
    if (c.widths.lookup number).isNone then c.fault .openGroup (name.length + 1)
    else
      checkGroupBehind number c
      return (number, c)

/-- The number of the group that a condition asks about, by its name or number, up to a closing
parenthesis. A group with that number may still follow. -/
def conditionGroup (c : Cursor) : Except PatternError (Nat × Cursor) := do
  let (name, c) ← c.name ')' "group name"
  let back := name.length + 1
  let (number, c) ←
    if isGroupName name then
      match c.names.lookup name with
      | none => c.fault (.unknownName name) back
      | some number => pure (number, c)
    else
      match Integer.read name with
      | .ok (.ofNat number) =>
        if number = 0 then c.fault .groupZero back
        else if 0x3FFFFFFF ≤ number then c.fault (.noGroup number) back
        else if (c.asked.lookup number).isSome then pure (number, c)
        else pure (number, { c with asked := c.asked ++ [(number, c.position - back)] })
      | _ => c.fault (.badName name) back
  checkGroupBehind number c
  return (number, c)

/-- A letter for a flag. -/
inductive FlagMark where
  | ignoreCase
  | multiline
  | dotAll
  | verbose
  | alphabet (a : Alphabet)
  | bytes
  | template
  deriving DecidableEq, Repr

/-- The flag that a letter stands for. -/
def FlagMark.of? : Text → Option FlagMark
  | ['i'] => some .ignoreCase
  | ['m'] => some .multiline
  | ['s'] => some .dotAll
  | ['x'] => some .verbose
  | ['a'] => some (.alphabet .ascii)
  | ['u'] => some (.alphabet .full)
  | ['L'] => some .bytes
  | ['t'] => some .template
  | _ => none

/-- Whether a flag says which characters count as letters. -/
def FlagMark.isAlphabet : FlagMark → Bool
  | .alphabet _ | .bytes => true
  | _ => false

/-- The flags with one of them turned on or off. -/
def Flags.turn (flags : Flags) (on : Bool) : FlagMark → Flags
  | .ignoreCase => { flags with ignoreCase := on }
  | .multiline => { flags with multiline := on }
  | .dotAll => { flags with dotAll := on }
  | .verbose => { flags with verbose := on }
  | .alphabet a => { flags with alphabet := a }
  | .bytes | .template => flags

/-- The fault of a character that stands where a flag is expected, or of the end of the pattern;
`otherwise` is the fault unless the character is a letter. -/
def flagFault {α : Type} (token : Option Text) (otherwise : FlagFault) (c : Cursor) :
    Except PatternError α :=
  match token with
  | none => c.fault (.flags otherwise)
  | some [d] =>
    let isLetter := isWord d && !isDecimal d && d != '_'
    c.fault (.flags (if isLetter then .unknown else otherwise)) 1
  | some token => c.fault (.flags otherwise) token.length

/-- The flags that are turned on, behind the first of them, with the mark that ends them; `on` holds
those before. `fuel` bounds the number of characters. -/
def flagsOn : (fuel : Nat) → (on : List FlagMark) → FlagMark → Cursor →
    Except PatternError (List FlagMark × Char × Cursor)
  | 0, _, _, c => c.fault (.flags .missingEnd)
  | fuel + 1, on, flag, c => do
    if flag = .bytes then c.fault (.flags .forBytes)
    else if flag.isAlphabet && on.any fun other => other.isAlphabet && other ≠ flag then
      c.fault (.flags .incompatible)
    else
      match ← c.next? with
      | (some [')'], c) => return (on ++ [flag], ')', c)
      | (some ['-'], c) => return (on ++ [flag], '-', c)
      | (some [':'], c) => return (on ++ [flag], ':', c)
      | (token, c) =>
        match token.bind FlagMark.of? with
        | some next => flagsOn fuel (on ++ [flag]) next c
        | none => flagFault token .missingEnd c

/-- The flags that are turned off, behind the first of them and up to a colon; `off` holds those
before. `fuel` bounds the number of characters. -/
def flagsOff : (fuel : Nat) → (off : List FlagMark) → FlagMark → Cursor →
    Except PatternError (List FlagMark × Cursor)
  | 0, _, _, c => c.fault (.flags .missingColon)
  | fuel + 1, off, flag, c => do
    if flag.isAlphabet then c.fault (.flags .alphabetOff)
    else
      match ← c.next? with
      | (some [':'], c) => return (off ++ [flag], c)
      | (token, c) =>
        match token.bind FlagMark.of? with
        | some next => flagsOff fuel (off ++ [flag]) next c
        | none => flagFault token .missingColon c

/-- The flags inside a group whose front turns some on and others off, read from the first token on;
`opening` is the position of its parenthesis. -/
def groupFlags (flags : Flags) (opening : Nat) (token : Text) (c : Cursor) :
    Except PatternError (Flags × Cursor) := do
  let (on, ending, c) ← match FlagMark.of? token with
    | some first => flagsOn (c.rest.length + 1) [] first c
    | none => pure ([], '-', c)
  if ending = ')' then .error ⟨.flags .late, opening⟩
  else if on.contains .template then c.fault (.flags .globalOn) 1
  else
    let (off, c) ←
      if ending = ':' then pure ([], c)
      else
        match ← c.next? with
        | (token, c) =>
          match token.bind FlagMark.of? with
          | some first => flagsOff (c.rest.length + 1) [] first c
          | none => flagFault token .missing c
    if off.contains .template then c.fault (.flags .globalOff) 1
    else if on.any off.contains then c.fault (.flags .onAndOff) 1
    else return (off.foldl (·.turn false) (on.foldl (·.turn true) flags), c)

/-- What the front of a group makes of it. -/
inductive GroupFront where
  | captured (number : Nat)
  /-- A group without a number, under some flags. -/
  | under (flags : Flags)
  | atomic
  | ahead (outside : Bool)
  | behind (outside : Bool)
  | ifGroup (number : Nat)
  /-- A reference to a group, which is complete. -/
  | same (number : Nat)
  /-- A comment, which is complete. -/
  | comment
  deriving DecidableEq, Repr

/-- The front of a group, read behind its parenthesis, which is at the position `opening`. -/
def groupFront (flags : Flags) (opening : Nat) (c : Cursor) :
    Except PatternError (GroupFront × Cursor) := do
  match ← c.accept? '?' with
  | none =>
    let (number, c) ← openGroup none c
    return (.captured number, c)
  | some c =>
    match ← c.next? with
    | (none, c) => c.fault .openGroupMark
    | (some [':'], c) => return (.under flags, c)
    | (some ['>'], c) => return (.atomic, c)
    | (some ['='], c) => return (.ahead false, c)
    | (some ['!'], c) => return (.ahead true, c)
    | (some ['#'], c) =>
      match ← c.pass? ')' (c.rest.length + 1) with
      | some c => return (.comment, c)
      | none => .error ⟨.unclosedComment, opening⟩
    | (some ['('], c) =>
      let (number, c) ← conditionGroup c
      return (.ifGroup number, c)
    | (some ['<'], c) =>
      match ← c.next? with
      | (none, c) => c.fault .openGroupMark
      | (some ['='], c) => return (.behind false, c)
      | (some ['!'], c) => return (.behind true, c)
      | (some mark, c) => c.fault (.unknownGroup ('<' :: mark)) (mark.length + 2)
    | (some ['P'], c) =>
      match ← c.accept? '<' with
      | some c =>
        let (name, c) ← groupName '>' c
        let (number, c) ← openGroup (some name) c
        return (.captured number, c)
      | none =>
        match ← c.accept? '=' with
        | some c =>
          let (number, c) ← namedReference c
          return (.same number, c)
        | none =>
          match ← c.next? with
          | (none, c) => c.fault .openGroupMark
          | (some mark, c) => c.fault (.unknownGroup ('P' :: mark)) (mark.length + 2)
    | (some mark, c) =>
      if mark = ['-'] || (FlagMark.of? mark).isSome then
        let (flags, c) ← groupFlags flags opening mark c
        return (.under flags, c)
      else c.fault (.unknownGroup mark) (mark.length + 1)

/-- The flags inside a group. -/
def GroupFront.flags (front : GroupFront) (flags : Flags) : Flags :=
  match front with
  | .under flags => flags
  | _ => flags

/-- The cursor inside a group. -/
def GroupFront.enter (front : GroupFront) (c : Cursor) : Cursor :=
  match front with
  | .behind _ => { c with groupsBefore := some (c.groupsBefore.getD c.groups) }
  | _ => c

/-- The cursor behind a group around a pattern; `before` is the cursor in front of the pattern. -/
def GroupFront.leave (front : GroupFront) (inner : Pattern) (before c : Cursor) : Cursor :=
  match front with
  | .captured number => { c with widths := (number, inner.width) :: c.widths }
  | .behind _ => { c with groupsBefore := before.groupsBefore }
  | _ => c

/-- The pattern that a group with a front makes of what is inside it. -/
def GroupFront.around (front : GroupFront) (inner : Pattern) : Pattern :=
  match front with
  | .captured number => .captured number inner
  | .atomic => .atomic inner
  | .ahead outside => .ahead outside inner
  | .behind outside => .behind outside inner
  | _ => .group inner

/-- What an unescaped character of a pattern starts. -/
inductive Mark where
  /-- A pattern that the character writes on its own. -/
  | single (pattern : Pattern)
  | set
  | repetition (bounds : Nat × Option Nat)
  | brace
  | group
  /-- Nothing, since blanks are read over. -/
  | blank
  /-- A comment up to the end of the line. -/
  | comment
  deriving DecidableEq, Repr

/-- What an unescaped character starts. -/
def Mark.of (flags : Flags) (d : Char) : Mark :=
  if flags.verbose && CharKind.blank.has .ascii d then .blank
  else match d with
    | '.' => .single (.one (.any flags.dotAll))
    | '^' => .single (.anchor (if flags.multiline then .lineStart else .start))
    | '$' => .single (.anchor (if flags.multiline then .lineEnd else .lastLine))
    | '[' => .set
    | '*' => .repetition (0, none)
    | '+' => .repetition (1, none)
    | '?' => .repetition (0, some 1)
    | '\x7b' => .brace
    | '(' => .group
    | '#' => if flags.verbose then .comment else .single (.one (.only '#' flags.fold))
    | d => .single (.one (.only d flags.fold))

mutual

/-- Choices between sequences, up to a closing parenthesis or the end. -/
def choices : (fuel : Nat) → Flags → Cursor → Except PatternError (Pattern × Cursor)
  | 0, _, c => .ok (.empty, c)
  | fuel + 1, flags, c => do
    let (first, c) ← sequence fuel flags [] c
    match ← c.accept? '|' with
    | none => return (first, c)
    | some c =>
      let (second, c) ← choices fuel flags c
      return (.either first second, c)

/-- A group, read behind its parenthesis at the position `opening`; none if it is a comment. -/
def groupPattern : (fuel : Nat) → Flags → (opening : Nat) → Cursor →
    Except PatternError (Option Pattern × Cursor)
  | 0, _, opening, _ => .error ⟨.unclosedGroup, opening⟩
  | fuel + 1, flags, opening, c => do
    match ← groupFront flags opening c with
    | (.comment, c) => return (none, c)
    | (.same number, c) => return (some ((Escaped.same number).pattern flags c), c)
    | (.ifGroup number, c) =>
      let (inner, c) ← sequence fuel flags [] c
      let (other, c) ← match ← c.accept? '|' with
        | none => pure (.empty, c)
        | some c =>
          let (other, c) ← sequence fuel flags [] c
          if c.rest.head? = some '|' then c.fault .manyBranches else pure (other, c)
      match ← c.accept? ')' with
      | none => .error ⟨.unclosedGroup, opening⟩
      | some c => return (some (.ifGroup number inner other), c)
    | (front, before) =>
      let (inner, c) ← choices fuel (front.flags flags) (front.enter before)
      match ← c.accept? ')' with
      | none => .error ⟨.unclosedGroup, opening⟩
      | some c => return (some (front.around inner), front.leave inner before c)

/-- A sequence of patterns behind those of `read`, which are in reverse order. -/
def sequence : (fuel : Nat) → Flags → (read : List Pattern) → Cursor →
    Except PatternError (Pattern × Cursor)
  | 0, _, read, c => .ok (inSequence read.reverse, c)
  | fuel + 1, flags, read, c => do
    if c.rest.head?.all fun d => d == '|' || d == ')' then
      return (inSequence read.reverse, c)
    let here := c.position
    match ← c.next? with
    | (some [_, d], c) =>
      let (e, c) ← escape flags false d c
      sequence fuel flags (e.pattern flags c :: read) c
    | (some [d], c) =>
      match Mark.of flags d with
      | .single p => sequence fuel flags (p :: read) c
      | .set =>
        let (p, c) ← charSet flags here c
        sequence fuel flags (p :: read) c
      | .repetition bounds =>
        let (read, c) ← repeatLast here bounds read c
        sequence fuel flags read c
      | .brace =>
        match ← braceBounds c with
        | none => sequence fuel flags (.one (.only d flags.fold) :: read) c
        | some (bounds, c) =>
          let (read, c) ← repeatLast here bounds read c
          sequence fuel flags read c
      | .group =>
        let (p, c) ← groupPattern fuel flags here c
        sequence fuel flags (p.toList ++ read) c
      | .blank => sequence fuel flags read c
      | .comment =>
        let line ← c.pass? '\n' (c.rest.length + 1)
        sequence fuel flags read (line.getD { c with rest := [] })
    | (_, c) => return (inSequence read.reverse, c)

end

/-- The first look-behind of a pattern that has more than one width, or one that is too large. -/
def behindFault? : Pattern → Option PatternFault
  | .behind _ inner =>
    if 0xFFFFFFFF < inner.width.least then some .farBehind
    else if inner.width.most ≠ some inner.width.least then some .unevenBehind
    else inner.behindFault?
  | .both first second | .either first second | .ifGroup _ first second =>
    first.behindFault? <|> second.behindFault?
  | .group inner | .captured _ inner | .repeated inner _ _ _ | .atomic inner | .ahead _ inner =>
    inner.behindFault?
  | .empty | .one _ | .anchor _ | .same .. => none

/-- The pattern with a written form, where `characters` gives the characters with a name. -/
def readNaming (characters : Text → Option Char) (t : Text) : Except PatternError Pattern := do
  let start ← ({ characters, total := t.length, rest := t } : Cursor).skip 0
  let (p, c) ← choices (3 * t.length + 5) {} start
  if c.rest ≠ [] then c.fault .unopenedGroup
  else
    match c.asked.find? fun asked => c.groups < asked.1 with
    | some (number, position) => .error ⟨.noGroup number, position⟩
    | none =>
      match p.behindFault? with
      | some fault => .error ⟨fault, 0⟩
      | none => return p

/-- The pattern with a written form. -/
def read (t : Text) : Except PatternError Pattern :=
  readNaming (fun _ => none) t

end Pattern

/-- A reader of written patterns. -/
abbrev PatternReader := Text → Except PatternError Pattern

end Agreement
