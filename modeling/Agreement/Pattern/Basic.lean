import Agreement.Text.Basic
import Agreement.Text.CaseMap
import Agreement.Text.WordChar

/-!
# Patterns

Patterns of characters with repetition, choice, numbered groups, references to what a group took,
and conditions on the text around a place. `Pattern.ends` lists the places where a match can end,
the preferred one first, so a full match is the first end with nothing behind it. Of a full match
only the text of the first group is of use here, which is the stem of a word.
-/

namespace Agreement

/-- Kinds of characters that a pattern can name. -/
inductive CharKind where
  | digit
  | blank
  | word
  deriving DecidableEq, Repr

/-- Whether a character of an alphabet is of a kind. -/
def CharKind.has : CharKind → Alphabet → Char → Bool
  | .digit, .full, c => isDecimal c
  | .digit, .ascii, c => c.isDigit
  | .blank, .full, c => isBlank c
  | .blank, .ascii, c => c == ' ' || (9 ≤ c.toNat && c.toNat ≤ 13)
  | .word, .full, c => isWord c
  | .word, .ascii, c => c.isAlphanum || c == '_'

/-- A part of a set of characters. -/
inductive SetItem where
  | range (first last : Nat)
  | kind (k : CharKind) (alphabet : Alphabet) (outside : Bool)
  deriving DecidableEq, Repr

/-- Whether a character is in a part of a set; `codes` are the code points that stand for it. -/
def SetItem.has (codes : List Nat) : SetItem → Char → Bool
  | .range first last, _ => codes.any fun n => first ≤ n && n ≤ last
  | .kind k alphabet outside, c => k.has alphabet c != outside

/-- What a pattern asks of a single character. -/
inductive CharTest where
  /-- Any character; a line feed only if it is to count. -/
  | any (lineFeeds : Bool)
  /-- A character in one of some parts, or in none of them. Case is ignored for the letters of
  `fold`. -/
  | set (fold : Option Alphabet) (outside : Bool) (items : List SetItem)
  deriving DecidableEq, Repr

/-- Whether a character passes. -/
def CharTest.has : CharTest → Char → Bool
  | .any lineFeeds, c => lineFeeds || c != '\n'
  | .set fold outside items, c =>
    let codes := match fold with
      | none => [c.toNat]
      | some alphabet => alphabet.variants c
    (items.any fun item => item.has codes c) != outside

/-- The test for one character. -/
def CharTest.only (c : Char) (fold : Option Alphabet := none) : CharTest :=
  .set fold false [.range c.toNat c.toNat]

/-- Conditions on a place in a text. -/
inductive Anchor where
  | start
  | lineStart
  /-- The end, or before a line feed at the end. -/
  | lastLine
  | lineEnd
  | textEnd
  | wordEdge (alphabet : Alphabet) (outside : Bool)
  deriving DecidableEq, Repr

/-- Which of several repetitions is preferred. -/
inductive Preference where
  | most
  | fewest
  /-- The most, without going back to fewer, nor to another match of one repetition. -/
  | mostOnly
  deriving DecidableEq, Repr

/-- How many characters a pattern takes, at least and at most. -/
structure Width where
  least : Nat
  most : Option Nat
  deriving DecidableEq, Repr

namespace Width

/-- The width of two patterns one behind the other. -/
def add (a b : Width) : Width where
  least := a.least + b.least
  most := a.most.bind fun m => b.most.map (m + ·)

/-- The width of a choice between two patterns. -/
def either (a b : Width) : Width where
  least := min a.least b.least
  most := a.most.bind fun m => b.most.map (max m ·)

/-- The width of a repetition. -/
def times (a : Width) (least : Nat) (most : Option Nat) : Width where
  least := a.least * least
  most := if a.most = some 0 ∨ most = some 0 then some 0
    else a.most.bind fun m => most.map (m * ·)

end Width

/-- A pattern of characters. -/
inductive Pattern where
  | empty
  | one (test : CharTest)
  | anchor (condition : Anchor)
  | both (first second : Pattern)
  | either (first second : Pattern)
  /-- A part in parentheses. -/
  | group (inner : Pattern)
  /-- A part in parentheses with a number, under which its match is kept. -/
  | captured (number : Nat) (inner : Pattern)
  | repeated (inner : Pattern) (least : Nat) (most : Option Nat) (preference : Preference)
  /-- The text that a group took last, once more. The width is that of the group. -/
  | same (number : Nat) (fold : Option Alphabet) (width : Width)
  /-- A part that is not matched in another way later on. -/
  | atomic (inner : Pattern)
  /-- Whether a pattern matches from here on. -/
  | ahead (outside : Bool) (inner : Pattern)
  /-- Whether a pattern, which has one width, matches up to here. -/
  | behind (outside : Bool) (inner : Pattern)
  /-- One of two patterns, as a group has taken part in the match or not. -/
  | ifGroup (number : Nat) (inner other : Pattern)
  deriving DecidableEq, Repr

/-- A place in a text during a match: the characters before it, nearest first, the text behind it,
and where each numbered group has last started and stopped. -/
structure Place where
  earlier : Text
  rest : Text
  starts : List (Nat × Nat) := []
  stops : List (Nat × Nat) := []
  deriving DecidableEq, Repr

namespace Place

/-- The number of characters before a place. -/
def position (p : Place) : Nat :=
  p.earlier.length

/-- The whole text that a place is in. -/
def text (p : Place) : Text :=
  p.earlier.reverse ++ p.rest

/-- Whether the character behind a place belongs to a word while the one before does not, or the
other way round. -/
def atWordEdge (p : Place) (alphabet : Alphabet) : Bool :=
  p.earlier.head?.any (CharKind.word.has alphabet) != p.rest.head?.any (CharKind.word.has alphabet)

/-- Whether a place meets a condition. In an empty text there are neither edges of words nor places
that are none. -/
def meets (p : Place) : Anchor → Bool
  | .start => p.earlier == []
  | .lineStart => p.earlier == [] || p.earlier.head? == some '\n'
  | .lastLine => p.rest == [] || p.rest == ['\n']
  | .lineEnd => p.rest == [] || p.rest.head? == some '\n'
  | .textEnd => p.rest == []
  | .wordEdge alphabet outside =>
    !(p.earlier == [] && p.rest == []) && p.atWordEdge alphabet != outside

/-- The place behind the next `n` characters. -/
def forth (p : Place) (n : Nat) : Place :=
  { p with earlier := (p.rest.take n).reverse ++ p.earlier, rest := p.rest.drop n }

/-- The place before the last `n` characters, if there are so many. -/
def back? (p : Place) (n : Nat) : Option Place :=
  if n ≤ p.position then
    some { p with earlier := p.earlier.drop n, rest := (p.earlier.take n).reverse ++ p.rest }
  else none

/-- The place with the start of a group. -/
def start (p : Place) (number : Nat) : Place :=
  { p with starts := (number, p.position) :: p.starts }

/-- The place with the end of a group. -/
def stop (p : Place) (number : Nat) : Place :=
  { p with stops := (number, p.position) :: p.stops }

/-- The text that a group took last, if it has taken part in the match. -/
def captured? (p : Place) (number : Nat) : Option Text := do
  let start ← p.starts.lookup number
  let stop ← p.stops.lookup number
  if start ≤ stop then some ((p.text.drop start).take (stop - start)) else none

/-- The place behind a look at the text around it, which some matches have come of: the place with
the groups of the preferred one, or for `outside` the place as it is if there is none. -/
def look (p : Place) (outside : Bool) : List Place → List Place
  | [] => if outside then [p] else []
  | q :: _ => if outside then [] else [{ p with starts := q.starts, stops := q.stops }]

end Place

namespace Pattern

/-- The ends of a repetition of `step`, at least `least` and at most `most` times. An iteration that
is not due is made only if the last such iteration, which started at `last`, has moved on. `fuel`
bounds the number of iterations. -/
def iterate (step : Place → List Place) (preference : Preference) :
    (fuel least : Nat) → (most last : Option Nat) → Place → List Place
  | 0, _, _, _, p => [p]
  | fuel + 1, least, most, last, p =>
    let further (last : Option Nat) := (step p).flatMap fun q =>
      iterate step preference fuel (least - 1) (most.map (· - 1)) last q
    if 0 < least then further last
    else if most == some 0 || last == some p.position then [p]
    else match preference with
      | .fewest => p :: further (some p.position)
      | _ => further (some p.position) ++ [p]

/-- The width of a pattern. -/
def width : Pattern → Width
  | .empty | .anchor _ | .ahead .. | .behind .. => ⟨0, some 0⟩
  | .one _ => ⟨1, some 1⟩
  | .both first second => first.width.add second.width
  | .either first second | .ifGroup _ first second => first.width.either second.width
  | .group inner | .captured _ inner | .atomic inner => inner.width
  | .repeated inner least most _ => inner.width.times least most
  | .same _ _ width => width

/-- The places where a match that starts at a place can end, the preferred one first. -/
def ends : Pattern → Place → List Place
  | .empty, p => [p]
  | .one test, p =>
    match p.rest with
    | [] => []
    | c :: rest => if test.has c then [{ p with earlier := c :: p.earlier, rest }] else []
  | .anchor condition, p => if p.meets condition then [p] else []
  | .both first second, p => (first.ends p).flatMap second.ends
  | .either first second, p => first.ends p ++ second.ends p
  | .group inner, p => inner.ends p
  | .captured number inner, p => (inner.ends (p.start number)).map fun q => q.stop number
  | .repeated inner least most preference, p =>
    let fuel := least + p.rest.length + 2
    if preference = .mostOnly then
      (iterate (fun q => (inner.ends q).take 1) preference fuel least most none p).take 1
    else iterate inner.ends preference fuel least most none p
  | .same number fold _, p =>
    match p.captured? number with
    | none => []
    | some t =>
      let fold (c : Char) := (fold.map fun alphabet => alphabet.lower c).getD c
      if (p.rest.take t.length).map fold = t.map fold then [p.forth t.length] else []
  | .atomic inner, p => (inner.ends p).take 1
  | .ahead outside inner, p => p.look outside (inner.ends p)
  | .behind outside inner, p =>
    p.look outside (((p.back? inner.width.least).map inner.ends).getD [])
  | .ifGroup number inner other, p =>
    if (p.captured? number).isSome then inner.ends p else other.ends p

/-- The text of the first group in the preferred match of a whole text, if there is a match; it is
missing if the match passed the group by. -/
def fullMatch? (pattern : Pattern) (t : Text) : Option (Option Text) :=
  ((pattern.ends ⟨[], t, [], []⟩).find? fun p => p.rest.isEmpty).map fun p => p.captured? 1

end Pattern

end Agreement
