import Agreement.Text.CaseTable

/-!
# Case mappings of texts

`lower` and `upper` map whole texts, since a letter's other case can have several characters and
since the capital sigma has two small forms. It becomes the final form `ς` when a cased letter
comes before it and none after it, where characters such as an apostrophe are skipped, and `σ`
everywhere else. A comparison that ignores case goes letter by letter instead (`lowerLetter`), and
by an alphabet: the letters of ASCII, or of all scripts.
-/

namespace Agreement

/-- The mapping of one character by a table of runs. -/
def shifted (table : Array CaseRange) (c : Char) : Char :=
  match table.find? fun r => r.letters.has c.toNat with
  | none => c
  | some r => Char.ofNat (c.toNat + r.shift).toNat

/-- Whether a character is skipped when looking for a sigma's neighbours. -/
def isSkipped (c : Char) : Bool :=
  if c.toNat < 128 then c == '\x27' || c == '.' || c == ':' || c == '^' || c == '\x60'
  else skippedTable.has c

/-- Whether a character that is not skipped has case. -/
def isCased (c : Char) : Bool :=
  if c.toNat < 128 then c.isAlpha else casedTable.has c

/-- Whether the first character that is not skipped has case. -/
def startsCased (t : Text) : Bool :=
  match t.dropWhile isSkipped with
  | [] => false
  | c :: _ => isCased c

/-- The lowercase form of one character: `earlier` holds the characters before it, nearest first,
and `later` those after it. -/
def lowerChar (earlier : Text) (c : Char) (later : Text) : Text :=
  if c.toNat < 128 then [c.toLower]
  else if c = 'Σ' then [if startsCased earlier && !startsCased later then 'ς' else 'σ']
  else if c = 'İ' then ['i', '\u0307']
  else [shifted loweringTable c]

/-- The uppercase form of one character. -/
def upperChar (c : Char) : Text :=
  if c.toNat < 128 then [c.toUpper]
  else match expandingTable.find? fun entry => entry.1 == c.toNat with
    | some entry => entry.2
    | none => [shifted raisingTable c]

/-- The lowercase form of one letter by itself, its first character if it has several. -/
def lowerLetter (c : Char) : Char :=
  if c.toNat < 128 then c.toLower
  else if c = 'İ' then 'i'
  else shifted loweringTable c

/-- The letters whose lowercase form has a code point, that letter included. -/
def lowerOrigins (n : Nat) : List Nat :=
  let runs := loweringTable.toList.filterMap fun r =>
    let origin := ((n : Int) - r.shift).toNat
    if r.letters.has origin then some origin else none
  n :: (if 97 ≤ n && n ≤ 122 then [n - 32] else []) ++ (if n = 105 then [0x130] else []) ++ runs

/-- The characters that a property of characters is about: those of ASCII, or all. -/
inductive Alphabet where
  | ascii
  | full
  deriving DecidableEq, Repr

namespace Alphabet

/-- The lowercase form of a letter of an alphabet; any other character stays as it is. -/
def lower : Alphabet → Char → Char
  | .ascii, c => c.toLower
  | .full, c => lowerLetter c

/-- The code points of the characters that are equal to `c` when case is ignored: they have a common
lowercase form, or lowercase forms with a common capital. -/
def variants (a : Alphabet) (c : Char) : List Nat :=
  let n := (a.lower c).toNat
  match a with
  | .ascii => if 97 ≤ n && n ≤ 122 then [n, n - 32] else [n]
  | .full => ((sharedCapitals.find? fun group => group.contains n).getD [n]).flatMap lowerOrigins

end Alphabet

namespace Text

/-- The lowercase form of `t` behind the characters `earlier`, nearest first. -/
def lowerAfter (earlier : Text) : Text → Text
  | [] => []
  | c :: later => lowerChar earlier c later ++ lowerAfter (c :: earlier) later

/-- The lowercase form of a text. -/
def lower (t : Text) : Text :=
  lowerAfter [] t

/-- The uppercase form of a text. -/
def upper (t : Text) : Text :=
  t.flatMap upperChar

end Text

end Agreement
