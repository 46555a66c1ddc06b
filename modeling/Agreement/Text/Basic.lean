/-!
# Texts

A text is the list of its characters, so every position, offset and length in this library counts
characters. This file fixes the type, lets a string literal stand for its text, and holds what the
other modules share: cuts, splits and paddings, which characters are trimmed from the ends of a
text, and which end a line. Read it first.
-/

namespace Agreement

/-- A text, as the list of its characters. -/
abbrev Text := List Char

/-- A string stands for the list of its characters. -/
instance : Coe String Text := ⟨String.toList⟩

namespace Text

/-- The string with the characters of `t`. -/
def toStr (t : Text) : String :=
  String.ofList t

/-- The text before the first `sep`, and the text after it if there is one. -/
def cutAt (sep : Char) : Text → Text × Option Text
  | [] => ([], none)
  | c :: rest =>
    if c = sep then ([], some rest)
    else ((c :: (cutAt sep rest).1), (cutAt sep rest).2)

/-- Puts a character in front of the first of some pieces. -/
def consFirst (c : Char) : List Text → List Text
  | [] => [[c]]
  | piece :: pieces => (c :: piece) :: pieces

/-- The pieces of a text between the occurrences of `sep`, at least one. -/
def splitAt (sep : Char) : Text → List Text
  | [] => [[]]
  | c :: rest => if c = sep then [] :: splitAt sep rest else consFirst c (splitAt sep rest)

/-- The texts joined with `sep` between neighbours. -/
def joinWith (sep : Text) : List Text → Text
  | [] => []
  | [t] => t
  | t :: ts => t ++ sep ++ joinWith sep ts

/-- Every occurrence of the character `c` exchanged for `d`. -/
def exchange (c d : Char) (t : Text) : Text :=
  t.map fun x => if x = c then d else x

/-- `t` with `c` put in front until it has `width` characters. -/
def padLeft (width : Nat) (c : Char) (t : Text) : Text :=
  List.replicate (width - t.length) c ++ t

/-- `t` with `c` put behind until it has `width` characters. -/
def padRight (width : Nat) (c : Char) (t : Text) : Text :=
  t ++ List.replicate (width - t.length) c

/-- `n` copies of `t` in a row. -/
def times (n : Nat) (t : Text) : Text :=
  (List.replicate n t).flatten

/-- `t` without the zeros at its end, its first character aside. -/
def dropZeros : Text → Text
  | [] => []
  | c :: rest => c :: (rest.reverse.dropWhile (· = '0')).reverse

/-- The order of code points, first difference first. -/
def before : Text → Text → Bool
  | _, [] => false
  | [], _ :: _ => true
  | c :: t, d :: u => c < d || (c = d && before t u)

end Text

/-- Whether a character is a blank: a space, tab or line break of any script, or one of the four
ASCII separators. -/
def isBlank (c : Char) : Bool :=
  let n := c.toNat
  (9 ≤ n && n ≤ 13) || (28 ≤ n && n ≤ 32) || n == 0x85 || n == 0xA0 || n == 0x1680 ||
    (0x2000 ≤ n && n ≤ 0x200A) || n == 0x2028 || n == 0x2029 || n == 0x202F || n == 0x205F ||
    n == 0x3000

/-- Whether a character ends a line. -/
def isLineBreak (c : Char) : Bool :=
  let n := c.toNat
  (10 ≤ n && n ≤ 13) || (28 ≤ n && n ≤ 30) || n == 0x85 || n == 0x2028 || n == 0x2029

namespace Text

/-- The text without the characters of a kind at its end. -/
def dropEndWhile (kind : Char → Bool) (t : Text) : Text :=
  (t.reverse.dropWhile kind).reverse

/-- The text without the blanks at both ends. -/
def trim (t : Text) : Text :=
  dropEndWhile isBlank (t.dropWhile isBlank)

/-- The lines of a text, without their line breaks. A carriage return and the line feed after it
are one break, and a break at the very end begins no further line. -/
def lines : Text → List Text
  | [] => []
  | '\r' :: '\n' :: rest => [] :: lines rest
  | c :: rest => if isLineBreak c then [] :: lines rest else consFirst c (lines rest)

/-- Writes every line ending of the forms `\r\n` and `\r` as `\n`. -/
def unifyLineEnds : Text → Text
  | [] => []
  | '\r' :: '\n' :: rest => '\n' :: unifyLineEnds rest
  | c :: rest => (if c = '\r' then '\n' else c) :: unifyLineEnds rest

end Text

end Agreement
