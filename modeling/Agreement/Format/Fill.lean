import Agreement.Format.Conversion

/-!
# Formats

A format is a text with conversions, each of which starts with a percent sign and takes the next
argument: flags, a width, a precision, a length that is read over, and a mark. A star in place of a
width or a precision takes an argument of its own. Two percent signs stand for one. `Format.fill`
fills a format in, and every argument must be used.
-/

namespace Agreement.Format

/-- What is left to read of a format, and the arguments that are left to use. -/
structure Cursor where
  text : Text
  arguments : List Value

/-- The next argument. -/
def next (cursor : Cursor) : Except FormatError (Value × Cursor) :=
  match cursor.arguments with
  | [] => .error .tooFewArguments
  | v :: rest => .ok (v, { cursor with arguments := rest })

/-- The conversion with the flags at the start of a text, and the rest of the text. -/
def readFlags (c : Conversion) : Text → Conversion × Text
  | '-' :: t => readFlags { c with leftAligned := true } t
  | '+' :: t => readFlags { c with plus := true } t
  | ' ' :: t => readFlags { c with blank := true } t
  | '#' :: t => readFlags { c with marked := true } t
  | '0' :: t => readFlags { c with zeros := true } t
  | t => (c, t)

/-- The number at the start of a text, zero if there are no digits, and the rest of the text. -/
def readNumber (t : Text) : Nat × Text :=
  ((t.takeWhile Char.isDigit).foldl (fun n c => n * 10 + (c.toNat - 48)) 0,
   t.dropWhile Char.isDigit)

/-- The integer of a star. -/
def starred (cursor : Cursor) : Except FormatError (Int × Cursor) := do
  match ← next cursor with
  | (.int n, cursor) => return (n, cursor)
  | (.bool b, cursor) => return (b.toInt, cursor)
  | _ => throw .extentNotInteger

/-- Whether an integer fits a number of bits. -/
def fits (bits : Nat) (n : Int) : Bool :=
  let half : Int := Nat.pow 2 (bits - 1)
  n < half && (-half) ≤ n

/-- The conversion with the width at the start of the text. A negative width of a star aligns to the
left. -/
def readWidth (c : Conversion) (cursor : Cursor) : Except FormatError (Conversion × Cursor) :=
  match cursor.text with
  | '*' :: t => do
    let (n, cursor) ← starred { cursor with text := t }
    if !fits 64 n then throw .argumentWidth
    return ({ c with width := n.natAbs, leftAligned := c.leftAligned || n < 0 }, cursor)
  | t =>
    let (width, t) := readNumber t
    if fits 64 width then .ok ({ c with width }, { cursor with text := t })
    else .error .writtenWidth

/-- The conversion with the precision at the start of the text. A negative precision of a star is
zero. -/
def readPrecision (c : Conversion) (cursor : Cursor) : Except FormatError (Conversion × Cursor) :=
  match cursor.text with
  | '.' :: '*' :: t => do
    let (n, cursor) ← starred { cursor with text := t }
    if !fits 32 n then throw .argumentPrecision
    return ({ c with precision := some n.toNat }, cursor)
  | '.' :: t =>
    let (precision, t) := readNumber t
    if fits 32 precision then
      .ok ({ c with precision := some precision }, { cursor with text := t })
    else .error .writtenPrecision
  | _ => .ok (c, cursor)

/-- The text behind a length, which has no meaning. -/
def skipLength : Text → Text
  | 'h' :: t => t
  | 'l' :: t => t
  | 'L' :: t => t
  | t => t

/-- What a conversion writes, from the text behind its percent sign. `size` is the length of the
whole format. -/
def convert (size : Nat) (cursor : Cursor) : Except FormatError (Text × Cursor) :=
  match cursor.text with
  | '%' :: t => .ok ("%", { cursor with text := t })
  | '(' :: _ => .error .named
  | t => do
    let (c, t) := readFlags {} t
    let (c, cursor) ← readWidth c { cursor with text := t }
    let (c, cursor) ← readPrecision c cursor
    match skipLength cursor.text with
    | [] => throw .incomplete
    | mark :: t =>
      let (v, cursor) ← next { cursor with text := t }
      return (← c.write mark (size - t.length - 1) v, cursor)

/-- The text of a format. `fuel` bounds the number of its characters. -/
def fillWithin (size : Nat) : (fuel : Nat) → Cursor → Except FormatError Text
  | 0, _ => .ok []
  | fuel + 1, cursor =>
    match cursor.text with
    | [] => if cursor.arguments.isEmpty then .ok [] else .error .tooManyArguments
    | '%' :: t => do
      let (written, cursor) ← convert size { cursor with text := t }
      return written ++ (← fillWithin size fuel cursor)
    | c :: t => (fillWithin size fuel { cursor with text := t }).map (c :: ·)

/-- The text of a format with arguments. -/
def fill (format : Text) (arguments : List Value) : Except FormatError Text :=
  fillWithin format.length (format.length + 1) ⟨format, arguments⟩

end Agreement.Format
