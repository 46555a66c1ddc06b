import Agreement.Text.CaseMap
import Agreement.Text.WordChar

/-!
# The indefinite article

Which of "a" and "an" goes before a phrase. A cascade of spelling rules looks at the first word of
the phrase: words with a silent h, letters and abbreviations that are read letter by letter, and
words whose first vowel letter sounds like a consonant ("a unicorn") or the other way round
("an yttrium").
-/

namespace Agreement

/-- The indefinite articles. -/
inductive Article where
  | a
  | an
  deriving DecidableEq, Repr

namespace Article

/-- The article as it is written. -/
def word : Article → Text
  | .a => "a"
  | .an => "an"

/-- The article `an` if the condition holds, and `a` otherwise. -/
def anIf (condition : Bool) : Article :=
  if condition then .an else .a

/-- Starts of words that take "an" although they start with a consonant letter or sound. -/
def silentStarts : List Text :=
  ["euler", "heir", "honest", "hono"]

/-- Letters whose own names start with a vowel sound, as in "an f". -/
def vowelNamed : Text := "aedfhilmnorsx"

/-- The vowel letters. -/
def vowels : Text := "aeiou"

/-- Whether a word starts with one of some texts. -/
def startsWithAny (starts : List Text) (w : Text) : Bool :=
  starts.any fun start => start.isPrefixOf w

/-- Whether a word is an abbreviation of two capitals that is read letter by letter, as "FM": the
name of the first letter starts with a vowel sound, and the second one is no vowel. -/
def isAbbreviation : Text → Bool
  | [c, d] => ("FHLMNRSX" : Text).contains c && d.isUpper && !("AEIOU" : Text).contains d
  | _ => false

/-- Whether a word ends behind `start`, or goes on there with a character that belongs to no
word. -/
def isWholeWord (start w : Text) : Bool :=
  start.isPrefixOf w && ((w.drop start.length).head?.all fun c => !isWord c)

/-- Whether a lowercase word has a vowel letter first that sounds like a consonant, as in "ewe",
"one", "unit" and "ubiquity". -/
def soundsConsonant (w : Text) : Bool :=
  startsWithAny ["eu", "ew"] w || isWholeWord "one" w || isWholeWord "once" w ||
  match w with
  | 'u' :: 'n' :: 'i' :: c :: rest =>
    !("nmd" : Text).contains c || (c == 'm' && rest.head? == some 'o')
  | 'u' :: c :: d :: _ => ("bcfhjkqrst" : Text).contains c && vowels.contains d
  | _ => false

/-- Whether a word starts like "UNO" or "UKE" in capitals. -/
def startsUnitedCapitals : Text → Bool
  | 'U' :: c :: d :: _ => ("NK" : Text).contains c && ("AIEO" : Text).contains d
  | _ => false

/-- Starts of words whose first letter is a y that sounds like a vowel. -/
def vowelYs : List Text :=
  ["ybl", "ybo", "ybr", "ycle", "ycla", "yfere", "ygg", "ypi", "ypo", "yps", "yrou", "ytt"]

/-- The article before a word, which is not empty. -/
def ofWord (w : Text) : Article :=
  let lower := w.lower
  let first := lower.headD ' '
  if startsWithAny silentStarts lower then .an
  else if startsWithAny ["hour"] lower && !startsWithAny ["houri"] lower then .an
  else if lower.length = 1 then anIf (vowelNamed.contains first)
  else if isAbbreviation w then .an
  else if soundsConsonant lower || startsUnitedCapitals w then .a
  else if w = w.upper then anIf (vowelNamed.contains first)
  else anIf (vowels.contains first || startsWithAny vowelYs lower)

/-- The article before a phrase. Only the first word counts; an empty phrase takes "a", and one that
does not start with a word takes "an". -/
def ofPhrase (phrase : Text) : Article :=
  match phrase with
  | [] => .a
  | c :: _ => if isWord c then ofWord (firstWord phrase) else .an

end Article

end Agreement
