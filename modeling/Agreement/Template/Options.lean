import Agreement.Template.Directive
import Agreement.Template.Issue
import Agreement.Text.CaseMap
import Agreement.Text.Letter

/-!
# Reading options

Options are single letters. In a numeric directive the letters w, o, i and f can be followed by an
integer. The first capital letter makes the reading fold case: a capital is read as its small
letter, and small letters are skipped from there on. What is wrong is collected with its index in
the options and does not stop the reading.
-/

namespace Agreement

/-- The letter to read for a character, none if it is skipped, and whether case is folded from here
on. -/
def foldLetter (folding : Bool) (c : Char) : Option Text × Bool :=
  if folding && isLower c then (none, folding)
  else if isUpper c then (some (Text.lower [c]), true)
  else (some [c], folding)

/-- Faults of options, with their indices. -/
abbrev OptionFaults := List (Nat × OptionFault)

namespace NumericOptions

/-- The options with the flag of a letter set, if the letter has one. -/
def setFlag (o : NumericOptions) : Text → Option NumericOptions
  | ['n'] => some { o with zeroAsNo := true }
  | ['s'] => some { o with singularZero := true }
  | ['a'] => some { o with useArticle := true }
  | ['w'] => some { o with cardinalForm := true }
  | ['o'] => some { o with ordinalForm := true }
  | ['f'] => some { o with summarizeForm := true }
  | ['e'] => some { o with
      useArticle := true, singularZero := true, zeroAsNo := true, cardinalForm := true }
  | ['i'] => some { o with increment := true }
  | ['d'] => some { o with suppressOutput := true }
  | _ => none

/-- The options with the parameter of a letter set. -/
def setParameter (o : NumericOptions) (letter : Option Text) (parameter : Text) :
    Except OptionFault NumericOptions :=
  match Integer.read parameter with
  | .error _ => .error (.malformed parameter letter)
  | .ok value =>
    match letter with
    | some ['w'] => .ok { o with cardinalThreshold := value }
    | some ['o'] => .ok { o with ordinalThreshold := value }
    | some ['i'] => .ok { o with incrementAmount := value }
    | some ['f'] =>
      if value = 0 ∨ value = 1 then .ok { o with summarizeAtEnd := value = 1 }
      else .error (.notFlag value)
    | _ => .error (.noParameter letter parameter)

/-- Whether a character belongs to the parameter of an option. -/
def isParameter (c : Char) : Bool :=
  c.isDigit || c == '+' || c == '-'

/-- How far the reading of numeric options has come. -/
structure Scan where
  options : NumericOptions := {}
  folding : Bool
  /-- The last letter that was read. -/
  letter : Option Text := none
  /-- The parameter read since that letter. -/
  parameter : Text := []
  faults : OptionFaults := []

namespace Scan

/-- The scan with a fault added. -/
def addFault (s : Scan) (index : Nat) (fault : OptionFault) : Scan :=
  { s with faults := s.faults ++ [(index, fault)] }

/-- The scan with the parameter that was read given to its letter. -/
def settle (s : Scan) (index : Nat) : Scan :=
  if s.parameter = [] then s
  else
    match s.options.setParameter s.letter s.parameter with
    | .ok options => { s with options, parameter := [] }
    | .error fault => { s.addFault index fault with parameter := [] }

/-- The scan behind the letter at an index. -/
def readLetter (s : Scan) (index : Nat) (letter : Text) : Scan :=
  match s.options.setFlag letter with
  | some options => { s with options, letter := some letter }
  | none => { s.addFault index (.unknown letter) with letter := some letter }

/-- The scan behind the character at an index. -/
def step (s : Scan) (at_ : Char × Nat) : Scan :=
  if isParameter at_.1 then { s with parameter := s.parameter ++ [at_.1] }
  else match foldLetter s.folding at_.1 with
    | (none, folding) => { s with folding }
    | (some letter, folding) => ({ s with folding }.settle at_.2).readLetter at_.2 letter

end Scan

/-- The options that a text denotes, and what is wrong with it; `folding` says whether case is
folded from the start. -/
def read (folding : Bool) (t : Text) : NumericOptions × OptionFaults :=
  let s := (t.zipIdx.foldl Scan.step { folding }).settle (t.length - 1)
  (s.options, s.faults)

end NumericOptions

namespace NounOptions

/-- The options with the flag of a letter set, if the letter has one. -/
def setFlag (o : NounOptions) : Text → Option NounOptions
  | ['c'] => some { o with classical := true }
  | ['p'] => some { o with forcePlural := true }
  | ['s'] => some { o with forceSingular := true }
  | _ => none

/-- The options behind a character and what was wrong so far. -/
def readFrom (o : NounOptions) (folding : Bool) : List (Char × Nat) → NounOptions × OptionFaults
  | [] => (o, [])
  | (c, index) :: rest =>
    match foldLetter folding c with
    | (none, folding) => readFrom o folding rest
    | (some letter, folding) =>
      match o.setFlag letter with
      | some o => readFrom o folding rest
      | none =>
        let (o, faults) := readFrom o folding rest
        (o, (index, .unknown letter) :: faults)

/-- The options that a text denotes, and what is wrong with it; `folding` says whether case is
folded from the start. -/
def read (folding : Bool) (t : Text) : NounOptions × OptionFaults :=
  readFrom {} folding t.zipIdx

end NounOptions

/-- The issues of a token for faults of its options, which start at a position of the template. -/
def placeFaults (fragment : Text) (offset : Int) (faults : OptionFaults) : List Issue :=
  faults.map fun (index, fault) => ⟨offset + index, fragment, .option fault⟩

end Agreement
