import Agreement.Proofs.Decimal.ReadBack
import Agreement.Template.Options

/-!
# Written options

Options as they are written: the letters of the flags that are set, in any order, and the parameter
behind every letter that takes one. The main statements are `NumericOptions.read_written` and
`NounOptions.read_written`: the options read back without a fault. The invariant of the reading is
`NumericOptions.only`, the options as far as their letters have been read.
-/

namespace Agreement

/-- A flag of numeric options. -/
inductive NumericFlag where
  | zeroAsNo
  | singularZero
  | useArticle
  | cardinalForm
  | ordinalForm
  | summarizeForm
  | increment
  | suppressOutput
  deriving DecidableEq, Repr

namespace NumericFlag

/-- The letter of a flag. -/
def letter : NumericFlag → Char
  | .zeroAsNo => 'n'
  | .singularZero => 's'
  | .useArticle => 'a'
  | .cardinalForm => 'w'
  | .ordinalForm => 'o'
  | .summarizeForm => 'f'
  | .increment => 'i'
  | .suppressOutput => 'd'

/-- Whether a flag is set. -/
def isSet (o : NumericOptions) : NumericFlag → Bool
  | .zeroAsNo => o.zeroAsNo
  | .singularZero => o.singularZero
  | .useArticle => o.useArticle
  | .cardinalForm => o.cardinalForm
  | .ordinalForm => o.ordinalForm
  | .summarizeForm => o.summarizeForm
  | .increment => o.increment
  | .suppressOutput => o.suppressOutput

/-- The parameter that is written behind the letter of a flag. -/
def parameter (o : NumericOptions) : NumericFlag → Text
  | .cardinalForm => Integer.text o.cardinalThreshold
  | .ordinalForm => Integer.text o.ordinalThreshold
  | .increment => Integer.text o.incrementAmount
  | .summarizeForm => if o.summarizeAtEnd then ['1'] else ['0']
  | _ => []

/-- The options with a flag set. -/
def set (o : NumericOptions) : NumericFlag → NumericOptions
  | .zeroAsNo => { o with zeroAsNo := true }
  | .singularZero => { o with singularZero := true }
  | .useArticle => { o with useArticle := true }
  | .cardinalForm => { o with cardinalForm := true }
  | .ordinalForm => { o with ordinalForm := true }
  | .summarizeForm => { o with summarizeForm := true }
  | .increment => { o with increment := true }
  | .suppressOutput => { o with suppressOutput := true }

/-- A flag with its parameter. -/
def text (o : NumericOptions) (flag : NumericFlag) : Text :=
  flag.letter :: flag.parameter o

end NumericFlag

namespace NumericOptions

/-- Whether a text writes options: the letters of exactly the flags that are set, in some order. -/
def IsWritten (o : NumericOptions) (t : Text) : Prop :=
  ∃ flags : List NumericFlag, (∀ flag, flag ∈ flags ↔ flag.isSet o) ∧
    t = flags.flatMap (NumericFlag.text o)

/-- Options that letters can write: every parameter has its default unless its flag is set, and no
integer has too many digits. -/
structure Writable (o : NumericOptions) : Prop where
  cardinalThreshold : o.cardinalForm = false → o.cardinalThreshold = 11
  ordinalThreshold : o.ordinalForm = false → o.ordinalThreshold = Ordinal.unlimited
  incrementAmount : o.increment = false → o.incrementAmount = 1
  summarizeAtEnd : o.summarizeForm = false → o.summarizeAtEnd = false
  cardinalDigits : o.cardinalThreshold.natAbs < Nat.pow 10 digitLimit
  ordinalDigits : o.ordinalThreshold.natAbs < Nat.pow 10 digitLimit
  incrementDigits : o.incrementAmount.natAbs < Nat.pow 10 digitLimit

/-- The options with only some of their flags, and the parameters of these. -/
def only (o : NumericOptions) (flags : List NumericFlag) : NumericOptions where
  increment := .increment ∈ flags
  incrementAmount := if .increment ∈ flags then o.incrementAmount else 1
  singularZero := .singularZero ∈ flags
  zeroAsNo := .zeroAsNo ∈ flags
  useArticle := .useArticle ∈ flags
  suppressOutput := .suppressOutput ∈ flags
  cardinalForm := .cardinalForm ∈ flags
  cardinalThreshold := if .cardinalForm ∈ flags then o.cardinalThreshold else 11
  ordinalForm := .ordinalForm ∈ flags
  ordinalThreshold := if .ordinalForm ∈ flags then o.ordinalThreshold else Ordinal.unlimited
  summarizeForm := .summarizeForm ∈ flags
  summarizeAtEnd := .summarizeForm ∈ flags && o.summarizeAtEnd

variable {o : NumericOptions}

/-- No flags leave the options as they are by default. -/
theorem only_nil : o.only [] = {} := by
  simp [only]

/-- All flags that are set give the options back. -/
theorem only_of_isSet (h : o.Writable) {flags : List NumericFlag}
    (hflags : ∀ flag, flag ∈ flags ↔ flag.isSet o) : o.only flags = o := by
  obtain ⟨hcardinal, hordinal, hincrement, hsummarize, -, -, -⟩ := h
  rcases o with ⟨increment, _, _, _, _, _, cardinalForm, _, ordinalForm, _, summarizeForm, _⟩
  simp only [only, hflags, NumericFlag.isSet]
  -- a parameter is kept where its flag is set and has its default elsewhere
  cases increment <;> cases cardinalForm <;> cases ordinalForm <;> cases summarizeForm <;> simp_all

/-- A parameter consists of characters of parameters. -/
theorem isParameter_of_mem (flag : NumericFlag) :
    ∀ c ∈ flag.parameter o, isParameter c = true := by
  have htext (n : Int) : ∀ c ∈ Integer.text n, isParameter c = true := by
    intro c hc
    rcases Integer.mem_text hc with rfl | hdigit
    · decide
    · simp [isParameter, hdigit]
  cases flag with
  | cardinalForm | ordinalForm | increment => exact htext _
  | summarizeForm =>
      rw [NumericFlag.parameter]
      split
      · simp [isParameter]
      · simp [isParameter]
  | _ => simp [NumericFlag.parameter]

namespace Scan

/-- Giving a parameter to its letter leaves case folding as it is. -/
theorem folding_settle (s : Scan) (index : Nat) : (s.settle index).folding = s.folding := by
  unfold settle
  split
  · rfl
  · split <;> rfl

/-- Reading a letter leaves case folding as it is. -/
theorem folding_readLetter (s : Scan) (index : Nat) (letter : Text) :
    (s.readLetter index letter).folding = s.folding := by
  unfold readLetter
  split <;> rfl

/-- No parameter is left once it is given to its letter. -/
theorem parameter_settle (s : Scan) (index : Nat) : (s.settle index).parameter = [] := by
  unfold settle
  split
  · assumption
  · split <;> rfl

/-- A letter that is read ends the parameter in front of it. -/
theorem step_of_foldLetter {s : Scan} {c : Char} {letter : Text} {folding : Bool}
    (hparameter : isParameter c = false) (hread : foldLetter s.folding c = (some letter, folding))
    (index : Nat) :
    s.step (c, index) = (settle { s with folding } index).readLetter index letter := by
  rw [step, if_neg (Bool.eq_false_iff.1 hparameter), hread]

/-- Characters of a parameter are collected. -/
theorem foldl_parameter {parameter : Text} (h : ∀ c ∈ parameter, isParameter c) (s : Scan)
    (index : Nat) : (parameter.zipIdx index).foldl step s =
      { s with parameter := s.parameter ++ parameter } := by
  induction parameter generalizing s index with
  | nil => simp
  | cons c parameter ih =>
      rw [List.zipIdx_cons, List.foldl_cons, step, if_pos (h c (by simp)),
        ih fun d hd => h d (List.mem_cons_of_mem _ hd)]
      simp

/-- Whether the options of a scan are `z` once the last parameter is given to its letter. -/
def SettlesTo (s : Scan) (z : NumericOptions) : Prop :=
  s.folding = false ∧ ∀ index, s.settle index = ⟨z, false, s.letter, [], []⟩

/-- A scan without a parameter has its options already. -/
theorem settlesTo_of_eq {z z' : NumericOptions} {letter : Option Text} (h : z = z') :
    SettlesTo ⟨z, false, letter, [], []⟩ z' :=
  ⟨rfl, fun _ => by rw [← h]; rfl⟩

/-- A scan with a parameter gives it to the last letter. -/
theorem settlesTo_of_setParameter {z z' : NumericOptions} {letter : Option Text} {parameter : Text}
    (hparameter : parameter ≠ []) (h : z.setParameter letter parameter = .ok z') :
    SettlesTo ⟨z, false, letter, parameter, []⟩ z' :=
  ⟨rfl, fun _ => by simp [settle, hparameter, h]⟩

/-- A scan with an integer that reads back gives it to the last letter. -/
theorem settlesTo_of_integer {z z' : NumericOptions} {letter : Option Text} {n : Int}
    (hn : n.natAbs < Nat.pow 10 digitLimit)
    (h : ∀ parameter, Integer.read parameter = .ok n → z.setParameter letter parameter = .ok z') :
    SettlesTo ⟨z, false, letter, Integer.text n, []⟩ z' :=
  settlesTo_of_setParameter (Integer.text_ne_nil n) (h _ (Integer.read_text hn))

/-- Behind the letter of a flag and its parameter the flag belongs to the options. -/
theorem settlesTo_flag (ho : o.Writable) (flags : List NumericFlag) (flag : NumericFlag) :
    SettlesTo ⟨flag.set (o.only flags), false, some [flag.letter], flag.parameter o, []⟩
      (o.only (flags ++ [flag])) := by
  cases flag with
  | zeroAsNo | singularZero | useArticle | suppressOutput =>
      exact settlesTo_of_eq (by simp [NumericFlag.set, only])
  | cardinalForm =>
      refine settlesTo_of_integer ho.cardinalDigits fun parameter hread => ?_
      simp [setParameter, hread, NumericFlag.letter, NumericFlag.set, only]
  | ordinalForm =>
      refine settlesTo_of_integer ho.ordinalDigits fun parameter hread => ?_
      simp [setParameter, hread, NumericFlag.letter, NumericFlag.set, only]
  | increment =>
      refine settlesTo_of_integer ho.incrementDigits fun parameter hread => ?_
      simp [setParameter, hread, NumericFlag.letter, NumericFlag.set, only]
  | summarizeForm =>
      have hzero : Integer.read ['0'] = .ok 0 := by decide +kernel
      have hone : Integer.read ['1'] = .ok 1 := by decide +kernel
      cases h : o.summarizeAtEnd with
      | false =>
          refine settlesTo_of_setParameter (by simp [NumericFlag.parameter, h]) ?_
          simp [NumericFlag.parameter, h, setParameter, hzero, NumericFlag.letter,
            NumericFlag.set, only]
      | true =>
          refine settlesTo_of_setParameter (by simp [NumericFlag.parameter, h]) ?_
          simp [NumericFlag.parameter, h, setParameter, hone, NumericFlag.letter,
            NumericFlag.set, only]

/-- A letter is read once the options before it are settled. -/
theorem step_of_settlesTo {s : Scan} {z z' : NumericOptions} (hs : s.SettlesTo z) {c : Char}
    (hparameter : isParameter c = false) (hfold : foldLetter false c = (some [c], false))
    (hset : z.setFlag [c] = some z') (index : Nat) :
    s.step (c, index) = ⟨z', false, some [c], [], []⟩ := by
  have hs' : { s with folding := false } = s := by rw [← hs.1]
  rw [step, if_neg (by simp [hparameter]), hs.1, hfold]
  simp only [hs', hs.2, readLetter, hset]

/-- The letter of a flag is read once the options before it are settled. -/
theorem step_letter {s : Scan} {z : NumericOptions} (hs : s.SettlesTo z) (flag : NumericFlag)
    (index : Nat) :
    s.step (flag.letter, index) = ⟨flag.set z, false, some [flag.letter], [], []⟩ := by
  have hletter : isParameter flag.letter = false := by cases flag <;> decide
  have hfold : foldLetter false flag.letter = (some [flag.letter], false) := by
    cases flag <;> decide
  have hset : z.setFlag [flag.letter] = some (flag.set z) := by cases flag <;> rfl
  exact step_of_settlesTo hs hletter hfold hset index

/-- Reading a flag adds it to the options. -/
theorem foldl_flag (ho : o.Writable) {s : Scan} {flags : List NumericFlag}
    (hs : s.SettlesTo (o.only flags)) (flag : NumericFlag) (index : Nat) :
    (((flag.text o).zipIdx index).foldl step s).SettlesTo (o.only (flags ++ [flag])) := by
  rw [NumericFlag.text, List.zipIdx_cons, List.foldl_cons, step_letter hs,
    foldl_parameter (isParameter_of_mem flag)]
  exact settlesTo_flag ho flags flag

/-- Reading flags one behind the other adds all of them. -/
theorem foldl_flags (ho : o.Writable) {s : Scan} {flags : List NumericFlag}
    (hs : s.SettlesTo (o.only flags)) (later : List NumericFlag) (index : Nat) :
    (((later.flatMap (NumericFlag.text o)).zipIdx index).foldl step s).SettlesTo
      (o.only (flags ++ later)) := by
  induction later generalizing s flags index with
  | nil => simpa using hs
  | cons flag later ih =>
      rw [List.flatMap_cons, List.zipIdx_append, List.foldl_append]
      have hfirst := ih (foldl_flag ho hs flag index)
      rw [List.append_assoc] at hfirst
      exact hfirst _

end Scan

/-- Written options read back without a fault. -/
theorem read_written (ho : o.Writable) {t : Text} (ht : o.IsWritten t) :
    read false t = (o, []) := by
  obtain ⟨flags, hflags, rfl⟩ := ht
  -- the reading starts with no flags and ends with those that are set
  have hstart : Scan.SettlesTo { folding := false } (o.only []) :=
    Scan.settlesTo_of_eq only_nil.symm
  have hscan := Scan.foldl_flags ho hstart flags 0
  rw [List.nil_append, only_of_isSet ho hflags] at hscan
  rw [read, hscan.2]

end NumericOptions

/-- A flag of noun options. -/
inductive NounFlag where
  | classical
  | forcePlural
  | forceSingular
  deriving DecidableEq, Repr

namespace NounFlag

/-- The letter of a flag. -/
def letter : NounFlag → Char
  | .classical => 'c'
  | .forcePlural => 'p'
  | .forceSingular => 's'

/-- Whether a flag is set. -/
def isSet (o : NounOptions) : NounFlag → Bool
  | .classical => o.classical
  | .forcePlural => o.forcePlural
  | .forceSingular => o.forceSingular

end NounFlag

namespace NounOptions

/-- Whether a text writes options: the letters of exactly the flags that are set, in some order. -/
def IsWritten (o : NounOptions) (t : Text) : Prop :=
  ∃ flags : List NounFlag, (∀ flag, flag ∈ flags ↔ flag.isSet o) ∧ t = flags.map NounFlag.letter

/-- The options with exactly some flags set. -/
def ofFlags (flags : List NounFlag) : NounOptions where
  classical := .classical ∈ flags
  forcePlural := .forcePlural ∈ flags
  forceSingular := .forceSingular ∈ flags

/-- The letter of a flag sets it. -/
theorem setFlag_letter (flags : List NounFlag) (flag : NounFlag) :
    (ofFlags flags).setFlag [flag.letter] = some (ofFlags (flags ++ [flag])) := by
  cases flag <;> simp [NounFlag.letter, setFlag, ofFlags]

/-- Reading flags one behind the other sets all of them. -/
theorem readFrom_flags (flags later : List NounFlag) (index : Nat) :
    readFrom (ofFlags flags) false ((later.map NounFlag.letter).zipIdx index) =
      (ofFlags (flags ++ later), []) := by
  induction later generalizing flags index with
  | nil => simp [readFrom]
  | cons flag later ih =>
      have hfold : foldLetter false flag.letter = (some [flag.letter], false) := by
        cases flag <;> decide
      rw [List.map_cons, List.zipIdx_cons, readFrom, hfold]
      simp only [setFlag_letter, ih, List.append_assoc, List.singleton_append]

/-- Written options read back without a fault. -/
theorem read_written {o : NounOptions} {t : Text} (ht : o.IsWritten t) :
    read false t = (o, []) := by
  obtain ⟨flags, hflags, rfl⟩ := ht
  have hread := readFrom_flags [] flags 0
  have hset : ofFlags flags = o := by simp [ofFlags, hflags, NounFlag.isSet]
  rw [List.nil_append, hset] at hread
  have hnil : ofFlags [] = {} := by simp [ofFlags]
  rw [read, ← hnil, hread]

end NounOptions

end Agreement
