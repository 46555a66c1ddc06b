import Agreement.Proofs.Decimal.Numeral
import Agreement.Proofs.Template.OptionText

/-!
# The grammar of numeric options

Numeric options are read without a fault exactly if they are a sequence of groups: a letter, and
behind some letters an integer (`OptionGroup`). They then mean what the groups say
(`NumericOptions.ofGroups`): the flags of all letters that occur, and the last integer behind each
letter that takes one. The main statement is `NumericOptions.read_accepts_iff`. Towards it, the scan
of a group adds the group (`Scan.foldl_group`); and from it, what a scan without faults has not
settled yet and what it has still to read are groups (`Scan.exists_groups_of_foldl`).
-/

namespace Agreement

/-- An integer as options write it: an optional sign, and ASCII digits. -/
structure WrittenInteger where
  sign : Text
  digits : Text
  sign_mem : sign ∈ ([[], ['+'], ['-']] : List Text)
  digits_ne_nil : digits ≠ []
  isDigit : ∀ c ∈ digits, c.isDigit = true

namespace WrittenInteger

/-- The sign and the digits. -/
def text (n : WrittenInteger) : Text :=
  n.sign ++ n.digits

/-- The integer that is written. -/
def value (n : WrittenInteger) : Int :=
  let magnitude := Nat.ofDigitChars 10 n.digits 0
  if n.sign = ['-'] then -magnitude else magnitude

end WrittenInteger

/-- A letter of numeric options with what stands behind it: nothing behind the letters n, s, a, e
and d, an integer or nothing behind w, o and i, and zero, one or nothing behind f. -/
structure OptionGroup where
  letter : Char
  parameter : Option WrittenInteger
  fits : letter ∈ ("nsaed" : Text) ∧ parameter = none ∨ letter ∈ ("woi" : Text) ∨
    letter = 'f' ∧ ∀ n ∈ parameter, n.value = 0 ∨ n.value = 1

namespace OptionGroup

/-- The letter and the integer behind it. -/
def text (g : OptionGroup) : Text :=
  g.letter :: (g.parameter.map WrittenInteger.text).getD []

/-- The integers behind a letter, in order. -/
def valuesOf (letter : Char) (groups : List OptionGroup) : List Int :=
  groups.filterMap fun g => if g.letter = letter then g.parameter.map WrittenInteger.value else none

/-- The last integer behind a letter, or its default. -/
def lastOf (letter : Char) (default : Int) (groups : List OptionGroup) : Int :=
  (valuesOf letter groups).getLast?.getD default

end OptionGroup

/-- The letters that set a flag: its own, and for some flags the letter e. -/
def NumericFlag.letters (flag : NumericFlag) : Text :=
  match flag with
  | .zeroAsNo | .singularZero | .useArticle | .cardinalForm => [flag.letter, 'e']
  | .ordinalForm | .summarizeForm | .increment | .suppressOutput => [flag.letter]

/-- What groups mean: the flags whose letters occur, and the last integer behind each letter. -/
def NumericOptions.ofGroups (groups : List OptionGroup) : NumericOptions :=
  let isSet (flag : NumericFlag) : Bool := groups.any fun g => flag.letters.contains g.letter
  { increment := isSet .increment
    incrementAmount := OptionGroup.lastOf 'i' 1 groups
    singularZero := isSet .singularZero
    zeroAsNo := isSet .zeroAsNo
    useArticle := isSet .useArticle
    suppressOutput := isSet .suppressOutput
    cardinalForm := isSet .cardinalForm
    cardinalThreshold := OptionGroup.lastOf 'w' 11 groups
    ordinalForm := isSet .ordinalForm
    ordinalThreshold := OptionGroup.lastOf 'o' Ordinal.unlimited groups
    summarizeForm := isSet .summarizeForm
    summarizeAtEnd := OptionGroup.lastOf 'f' 0 groups = 1 }

namespace WrittenInteger

variable (n : WrittenInteger)

/-- The sign is told from the digits. -/
theorem splitSign_text : Integer.splitSign n.text = (decide (n.sign = ['-']), n.digits) := by
  obtain ⟨sign, digits, hsign, hne, hdigits⟩ := n
  simp only [List.mem_cons, List.not_mem_nil, or_false] at hsign
  rcases hsign with rfl | rfl | rfl
  · obtain ⟨c, rest, rfl⟩ := List.exists_cons_of_ne_nil hne
    have hc := hdigits c List.mem_cons_self
    show Integer.splitSign (c :: rest) = _
    unfold Integer.splitSign
    split
    · next heq =>
        cases heq
        exact absurd hc (by decide)
    · next heq =>
        cases heq
        exact absurd hc (by decide)
    · rfl
  · rfl
  · rfl

/-- A written integer is a numeral. -/
theorem isNumeral_text : Integer.isNumeral n.text = true := by
  rw [Integer.isNumeral_iff, n.splitSign_text]
  exact ⟨n.digits_ne_nil, fun c hc => isDecimal_of_isDigit (n.isDigit c hc)⟩

/-- A written integer is read as its value, unless it has too many digits. -/
theorem read_text : Integer.read n.text =
    if digitLimit < n.digits.length then .error (.tooLongToRead n.digits.length)
    else .ok n.value := by
  have hread : Integer.read ([] ++ (n.text ++ [])) = _ :=
    Integer.read_of_no_separator_in_front n.isNumeral_text (by simp) (by simp)
  rw [List.nil_append, List.append_nil, n.splitSign_text] at hread
  rw [hread, Integer.ofDigits, Integer.foldl_digits n.isDigit, value]
  simp

/-- A sign is taken from the start of a text, if there is one. -/
theorem exists_sign (t : Text) : ∃ sign ∈ ([[], ['+'], ['-']] : List Text),
    t = sign ++ (Integer.splitSign t).2 := by
  rcases Integer.splitSign_cases t with heq | ⟨sign, rfl | rfl, heq⟩
  · exact ⟨[], by simp, heq.symm⟩
  · exact ⟨['-'], by simp, heq⟩
  · exact ⟨['+'], by simp, heq⟩

/-- What is read as an integer out of digits and signs is a written integer. -/
theorem exists_of_read {t : Text} (ht : ∀ c ∈ t, NumericOptions.isParameter c = true) {v : Int}
    (h : Integer.read t = .ok v) : ∃ n : WrittenInteger, n.text = t ∧ n.value = v := by
  have hblank : ∀ c ∈ t, isBlank c = false := by
    intro c hc
    have hparameter := ht c hc
    simp only [NumericOptions.isParameter, Bool.or_eq_true, beq_iff_eq] at hparameter
    rcases hparameter with (hdigit | rfl) | rfl
    · exact isBlank_of_isDigit hdigit
    · decide
    · decide
  have hnumeral := Integer.isNumeral_of_read hblank h
  obtain ⟨hne, hdecimal⟩ := Integer.isNumeral_iff.1 hnumeral
  obtain ⟨sign, hsign, htext⟩ := exists_sign t
  have hdigit : ∀ c ∈ (Integer.splitSign t).2, c.isDigit = true := by
    intro c hc
    have hparameter := ht c (htext ▸ List.mem_append_right sign hc)
    simp only [NumericOptions.isParameter, Bool.or_eq_true, beq_iff_eq] at hparameter
    rcases hparameter with (hdigit | rfl) | rfl
    · exact hdigit
    · exact absurd (hdecimal _ hc) (by decide)
    · exact absurd (hdecimal _ hc) (by decide)
  let n : WrittenInteger := ⟨sign, (Integer.splitSign t).2, hsign, hne, hdigit⟩
  have hn : n.text = t := htext.symm
  refine ⟨n, hn, ?_⟩
  rw [← hn, n.read_text] at h
  split at h
  · cases h
  · exact Except.ok.inj h

/-- The characters of a written integer are those of a parameter. -/
theorem isParameter_of_mem {c : Char} (hc : c ∈ n.text) : NumericOptions.isParameter c = true := by
  rcases List.mem_append.1 hc with hc | hc
  · have hsign := n.sign_mem
    simp only [List.mem_cons, List.not_mem_nil, or_false] at hsign
    rcases hsign with h | h | h
    · rw [h] at hc
      cases hc
    · rw [h, List.mem_singleton] at hc
      rw [hc]
      decide
    · rw [h, List.mem_singleton] at hc
      rw [hc]
      decide
  · simp [NumericOptions.isParameter, n.isDigit c hc]

end WrittenInteger

namespace OptionGroup

/-- The last integer behind a letter is that of the last group, if it has one behind the letter. -/
theorem lastOf_append (letter : Char) (default : Int) (groups : List OptionGroup)
    (g : OptionGroup) : lastOf letter default (groups ++ [g]) =
      ((if g.letter = letter then g.parameter.map WrittenInteger.value else none).getD
        (lastOf letter default groups)) := by
  have hlast (values : List Int) (value : Option Int) :
      (values ++ value.toList).getLast?.getD default =
        value.getD (values.getLast?.getD default) := by
    cases value <;> simp
  rw [lastOf, valuesOf, List.filterMap_append, lastOf, valuesOf, ← hlast]
  rfl

end OptionGroup

namespace NumericOptions.Scan

/-- The scan of a letter and of the integer behind it sets the flag of the letter, and then gives it
the integer. -/
theorem foldl_letter {s : Scan} {z z' z'' : NumericOptions} (hs : s.SettlesTo z) {c : Char}
    (hparameter : isParameter c = false) (hfold : foldLetter false c = (some [c], false))
    (hset : z.setFlag [c] = some z') {parameter : Option WrittenInteger}
    (hnone : parameter = none → z' = z'')
    (hsome : ∀ n ∈ parameter, z'.setParameter (some [c]) n.text = .ok z'') (index : Nat) :
    (((c :: (parameter.map WrittenInteger.text).getD []).zipIdx index).foldl step s).SettlesTo
      z'' := by
  rw [List.zipIdx_cons, List.foldl_cons, step_of_settlesTo hs hparameter hfold hset]
  cases parameter with
  | none => exact settlesTo_of_eq (hnone rfl)
  | some n =>
      have hne : n.text ≠ [] := List.append_ne_nil_of_right_ne_nil _ n.digits_ne_nil
      rw [Option.map_some, Option.getD_some, foldl_parameter fun d => n.isParameter_of_mem]
      exact settlesTo_of_setParameter hne (hsome n rfl)

/-- The scan of a group adds it to the options, if its integer is short enough. -/
theorem foldl_group {s : Scan} {groups : List OptionGroup} (hs : s.SettlesTo (ofGroups groups))
    (g : OptionGroup) (hshort : ∀ n ∈ g.parameter, n.digits.length ≤ digitLimit) (index : Nat) :
    ((g.text.zipIdx index).foldl step s).SettlesTo (ofGroups (groups ++ [g])) := by
  have hread : ∀ n ∈ g.parameter, Integer.read n.text = .ok n.value := by
    intro n hn
    rw [n.read_text, if_neg (Nat.not_lt.2 (hshort n hn))]
  obtain ⟨letter, parameter, hfits⟩ := g
  unfold OptionGroup.text
  dsimp only at hread ⊢
  rcases hfits with ⟨hletter, rfl⟩ | hletter | ⟨rfl, hflag⟩
  · have hcases : letter = 'n' ∨ letter = 's' ∨ letter = 'a' ∨ letter = 'e' ∨ letter = 'd' := by
      simpa using hletter
    rcases hcases with rfl | rfl | rfl | rfl | rfl
    all_goals
      refine foldl_letter hs (by decide) (by decide) rfl (fun _ => ?_) (by simp) index
      simp [ofGroups, OptionGroup.lastOf_append, NumericFlag.letters, NumericFlag.letter]
  · have hcases : letter = 'w' ∨ letter = 'o' ∨ letter = 'i' := by simpa using hletter
    rcases hcases with rfl | rfl | rfl
    all_goals
      refine foldl_letter hs (by decide) (by decide) rfl (fun hnone => ?_) (fun n hn => ?_) index
      · subst hnone
        simp [ofGroups, OptionGroup.lastOf_append, NumericFlag.letters, NumericFlag.letter]
      · cases hn
        simp [setParameter, hread n rfl, ofGroups, OptionGroup.lastOf_append, NumericFlag.letters,
          NumericFlag.letter]
  · refine foldl_letter hs (by decide) (by decide) rfl (fun hnone => ?_) (fun n hn => ?_) index
    · subst hnone
      simp [ofGroups, OptionGroup.lastOf_append, NumericFlag.letters, NumericFlag.letter]
    · cases hn
      simp [setParameter, hread n rfl, hflag n rfl, ofGroups, OptionGroup.lastOf_append,
        NumericFlag.letters, NumericFlag.letter]

/-- The scan of groups adds them one behind the other. -/
theorem foldl_groups {s : Scan} {groups : List OptionGroup} (hs : s.SettlesTo (ofGroups groups))
    (later : List OptionGroup)
    (hshort : ∀ g ∈ later, ∀ n ∈ g.parameter, n.digits.length ≤ digitLimit) (index : Nat) :
    (((later.flatMap OptionGroup.text).zipIdx index).foldl step s).SettlesTo
      (ofGroups (groups ++ later)) := by
  induction later generalizing s groups index with
  | nil => simpa using hs
  | cons g later ih =>
      obtain ⟨hg, hlater⟩ := List.forall_mem_cons.1 hshort
      rw [List.flatMap_cons, List.zipIdx_append, List.foldl_append]
      have hrest := ih (foldl_group hs g hg index) hlater
      rw [List.append_assoc] at hrest
      exact hrest _

/-- What a scan has read since the last group that is settled: a letter and its parameter. -/
def pending (s : Scan) : Text :=
  s.letter.getD [] ++ s.parameter

/-- A scan stands behind nothing, or behind the letter of an option and what may be its integer. -/
structure AtLetter (s : Scan) : Prop where
  folding : s.folding = false
  letter : s.letter = none ∨ ∃ c ∈ ("nsaedwoif" : Text), s.letter = some [c]
  isParameter : ∀ c ∈ s.parameter, isParameter c = true

variable {s : Scan} {index : Nat}

/-- The letters with a flag. -/
theorem mem_letters_of_setFlag {o o' : NumericOptions} {c : Char}
    (h : o.setFlag [c] = some o') : c ∈ ("nsaedwoif" : Text) := by
  unfold setFlag at h
  split at h
  case h_10 => cases h
  all_goals
    next heq =>
      obtain rfl := List.singleton_inj.1 heq
      decide

/-- An integer is given to a letter that takes it. -/
theorem setParameter_eq_ok {o o' : NumericOptions} {letter : Option Text} {parameter : Text}
    (h : o.setParameter letter parameter = .ok o') : ∃ v, Integer.read parameter = .ok v ∧
      ∃ c, letter = some [c] ∧ (c ∈ ("woi" : Text) ∨ c = 'f' ∧ (v = 0 ∨ v = 1)) := by
  unfold setParameter at h
  split at h
  · cases h
  · next v hread =>
      refine ⟨v, hread, ?_⟩
      split at h
      · exact ⟨_, rfl, .inl (by simp)⟩
      · exact ⟨_, rfl, .inl (by simp)⟩
      · exact ⟨_, rfl, .inl (by simp)⟩
      · split at h
        · next hflag => exact ⟨_, rfl, .inr ⟨rfl, hflag⟩⟩
        · cases h
      · cases h

/-- A scan that settles without a fault has read a group since the last one, or nothing. -/
theorem exists_groups_of_settle (hs : s.AtLetter) (h : (s.settle index).faults = []) :
    ∃ groups : List OptionGroup, s.pending = groups.flatMap OptionGroup.text := by
  unfold settle at h
  split at h
  · next hempty =>
      rcases hs.letter with hnone | ⟨c, hc, hsome⟩
      · exact ⟨[], by simp [pending, hempty, hnone]⟩
      · have hfits : c ∈ ("nsaed" : Text) ∨ c ∈ ("woi" : Text) ∨ c = 'f' := by
          simpa [or_assoc] using hc
        refine ⟨[⟨c, none, ?_⟩], by simp [pending, hempty, hsome, OptionGroup.text]⟩
        rcases hfits with hflag | hinteger | rfl
        · exact .inl ⟨hflag, rfl⟩
        · exact .inr (.inl hinteger)
        · exact .inr (.inr ⟨rfl, by simp⟩)
  · split at h
    · next hset =>
        obtain ⟨v, hread, c, hsome, htakes⟩ := setParameter_eq_ok hset
        obtain ⟨n, htext, hvalue⟩ := WrittenInteger.exists_of_read hs.isParameter hread
        refine ⟨[⟨c, some n, ?_⟩], by simp [pending, hsome, OptionGroup.text, htext]⟩
        rcases htakes with hinteger | ⟨rfl, hflag⟩
        · exact .inr (.inl hinteger)
        · exact .inr (.inr ⟨rfl, by simpa [hvalue] using hflag⟩)
    · simp [addFault] at h

/-- Giving a parameter to its letter keeps the faults. -/
theorem faults_prefix_settle (s : Scan) (index : Nat) :
    s.faults <+: (s.settle index).faults := by
  unfold settle
  split
  · exact List.prefix_rfl
  · split
    · exact List.prefix_rfl
    · exact List.prefix_append _ _

/-- Reading a letter keeps the faults. -/
theorem faults_prefix_readLetter (s : Scan) (index : Nat) (letter : Text) :
    s.faults <+: (s.readLetter index letter).faults := by
  unfold readLetter
  split
  · exact List.prefix_rfl
  · exact List.prefix_append _ _

/-- A step keeps the faults. -/
theorem faults_prefix_step (s : Scan) (at_ : Char × Nat) :
    s.faults <+: (s.step at_).faults := by
  unfold step
  split
  · exact List.prefix_rfl
  · split
    · exact List.prefix_rfl
    · next folding _ =>
        have hsettle := faults_prefix_settle { s with folding } at_.2
        exact hsettle.trans (faults_prefix_readLetter _ at_.2 _)

/-- A scan that ends without a fault has none before. -/
theorem faults_eq_nil_of_foldl {rest : List (Char × Nat)}
    (h : ((rest.foldl step s).settle index).faults = []) : s.faults = [] := by
  have hkept : s.faults <+: (rest.foldl step s).faults := by
    clear h
    induction rest generalizing s with
    | nil => exact List.prefix_rfl
    | cons at_ rest ih => exact (faults_prefix_step s at_).trans ih
  exact List.prefix_nil.1 (h ▸ hkept.trans (faults_prefix_settle _ index))

/-- A letter that is read without a fault has a flag, and the scan stands behind it. -/
theorem AtLetter.step_letter (hs : s.AtLetter) {c : Char}
    (hparameter : NumericOptions.isParameter c = false) (hupper : isUpper c = false)
    (h : (s.step (c, index)).faults = []) :
    (s.settle index).faults = [] ∧ (s.step (c, index)).AtLetter ∧
      (s.step (c, index)).pending = [c] := by
  have hread : foldLetter s.folding c = (some [c], s.folding) := by
    simp [foldLetter, hs.folding, hupper]
  have hstep : s.step (c, index) = (s.settle index).readLetter index [c] :=
    step_of_foldLetter hparameter hread index
  have hempty := parameter_settle s index
  rw [hstep] at h ⊢
  unfold readLetter at h ⊢
  split at h
  · next hset =>
      refine ⟨h, ⟨?_, .inr ⟨c, mem_letters_of_setFlag hset, rfl⟩, ?_⟩, ?_⟩
      · exact (folding_settle s index).trans hs.folding
      · simp [hempty]
      · simp [pending, hempty]
  · simp [addFault] at h

/-- A scan without faults has groups to read: what it has not settled yet and what is still to
come. -/
theorem exists_groups_of_foldl (hs : s.AtLetter) {t : Text} (ht : ∀ c ∈ t, isUpper c = false)
    {start : Nat} (h : (((t.zipIdx start).foldl step s).settle index).faults = []) :
    ∃ groups : List OptionGroup, s.pending ++ t = groups.flatMap OptionGroup.text := by
  induction t generalizing s start with
  | nil =>
      rw [List.append_nil]
      exact exists_groups_of_settle hs h
  | cons c t ih =>
      obtain ⟨hc, ht⟩ := List.forall_mem_cons.1 ht
      rw [List.zipIdx_cons, List.foldl_cons] at h
      cases hparameter : isParameter c with
      | true =>
          have hstep : s.step (c, start) = { s with parameter := s.parameter ++ [c] } := by
            rw [step, if_pos hparameter]
          rw [hstep] at h
          have hs' : AtLetter { s with parameter := s.parameter ++ [c] } := by
            refine ⟨hs.folding, hs.letter, fun d hd => ?_⟩
            rcases List.mem_append.1 hd with hd | hd
            · exact hs.isParameter d hd
            · rwa [List.mem_singleton.1 hd]
          obtain ⟨groups, hgroups⟩ := ih hs' ht h
          exact ⟨groups, by simpa [pending] using hgroups⟩
      | false =>
          obtain ⟨hsettle, hs', hpending⟩ :=
            hs.step_letter hparameter hc (faults_eq_nil_of_foldl h)
          obtain ⟨before, hbefore⟩ := exists_groups_of_settle hs hsettle
          obtain ⟨groups, hgroups⟩ := ih hs' ht h
          refine ⟨before ++ groups, ?_⟩
          rw [List.flatMap_append, ← hbefore, ← hgroups, hpending]
          rfl

end NumericOptions.Scan

namespace NumericFlag

/-- The letters of flags belong to no integer. -/
theorem not_isParameter_of_mem_letters {flag : NumericFlag} {c : Char} (hc : c ∈ flag.letters) :
    NumericOptions.isParameter c = false := by
  have hletters : ∀ c ∈ flag.letters, NumericOptions.isParameter c = false := by
    cases flag <;> simp [letters, letter, NumericOptions.isParameter]
  exact hletters c hc

/-- A flag is set by groups if one of its letters occurs in them. -/
theorem isSet_ofGroups (flag : NumericFlag) (groups : List OptionGroup) :
    flag.isSet (NumericOptions.ofGroups groups) = true ↔
      ∃ c ∈ flag.letters, c ∈ groups.flatMap OptionGroup.text := by
  have hset : flag.isSet (NumericOptions.ofGroups groups) =
      groups.any fun g => flag.letters.contains g.letter := by
    cases flag <;> rfl
  rw [hset, List.any_eq_true]
  constructor
  · rintro ⟨g, hg, hletter⟩
    exact ⟨g.letter, List.contains_iff_mem.1 hletter,
      List.mem_flatMap.2 ⟨g, hg, List.mem_cons_self⟩⟩
  · rintro ⟨c, hc, hmem⟩
    obtain ⟨g, hg, hmem⟩ := List.mem_flatMap.1 hmem
    refine ⟨g, hg, List.contains_iff_mem.2 ?_⟩
    -- behind the letter of a group there is only an integer
    rcases List.mem_cons.1 hmem with rfl | hmem
    · exact hc
    · obtain ⟨n, hn⟩ : ∃ n, g.parameter = some n := by
        cases h : g.parameter with
        | none => simp [h] at hmem
        | some n => exact ⟨n, rfl⟩
      have hparameter := n.isParameter_of_mem (by simpa [hn] using hmem)
      rw [not_isParameter_of_mem_letters hc] at hparameter
      cases hparameter

end NumericFlag

namespace NumericOptions

/-- Groups are read as what they mean, if their integers are short enough. -/
theorem read_groups (groups : List OptionGroup)
    (hshort : ∀ g ∈ groups, ∀ n ∈ g.parameter, n.digits.length ≤ digitLimit) :
    read false (groups.flatMap OptionGroup.text) = (ofGroups groups, []) := by
  have hstart : Scan.SettlesTo { folding := false } (ofGroups []) := Scan.settlesTo_of_eq rfl
  have hscan := Scan.foldl_groups hstart groups hshort 0
  rw [read, hscan.2]
  rfl

/-- What is read without a fault is a sequence of groups. -/
theorem exists_groups_of_read {t : Text} (ht : ∀ c ∈ t, isUpper c = false)
    (h : (read false t).2 = []) :
    ∃ groups : List OptionGroup, t = groups.flatMap OptionGroup.text :=
  Scan.exists_groups_of_foldl ⟨rfl, .inl rfl, by simp⟩ ht h

/-- Numeric options without capitals, whose runs of digits are short enough to be read as integers,
read without a fault exactly if they are a sequence of groups. A flag is then set exactly if one of
its letters occurs, and the parameters are the last integers behind their letters, or the defaults
where there are none. -/
theorem read_accepts_iff {t : Text} (hupper : ∀ c ∈ t, isUpper c = false)
    (hdigits : ∀ run, run <:+: t → (∀ c ∈ run, c.isDigit = true) → run.length ≤ digitLimit) :
    ((read false t).2 = [] ↔ ∃ groups : List OptionGroup, t = groups.flatMap OptionGroup.text) ∧
    ∀ groups : List OptionGroup, t = groups.flatMap OptionGroup.text →
      let o := (read false t).1
      (∀ flag : NumericFlag, flag.isSet o = true ↔ ∃ c ∈ flag.letters, c ∈ t) ∧
        o.cardinalThreshold = OptionGroup.lastOf 'w' 11 groups ∧
        o.ordinalThreshold = OptionGroup.lastOf 'o' Ordinal.unlimited groups ∧
        o.incrementAmount = OptionGroup.lastOf 'i' 1 groups ∧
        o.summarizeAtEnd = decide (OptionGroup.lastOf 'f' 0 groups = 1) := by
  have hread (groups : List OptionGroup) (htext : t = groups.flatMap OptionGroup.text) :
      read false t = (ofGroups groups, []) := by
    subst htext
    refine read_groups groups fun g hg n hn => hdigits n.digits ?_ n.isDigit
    have hn : n.digits <:+: g.text := by
      have hsuffix : n.digits <:+ g.letter :: n.text :=
        (List.suffix_append _ _).trans (List.suffix_cons _ _)
      simpa [OptionGroup.text, Option.mem_def.1 hn] using hsuffix.isInfix
    obtain ⟨before, behind, rfl⟩ := List.append_of_mem hg
    refine hn.trans ⟨before.flatMap OptionGroup.text, behind.flatMap OptionGroup.text, ?_⟩
    simp
  refine ⟨⟨exists_groups_of_read hupper, fun ⟨groups, htext⟩ => ?_⟩, fun groups htext => ?_⟩
  · rw [hread groups htext]
  · rw [hread groups htext]
    refine ⟨fun flag => ?_, rfl, rfl, rfl, rfl⟩
    rw [htext]
    exact flag.isSet_ofGroups groups

/-- A threshold for words, an ordinal without one, a decrement, a final summary, and every flag of
the letter e: "w+20oi-3f1e". -/
theorem read_accepts_iff_letters :
    (∀ c ∈ ("w+20oi-3f1e" : Text), isUpper c = false) ∧
      (∀ run, run <:+: ("w+20oi-3f1e" : Text) → (∀ c ∈ run, c.isDigit = true) →
        run.length ≤ digitLimit) ∧
      ∃ groups : List OptionGroup, "w+20oi-3f1e" = groups.flatMap OptionGroup.text := by
  have hupper : ∀ c ∈ ("w+20oi-3f1e" : Text), isUpper c = false := by simp [isUpper]
  have hdigits (run : Text) (hrun : run <:+: ("w+20oi-3f1e" : Text))
      (_ : ∀ c ∈ run, c.isDigit = true) : run.length ≤ digitLimit :=
    hrun.length_le.trans (by decide)
  exact ⟨hupper, hdigits, (read_accepts_iff hupper hdigits).1.1 (by decide +kernel)⟩

end NumericOptions

end Agreement
