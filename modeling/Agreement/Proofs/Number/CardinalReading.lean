import Agreement.Proofs.Decimal.ReadBack
import Agreement.Proofs.Decimal.Written

/-!
# Reading cardinals back

The words of a cardinal are read by composition: they are cut at the largest scale word first, then
at "hundred and", then at a hyphen, and what is left is a name. `Cardinal.read` is that reader, and
`Cardinal.readAt_spell` says that it gives back each number below one trillion. `cardinal_reads`
draws the consequences for all integers and thresholds. The joints are found where the words were
put together because each has a character that the words in front of it do not have.
-/

namespace Agreement

namespace Cardinal

/-- The numbers that have names of their own. -/
def names : List (Nat × Text) :=
  [(0, "zero"), (1, "one"), (2, "two"), (3, "three"), (4, "four"), (5, "five"), (6, "six"),
   (7, "seven"), (8, "eight"), (9, "nine"), (10, "ten"), (11, "eleven"), (12, "twelve"),
   (13, "thirteen"), (14, "fourteen"), (15, "fifteen"), (16, "sixteen"), (17, "seventeen"),
   (18, "eighteen"), (19, "nineteen"), (20, "twenty"), (30, "thirty"), (40, "forty"),
   (50, "fifty"), (60, "sixty"), (70, "seventy"), (80, "eighty"), (90, "ninety")]

/-- The number with a name. -/
def named? (w : Text) : Option Nat :=
  (names.find? fun entry => entry.2 = w).map Prod.fst

/-- The texts before and behind the first occurrence of a joint. -/
def cut? (joint : Text) : Text → Option (Text × Text)
  | [] => none
  | c :: rest =>
    if joint.isPrefixOf (c :: rest) then some ([], (c :: rest).drop joint.length)
    else (cut? joint rest).map fun (front, behind) => (c :: front, behind)

/-- The joints of words, and what the number in front of them counts, the largest first. -/
def joints : List (Text × Nat) :=
  [(" billion, ", 1000000000), (" million, ", 1000000), (" thousand, ", 1000),
   (" hundred and ", 100), ("-", 1)]

/-- The number that words denote which are composed at some joints. -/
def readAt : List (Text × Nat) → Text → Option Nat
  | [], w => named? w
  | (joint, scale) :: rest, w =>
    match cut? joint w with
    | none => readAt rest w
    | some (front, behind) => do
      let x ← readAt rest front
      let y ← readAt rest behind
      return x * scale + y

/-- What words for a negative number start with. -/
def negative : Text := "negative "

/-- The integer that words denote. -/
def read (w : Text) : Option Int :=
  if negative.isPrefixOf w then (readAt joints (w.drop negative.length)).map fun n => -n
  else (readAt joints w).map fun n => n

section Joints

variable {mark : Char} {joint front t : Text} {scale x y : Nat} {rest : List (Text × Nat)}

/-- A joint does not start within words without a character that it has. -/
theorem not_isPrefixOf_of_mark (hmark : mark ∈ joint) (hfront : mark ∉ front) (hne : front ≠ [])
    (behind : Text) : ¬ joint.isPrefixOf (front ++ joint ++ behind) = true := by
  rw [List.isPrefixOf_iff_prefix]
  intro hstarts
  obtain ⟨start, tail, hjoint, hstart⟩ := List.eq_append_cons_of_mem hmark
  -- the mark would come as early as in the joint, that is, in the words or in front of itself
  have hearly : start ++ [mark] <+: front ++ joint ++ behind :=
    List.IsPrefix.trans ⟨tail, by rw [hjoint, List.append_assoc, List.singleton_append]⟩ hstarts
  have hlate : front ++ start <+: front ++ joint ++ behind :=
    ⟨mark :: tail ++ behind, by simp [hjoint]⟩
  have hlength : (start ++ [mark]).length ≤ (front ++ start).length := by
    have hpos := List.length_pos_iff.2 hne
    rw [List.length_append, List.length_append, List.length_singleton]
    omega
  have hmem : mark ∈ front ++ start :=
    (List.prefix_of_prefix_length_le hearly hlate hlength).subset (by simp)
  exact (List.mem_append.1 hmem).elim hfront hstart

/-- A joint is found behind words without a character that it has. -/
theorem cut?_append (hmark : mark ∈ joint) (hfront : mark ∉ front) (behind : Text) :
    cut? joint (front ++ joint ++ behind) = some (front, behind) := by
  induction front with
  | nil =>
      obtain ⟨c, tail, rfl⟩ := List.exists_cons_of_ne_nil (List.ne_nil_of_mem hmark)
      have hstarts : (c :: tail).isPrefixOf (c :: (tail ++ behind)) = true :=
        List.isPrefixOf_iff_prefix.2 (List.prefix_append (c :: tail) behind)
      show cut? (c :: tail) (c :: (tail ++ behind)) = _
      rw [cut?, if_pos hstarts]
      show some ([], ((c :: tail) ++ behind).drop (c :: tail).length) = _
      rw [List.drop_left]
  | cons c front ih =>
      have hnot : ¬ joint.isPrefixOf (c :: (front ++ joint ++ behind)) = true :=
        not_isPrefixOf_of_mark hmark hfront (List.cons_ne_nil c front) behind
      show cut? joint (c :: (front ++ joint ++ behind)) = _
      rw [cut?, if_neg hnot, ih fun hmem => hfront (List.mem_cons_of_mem c hmem)]
      rfl

/-- A joint is not found in words without a character that it has. -/
theorem cut?_of_not_mem (hmark : mark ∈ joint) (h : mark ∉ t) : cut? joint t = none := by
  induction t with
  | nil => rfl
  | cons c t ih =>
      have hnot : ¬ joint.isPrefixOf (c :: t) = true := by
        rw [List.isPrefixOf_iff_prefix]
        exact fun hstarts => h (hstarts.subset hmark)
      rw [cut?, if_neg hnot, ih fun hmem => h (List.mem_cons_of_mem c hmem)]
      rfl

/-- Words without a joint are read at the smaller ones. -/
theorem readAt_of_not_mem (hmark : mark ∈ joint) (h : mark ∉ t) (scale : Nat) :
    readAt ((joint, scale) :: rest) t = readAt rest t := by
  rw [readAt, cut?_of_not_mem hmark h]

/-- Words around a joint are read at the smaller ones, and composed. -/
theorem readAt_append (hmark : mark ∈ joint) (hfront : mark ∉ front) {behind : Text}
    (hx : readAt rest front = some x) (hy : readAt rest behind = some y) :
    readAt ((joint, scale) :: rest) (front ++ joint ++ behind) = some (x * scale + y) := by
  rw [readAt, cut?_append hmark hfront]
  simp only [hx, hy]
  rfl

end Joints

section Names

variable {c : Char} {n : Nat}

/-- The characters by which joints are told from the words in front of them, that of the smallest
joint first. -/
def marks : Text := "- ,mb"

/-- A text that has none of several characters does not have one of them. -/
theorem not_mem_of_all {cs t : Text} (h : (cs.all fun c => !t.contains c) = true) (hc : c ∈ cs) :
    c ∉ t := by
  have hnot := List.all_eq_true.1 h c hc
  rwa [Bool.not_eq_true', List.contains_eq_mem, decide_eq_false_iff_not] at hnot

/-- No name has a mark. -/
theorem not_mem_of_mem_names (hc : c ∈ marks) : ∀ entry ∈ names, c ∉ entry.2 := by
  have hall : (names.all fun entry => marks.all fun c => !entry.2.contains c) = true := by decide
  intro entry hentry
  exact not_mem_of_all (List.all_eq_true.1 hall entry hentry) hc

/-- A number with a name is read from it. -/
theorem named?_of_mem : ∀ entry ∈ names, named? entry.2 = some entry.1 := by
  decide

/-- The numbers up to twenty have their names. -/
theorem mem_names_small : ∀ n ≤ 20, (n, small.getD n []) ∈ names := by
  decide

/-- The tens from twenty on have their names. -/
theorem mem_names_tens : ∀ k < 10, 2 ≤ k → (k * 10, tens.getD k []) ∈ names := by
  decide

/-- A number below one hundred is a name, or two of them with a hyphen. -/
theorem belowHundred_cases (h : n < 100) :
    (n, belowHundred n) ∈ names ∨
      ∃ ten one, (n / 10 * 10, ten) ∈ names ∧ (n % 10, one) ∈ names ∧
        belowHundred n = ten ++ "-" ++ one := by
  unfold belowHundred
  split
  · next hsmall => exact .inl (mem_names_small n hsmall)
  · next hlarge =>
      have hten : (n / 10 * 10, tens.getD (n / 10) []) ∈ names :=
        mem_names_tens _ (by omega) (by omega)
      split
      · next hround =>
          have hn : n / 10 * 10 = n := by omega
          rw [hn] at hten
          exact .inl hten
      · exact .inr ⟨_, _, hten, mem_names_small _ (by omega), rfl⟩

/-- Below one hundred there is no mark but the hyphen. -/
theorem not_mem_belowHundred (hc : c ∈ marks.drop 1) (h : n < 100) : c ∉ belowHundred n := by
  have hmark : c ∈ marks := List.mem_of_mem_drop hc
  rcases belowHundred_cases h with hname | ⟨ten, one, hten, hone, heq⟩
  · exact not_mem_of_mem_names hmark _ hname
  · have hten : c ∉ ten := not_mem_of_mem_names hmark _ hten
    have hone : c ∉ one := not_mem_of_mem_names hmark _ hone
    have hhyphen : c ∉ ("-" : Text) := not_mem_of_all (by decide) hc
    rw [heq, List.mem_append, List.mem_append, not_or, not_or]
    exact ⟨⟨hten, hhyphen⟩, hone⟩

/-- Below one thousand there is no mark but the hyphen and the blank. -/
theorem not_mem_belowThousand (hc : c ∈ marks.drop 2) (h : n < 1000) : c ∉ belowThousand n := by
  have hmark : c ∈ marks.drop 1 := List.mem_of_mem_drop (i := 1) hc
  unfold belowThousand
  split
  · next hsmall => exact not_mem_belowHundred hmark hsmall
  · have hfront : c ∉ belowHundred (n / 100) := not_mem_belowHundred hmark (by omega)
    have hbehind : c ∉ belowHundred (n % 100) := not_mem_belowHundred hmark (by omega)
    have hjoint : c ∉ (" hundred and " : Text) := not_mem_of_all (by decide) hc
    rw [List.mem_append, List.mem_append, not_or, not_or]
    exact ⟨⟨hfront, hjoint⟩, hbehind⟩

/-- The joints below the scales. -/
def lowJoints : List (Text × Nat) :=
  [(" hundred and ", 100), ("-", 1)]

/-- Numbers below one hundred are read back. -/
theorem readAt_belowHundred (h : n < 100) : readAt [("-", 1)] (belowHundred n) = some n := by
  have hhyphen : '-' ∈ ("-" : Text) := by decide
  have hmark : '-' ∈ marks := by decide
  rcases belowHundred_cases h with hname | ⟨ten, one, hten, hone, heq⟩
  · rw [readAt_of_not_mem hhyphen (not_mem_of_mem_names hmark _ hname)]
    exact named?_of_mem _ hname
  · have hx : readAt [] ten = some (n / 10 * 10) := named?_of_mem _ hten
    have hy : readAt [] one = some (n % 10) := named?_of_mem _ hone
    rw [heq, readAt_append hhyphen (not_mem_of_mem_names hmark _ hten) hx hy]
    congr 1
    omega

/-- Numbers below one thousand are read back. -/
theorem readAt_belowThousand (h : n < 1000) : readAt lowJoints (belowThousand n) = some n := by
  have hblank : ' ' ∈ (" hundred and " : Text) := by decide
  have hmark : ' ' ∈ marks.drop 1 := by decide
  unfold belowThousand lowJoints
  split
  · next hsmall =>
      rw [readAt_of_not_mem hblank (not_mem_belowHundred hmark hsmall)]
      exact readAt_belowHundred hsmall
  · have hfront : n / 100 < 100 := by omega
    have hbehind : n % 100 < 100 := by omega
    rw [readAt_append hblank (not_mem_belowHundred hmark hfront) (readAt_belowHundred hfront)
      (readAt_belowHundred hbehind)]
    congr 1
    omega

end Names

section Scales

variable {c : Char} {n : Nat} {levels : List (Nat × Text)}

/-- The joint of a scale. -/
def scaleJoint (entry : Nat × Text) : Text × Nat :=
  (" " ++ entry.2 ++ ", ", entry.1)

/-- The parts of a number at its scales are below one thousand. -/
def Fits : List (Nat × Text) → Nat → Prop
  | [], n => n < 1000
  | (scale, _) :: rest, n => n / scale < 1000 ∧ Fits rest (n % scale)

/-- Each scale has a mark in its joint that is in no joint of a smaller one. -/
def Marked : List (Nat × Text) → Prop
  | [] => True
  | entry :: rest =>
    (∃ mark ∈ marks.drop 2, mark ∈ (scaleJoint entry).1 ∧
      ∀ smaller ∈ rest, mark ∉ (scaleJoint smaller).1) ∧ Marked rest

/-- The words of a number have no mark that is in none of their joints. -/
theorem not_mem_byScales (hc : c ∈ marks.drop 2)
    (hjoints : ∀ entry ∈ levels, c ∉ (scaleJoint entry).1) (h : Fits levels n) :
    c ∉ byScales levels n := by
  induction levels generalizing n with
  | nil => exact not_mem_belowThousand hc h
  | cons entry rest ih =>
      obtain ⟨scale, word⟩ := entry
      obtain ⟨hjoint, hrest⟩ := List.forall_mem_cons.1 hjoints
      have hbehind := ih hrest h.2
      rw [byScales]
      split
      · next hlt => rwa [Nat.mod_eq_of_lt hlt] at hbehind
      · have hfront := not_mem_belowThousand hc h.1
        simp only [scaleJoint, List.mem_append, not_or] at hjoint
        simp only [List.mem_append, not_or]
        exact ⟨⟨⟨⟨hfront, hjoint.1.1⟩, hjoint.1.2⟩, hjoint.2⟩, hbehind⟩

/-- A number below one thousand is read back where scales could come. -/
theorem readAt_scaleJoints (hmarked : Marked levels) (h : n < 1000) :
    readAt (levels.map scaleJoint ++ lowJoints) (belowThousand n) = some n := by
  induction levels with
  | nil => exact readAt_belowThousand h
  | cons entry rest ih =>
      obtain ⟨⟨mark, hmark, hjoint, -⟩, hrest⟩ := hmarked
      rw [List.map_cons, List.cons_append, ← ih hrest]
      exact readAt_of_not_mem hjoint (not_mem_belowThousand hmark h) _

/-- The words of a number are read back at the joints of its scales. -/
theorem readAt_byScales (hmarked : Marked levels) (h : Fits levels n) :
    readAt (levels.map scaleJoint ++ lowJoints) (byScales levels n) = some n := by
  induction levels generalizing n with
  | nil => exact readAt_belowThousand h
  | cons entry rest ih =>
      obtain ⟨scale, word⟩ := entry
      obtain ⟨⟨mark, hmark, hjoint, hsmaller⟩, hrest⟩ := hmarked
      have hbehind := ih hrest h.2
      rw [List.map_cons, List.cons_append, byScales]
      -- a number below the scale is its own remainder, so `hbehind` is about its words as well
      split
      · next hlt =>
          have hmod : n % scale = n := Nat.mod_eq_of_lt hlt
          have hnot := not_mem_byScales hmark hsmaller h.2
          rw [hmod] at hbehind hnot
          rw [← hbehind]
          exact readAt_of_not_mem hjoint hnot scale
      · have hfront := readAt_scaleJoints hrest h.1
        have hwords :
            belowThousand (n / scale) ++ " " ++ word ++ ", " ++ byScales rest (n % scale) =
              belowThousand (n / scale) ++ (scaleJoint (scale, word)).1 ++
                byScales rest (n % scale) := by
          simp [scaleJoint]
        rw [hwords]
        refine (readAt_append hjoint (not_mem_belowThousand hmark h.1) hfront hbehind).trans ?_
        rw [Nat.div_add_mod']

/-- The scales have marks. -/
theorem marked_scales : Marked scales := by
  refine ⟨⟨'b', ?_⟩, ⟨'m', ?_⟩, ⟨',', ?_⟩, trivial⟩ <;> decide

/-- Numbers below one trillion fit the scales. -/
theorem fits_scales (h : n < limit) : Fits scales n := by
  unfold limit at h
  show n / 1000000000 < 1000 ∧ n % 1000000000 / 1000000 < 1000 ∧
    n % 1000000000 % 1000000 / 1000 < 1000 ∧ n % 1000000000 % 1000000 % 1000 < 1000
  omega

/-- The words of a number below one trillion are read back. -/
theorem readAt_spell (h : n < limit) : readAt joints (spell n) = some n :=
  readAt_byScales marked_scales (fits_scales h)

end Scales

section Start

variable {n : Nat} {levels : List (Nat × Text)}

/-- Words below one thousand start with those of a number below one hundred. -/
theorem exists_prefix_belowThousand (h : n < 1000) :
    ∃ m < 100, belowHundred m <+: belowThousand n := by
  unfold belowThousand
  split
  · next hsmall => exact ⟨n, hsmall, List.prefix_rfl⟩
  · refine ⟨n / 100, by omega, ?_⟩
    rw [List.append_assoc]
    exact List.prefix_append _ _

/-- Words start with those of a number below one hundred. -/
theorem exists_prefix_byScales (h : Fits levels n) :
    ∃ m < 100, belowHundred m <+: byScales levels n := by
  induction levels generalizing n with
  | nil => exact exists_prefix_belowThousand h
  | cons entry rest ih =>
      rw [byScales]
      split
      · next hlt =>
          have hmod : n % entry.1 = n := Nat.mod_eq_of_lt hlt
          exact ih (hmod ▸ h.2)
      · obtain ⟨m, hm, hstarts⟩ := exists_prefix_belowThousand h.1
        simp only [List.append_assoc]
        exact ⟨m, hm, hstarts.trans (List.prefix_append _ _)⟩

/-- Words start with three letters, which are not those that the words of negative numbers start
with. -/
theorem exists_start (h : n < limit) :
    ∃ start, start <+: spell n ∧ start.length = 3 ∧ start ≠ negative.take 3 ∧
      ∀ c ∈ start, c ≠ '-' ∧ ¬ c.isDigit := by
  obtain ⟨m, hm, hstarts⟩ := exists_prefix_byScales (fits_scales h)
  have hstart : ∀ m < 100, ((belowHundred m).take 3).length = 3 ∧
      (belowHundred m).take 3 ≠ negative.take 3 ∧
      ((belowHundred m).take 3).all (fun c => c ≠ '-' ∧ ¬ c.isDigit) = true := by
    decide
  obtain ⟨hlength, hne, hletters⟩ := hstart m hm
  have htake : (belowHundred m).take 3 <+: belowHundred m := List.take_prefix 3 _
  refine ⟨(belowHundred m).take 3, htake.trans hstarts, hlength, hne, fun c hc => ?_⟩
  exact of_decide_eq_true (List.all_eq_true.1 hletters c hc)

/-- Words of a number that is not negative do not start like those of a negative one. -/
theorem not_isPrefixOf_spell (h : n < limit) : ¬ negative.isPrefixOf (spell n) = true := by
  obtain ⟨start, hstart, hlength, hne, -⟩ := exists_start h
  rw [List.isPrefixOf_iff_prefix]
  intro hstarts
  have hlength : start.length = (negative.take 3).length := hlength
  have htake : negative.take 3 <+: negative := List.take_prefix 3 negative
  have hboth :=
    List.prefix_of_prefix_length_le hstart (htake.trans hstarts) (Nat.le_of_eq hlength)
  exact hne (hboth.eq_of_length hlength)

/-- Words are no digits. -/
theorem append_spell_ne_text (h : n < limit) (front : Text) (k : Int) :
    front ++ spell n ≠ Integer.text k := by
  obtain ⟨start, hstart, hlength, -, hletters⟩ := exists_start h
  obtain ⟨c, hc⟩ := List.exists_mem_of_length_pos (l := start) (by omega)
  intro htext
  have hmem : c ∈ Integer.text k := htext ▸ List.mem_append_right front (hstart.subset hc)
  obtain ⟨hminus, hdigit⟩ := hletters c hc
  exact (Integer.mem_text hmem).elim hminus hdigit

end Start

/-- The sign in the words of an integer. -/
def sign (n : Int) : Text :=
  if n < 0 then negative else []

/-- The words of an integer are read back. -/
theorem read_sign_append {n : Int} (h : n.natAbs < limit) :
    read (sign n ++ spell n.natAbs) = some n := by
  unfold sign
  split
  · next hneg =>
      have hstarts : negative.isPrefixOf (negative ++ spell n.natAbs) = true :=
        List.isPrefixOf_iff_prefix.2 (List.prefix_append _ _)
      rw [read, if_pos hstarts, List.drop_left, readAt_spell h]
      show some (-(n.natAbs : Int)) = some n
      congr 1
      omega
  · next hneg =>
      rw [List.nil_append, read, if_neg (not_isPrefixOf_spell h), readAt_spell h]
      show some (n.natAbs : Int) = some n
      congr 1
      omega

section Checked

variable {n scale : Nat} {word : Text} {levels : List (Nat × Text)}

/-- The words of a number by recursion on its parts. There are none where a number without a name of
its own is looked up, and where no scale is left for a number. -/
def spell? (n : Nat) : Option Text :=
  if n ≤ 20 then names.lookup n
  else if n < 100 then
    if n % 10 = 0 then names.lookup n
    else do
      let ten ← spell? (n / 10 * 10)
      let one ← spell? (n % 10)
      return ten ++ "-" ++ one
  else if n < 1000 then do
    let front ← spell? (n / 100)
    let behind ← spell? (n % 100)
    return front ++ " hundred and " ++ behind
  else
    match _hscale : scales.find? (·.1 ≤ n) with
    | none => none
    | some (scale, word) => do
      let front ← spell? (n / scale)
      let behind ← spell? (n % scale)
      return front ++ " " ++ word ++ ", " ++ behind
termination_by n
decreasing_by
  · omega
  · omega
  · omega
  · omega
  all_goals
    have hmem := List.mem_of_find?_eq_some _hscale
    have hle : scale ≤ n := by simpa using List.find?_some _hscale
    have hpos : 1 < scale := by
      have hall : ∀ entry ∈ scales, 1 < entry.1 := by decide
      exact hall _ hmem
  · exact Nat.div_lt_self (by omega) hpos
  · exact Nat.lt_of_lt_of_le (Nat.mod_lt n (by omega)) hle

/-- A number below all scales has no words for them. -/
theorem byScales_of_lt (h : ∀ entry ∈ levels, n < entry.1) :
    byScales levels n = belowThousand n := by
  induction levels with
  | nil => rfl
  | cons entry rest ih =>
      obtain ⟨hlt, hrest⟩ := List.forall_mem_cons.1 h
      rw [byScales, if_pos hlt]
      exact ih hrest

/-- A number is split at the largest scale that it reaches, and its remainder at all scales. -/
theorem byScales_of_find? (hsorted : levels.Pairwise fun a b => b.1 < a.1)
    (hpos : ∀ entry ∈ levels, 0 < entry.1)
    (hfind : levels.find? (·.1 ≤ n) = some (scale, word)) :
    byScales levels n =
      belowThousand (n / scale) ++ " " ++ word ++ ", " ++ byScales levels (n % scale) := by
  induction levels with
  | nil => simp at hfind
  | cons entry rest ih =>
      obtain ⟨hlarger, hsorted⟩ := List.pairwise_cons.1 hsorted
      obtain ⟨hentry, hpos⟩ := List.forall_mem_cons.1 hpos
      rw [List.find?_cons] at hfind
      split at hfind
      · next hreached =>
          cases hfind
          have hle : scale ≤ n := by simpa using hreached
          have hmod : n % scale < scale := Nat.mod_lt n hentry
          rw [byScales, if_neg (Nat.not_lt.2 hle), byScales, if_pos hmod]
      · next hmissed =>
          have hlt : n < entry.1 := by simpa using hmissed
          have hscale : scale < entry.1 := hlarger _ (List.mem_of_find?_eq_some hfind)
          have hscalePos : 0 < scale := hpos _ (List.mem_of_find?_eq_some hfind)
          have hmod : n % scale < entry.1 := Nat.lt_trans (Nat.mod_lt n hscalePos) hscale
          rw [byScales, if_pos hlt, byScales, if_pos hmod]
          exact ih hsorted hpos hfind

/-- The part of a number at the largest scale that it reaches is below one thousand. -/
theorem div_lt_of_find? (hfits : Fits levels n)
    (hfind : levels.find? (·.1 ≤ n) = some (scale, word)) : n / scale < 1000 := by
  induction levels with
  | nil => simp at hfind
  | cons entry rest ih =>
      rw [List.find?_cons] at hfind
      split at hfind
      · cases hfind
        exact hfits.1
      · next hmissed =>
          have hmod : n % entry.1 = n := Nat.mod_eq_of_lt (by simpa using hmissed)
          exact ih (hmod ▸ hfits.2) hfind

/-- Below one thousand no scale is used. -/
theorem spell_of_lt (h : n < 1000) : spell n = belowThousand n :=
  byScales_of_lt fun entry hentry => by
    have hall : ∀ entry ∈ scales, 1000 ≤ entry.1 := by decide
    exact Nat.lt_of_lt_of_le h (hall entry hentry)

/-- Each number with a name is looked up. -/
theorem lookup_of_mem : ∀ entry ∈ names, names.lookup entry.1 = some entry.2 := by
  decide

/-- A ten below one hundred has its name. -/
theorem belowHundred_tens : ∀ k < 10, belowHundred (k * 10) = tens.getD k [] := by
  decide

/-- A number below one hundred without a name of its own has those of its ten and of its rest. -/
theorem belowHundred_joined (hlarge : ¬ n ≤ 20) (hround : ¬ n % 10 = 0) (h : n < 100) :
    belowHundred n = belowHundred (n / 10 * 10) ++ "-" ++ belowHundred (n % 10) := by
  have hten := belowHundred_tens (n / 10) (by omega)
  have hone : belowHundred (n % 10) = small.getD (n % 10) [] := if_pos (by omega)
  rw [hten, hone, belowHundred, if_neg hlarge, if_neg hround]

/-- Below one hundred no "hundred" is used. -/
theorem spell_of_lt_hundred (h : n < 100) : spell n = belowHundred n := by
  rw [spell_of_lt (by omega), belowThousand, if_pos h]

/-- A number with a name of its own is looked up. -/
theorem lookup_spell (hname : n ≤ 20 ∨ n % 10 = 0 ∧ n < 100) :
    names.lookup n = some (spell n) := by
  rw [spell_of_lt_hundred (by omega)]
  by_cases hsmall : n ≤ 20
  · rw [belowHundred, if_pos hsmall]
    exact lookup_of_mem _ (mem_names_small n hsmall)
  · have hround : n / 10 * 10 = n := by omega
    have hten := lookup_of_mem _ (mem_names_tens (n / 10) (by omega) (by omega))
    rw [← belowHundred_tens (n / 10) (by omega), hround] at hten
    exact hten

/-- The recursion gives the words of a number at the scales if it does so of smaller ones. -/
theorem spell?_scaled (hparts : ∀ m < n, spell? m = some (spell m)) (hlarge : 1000 ≤ n)
    (h : n < limit) : spell? n = some (spell n) := by
  rw [spell?, if_neg (by omega), if_neg (by omega), if_neg (by omega)]
  split
  · next hnone =>
      have hthousand := List.find?_eq_none.1 hnone (1000, "thousand") (by decide)
      exact absurd (decide_eq_true hlarge) hthousand
  · next scale word hsome =>
      have hmem := List.mem_of_find?_eq_some hsome
      have hle : scale ≤ n := by simpa using List.find?_some hsome
      have hbounds : ∀ entry ∈ scales, 1000 ≤ entry.1 := by decide
      have hscale : 1000 ≤ scale := hbounds _ hmem
      have hfront : n / scale < n := Nat.div_lt_self (by omega) (by omega)
      have hbehind : n % scale < n := Nat.lt_of_lt_of_le (Nat.mod_lt n (by omega)) hle
      have hsorted : scales.Pairwise fun a b => b.1 < a.1 := by decide
      have hpos : ∀ entry ∈ scales, 0 < entry.1 := by decide
      have hquotient : n / scale < 1000 := div_lt_of_find? (fits_scales h) hsome
      rw [hparts _ hfront, hparts _ hbehind, spell_of_lt hquotient, spell, spell,
        byScales_of_find? hsorted hpos hsome]
      rfl

/-- Every lookup of the recursion below one trillion succeeds, and it never runs out of scales. -/
theorem spell?_eq (h : n < limit) : spell? n = some (spell n) := by
  induction n using Nat.strongRecOn with
  | ind n ih =>
      -- all parts are smaller, and so below one trillion as well
      have hparts : ∀ m < n, spell? m = some (spell m) := fun m hm => ih m hm (Nat.lt_trans hm h)
      by_cases hsmall : n ≤ 20
      · rw [spell?, if_pos hsmall]
        exact lookup_spell (.inl hsmall)
      by_cases hhundred : n < 100
      · rw [spell?, if_neg hsmall, if_pos hhundred]
        split
        · next hround => exact lookup_spell (.inr ⟨hround, hhundred⟩)
        · next hround =>
            rw [hparts (n / 10 * 10) (by omega), hparts (n % 10) (by omega),
              spell_of_lt_hundred (by omega), spell_of_lt_hundred (by omega),
              spell_of_lt_hundred hhundred, belowHundred_joined hsmall hround hhundred]
            rfl
      by_cases hthousand : n < 1000
      · rw [spell?, if_neg hsmall, if_neg hhundred, if_pos hthousand,
          hparts (n / 100) (by omega), hparts (n % 100) (by omega),
          spell_of_lt_hundred (by omega), spell_of_lt_hundred (by omega),
          spell_of_lt hthousand, belowThousand, if_neg hhundred]
        rfl
      · exact spell?_scaled hparts (Nat.not_lt.1 hthousand) h

end Checked

end Cardinal

section Integers

variable {n : Int} {threshold : Option Int} {words : Text}

/-- From the threshold on an integer is written in digits. -/
theorem cardinal_eq_writeInteger (h : ∃ t ∈ threshold, t ≤ n) :
    cardinal n threshold = writeInteger n := by
  obtain ⟨t, rfl, hle⟩ := h
  have hdigits : (some t).any (· ≤ n) = true := decide_eq_true hle
  rw [cardinal, if_pos hdigits]

/-- An integer below the threshold is written in words if it has them, and refused if not. -/
theorem cardinal_of_below (hbelow : ∀ t ∈ threshold, n < t) :
    cardinal n threshold =
      if Cardinal.limit ≤ n.natAbs then .error .unnamed
      else .ok (Cardinal.sign n ++ Cardinal.spell n.natAbs) := by
  have hwords : ¬ threshold.any (· ≤ n) = true := by
    cases threshold with
    | none => exact Bool.false_ne_true
    | some t =>
        have hlt := hbelow t rfl
        simpa using hlt
  rw [cardinal, if_neg hwords]
  split
  · rfl
  · unfold Cardinal.sign
    split
    · rfl
    · rfl

/-- Digits are not the error that words do not exist. -/
theorem writeInteger_ne_unnamed (n : Int) : writeInteger n ≠ .error .unnamed := by
  unfold writeInteger
  cases Integer.write n with
  | error cause => exact nofun
  | ok t => exact nofun

/-- Digits are not words. -/
theorem writeInteger_ne_words (h : n.natAbs < Cardinal.limit) :
    writeInteger n ≠ .ok (Cardinal.sign n ++ Cardinal.spell n.natAbs) := by
  unfold writeInteger Integer.write
  split
  · intro heq
    exact Cardinal.append_spell_ne_text h _ n (Except.ok.inj heq).symm
  · exact nofun

/-- Without a threshold every integer is below it. -/
theorem below_threshold_none (n : Int) : ∀ t ∈ (none : Option Int), n < t :=
  fun t ht => absurd ht (Option.not_mem_none t)

/-- Without a threshold, integers with the same words are the same. -/
theorem cardinal_injective {m : Int} (hn : cardinal n = .ok words) (hm : cardinal m = .ok words) :
    m = n := by
  have hread : ∀ k : Int, cardinal k = .ok words → Cardinal.read words = some k := by
    intro k hk
    rw [cardinal_of_below (below_threshold_none k)] at hk
    split at hk
    · cases hk
    · next hlimit =>
        rw [← Except.ok.inj hk]
        exact Cardinal.read_sign_append (Nat.not_le.1 hlimit)
  exact Option.some.inj ((hread m hm).symm.trans (hread n hn))

/-- An integer reaches the threshold or is below it. -/
theorem threshold_reached_or_below (n : Int) (threshold : Option Int) :
    (∃ t ∈ threshold, t ≤ n) ∨ ∀ t ∈ threshold, n < t := by
  by_cases h : ∃ t ∈ threshold, t ≤ n
  · exact .inl h
  · exact .inr fun t ht => Int.not_le.1 fun hle => h ⟨t, ht, hle⟩

/-- An integer is written in digits exactly from the threshold on. -/
theorem cardinal_eq_writeInteger_iff :
    cardinal n threshold = writeInteger n ↔ ∃ t ∈ threshold, t ≤ n := by
  constructor
  · intro h
    refine (threshold_reached_or_below n threshold).resolve_right fun hbelow => ?_
    rw [cardinal_of_below hbelow] at h
    split at h
    · exact writeInteger_ne_unnamed n h.symm
    · next hlimit => exact writeInteger_ne_words (Nat.not_le.1 hlimit) h.symm
  · exact cardinal_eq_writeInteger

/-- An integer is refused exactly where words are asked for that do not exist. -/
theorem cardinal_eq_unnamed_iff : cardinal n threshold = .error .unnamed ↔
    Cardinal.limit ≤ n.natAbs ∧ ∀ t ∈ threshold, n < t := by
  constructor
  · intro h
    rcases threshold_reached_or_below n threshold with hreached | hbelow
    · rw [cardinal_eq_writeInteger hreached] at h
      exact absurd h (writeInteger_ne_unnamed n)
    · rw [cardinal_of_below hbelow] at h
      split at h
      · next hlimit => exact ⟨hlimit, hbelow⟩
      · cases h
  · rintro ⟨hlimit, hbelow⟩
    rw [cardinal_of_below hbelow, if_pos hlimit]

/-- Each integer below one trillion has words, by lookups that all succeed, and is read back from
them, so that no two have the same. A threshold decides between words and digits. Words that do not
exist are refused exactly where they are asked for, and digits are written exactly from the
threshold on: those of `Integer.text`, for an integer that can be written at all. -/
theorem cardinal_reads (n : Int) (threshold : Option Int) :
    (n.natAbs < Cardinal.limit → ∃ words, Cardinal.spell? n.natAbs = some words ∧
      cardinal n = .ok (Cardinal.sign n ++ words) ∧
      Cardinal.read (Cardinal.sign n ++ words) = some n) ∧
    (∀ m words, cardinal n = .ok words → cardinal m = .ok words → m = n) ∧
    (cardinal n threshold = .error .unnamed ↔
      Cardinal.limit ≤ n.natAbs ∧ ∀ t ∈ threshold, n < t) ∧
    (cardinal n threshold = writeInteger n ↔ ∃ t ∈ threshold, t ≤ n) ∧
    (Integer.IsShort n →
      (cardinal n threshold = .ok (Integer.text n) ↔ ∃ t ∈ threshold, t ≤ n)) ∧
    ((∀ t ∈ threshold, n < t) → cardinal n threshold = cardinal n) := by
  refine ⟨?_, fun m words => cardinal_injective, cardinal_eq_unnamed_iff,
    cardinal_eq_writeInteger_iff, ?_, ?_⟩
  · intro h
    refine ⟨Cardinal.spell n.natAbs, Cardinal.spell?_eq h, ?_, Cardinal.read_sign_append h⟩
    rw [cardinal_of_below (below_threshold_none n), if_neg (Nat.not_le.2 h)]
  · intro hshort
    rw [← writeInteger_eq_ok hshort]
    exact cardinal_eq_writeInteger_iff
  · intro hbelow
    rw [cardinal_of_below hbelow, cardinal_of_below (below_threshold_none n)]

/-- Negative numbers and empty remainders are read back as well. -/
theorem cardinal_reads_negative :
    cardinal (-1000100) = .ok "negative one million, one hundred and zero" ∧
      Cardinal.read "negative one million, one hundred and zero" = some (-1000100) := by
  have hlimit : (-1000100 : Int).natAbs < Cardinal.limit := by decide
  obtain ⟨words, -, hwords, hread⟩ := (cardinal_reads (-1000100) none).1 hlimit
  have hwritten : cardinal (-1000100) = .ok "negative one million, one hundred and zero" := by
    decide
  have heq := Except.ok.inj (hwritten.symm.trans hwords)
  rw [← heq] at hread
  exact ⟨hwritten, hread⟩

end Integers

end Agreement
