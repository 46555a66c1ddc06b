import Agreement.Number.Roman
import Mathlib.Data.Bool.AllAny
import Mathlib.Logic.Function.Basic
import Mathlib.Tactic.IntervalCases

/-!
# Reading Roman numerals

A numeral is read by the values of its symbols, as their sum in the additive notation and by
subtracting each symbol in front of a larger one in the subtractive notation (`Roman.read`). The
table of each notation is one list of symbols, scaled to hundreds, tens and units behind the
thousands, so the numeral of a number is put together from those of its decimal digits
(`Roman.numeral_eq_byDigits`). The values of an earlier digit are never smaller than those of a
later one, so nothing is subtracted over the border between two digits (`Roman.denoted_append`).
`roman_canonical` draws the consequences for all integers.
-/

namespace Agreement

namespace Roman

/-- The symbols and their values, from the largest down. -/
def symbols : List (Char × Nat) :=
  [('M', 1000), ('D', 500), ('C', 100), ('L', 50), ('X', 10), ('V', 5), ('I', 1)]

/-- Whether a character is a symbol. -/
def isSymbol (c : Char) : Bool :=
  (symbols.lookup c).isSome

/-- The value of a symbol. -/
def value (c : Char) : Nat :=
  (symbols.lookup c).getD 0

/-- The sum of some values where each one in front of a larger one is subtracted. -/
def signedSum : List Nat → Int
  | [] => 0
  | [v] => v
  | v :: w :: vs => (if v < w then -(v : Int) else v) + signedSum (w :: vs)

/-- What the values of a numeral denote in a notation. -/
def denoted (classic : Bool) (vs : List Nat) : Int :=
  if classic then vs.sum else signedSum vs

/-- What a numeral denotes in a notation, if it consists of symbols. -/
def read (classic : Bool) (t : Text) : Option Int :=
  if t.all isSymbol then some (denoted classic (t.map value)) else none

/-- The additive numeral of a decimal digit, with the symbols for one and for five. -/
def additiveDigit (one five : Char) (d : Nat) : Text :=
  List.replicate (d / 5) five ++ List.replicate (d % 5) one

/-- The subtractive numeral of a decimal digit, with the symbols for one, for five and for ten. -/
def subtractiveDigit (one five ten : Char) : Nat → Text
  | 0 => []
  | 1 => [one]
  | 2 => [one, one]
  | 3 => [one, one, one]
  | 4 => [one, five]
  | 5 => [five]
  | 6 => [five, one]
  | 7 => [five, one, one]
  | 8 => [five, one, one, one]
  | _ => [one, ten]

/-- The numeral of a decimal digit in a notation. -/
def digit (classic : Bool) (one five ten : Char) (d : Nat) : Text :=
  if classic then additiveDigit one five d else subtractiveDigit one five ten d

/-- The numeral that is put together from the thousands of a number and its other decimal digits. -/
def byDigits (classic : Bool) (n : Nat) : Text :=
  List.replicate (n / 1000) 'M' ++ (digit classic 'C' 'D' 'M' (n / 100 % 10) ++
    (digit classic 'X' 'L' 'C' (n / 10 % 10) ++ digit classic 'I' 'V' 'X' (n % 10)))

/-- The numerals of the additive notation: the symbols stand in order, and each one fewer times than
would make up a larger one. -/
structure IsAdditive (t : Text) : Prop where
  sorted : (t.map value).Pairwise (· ≥ ·)
  ones : ∀ c ∈ ("CXI" : Text), t.count c ≤ 4
  fives : ∀ c ∈ ("DLV" : Text), t.count c ≤ 1

section Tables

variable {classic : Bool}

/-- The part of a table for the units of a decimal place. -/
def place (classic : Bool) (one five ten : Char) : List (Nat × Text) :=
  if classic then [(5, [five]), (1, [one])]
  else [(9, [one, ten]), (5, [five]), (4, [one, five]), (1, [one])]

/-- The table of a notation. -/
def table (classic : Bool) : List (Nat × Text) :=
  if classic then additive else subtractive

/-- The table of a notation is made of those of the decimal places. -/
theorem table_eq (classic : Bool) : table classic =
    (1000, ['M']) :: ((place classic 'C' 'D' 'M').map (scale 100) ++
      ((place classic 'X' 'L' 'C').map (scale 10) ++ place classic 'I' 'V' 'X')) := by
  cases classic <;> rfl

variable (one five ten : Char)

/-- Nothing is left behind the units. -/
theorem remainder_place (n : Nat) : remainder (place classic one five ten) n = 0 := by
  cases classic <;> exact Nat.mod_one _

/-- A decimal place gives the numeral of its digit. -/
theorem numeral_place {d : Nat} (hd : d < 10) :
    numeral (place classic one five ten) d = digit classic one five ten d := by
  cases classic <;> interval_cases d <;> rfl

/-- A decimal place in front of smaller ones. -/
theorem numeral_place_append {unit n : Nat} (hn : n < 10 * unit) (rest : List (Nat × Text)) :
    numeral ((place classic one five ten).map (scale unit) ++ rest) n =
      digit classic one five ten (n / unit) ++ numeral rest (n % unit) := by
  obtain ⟨hnumeral, hremainder⟩ := numeral_scale unit (place classic one five ten) n
  have hdigit : n / unit < 10 := Nat.div_lt_of_lt_mul (by rwa [Nat.mul_comm])
  rw [remainder_place, Nat.mul_zero, Nat.zero_add] at hremainder
  rw [numeral_append, hnumeral, hremainder, numeral_place one five ten hdigit]

/-- The numeral of a number is put together from those of its decimal digits. -/
theorem numeral_eq_byDigits (classic : Bool) (n : Nat) :
    numeral (table classic) n = byDigits classic n := by
  have hthousands : Text.times (n / 1000) ['M'] = List.replicate (n / 1000) 'M' :=
    List.flatten_replicate_singleton
  have hhundreds : n % 1000 / 100 = n / 100 % 10 := by omega
  have htens : n % 1000 % 100 / 10 = n / 10 % 10 := by omega
  have hunits : n % 1000 % 100 % 10 = n % 10 := by omega
  rw [table_eq, numeral, numeral_place_append 'C' 'D' 'M' (by omega),
    numeral_place_append 'X' 'L' 'C' (by omega), numeral_place 'I' 'V' 'X' (by omega), hthousands,
    hhundreds, htens, hunits]
  rfl

end Tables

section Reading

variable {classic : Bool} {unit : Nat} {t u : Text}

/-- Nothing is subtracted over a border in front of which the values are not smaller. -/
theorem signedSum_append {vs ws : List Nat} (h : ∀ v ∈ vs, ∀ w ∈ ws, w ≤ v) :
    signedSum (vs ++ ws) = signedSum vs + signedSum ws := by
  induction vs with
  | nil => exact (Int.zero_add _).symm
  | cons v vs ih =>
      obtain ⟨hv, hvs⟩ := List.forall_mem_cons.1 h
      cases vs with
      | nil =>
          cases ws with
          | nil => exact (Int.add_zero _).symm
          | cons w ws =>
              have hle : ¬ v < w := Nat.not_lt.2 (hv w List.mem_cons_self)
              show (if v < w then -(v : Int) else v) + signedSum (w :: ws) = _
              rw [if_neg hle]
              rfl
      | cons v' vs =>
          show (if v < v' then -(v : Int) else v) + signedSum (v' :: vs ++ ws) = _
          rw [ih hvs, ← Int.add_assoc]
          rfl

/-- Parts of a numeral whose values come in order denote their parts of the number. -/
theorem denoted_append (ht : ∀ c ∈ t, unit ≤ value c) (hu : ∀ c ∈ u, value c ≤ unit) :
    denoted classic ((t ++ u).map value) =
      denoted classic (t.map value) + denoted classic (u.map value) := by
  have horder : ∀ v ∈ t.map value, ∀ w ∈ u.map value, w ≤ v := by
    simp only [List.forall_mem_map]
    exact fun c hc d hd => Nat.le_trans (hu d hd) (ht c hc)
  rw [List.map_append]
  cases classic with
  | false => exact signedSum_append horder
  | true => simp [denoted]

/-- A text of symbols with values up to a bound. -/
def Below (bound : Nat) (t : Text) : Prop :=
  ∀ c ∈ t, isSymbol c = true ∧ value c ≤ bound

/-- The symbols for one, five and ten suit a unit: the numerals of digits count the unit, with
values between one and ten of it, and in order if they are additive. -/
structure Suits (unit : Nat) (one five ten : Char) : Prop where
  denoted_digit : ∀ classic, ∀ d < 10,
    denoted classic ((digit classic one five ten d).map value) = unit * d
  below_digit : ∀ classic, ∀ d < 10, ∀ c ∈ digit classic one five ten d,
    isSymbol c = true ∧ value c ≤ unit * 10
  le_digit : ∀ classic, ∀ d < 10, ∀ c ∈ digit classic one five ten d, unit ≤ value c
  sorted_digit : ∀ d < 10, ((digit true one five ten d).map value).Pairwise (· ≥ ·)

/-- Symbols suit a unit if this is found for each digit. -/
theorem Suits.of_all {one five ten : Char}
    (hdenoted : ∀ classic, ∀ d < 10,
      denoted classic ((digit classic one five ten d).map value) = unit * d)
    (hbelow : ∀ classic, ∀ d < 10,
      (digit classic one five ten d).all fun c => isSymbol c = true ∧ value c ≤ unit * 10)
    (hle : ∀ classic, ∀ d < 10, (digit classic one five ten d).all fun c => unit ≤ value c)
    (hsorted : ∀ d < 10, ((digit true one five ten d).map value).Pairwise (· ≥ ·)) :
    Suits unit one five ten where
  denoted_digit := hdenoted
  below_digit classic d hd := List.all_iff_forall_prop.1 (hbelow classic d hd)
  le_digit classic d hd := List.all_iff_forall_prop.1 (hle classic d hd)
  sorted_digit := hsorted

/-- The symbols of the hundreds. -/
theorem suits_hundreds : Suits 100 'C' 'D' 'M' :=
  .of_all (by decide) (by decide) (by decide) (by decide)

/-- The symbols of the tens. -/
theorem suits_tens : Suits 10 'X' 'L' 'C' :=
  .of_all (by decide) (by decide) (by decide) (by decide)

/-- The symbols of the units. -/
theorem suits_units : Suits 1 'I' 'V' 'X' :=
  .of_all (by decide) (by decide) (by decide) (by decide)

/-- Numerals in order are in order behind each other if their values are. -/
theorem sorted_append (ht : (t.map value).Pairwise (· ≥ ·)) (hu : (u.map value).Pairwise (· ≥ ·))
    (hle : ∀ c ∈ t, unit ≤ value c) (hbelow : Below unit u) :
    ((t ++ u).map value).Pairwise (· ≥ ·) := by
  rw [List.map_append, List.pairwise_append]
  refine ⟨ht, hu, ?_⟩
  simp only [List.forall_mem_map]
  exact fun c hc d hd => Nat.le_trans (hbelow d hd).2 (hle c hc)

namespace Suits

variable {one five ten : Char} (hsuits : Suits unit one five ten) {d : Nat} (hd : d < 10)
  (hbelow : Below unit u)
include hsuits hd hbelow

/-- A digit in front of symbols up to its unit. -/
theorem below_append (classic : Bool) :
    Below (unit * 10) (digit classic one five ten d ++ u) := by
  intro c hc
  rcases List.mem_append.1 hc with hc | hc
  · exact hsuits.below_digit classic d hd c hc
  · obtain ⟨hsymbol, hle⟩ := hbelow c hc
    exact ⟨hsymbol, Nat.le_trans hle (Nat.le_mul_of_pos_right unit (by decide))⟩

/-- A digit in front of symbols up to its unit counts the unit. -/
theorem denoted_append (classic : Bool) :
    denoted classic ((digit classic one five ten d ++ u).map value) =
      unit * d + denoted classic (u.map value) := by
  rw [Roman.denoted_append (hsuits.le_digit classic d hd) fun c hc => (hbelow c hc).2,
    hsuits.denoted_digit classic d hd]

/-- An additive digit in front of symbols in order up to its unit. -/
theorem sorted_append (hu : (u.map value).Pairwise (· ≥ ·)) :
    ((digit true one five ten d ++ u).map value).Pairwise (· ≥ ·) :=
  Roman.sorted_append (hsuits.sorted_digit d hd) hu (hsuits.le_digit true d hd) hbelow

end Suits

/-- The symbols of the thousands. -/
theorem eq_of_mem_thousands {k : Nat} {c : Char} (hc : c ∈ List.replicate k 'M') :
    isSymbol c = true ∧ value c = 1000 := by
  rw [List.eq_of_mem_replicate hc]
  decide

/-- The symbols of the thousands denote them. -/
theorem denoted_thousands (classic : Bool) (k : Nat) :
    denoted classic ((List.replicate k 'M').map value) = 1000 * k := by
  induction k with
  | zero => cases classic <;> rfl
  | succ k ih =>
      have hfirst : ∀ c ∈ ['M'], 1000 ≤ value c := List.forall_mem_singleton.2 (by decide)
      have hmore : ∀ c ∈ List.replicate k 'M', value c ≤ 1000 :=
        fun c hc => Nat.le_of_eq (eq_of_mem_thousands hc).2
      have hone : denoted classic (['M'].map value) = 1000 := by cases classic <;> rfl
      have hsplit : List.replicate (k + 1) 'M' = ['M'] ++ List.replicate k 'M' := rfl
      rw [hsplit, denoted_append hfirst hmore, ih, hone]
      push_cast
      omega

/-- The digits below the thousands are symbols up to one thousand. -/
theorem below_digits (classic : Bool) (n : Nat) :
    Below 10 (digit classic 'I' 'V' 'X' (n % 10)) ∧
      Below 100 (digit classic 'X' 'L' 'C' (n / 10 % 10) ++ digit classic 'I' 'V' 'X' (n % 10)) ∧
        Below 1000 (digit classic 'C' 'D' 'M' (n / 100 % 10) ++
          (digit classic 'X' 'L' 'C' (n / 10 % 10) ++ digit classic 'I' 'V' 'X' (n % 10))) := by
  have hunits : Below 10 (digit classic 'I' 'V' 'X' (n % 10)) :=
    suits_units.below_digit classic _ (Nat.mod_lt n (by decide))
  have htens := suits_tens.below_append (Nat.mod_lt (n / 10) (by decide)) hunits classic
  exact ⟨hunits, htens,
    suits_hundreds.below_append (Nat.mod_lt (n / 100) (by decide)) htens classic⟩

/-- The numeral that is put together from digits consists of symbols. -/
theorem isSymbol_of_mem_byDigits {n : Nat} {c : Char} (hc : c ∈ byDigits classic n) :
    isSymbol c = true := by
  obtain ⟨-, -, hhundreds⟩ := below_digits classic n
  rcases List.mem_append.1 hc with hc | hc
  · exact (eq_of_mem_thousands hc).1
  · exact (hhundreds c hc).1

/-- A number is denoted by its digits. -/
theorem read_byDigits (classic : Bool) (n : Nat) :
    read classic (byDigits classic n) = some (n : Int) := by
  obtain ⟨hunits, htens, hhundreds⟩ := below_digits classic n
  have hsymbols : (byDigits classic n).all isSymbol = true :=
    List.all_eq_true.2 fun c hc => isSymbol_of_mem_byDigits hc
  rw [read, if_pos hsymbols, byDigits,
    denoted_append (fun c hc => Nat.le_of_eq (eq_of_mem_thousands hc).2.symm)
      fun c hc => (hhundreds c hc).2,
    denoted_thousands, suits_hundreds.denoted_append (Nat.mod_lt _ (by decide)) htens,
    suits_tens.denoted_append (Nat.mod_lt _ (by decide)) hunits,
    suits_units.denoted_digit classic _ (Nat.mod_lt _ (by decide))]
  congr 1
  omega

/-- How often a symbol is in the additive numeral of a digit, at most. -/
def digitLimit (one five c : Char) : Nat :=
  if c = one then 4 else if c = five then 1 else 0

/-- How often a symbol below the thousands is in an additive numeral, at most. -/
def symbolLimit (c : Char) : Nat :=
  digitLimit 'C' 'D' c + (digitLimit 'X' 'L' c + digitLimit 'I' 'V' c)

/-- A digit below ten makes at most one five and four ones. -/
theorem count_digit_le {one five : Char} (hne : one ≠ five) (ten : Char) {d : Nat} (hd : d < 10)
    (c : Char) : (digit true one five ten d).count c ≤ digitLimit one five c := by
  show (List.replicate (d / 5) five ++ List.replicate (d % 5) one).count c ≤ _
  rw [List.count_append, List.count_replicate, List.count_replicate, digitLimit]
  grind

/-- Each digit has symbols of its own, so their limits add up. -/
theorem count_byDigits_le (n : Nat) {c : Char} (hc : c ≠ 'M') :
    (byDigits true n).count c ≤ symbolLimit c := by
  have hnone : (List.replicate (n / 1000) 'M').count c = 0 :=
    List.count_eq_zero.2 fun hmem => hc (List.eq_of_mem_replicate hmem)
  have hhundreds := count_digit_le (show 'C' ≠ 'D' by decide) 'M'
    (Nat.mod_lt (n / 100) (by decide)) c
  have htens := count_digit_le (show 'X' ≠ 'L' by decide) 'C' (Nat.mod_lt (n / 10) (by decide)) c
  have hunits := count_digit_le (show 'I' ≠ 'V' by decide) 'X' (Nat.mod_lt n (by decide)) c
  rw [byDigits, List.count_append, hnone, Nat.zero_add, List.count_append, List.count_append]
  exact Nat.add_le_add hhundreds (Nat.add_le_add htens hunits)

/-- The numeral that is put together from additive digits is additive. -/
theorem isAdditive_byDigits (n : Nat) : IsAdditive (byDigits true n) := by
  obtain ⟨hunits, htens, hhundreds⟩ := below_digits true n
  have hsorted := suits_hundreds.sorted_append (Nat.mod_lt (n / 100) (by decide)) htens
    (suits_tens.sorted_append (Nat.mod_lt (n / 10) (by decide)) hunits
      (suits_units.sorted_digit _ (Nat.mod_lt n (by decide))))
  have hthousands : ((List.replicate (n / 1000) 'M').map value).Pairwise (· ≥ ·) := by
    rw [List.map_replicate]
    exact List.pairwise_replicate.2 (.inr (Nat.le_refl _))
  have hones : ∀ c ∈ ("CXI" : Text), c ≠ 'M' ∧ symbolLimit c = 4 :=
    List.all_iff_forall_prop.1 (by decide)
  have hfives : ∀ c ∈ ("DLV" : Text), c ≠ 'M' ∧ symbolLimit c = 1 :=
    List.all_iff_forall_prop.1 (by decide)
  refine ⟨sorted_append hthousands hsorted ?_ hhundreds, fun c hc => ?_, fun c hc => ?_⟩
  · exact fun c hc => Nat.le_of_eq (eq_of_mem_thousands hc).2.symm
  · obtain ⟨hne, hlimit⟩ := hones c hc
    exact hlimit ▸ count_byDigits_le n hne
  · obtain ⟨hne, hlimit⟩ := hfives c hc
    exact hlimit ▸ count_byDigits_le n hne

end Reading

/-- The sign in front of a numeral. -/
def sign (n : Int) : Text :=
  if n < 0 then "-" else []

/-- What a numeral with a sign denotes in a notation, where "N" is zero. -/
def readSigned (classic : Bool) (t : Text) : Option Int :=
  if t = "N" then some 0
  else match t with
    | '-' :: rest => (read classic rest).map fun n => -n
    | t => read classic t

end Roman

section Integers

variable {n : Int}

/-- An integer other than zero is a sign and the numeral of its digits. -/
theorem roman_eq_byDigits (hn : n ≠ 0) (classic : Bool) :
    roman n classic = Roman.sign n ++ Roman.byDigits classic n.natAbs := by
  rw [roman, if_neg hn, ← Roman.numeral_eq_byDigits]
  rfl

/-- A Roman numeral is read back. -/
theorem readSigned_roman (n : Int) (classic : Bool) :
    Roman.readSigned classic (roman n classic) = some n := by
  by_cases hn : n = 0
  · subst hn
    rfl
  have hread := Roman.read_byDigits classic n.natAbs
  rw [roman_eq_byDigits hn, Roman.sign]
  split
  · next hneg =>
      show (Roman.read classic (Roman.byDigits classic n.natAbs)).map (fun n => -n) = some n
      rw [hread, Option.map_some]
      congr 1
      omega
  · next hnonneg =>
      have hnot : ∀ c, Roman.isSymbol c = false → c ∉ Roman.byDigits classic n.natAbs := by
        intro c hc hmem
        rw [Roman.isSymbol_of_mem_byDigits hmem] at hc
        cases hc
      have hzero : Roman.byDigits classic n.natAbs ≠ "N" :=
        fun heq => hnot 'N' (by decide) (heq ▸ List.mem_singleton.2 rfl)
      rw [List.nil_append]
      unfold Roman.readSigned
      rw [if_neg hzero]
      split
      · next rest hminus =>
          exact absurd (hminus ▸ List.mem_cons_self) (hnot '-' (by decide))
      · rw [hread]
        congr 1
        omega

/-- Every integer other than zero is a sign and a numeral that denotes its size. In the additive
notation the numeral has its symbols in order, none of them as often as would make up a larger one;
in the subtractive notation it consists of the thousands and the numerals of the other decimal
digits. In each notation different integers have different numerals. -/
theorem roman_canonical :
    (∀ n : Int, n ≠ 0 → ∃ numeral : Text, roman n true = Roman.sign n ++ numeral ∧
      Roman.read true numeral = some (n.natAbs : Int) ∧ Roman.IsAdditive numeral) ∧
    (∀ n : Int, n ≠ 0 → ∃ numeral : Text, roman n false = Roman.sign n ++ numeral ∧
      Roman.read false numeral = some (n.natAbs : Int) ∧
        numeral = List.replicate (n.natAbs / 1000) 'M' ++
          (Roman.subtractiveDigit 'C' 'D' 'M' (n.natAbs / 100 % 10) ++
            (Roman.subtractiveDigit 'X' 'L' 'C' (n.natAbs / 10 % 10) ++
              Roman.subtractiveDigit 'I' 'V' 'X' (n.natAbs % 10)))) ∧
    ∀ classic, Function.Injective fun n => roman n classic := by
  refine ⟨fun n hn => ?_, fun n hn => ?_, fun classic m n heq => ?_⟩
  · exact ⟨_, roman_eq_byDigits hn true, Roman.read_byDigits true _,
      Roman.isAdditive_byDigits _⟩
  · exact ⟨_, roman_eq_byDigits hn false, Roman.read_byDigits false _, rfl⟩
  · have hread := congrArg (Roman.readSigned classic) heq
    dsimp only at hread
    rw [readSigned_roman, readSigned_roman] at hread
    exact Option.some.inj hread

/-- The numeral of a negative number in both notations. -/
theorem roman_canonical_negative :
    (-1994 : Int) ≠ 0 ∧ (∃ numeral : Text, roman (-1994) true = "-" ++ numeral ∧
      Roman.read true numeral = some (1994 : Int) ∧ Roman.IsAdditive numeral) ∧
    roman (-1994) = "-MCMXCIV" := by
  have hne : (-1994 : Int) ≠ 0 := by decide
  obtain ⟨hadditive, hsubtractive, -⟩ := roman_canonical
  obtain ⟨numeral, hroman, -, rfl⟩ := hsubtractive (-1994) hne
  exact ⟨hne, hadditive (-1994) hne, hroman⟩

end Integers

end Agreement
