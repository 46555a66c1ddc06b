import Agreement.Number.Grouped
import Agreement.Proofs.Number.CardinalReading
import Mathlib.Data.Bool.AllAny

/-!
# Reading grouped digits

Digits in a radix are read by their place values (`Digits.read`), and grouped digits by taking the
separators out first (`Text.without`). Digits are read back as the number that they were written for
(`Digits.read_ofNat`). Their separators are where they divide the digits into groups of one size
from the end (`Digits.exists_grouping`), and are found again because no group has a character of a
separator. `grouped_reads` puts this together for all layouts with groups, with the sign and the
padding.
-/

namespace Agreement

namespace Text

open Agreement.Cardinal (cut? cut?_append cut?_of_not_mem)

/-- What stands behind a word is shorter than the text. -/
theorem length_lt_of_cut? {word t front behind : Text} (hne : word ≠ [])
    (h : cut? word t = some (front, behind)) : behind.length < t.length := by
  induction t generalizing front with
  | nil => cases h
  | cons c t ih =>
      rw [cut?] at h
      split at h
      · cases h
        have hpos := List.length_pos_iff.2 hne
        rw [List.length_drop, List.length_cons]
        omega
      · obtain ⟨⟨front', behind'⟩, hcut, heq⟩ := Option.map_eq_some_iff.1 h
        cases heq
        exact Nat.lt_succ_of_lt (ih hcut)

/-- The text without the occurrences of a word, found one behind the other from the start. -/
def without (word t : Text) : Text :=
  if _hne : word = [] then t
  else match _hcut : cut? word t with
    | none => t
    | some (front, behind) => front ++ without word behind
termination_by t.length
decreasing_by exact length_lt_of_cut? _hne _hcut

section Without

variable {word front t : Text} {mark : Char}

/-- An empty word is found nowhere. -/
theorem without_nil (t : Text) : without [] t = t := by
  rw [without, dif_pos rfl]

/-- A text that lacks a character of the word stays as it is. -/
theorem without_of_not_mem (hmark : mark ∈ word) (h : mark ∉ t) : without word t = t := by
  have hne : word ≠ [] := List.ne_nil_of_mem hmark
  have hcut := cut?_of_not_mem hmark h
  rw [without, dif_neg hne]
  split
  · rfl
  · next hfound => cases hcut.symm.trans hfound

/-- The first occurrence of the word is behind a text that lacks a character of it. -/
theorem without_append (hmark : mark ∈ word) (hfront : mark ∉ front) (behind : Text) :
    without word (front ++ word ++ behind) = front ++ without word behind := by
  have hne : word ≠ [] := List.ne_nil_of_mem hmark
  have hcut := cut?_append hmark hfront behind
  rw [without, dif_neg hne]
  split
  · next hfound => cases hcut.symm.trans hfound
  · next hfound =>
      cases hcut.symm.trans hfound
      rfl

/-- Pieces that are joined with nothing are put one behind the other. -/
theorem joinWith_nil (pieces : List Text) : joinWith [] pieces = pieces.flatten := by
  induction pieces with
  | nil => rfl
  | cons piece pieces ih =>
      cases pieces with
      | nil => simp [joinWith]
      | cons next pieces => simp [joinWith, ih]

/-- What stands in front of joined pieces stands in front of the first one. -/
theorem append_joinWith (sep front first : Text) (more : List Text) :
    front ++ joinWith sep (first :: more) = joinWith sep ((front ++ first) :: more) := by
  cases more with
  | nil => rfl
  | cons next more => simp [joinWith]

/-- Without the separators, pieces that have no character of it stand one behind the other. -/
theorem without_joinWith {sep : Text} {pieces : List Text}
    (h : ∀ c ∈ sep, ∀ piece ∈ pieces, c ∉ piece) :
    without sep (joinWith sep pieces) = pieces.flatten := by
  rcases List.eq_nil_or_concat sep with rfl | ⟨start, mark, rfl⟩
  · rw [joinWith_nil, without_nil]
  rw [List.concat_eq_append] at h ⊢
  have hmark : mark ∈ start ++ [mark] := by simp
  have hpieces := h mark hmark
  clear h
  induction pieces with
  | nil => exact without_of_not_mem hmark List.not_mem_nil
  | cons piece pieces ih =>
      obtain ⟨hpiece, hpieces⟩ := List.forall_mem_cons.1 hpieces
      cases pieces with
      | nil =>
          rw [List.flatten_singleton]
          exact without_of_not_mem hmark hpiece
      | cons next pieces =>
          show without _ (piece ++ (start ++ [mark]) ++ joinWith _ (next :: pieces)) = _
          rw [without_append hmark hpiece, ih hpieces]
          rfl

/-- Without the separators, joined pieces stand one behind the other, behind what is in front. -/
theorem without_append_joinWith {sep : Text} {pieces : List Text} (hne : pieces ≠ [])
    (hfront : ∀ c ∈ sep, c ∉ front) (h : ∀ c ∈ sep, ∀ piece ∈ pieces, c ∉ piece) :
    without sep (front ++ joinWith sep pieces) = front ++ pieces.flatten := by
  obtain ⟨first, more, rfl⟩ := List.exists_cons_of_ne_nil hne
  rw [append_joinWith, without_joinWith, List.flatten_cons, List.flatten_cons, List.append_assoc]
  intro c hc
  obtain ⟨hfirst, hmore⟩ := List.forall_mem_cons.1 (h c hc)
  have hboth : c ∉ front ++ first :=
    fun hmem => (List.mem_append.1 hmem).elim (hfront c hc) hfirst
  exact List.forall_mem_cons.2 ⟨hboth, hmore⟩

end Without

end Text

namespace Digits

/-- The digits of all radixes, in the order of their values. -/
def all : Text := "0123456789ABCDEFGHIJKLMNOPQRSTUVWXYZabcdefghijklmnopqrstuvwxyz"

/-- The digits of a radix. -/
def ofRadix (radix : Nat) : Text :=
  all.take radix

/-- A number with one more digit of the radix behind it. -/
def appendDigit (radix n : Nat) (c : Char) : Option Nat :=
  if c ∈ ofRadix radix then some (n * radix + all.idxOf c) else none

/-- The number that digits of a radix denote. -/
def read (radix : Nat) (t : Text) : Option Nat :=
  t.foldlM (appendDigit radix) 0

/-- Whether pieces divide digits into groups of a size, counted from the end: the first piece has
at least one digit and at most `size`, and each other one has `size`. -/
def IsGrouping (size : Nat) : List Text → Prop
  | [] => False
  | first :: more => 1 ≤ first.length ∧ first.length ≤ size ∧ ∀ group ∈ more, group.length = size

/-- There is a first group. -/
theorem IsGrouping.ne_nil {size : Nat} {groups : List Text} (h : IsGrouping size groups) :
    groups ≠ [] := by
  rintro rfl
  exact h

section Radix

variable {radix n : Nat} {c : Char}

/-- The digit of a value stands at its place among all digits. -/
theorem getElem?_all : ∀ value < 62, all[value]? = some (symbol value) := by
  decide

/-- The place of a digit among all digits is its value. -/
theorem idxOf_symbol : ∀ value < 62, all.idxOf (symbol value) = value := by
  decide

/-- Only the digit of zero is a zero. -/
theorem symbol_ne_zero : ∀ value < 62, value ≠ 0 → symbol value ≠ '0' := by
  decide

/-- The digit of a value below the radix is one of its digits. -/
theorem symbol_mem (hradix : radix ≤ 62) (h : n < radix) : symbol n ∈ ofRadix radix := by
  have hplace : (ofRadix radix)[n]? = some (symbol n) := by
    rw [ofRadix, List.getElem?_take_of_lt h, getElem?_all n (Nat.lt_of_lt_of_le h hradix)]
  exact List.mem_of_getElem? hplace

/-- A digit is appended by its value. -/
theorem appendDigit_symbol (hradix : radix ≤ 62) {value : Nat} (h : value < radix) (n : Nat) :
    appendDigit radix n (symbol value) = some (n * radix + value) := by
  rw [appendDigit, if_pos (symbol_mem hradix h), idxOf_symbol value (Nat.lt_of_lt_of_le h hradix)]

/-- A number has at least one digit. -/
theorem ofNat_ne_nil (radix n : Nat) : ofNat radix n ≠ [] := by
  rw [ofNat]
  split <;> simp

/-- Zero has a single digit. -/
theorem ofNat_zero (radix : Nat) : ofNat radix 0 = "0" := by
  rw [ofNat, dif_pos (by omega)]
  rfl

variable (hlow : 2 ≤ radix) (hhigh : radix ≤ 62)
include hlow hhigh

/-- The digits of a number are digits of the radix. -/
theorem mem_ofNat (h : c ∈ ofNat radix n) : c ∈ ofRadix radix := by
  fun_induction ofNat radix n with
  | case1 n hstop =>
      rw [List.mem_singleton.1 h]
      exact symbol_mem hhigh (by omega)
  | case2 n hmore ih =>
      rcases List.mem_append.1 h with h | h
      · exact ih h
      · rw [List.mem_singleton.1 h]
        exact symbol_mem hhigh (Nat.mod_lt n (by omega))

/-- The digits of a number denote it. -/
theorem read_ofNat (n : Nat) : read radix (ofNat radix n) = some n := by
  unfold read
  fun_induction ofNat radix n with
  | case1 n hstop =>
      have hlt : n < radix := by omega
      rw [List.foldlM_cons, appendDigit_symbol hhigh hlt, Nat.zero_mul, Nat.zero_add]
      rfl
  | case2 n hmore ih =>
      have hmod : n % radix < radix := Nat.mod_lt n (by omega)
      rw [List.foldlM_append, ih]
      show List.foldlM (appendDigit radix) (n / radix) [symbol (n % radix)] = _
      rw [List.foldlM_cons, appendDigit_symbol hhigh hmod, Nat.div_add_mod']
      rfl

/-- The first digit of a number is no zero unless the number is. -/
theorem head?_ofNat (h : n ≠ 0) : (ofNat radix n).head? ≠ some '0' := by
  fun_induction ofNat radix n with
  | case1 n hstop =>
      have hsymbol : symbol n ≠ '0' := symbol_ne_zero n (by omega) h
      simpa using hsymbol
  | case2 n hmore ih =>
      have hne : n / radix ≠ 0 := Nat.ne_of_gt (Nat.div_pos (by omega) (by omega))
      rw [List.head?_append, List.head?_eq_some_head (ofNat_ne_nil radix _), Option.some_or,
        ← List.head?_eq_some_head]
      exact ih hne

end Radix

section Groups

variable {size : Nat} (separator : Text)

/-- Digits in groups of no size are not separated. -/
theorem separate_zero (t : Text) : separate 0 separator t = t := by
  induction t with
  | nil => rfl
  | cons c t ih => rw [separate, if_neg (by simp), ih]

/-- Full groups behind the first one do not count in the number of digits modulo the size. -/
theorem length_mod_size {first : Text} {more : List Text}
    (h : ∀ group ∈ more, group.length = size) :
    (first :: more).flatten.length % size = first.length % size := by
  induction more with
  | nil => simp
  | cons group more ih =>
      obtain ⟨hgroup, hmore⟩ := List.forall_mem_cons.1 h
      have hlength : (first :: group :: more).flatten.length =
          (first :: more).flatten.length + size := by
        simp only [List.flatten_cons, List.length_append, hgroup]
        omega
      rw [hlength, Nat.add_mod_right, ih hmore]

/-- The separators divide digits into groups. -/
theorem exists_grouping (hsize : 1 ≤ size) {t : Text} (hne : t ≠ []) :
    ∃ groups, IsGrouping size groups ∧ groups.flatten = t ∧
      separate size separator t = Text.joinWith separator groups := by
  induction t with
  | nil => exact absurd rfl hne
  | cons c t ih =>
      by_cases ht : t = []
      · subst ht
        exact ⟨[[c]], ⟨Nat.le_refl 1, hsize, nofun⟩, rfl, by simp [separate, Text.joinWith]⟩
      obtain ⟨groups, hgroups, hflatten, hjoin⟩ := ih ht
      match groups, hgroups with
      | first :: more, ⟨hpos, hle, hmore⟩ =>
        have hmod : t.length % size = first.length % size := by
          rw [← hflatten, length_mod_size hmore]
        by_cases hfull : first.length = size
        · -- the first group is full, so the new digit begins another one
          have hsplit : t ≠ [] ∧ size ≠ 0 ∧ t.length % size = 0 :=
            ⟨ht, by omega, by rw [hmod, hfull, Nat.mod_self]⟩
          refine ⟨[c] :: first :: more, ⟨Nat.le_refl 1, hsize, ?_⟩, ?_, ?_⟩
          · exact List.forall_mem_cons.2 ⟨hfull, hmore⟩
          · rw [List.flatten_cons, hflatten]
            rfl
          · rw [separate, if_pos hsplit, hjoin]
            simp [Text.joinWith]
        · have hroom : first.length < size := Nat.lt_of_le_of_ne hle hfull
          have hstay : ¬ (t ≠ [] ∧ size ≠ 0 ∧ t.length % size = 0) := by
            rw [hmod, Nat.mod_eq_of_lt hroom]
            omega
          refine ⟨(c :: first) :: more, ⟨Nat.succ_pos _, hroom, hmore⟩, ?_, ?_⟩
          · rw [List.flatten_cons, List.cons_append, ← List.flatten_cons, hflatten]
          · rw [separate, if_neg hstay, hjoin]
            exact Text.append_joinWith separator [c] first more

end Groups

end Digits

/-- The sign of an integer in a layout. -/
def DigitLayout.sign (layout : DigitLayout) (n : Int) : Text :=
  if n < 0 then "-" else if layout.signed then "+" else []

/-- A character that is no sign is in no sign. -/
theorem DigitLayout.not_mem_sign {layout : DigitLayout} {c : Char} (hc : c ≠ '-' ∧ c ≠ '+')
    (n : Int) : c ∉ layout.sign n := by
  unfold DigitLayout.sign
  split
  · exact fun hmem => hc.1 (List.mem_singleton.1 hmem)
  · split
    · exact fun hmem => hc.2 (List.mem_singleton.1 hmem)
    · exact List.not_mem_nil

section Layouts

variable {layout : DigitLayout} (hradix : 2 ≤ layout.radix ∧ layout.radix ≤ 62)
include hradix

/-- Without padding an integer is as long as its sign and its groups. -/
theorem grouped_of_no_padding (n : Int) :
    grouped { layout with padding := [] } n = .ok (layout.unpadded n) := by
  rw [grouped, if_neg (by dsimp only; omega)]
  rfl

/-- Padding with a single character fills the columns. -/
theorem grouped_of_padding (c : Char) (n : Int) :
    grouped { layout with padding := [c] } n =
      .ok (Text.padLeft layout.columns.toNat c (layout.unpadded n)) := by
  rw [grouped, if_neg (by dsimp only; omega)]
  rfl

/-- An integer without groups is its sign and its digits. -/
theorem ungrouped_eq (n : Int) :
    ungrouped { signed := layout.signed, radix := layout.radix } n =
      .ok (layout.sign n ++ Digits.ofNat layout.radix.toNat n.natAbs) := by
  have hpadded : ungrouped { signed := layout.signed, radix := layout.radix } n = _ :=
    @grouped_of_padding { interval := 0, signed := layout.signed, radix := layout.radix } hradix
      ' ' n
  rw [hpadded]
  show Except.ok (Text.padLeft 0 ' ' (layout.sign n ++ Digits.separate 0 "," _)) = _
  rw [Digits.separate_zero, Text.padLeft, Nat.zero_sub]
  rfl

/-- Grouped digits in a radix from 2 to 62 are a sign and groups of digits, the first of them
perhaps shorter than the others, between which the separator stands. Without the separators they are
the ungrouped digits, which have no leading zero and denote the size of the integer. Padding stands
in front up to the number of columns. -/
theorem grouped_reads (hinterval : 1 ≤ layout.interval)
    (hseparator : ∀ c ∈ layout.separator,
      c ∉ Digits.ofRadix layout.radix.toNat ∧ c ≠ '-' ∧ c ≠ '+') (n : Int) :
    ∃ groups : List Text,
      let text := layout.sign n ++ Text.joinWith layout.separator groups
      let digits := groups.flatten
      grouped { layout with padding := [] } n = .ok text ∧
      Digits.IsGrouping layout.interval.toNat groups ∧
      Text.without layout.separator text = layout.sign n ++ digits ∧
      ungrouped { signed := layout.signed, radix := layout.radix } n =
        .ok (layout.sign n ++ digits) ∧
      (n = 0 → digits = "0") ∧ (n ≠ 0 → digits.head? ≠ some '0') ∧
      Digits.read layout.radix.toNat digits = some n.natAbs ∧
      ∀ c, ∃ count : Nat,
        grouped { layout with padding := [c] } n = .ok (List.replicate count c ++ text) ∧
          (count + text.length : Int) = max layout.columns text.length := by
  obtain ⟨hlow, hhigh⟩ : 2 ≤ layout.radix.toNat ∧ layout.radix.toNat ≤ 62 := by omega
  obtain ⟨groups, hgroups, hflatten, hjoin⟩ := Digits.exists_grouping layout.separator
    (show 1 ≤ layout.interval.natAbs by omega)
    (Digits.ofNat_ne_nil layout.radix.toNat n.natAbs)
  have hsize : layout.interval.toNat = layout.interval.natAbs := by omega
  have htext : layout.unpadded n =
      layout.sign n ++ Text.joinWith layout.separator groups :=
    congrArg (layout.sign n ++ ·) hjoin
  refine ⟨groups, ?_⟩
  dsimp only
  rw [← htext, hsize, hflatten]
  refine ⟨grouped_of_no_padding hradix n, hgroups, ?_, ungrouped_eq hradix n, ?_, ?_,
    Digits.read_ofNat hlow hhigh _, fun c => ⟨_, grouped_of_padding hradix c n, by omega⟩⟩
  · have hsign : ∀ c ∈ layout.separator, c ∉ layout.sign n :=
      fun c hc => DigitLayout.not_mem_sign (hseparator c hc).2 n
    have hdigits : ∀ c ∈ layout.separator, ∀ group ∈ groups, c ∉ group := by
      intro c hc group hgroup hmem
      have hdigit : c ∈ Digits.ofNat layout.radix.toNat n.natAbs :=
        hflatten ▸ List.mem_flatten_of_mem hgroup hmem
      exact (hseparator c hc).1 (Digits.mem_ofNat hlow hhigh hdigit)
    rw [htext, Text.without_append_joinWith hgroups.ne_nil hsign hdigits, hflatten]
  · rintro rfl
    exact Digits.ofNat_zero _
  · exact fun hne => Digits.head?_ofNat hlow hhigh (Int.natAbs_ne_zero.2 hne)

end Layouts

/-- A layout with a separator of two characters. -/
def colonLayout : DigitLayout :=
  { columns := 12, padding := ".", interval := 2, separator := "::", signed := true, radix := 16 }

/-- Groups of two digits in radix 16, the first of them shorter. -/
theorem grouped_reads_colons :
    2 ≤ colonLayout.radix ∧ colonLayout.radix ≤ 62 ∧ 1 ≤ colonLayout.interval ∧
      ∃ groups, grouped { colonLayout with padding := [] } 703710 =
          .ok ("+" ++ Text.joinWith "::" groups) ∧
        Digits.IsGrouping 2 groups ∧ Digits.read 16 groups.flatten = some 703710 := by
  have hradix : 2 ≤ colonLayout.radix ∧ colonLayout.radix ≤ 62 := by decide
  have hinterval : 1 ≤ colonLayout.interval := by decide
  have hseparator : ∀ c ∈ colonLayout.separator,
      c ∉ Digits.ofRadix colonLayout.radix.toNat ∧ c ≠ '-' ∧ c ≠ '+' :=
    List.all_iff_forall_prop.1 (by decide)
  obtain ⟨groups, htext, hgroups, -, -, -, -, hread, -⟩ :=
    grouped_reads hradix hinterval hseparator 703710
  exact ⟨hradix.1, hradix.2, hinterval, groups, htext, hgroups, hread⟩

/-- The groups, and the padding in front of them. -/
example : grouped colonLayout 703710 = .ok "..+A::BC::DE" := by
  decide +kernel

end Agreement
