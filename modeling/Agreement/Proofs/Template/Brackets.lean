import Agreement.Proofs.Template.Kinds
import Mathlib.Order.Bounds.Basic

/-!
# Brackets of a template

Which templates the tokenizer accepts, and where it finds the fault in the others. `Balanced` counts
brackets, and `openBehind` pairs them by a stack of positions. The tokenizer starts anew with every
token and keeps no such stack. `unpaired` reads a template once with the stack, and
`fault_scanFrom` shows that it finds the same fault.
-/

namespace Agreement

/-- Brackets in order: no prefix closes more than it opens, and in the end all are closed. -/
structure Balanced (ms : List Mark) : Prop where
  opened : ∀ n, (ms.take n).count (some '>') ≤ (ms.take n).count (some '<')
  settled : ms.count (some '>') = ms.count (some '<')

/-- Balanced marks leave no bracket open and close none that is not. -/
theorem balanced_iff {ms : List Mark} : Balanced ms ↔ depthBehind 0 ms = some 0 := by
  simp only [depthBehind_eq_some_iff, NeverBelow, Nat.zero_add, Nat.add_zero]
  exact ⟨fun h => ⟨h.opened, h.settled⟩, fun h => ⟨h.1, h.2⟩⟩

/-- The positions of the open brackets behind a mark at a position, innermost first, where `outer`
are those before it. A closing bracket closes the innermost one. -/
def openAfter (position : Nat) (outer : List Nat) (m : Mark) : List Nat :=
  if m = some '<' then position :: outer else if m = some '>' then outer.tail else outer

/-- The positions of the open brackets behind marks that start at a position, innermost first. -/
def openBehind (position : Nat) (outer : List Nat) : List Mark → List Nat
  | [] => outer
  | m :: ms => openBehind (position + 1) (openAfter position outer m) ms

/-- The `n`-th mark closes a bracket where none is open. -/
def ClosesNothing (position : Nat) (outer : List Nat) (ms : List Mark) (n : Nat) : Prop :=
  ms[n]? = some (some '>') ∧ openBehind position outer (ms.take n) = []

/-- The bracket without a partner in marks that start at a position: the first closing bracket where
none is open, and otherwise the outermost bracket that is open in the end. -/
def unpaired (position : Nat) (outer : List Nat) : List Mark → Option TokenError
  | [] => outer.getLast?.map fun p => ⟨.unclosed, p⟩
  | m :: ms =>
    if m = some '>' ∧ outer = [] then some ⟨.unopened, position⟩
    else unpaired (position + 1) (openAfter position outer m) ms

/-- What happens behind the first mark happens one mark later. -/
theorem closesNothing_succ {position : Nat} {outer : List Nat} {m : Mark} {ms : List Mark}
    {n : Nat} : ClosesNothing position outer (m :: ms) (n + 1) ↔
      ClosesNothing (position + 1) (openAfter position outer m) ms n := by
  simp [ClosesNothing, openBehind]

/-- The first mark closes nothing if it is a closing bracket and none is open before it. -/
theorem closesNothing_zero {position : Nat} {outer : List Nat} {m : Mark} {ms : List Mark} :
    ClosesNothing position outer (m :: ms) 0 ↔ m = some '>' ∧ outer = [] := by
  simp [ClosesNothing, openBehind]

/-- A closing bracket without a partner is the first one that closes nothing. -/
theorem isLeast_of_unpaired {position p : Nat} {outer : List Nat} {ms : List Mark}
    (h : unpaired position outer ms = some ⟨.unopened, p⟩) :
    ∃ n, p = position + n ∧ IsLeast {n | ClosesNothing position outer ms n} n := by
  fun_induction unpaired position outer ms with
  | case1 => simp at h
  | case2 position outer m ms hm =>
      have hp : position = p := by simpa using h
      exact ⟨0, hp.symm, closesNothing_zero.2 hm, fun n _ => Nat.zero_le n⟩
  | case3 position outer m ms hm ih =>
      obtain ⟨n, rfl, hn, hleast⟩ := ih h
      refine ⟨n + 1, by omega, closesNothing_succ.2 hn, ?_⟩
      rintro (_ | k) hk
      · exact absurd (closesNothing_zero.1 hk) hm
      · exact Nat.succ_le_succ (hleast (closesNothing_succ.1 hk))

/-- An opening bracket without a partner is the outermost one in the end, and no bracket closes
nothing. -/
theorem outermost_of_unpaired {position p : Nat} {outer : List Nat} {ms : List Mark}
    (h : unpaired position outer ms = some ⟨.unclosed, p⟩) :
    (∀ n, ¬ ClosesNothing position outer ms n) ∧
      (openBehind position outer ms).getLast? = some p := by
  fun_induction unpaired position outer ms with
  | case1 position outer =>
      exact ⟨by simp [ClosesNothing], by simpa [openBehind] using h⟩
  | case2 position outer m ms hm => simp at h
  | case3 position outer m ms hm ih =>
      obtain ⟨hnone, hlast⟩ := ih h
      refine ⟨?_, hlast⟩
      rintro (_ | n) hn
      · exact hm (closesNothing_zero.1 hn)
      · exact hnone n (closesNothing_succ.1 hn)

/-- The depth counts the brackets on the stack. -/
theorem depthBehind_length (position : Nat) (outer : List Nat) (m : Mark) (ms : List Mark) :
    depthBehind outer.length (m :: ms) =
      if m = some '>' ∧ outer = [] then none
      else depthBehind (openAfter position outer m).length ms := by
  by_cases hopen : m = some '<'
  · subst hopen
    simp [depthBehind, openAfter]
  · by_cases hclose : m = some '>'
    · subst hclose
      cases outer <;> simp [depthBehind, openAfter]
    · simp [depthBehind_cons hopen hclose, openAfter, hopen, hclose]

/-- Every bracket has a partner exactly if the marks close all the brackets. -/
theorem unpaired_eq_none_iff {position : Nat} {outer : List Nat} {ms : List Mark} :
    unpaired position outer ms = none ↔ depthBehind outer.length ms = some 0 := by
  fun_induction unpaired position outer ms with
  | case1 => simp [depthBehind]
  | case2 position outer m ms hm => simp [depthBehind, hm]
  | case3 position outer m ms hm ih => rw [ih, depthBehind_length position, if_neg hm]

/-- Marks that never go below their start change nothing about the brackets around them. -/
theorem unpaired_append {depth final : Nat} {ms : List Mark}
    (h : depthBehind depth ms = some final) (position : Nat) (inner outer : List Nat)
    (hinner : inner.length = depth) (ms' : List Mark) :
    ∃ inner', inner'.length = final ∧
      unpaired position (inner ++ outer) (ms ++ ms') =
        unpaired (position + ms.length) (inner' ++ outer) ms' := by
  -- `inner` are the brackets opened since the start, the only ones that the marks may close
  fun_induction depthBehind depth ms generalizing position inner with
  | case1 depth => exact ⟨inner, by simpa [hinner] using h, rfl⟩
  | case2 depth ms ih =>
      obtain ⟨inner', hlength, heq⟩ := ih h (position + 1) (position :: inner) (by simp [hinner])
      refine ⟨inner', hlength, ?_⟩
      rw [List.length_cons, ← Nat.add_assoc, Nat.add_right_comm, ← heq]
      simp [unpaired, openAfter]
  | case3 ms => cases h
  | case4 ms depth ih =>
      obtain ⟨p, inner, rfl⟩ := List.exists_cons_of_length_eq_add_one hinner
      obtain ⟨inner', hlength, heq⟩ := ih h (position + 1) inner (by simpa using hinner)
      refine ⟨inner', hlength, ?_⟩
      rw [List.length_cons, ← Nat.add_assoc, Nat.add_right_comm, ← heq]
      simp [unpaired, openAfter]
  | case5 depth m ms hopen hclose ih =>
      obtain ⟨inner', hlength, heq⟩ := ih h (position + 1) inner hinner
      refine ⟨inner', hlength, ?_⟩
      rw [List.length_cons, ← Nat.add_assoc, Nat.add_right_comm, ← heq]
      have hopen' : m ≠ some '<' := hopen
      have hclose' : m ≠ some '>' := hclose
      simp [unpaired, openAfter, hopen', hclose']

/-- Marks that settle their own brackets do not matter. -/
theorem unpaired_append_of_settled {ms : List Mark} (h : depthBehind 0 ms = some 0)
    (position : Nat) (outer : List Nat) (ms' : List Mark) :
    unpaired position outer (ms ++ ms') = unpaired (position + ms.length) outer ms' := by
  obtain ⟨inner, hinner, heq⟩ := unpaired_append h position [] outer rfl ms'
  obtain rfl := List.eq_nil_of_length_eq_zero hinner
  exact heq

/-- The scan of a text finds the bracket without a partner that reading the marks finds. -/
theorem fault_scanFrom (position : Nat) (t : Text) :
    (Scan.scanFrom position t).fault = unpaired position [] (marks t) := by
  refine Scan.induction (motive := fun position t s => s.fault = unpaired position [] (marks t))
    ?_ ?_ ?_ ?_ position t
  · intro position
    rfl
  · intro position rest final hfinal
    obtain ⟨inner, -, heq⟩ := unpaired_append hfinal (position + 1) [] [position] rfl []
    rw [marks_cons (by simp)]
    -- the brackets inside may be open in the end, but the outermost one is the first
    have hlast : unpaired (position + 1) [position] (marks rest) =
        some ⟨.unclosed, position⟩ := by
      rw [List.append_nil, List.nil_append] at heq
      rw [heq, unpaired, List.getLast?_append]
      rfl
    simpa [unpaired, openAfter, Scan.stop] using hlast.symm
  · intro position front rest hmarks hopen hclose
    rw [hmarks, unpaired_append_of_settled (depthBehind_of_no_bracket hopen hclose 0)]
    simp [unpaired, Scan.stop]
  · intro position token rest hcut ih
    -- a token settles its own brackets, so starting anew behind it loses nothing
    rw [hcut.marks_append, unpaired_append_of_settled hcut.fits.depthBehind_eq, length_marks]
    exact ih

/-- A scan without a fault is one of a template with balanced brackets. -/
theorem fault_eq_none_iff (t : Text) : (Scan.ofText t).fault = none ↔ Balanced (marks t) := by
  rw [Scan.ofText, fault_scanFrom, unpaired_eq_none_iff, balanced_iff]
  rfl

/-- The text of some tokens. -/
def textOf (tokens : List PlacedToken) : Text :=
  tokens.flatMap fun p => p.token.text

/-- A token in front of a scan puts its text in front. -/
theorem textOf_cons (position : Nat) (token : Token) (s : Scan) :
    textOf (s.cons position token).tokens = token.text ++ textOf s.tokens := rfl

/-- The tokens before a fault are followed by a token that cannot be completed: a scan that starts
behind them meets the fault before any token. -/
theorem textOf_tokens_append {position : Nat} {t : Text} {e : TokenError}
    (h : (Scan.scanFrom position t).fault = some e) :
    ∃ start rest, t = textOf (Scan.scanFrom position t).tokens ++ rest ∧
      start = position + (textOf (Scan.scanFrom position t).tokens).length ∧
      start ≤ e.position ∧ Scan.scanFrom start rest = .stop e.fault e.position := by
  -- the scan is carried along, so that a case knows which scan it is about
  refine Scan.induction (motive := fun position t s => Scan.scanFrom position t = s →
    s.fault = some e → ∃ start rest, t = textOf s.tokens ++ rest ∧
      start = position + (textOf s.tokens).length ∧
      start ≤ e.position ∧ Scan.scanFrom start rest = .stop e.fault e.position)
    ?_ ?_ ?_ ?_ position t rfl h
  · intro position _ hfault
    cases hfault
  · intro position rest final _ hscan hfault
    cases hfault
    exact ⟨position, '<' :: rest, rfl, rfl, Nat.le_refl _, hscan⟩
  · intro position front rest _ _ _ hscan hfault
    cases hfault
    exact ⟨position, front ++ '>' :: rest, rfl, rfl, Nat.le_add_right _ _, hscan⟩
  · intro position token rest hcut ih hscan hfault
    obtain ⟨start, later, hrest, hstart, hle, hstop⟩ := ih rfl hfault
    refine ⟨start, later, ?_, ?_, hle, hstop⟩
    · rw [textOf_cons, List.append_assoc, ← hrest]
    · rw [textOf_cons, List.length_append, ← Nat.add_assoc, hstart]

/-- The positions of the brackets that are open before a position of a template, innermost first. -/
def openBefore (t : Text) (position : Nat) : List Nat :=
  openBehind 0 [] ((marks t).take position)

/-- The positions of the closing brackets of a template before which no bracket is open. -/
def unopened (t : Text) : Set Nat :=
  {p | (marks t)[p]? = some (some '>') ∧ openBefore t p = []}

/-- The tokenizer accepts exactly the templates with balanced brackets. In any other template the
fault is the first closing bracket before which none is open, and if there is no such bracket, the
outermost one that is open in the end. The tokens before the fault make up the template as far as
the place where the scan of the next token starts and meets the fault. -/
theorem scan_fault_located (t : Text) :
    ((Scan.ofText t).fault = none ↔ Balanced (marks t)) ∧
      ∀ e, (Scan.ofText t).fault = some e →
        (match e.fault with
          | .unopened => IsLeast (unopened t) e.position
          | .unclosed =>
            unopened t = ∅ ∧ (openBefore t t.length).getLast? = some e.position) ∧
        ∃ start ≤ e.position, textOf (Scan.ofText t).tokens = t.take start ∧
          Scan.scanFrom start (t.drop start) = .stop e.fault e.position := by
  refine ⟨fault_eq_none_iff t, fun e he => ⟨?_, ?_⟩⟩
  · obtain ⟨fault, p⟩ := e
    have hread : unpaired 0 [] (marks t) = some ⟨fault, p⟩ := by
      rw [← fault_scanFrom]
      exact he
    cases fault with
    | unopened =>
        obtain ⟨n, hn, hleast⟩ := isLeast_of_unpaired hread
        obtain rfl : p = n := by omega
        exact hleast
    | unclosed =>
        obtain ⟨hnone, hlast⟩ := outermost_of_unpaired hread
        refine ⟨Set.eq_empty_of_forall_notMem hnone, ?_⟩
        rw [openBefore, ← length_marks, List.take_length]
        exact hlast
  · obtain ⟨start, rest, ht, hstart, hle, hstop⟩ := textOf_tokens_append he
    rw [Nat.zero_add] at hstart
    subst hstart
    have hdrop := congrArg (List.drop (textOf (Scan.ofText t).tokens).length) ht
    rw [Scan.ofText, List.drop_left] at hdrop
    exact ⟨_, hle, List.prefix_iff_eq_take.1 ⟨rest, ht.symm⟩, hdrop ▸ hstop⟩

/-- In `<a>b<c` the second directive is never closed, and in `<a>b>` the last bracket closes
nothing. -/
theorem scan_fault_located_both :
    (∃ start ≤ 4, textOf (Scan.ofText "<a>b<c").tokens = ("<a>b<c" : Text).take start ∧
      Scan.scanFrom start (("<a>b<c" : Text).drop start) = .stop .unclosed 4) ∧
    IsLeast (unopened "<a>b>") 4 :=
  ⟨((scan_fault_located "<a>b<c").2 ⟨.unclosed, 4⟩ (by decide +kernel)).2,
    ((scan_fault_located "<a>b>").2 ⟨.unopened, 4⟩ (by decide +kernel)).1⟩

end Agreement
