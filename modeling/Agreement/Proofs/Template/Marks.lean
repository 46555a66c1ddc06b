import Agreement.Template.Token
import Mathlib.Data.List.Basic

/-!
# Marks of a template

A template as it reads from left to right, where a backslash takes the special meaning from the
next character. `marks t` has one entry for each character of `t`: the character, or nothing if it
is escaped. Positions and lengths of marks are those of the template. The rest of the file says
which marks the two cuts of the tokenizer, `Token.cutUnescaped` and `Token.cutClosed`, take off, and
counts the brackets that are open behind them.
-/

namespace Agreement

/-- What a character of a template stands for: itself, or nothing special if it is escaped. -/
abbrev Mark := Option Char

/-- The marks of a template. A backslash that is not escaped escapes the next character. -/
def marks : Text → List Mark
  | [] => []
  | '\\' :: _ :: rest => some '\\' :: none :: marks rest
  | c :: rest => some c :: marks rest

/-- Every character has a mark. -/
@[simp] theorem length_marks (t : Text) : (marks t).length = t.length := by
  fun_induction marks t <;> simp_all

/-- A backslash escapes the next character, so a character that is not followed by one that it
escapes marks itself. -/
theorem marks_cons {c : Char} {rest : Text} (hlast : c = '\\' → rest = []) :
    marks (c :: rest) = some c :: marks rest := by
  rw [marks]
  rintro d tail hc rfl
  cases hlast hc

/-- A character is the last one if it is a backslash and escapes nothing. -/
theorem eq_nil_of_no_escape {c : Char} {rest : Text}
    (hescape : ∀ d tail, c = '\\' → rest = d :: tail → False) (hc : c = '\\') : rest = [] := by
  cases rest with
  | nil => rfl
  | cons d tail => exact False.elim (hescape d tail hc rfl)

/-- The first mark is the first character. -/
theorem head?_marks (t : Text) : (marks t).head? = t.head?.map some := by
  fun_cases marks t <;> rfl

/-- How many brackets are open behind some marks, `depth` of them before; none if a bracket is
closed that is not open. -/
def depthBehind (depth : Nat) : List Mark → Option Nat
  | [] => some depth
  | some '<' :: ms => depthBehind (depth + 1) ms
  | some '>' :: ms =>
    match depth with
    | 0 => none
    | depth + 1 => depthBehind depth ms
  | _ :: ms => depthBehind depth ms

/-- A mark that is no bracket leaves the depth alone. -/
theorem depthBehind_cons {m : Mark} (hopen : m ≠ some '<') (hclose : m ≠ some '>') (depth : Nat)
    (ms : List Mark) : depthBehind depth (m :: ms) = depthBehind depth ms := by
  rw [depthBehind] <;> simp_all

/-- Marks without brackets leave the depth alone. -/
theorem depthBehind_of_no_bracket {ms : List Mark} (hopen : some '<' ∉ ms) (hclose : some '>' ∉ ms)
    (depth : Nat) : depthBehind depth ms = some depth := by
  induction ms with
  | nil => rfl
  | cons m ms ih =>
      rw [List.mem_cons, not_or] at hopen hclose
      rw [depthBehind_cons (Ne.symm hopen.1) (Ne.symm hclose.1), ih hopen.2 hclose.2]

/-- The depth behind two lists of marks is reached through the depth behind the first. -/
theorem depthBehind_append (depth : Nat) (ms ms' : List Mark) :
    depthBehind depth (ms ++ ms') = (depthBehind depth ms).bind (depthBehind · ms') := by
  fun_induction depthBehind depth ms with
  | case1 => rfl
  | case2 depth ms ih => simpa [depthBehind] using ih
  | case3 ms => simp [depthBehind]
  | case4 ms depth ih => simpa [depthBehind] using ih
  | case5 depth m ms hopen hclose ih => simpa [depthBehind_cons hopen hclose] using ih

namespace Token

variable {kind : Char → Bool}

/-- Nothing is cut off an empty text. -/
theorem cutUnescaped_nil : cutUnescaped kind [] = ([], []) := rfl

/-- A cut at unescaped characters leaves the marks of both parts as they are. -/
theorem marks_cutUnescaped (t : Text) :
    marks t = marks (cutUnescaped kind t).1 ++ marks (cutUnescaped kind t).2 := by
  fun_induction cutUnescaped kind t with
  | case1 => rfl
  | case2 c rest ih => simp [marks, ← ih]
  | case3 c rest hescape hc => rfl
  | case4 c rest hescape hc ih =>
      have hlast := eq_nil_of_no_escape hescape
      rw [marks_cons hlast, marks_cons (fun hc => by rw [hlast hc, cutUnescaped_nil]),
        List.cons_append, ← ih]

/-- The first part of a cut holds no unescaped character of the kind. -/
theorem kind_of_mem_marks_cutUnescaped (hkind : kind '\\' = false) {t : Text} {c : Char}
    (h : some c ∈ marks (cutUnescaped kind t).1) : kind c = false := by
  fun_induction cutUnescaped kind t with
  | case1 => simp [marks] at h
  | case2 d rest ih =>
      simp only [marks, List.mem_cons, Option.some.injEq, reduceCtorEq, false_or] at h
      rcases h with rfl | h
      · exact hkind
      · exact ih h
  | case3 => simp [marks] at h
  | case4 d rest hescape hd ih =>
      rw [marks_cons (fun hc => by rw [eq_nil_of_no_escape hescape hc, cutUnescaped_nil]),
        List.mem_cons, Option.some.injEq] at h
      rcases h with rfl | h
      · simpa using hd
      · exact ih h

/-- The second part of a cut starts with an unescaped character of the kind. -/
theorem kind_of_mem_head?_cutUnescaped {t : Text} {m : Mark}
    (h : m ∈ (marks (cutUnescaped kind t).2).head?) :
    ∃ c, m = some c ∧ (cutUnescaped kind t).2.head? = some c ∧ kind c = true := by
  rw [head?_marks, Option.mem_def, Option.map_eq_some_iff] at h
  obtain ⟨c, hc, rfl⟩ := h
  refine ⟨c, rfl, hc, ?_⟩
  fun_induction cutUnescaped kind t <;> simp_all

/-- A cut in front of a closing bracket takes off no bracket if it ends at brackets. -/
theorem marks_cutUnescaped_close (hkind : kind '\\' = false) (hopen : kind '<' = true)
    (hclose : kind '>' = true) {t later : Text} (h : (cutUnescaped kind t).2 = '>' :: later) :
    marks t = marks (cutUnescaped kind t).1 ++ some '>' :: marks later ∧
      some '<' ∉ marks (cutUnescaped kind t).1 ∧ some '>' ∉ marks (cutUnescaped kind t).1 := by
  refine ⟨?_, fun hmem => ?_, fun hmem => ?_⟩
  · rw [marks_cutUnescaped t, h, marks_cons (by simp)]
  · simp [kind_of_mem_marks_cutUnescaped hkind hmem] at hopen
  · simp [kind_of_mem_marks_cutUnescaped hkind hmem] at hclose

/-- A character on which `cutClosed` neither stops nor counts is no closing bracket. -/
theorem ne_close_of_uncounted {depth : Nat} {c : Char} (hzero : depth = 0 → c = '>' → False)
    (hsucc : ∀ outer, depth = Nat.succ outer → c = '>' → False) : c ≠ '>' := by
  cases depth with
  | zero => exact hzero rfl
  | succ depth => exact hsucc depth rfl

/-- A directive closes the brackets that it opens and those that are open around it, and its
closing bracket is a mark of its own whatever stands behind it. -/
theorem marks_cutClosed {depth : Nat} {t inner later : Text}
    (h : cutClosed depth t = some (inner, later)) :
    depthBehind depth (marks inner) = some 0 ∧
      ∀ rest, marks (inner ++ '>' :: rest) = marks inner ++ some '>' :: marks rest := by
  fun_induction cutClosed depth t generalizing inner with
  | case1 => cases h
  | case2 depth c tail ih =>
      obtain ⟨_, rfl, hc⟩ := keep_eq_some.1 h
      obtain ⟨inner, rfl, hcut⟩ := keep_eq_some.1 hc
      simpa [marks, depthBehind] using ih hcut
  | case3 depth tail ih =>
      obtain ⟨inner, rfl, hcut⟩ := keep_eq_some.1 h
      simpa [marks, depthBehind] using ih hcut
  | case4 tail =>
      cases h
      exact ⟨rfl, fun rest => rfl⟩
  | case5 depth tail ih =>
      obtain ⟨inner, rfl, hcut⟩ := keep_eq_some.1 h
      simpa [marks, depthBehind] using ih hcut
  | case6 depth c tail hescape hopen hzero hsucc ih =>
      obtain ⟨inner, rfl, hcut⟩ := keep_eq_some.1 h
      have hclose := ne_close_of_uncounted hzero hsucc
      have hback : c ≠ '\\' := by
        intro hc
        have htail := eq_append_of_cutClosed hcut
        simp [eq_nil_of_no_escape hescape hc] at htail
      rw [marks_cons (absurd · hback),
        depthBehind_cons (by simpa using hopen) (by simpa using hclose)]
      refine ⟨(ih hcut).1, fun rest => ?_⟩
      rw [List.cons_append, marks_cons (absurd · hback), (ih hcut).2 rest, List.cons_append]

/-- If no bracket closes a directive, every bracket in the rest of the template is opened before it
is closed. -/
theorem depthBehind_of_cutClosed_eq_none {depth : Nat} {t : Text} (h : cutClosed depth t = none) :
    ∃ final, depthBehind depth (marks t) = some final := by
  fun_induction cutClosed depth t with
  | case1 depth => exact ⟨depth, rfl⟩
  | case2 depth c rest ih => simpa [marks, depthBehind] using ih (by simpa [keep] using h)
  | case3 depth rest ih => simpa [marks, depthBehind] using ih (by simpa [keep] using h)
  | case4 rest => cases h
  | case5 depth rest ih => simpa [marks, depthBehind] using ih (by simpa [keep] using h)
  | case6 depth c rest hescape hopen hzero hsucc ih =>
      have hclose := ne_close_of_uncounted hzero hsucc
      rw [marks_cons (eq_nil_of_no_escape hescape),
        depthBehind_cons (by simpa using hopen) (by simpa using hclose)]
      exact ih (by simpa [keep] using h)

end Token

end Agreement
