import Agreement.Proofs.Template.Marks

/-!
# Kinds of tokens

What a token can be, told from its marks alone, and how a scan proceeds. `TokenKind.Fits` says which
marks a literal, a reference and a directive have. `Scan.induction` is the way to prove something of
scans: a scan has come to the end, it stops at a bracket without a partner, or it takes off one
token that fits its kind and goes on behind it.
-/

namespace Agreement

/-- No prefix of some marks closes more brackets than are open, `depth` of them before. -/
def NeverBelow (depth : Nat) (ms : List Mark) : Prop :=
  ∀ n, (ms.take n).count (some '>') ≤ depth + (ms.take n).count (some '<')

/-- An opening bracket is one more that may be closed. -/
theorem neverBelow_open {depth : Nat} {ms : List Mark} :
    NeverBelow depth (some '<' :: ms) ↔ NeverBelow (depth + 1) ms := by
  rw [NeverBelow, ← Nat.and_forall_add_one]
  simp [NeverBelow, Nat.add_assoc, Nat.add_comm 1]

/-- A closing bracket is one less that may be closed. -/
theorem neverBelow_close {depth : Nat} {ms : List Mark} :
    NeverBelow (depth + 1) (some '>' :: ms) ↔ NeverBelow depth ms := by
  rw [NeverBelow, ← Nat.and_forall_add_one]
  simp [NeverBelow, Nat.add_right_comm depth 1]

/-- A closing bracket cannot come where no bracket is open. -/
theorem not_neverBelow_close {ms : List Mark} : ¬ NeverBelow 0 (some '>' :: ms) := by
  intro h
  have hfirst := h 1
  simp at hfirst

/-- Other marks do not matter. -/
theorem neverBelow_cons {depth : Nat} {m : Mark} {ms : List Mark} (hopen : m ≠ some '<')
    (hclose : m ≠ some '>') : NeverBelow depth (m :: ms) ↔ NeverBelow depth ms := by
  rw [NeverBelow, ← Nat.and_forall_add_one]
  simp [NeverBelow, List.count_cons_of_ne hopen, List.count_cons_of_ne hclose]

/-- The depth behind some marks in numbers: no prefix closes more than is open, and what is left
open is what was opened and not closed. -/
theorem depthBehind_eq_some_iff {depth final : Nat} {ms : List Mark} :
    depthBehind depth ms = some final ↔
      NeverBelow depth ms ∧ ms.count (some '>') + final = depth + ms.count (some '<') := by
  fun_induction depthBehind depth ms with
  | case1 depth => simp [NeverBelow, eq_comm]
  | case2 depth ms ih =>
      rw [ih, neverBelow_open, List.count_cons_self, List.count_cons_of_ne (by simp)]
      exact and_congr_right fun _ => by omega
  | case3 ms => simp [not_neverBelow_close]
  | case4 ms depth ih =>
      rw [ih, neverBelow_close, List.count_cons_self, List.count_cons_of_ne (by simp)]
      exact and_congr_right fun _ => by omega
  | case5 depth m ms hopen hclose ih =>
      rw [ih, neverBelow_cons hopen hclose, List.count_cons_of_ne hopen,
        List.count_cons_of_ne hclose]

/-- What a token can be. -/
inductive TokenKind where
  | literal
  | reference
  | directive
  deriving DecidableEq, Repr

/-- Whether some marks are those of a token of a kind. A literal has no special character. A
reference starts with a dollar sign and has no character behind it that ends one. A directive starts
with an opening bracket and ends with the bracket that closes it, where the brackets between them
never close it. -/
def TokenKind.Fits : TokenKind → List Mark → Prop
  | .literal, ms => ∀ c ∈ ['<', '>', '$'], some c ∉ ms
  | .reference, ms => ∃ name, ms = some '$' :: name ∧ ∀ c ∈ ['$', '<', '>', ' '], some c ∉ name
  | .directive, ms =>
    (∃ inner, ms = some '<' :: inner ++ [some '>']) ∧
      ms.count (some '>') = ms.count (some '<') ∧
      ∀ n, 0 < n → n < ms.length → (ms.take n).count (some '>') < (ms.take n).count (some '<')

/-- The kind of a token. -/
def Token.kind : Token → TokenKind
  | .literal _ => .literal
  | .reference _ => .reference
  | .directive _ => .directive

/-- How the rest of a template may start behind a token: a literal ends before a reference or a
directive, and a reference before these or a space. -/
def TokenKind.EndsAt : TokenKind → Mark → Prop
  | .literal, m => m = some '<' ∨ m = some '$'
  | .reference, m => m = some '<' ∨ m = some '$' ∨ m = some ' '
  | .directive, _ => True

/-- A token is cut off in front of the rest of a template. -/
structure Token.CutFrom (token : Token) (rest : Text) : Prop where
  nonempty : token.text ≠ []
  marks_append : marks (token.text ++ rest) = marks token.text ++ marks rest
  fits : token.kind.Fits (marks token.text)
  ends : ∀ m ∈ (marks rest).head?, token.kind.EndsAt m

namespace TokenKind

/-- Marks that settle their own brackets are those of a directive once brackets stand around
them. -/
theorem fits_directive {inner : List Mark} (h : depthBehind 0 inner = some 0) :
    directive.Fits (some '<' :: inner ++ [some '>']) := by
  obtain ⟨hbelow, hcount⟩ := depthBehind_eq_some_iff.1 h
  refine ⟨⟨inner, rfl⟩, ?_, ?_⟩
  · have hbrackets : inner.count (some '>') = inner.count (some '<') := by omega
    simp [hbrackets]
  · rintro (_ | n) hpos hn
    · cases hpos
    · -- the opening bracket is one more than what any prefix of `inner` closes
      have hle : n ≤ inner.length := by
        simp only [List.cons_append, List.length_cons, List.length_append, List.length_nil] at hn
        omega
      have hprefix := hbelow n
      rw [List.cons_append, List.take_succ_cons, List.take_append_of_le_length hle,
        List.count_cons_self, List.count_cons_of_ne (by simp)]
      omega

/-- A token leaves the brackets around it alone. -/
theorem Fits.depthBehind_eq {kind : TokenKind} {ms : List Mark} (h : kind.Fits ms) :
    depthBehind 0 ms = some 0 := by
  cases kind with
  | literal => exact depthBehind_of_no_bracket (h '<' (by simp)) (h '>' (by simp)) 0
  | reference =>
      obtain ⟨name, rfl, hname⟩ := h
      rw [depthBehind_cons (by simp) (by simp)]
      exact depthBehind_of_no_bracket (hname '<' (by simp)) (hname '>' (by simp)) 0
  | directive =>
      obtain ⟨-, hcount, hinner⟩ := h
      rw [depthBehind_eq_some_iff]
      refine ⟨fun n => ?_, by omega⟩
      rcases Nat.eq_zero_or_pos n with rfl | hpos
      · simp
      · rcases Nat.lt_or_ge n ms.length with hn | hn
        · have hlt := hinner n hpos hn
          omega
        · rw [List.take_of_length_le hn]
          omega

end TokenKind

namespace Token

/-- A directive as it is cut off. -/
theorem cutFrom_directive {rest inner later : Text}
    (h : cutClosed 0 rest = some (inner, later)) : (directive inner).CutFrom later := by
  obtain ⟨hdepth, hmarks⟩ := marks_cutClosed h
  have htext : marks (directive inner).text = some '<' :: marks inner ++ [some '>'] := by
    rw [Token.text, List.cons_append, marks_cons (by simp), hmarks]
    rfl
  refine ⟨by simp [Token.text], ?_, ?_, fun _ _ => trivial⟩
  · rw [htext, Token.text, List.cons_append, List.cons_append, marks_cons (by simp),
      List.append_assoc, List.singleton_append, hmarks]
    simp
  · rw [htext]
    exact TokenKind.fits_directive hdepth

/-- A reference as it is cut off. -/
theorem cutFrom_reference {rest : Text}
    (h : (cutUnescaped endsReference rest).2.head? ≠ some '>') :
    (reference (cutUnescaped endsReference rest).1).CutFrom
      (cutUnescaped endsReference rest).2 := by
  refine ⟨by simp [Token.text], ?_, ?_, ?_⟩
  · rw [Token.text, List.cons_append, cutUnescaped_append, marks_cons (by simp),
      marks_cons (by simp), marks_cutUnescaped rest, List.cons_append]
  · refine ⟨_, marks_cons (by simp), fun c hc hmem => ?_⟩
    have hkind := kind_of_mem_marks_cutUnescaped (by decide) hmem
    simp at hc
    rcases hc with rfl | rfl | rfl | rfl <;> simp [endsReference, endsLiteral] at hkind
  · intro m hm
    obtain ⟨c, rfl, hhead, hkind⟩ := kind_of_mem_head?_cutUnescaped hm
    simp only [endsReference, endsLiteral, Bool.or_eq_true, beq_iff_eq] at hkind
    rcases hkind with ((rfl | rfl) | rfl) | rfl
    · exact .inl rfl
    · exact False.elim (h hhead)
    · exact .inr (.inl rfl)
    · exact .inr (.inr rfl)

/-- A literal as it is cut off. -/
theorem cutFrom_literal {c : Char} {rest : Text} (hc : endsLiteral c = false)
    (h : (cutUnescaped endsLiteral (c :: rest)).2.head? ≠ some '>') :
    (literal (cutUnescaped endsLiteral (c :: rest)).1).CutFrom
      (cutUnescaped endsLiteral (c :: rest)).2 := by
  refine ⟨cutUnescaped_fst_ne_nil hc rest, ?_, fun d hd hmem => ?_, fun m hm => ?_⟩
  · rw [Token.text, cutUnescaped_append]
    exact marks_cutUnescaped _
  · have hkind := kind_of_mem_marks_cutUnescaped (by decide) hmem
    simp at hd
    rcases hd with rfl | rfl | rfl <;> simp [endsLiteral] at hkind
  · obtain ⟨d, rfl, hhead, hkind⟩ := kind_of_mem_head?_cutUnescaped hm
    simp only [endsLiteral, Bool.or_eq_true, beq_iff_eq] at hkind
    rcases hkind with (rfl | rfl) | rfl
    · exact .inl rfl
    · exact False.elim (h hhead)
    · exact .inr rfl

end Token

namespace Scan

open Token

/-- To prove something of every scan it is enough to prove it at the end of a text, at a directive
that is never closed, at a closing bracket where none is open, and in front of a token if it holds
of the scan behind the token. -/
theorem induction {motive : Nat → Text → Scan → Prop}
    (nil : ∀ position, motive position [] {})
    (unclosed : ∀ position rest final, depthBehind 0 (marks rest) = some final →
      motive position ('<' :: rest) (stop .unclosed position))
    (unopened : ∀ position front rest,
      marks (front ++ '>' :: rest) = marks front ++ some '>' :: marks rest →
      some '<' ∉ marks front → some '>' ∉ marks front →
      motive position (front ++ '>' :: rest) (stop .unopened (position + front.length)))
    (token : ∀ position token rest, token.CutFrom rest →
      motive (position + token.text.length) rest (scanFrom (position + token.text.length) rest) →
      motive position (token.text ++ rest)
        ((scanFrom (position + token.text.length) rest).cons position token))
    (position : Nat) (t : Text) : motive position t (scanFrom position t) := by
  fun_induction scanFrom position t with
  | case1 position => exact nil position
  | case2 position rest hcut =>
      obtain ⟨final, hfinal⟩ := depthBehind_of_cutClosed_eq_none hcut
      exact unclosed position rest final hfinal
  | case3 position rest inner later hcut ih =>
      have htext : (directive inner).text ++ later = '<' :: rest := by
        simp [Token.text, eq_append_of_cutClosed hcut]
      have hnext : position + (directive inner).text.length = position + inner.length + 2 := by
        simp [Token.text, Nat.add_assoc]
      rw [← htext, ← hnext]
      exact token position (directive inner) later (cutFrom_directive hcut) (hnext ▸ ih)
  | case4 position rest =>
      exact unopened position [] rest (marks_cons (by simp)) (by simp [marks]) (by simp [marks])
  | case5 position rest cut next hhead =>
      obtain ⟨later, hlater⟩ : ∃ later, cut.2 = '>' :: later := List.head?_eq_some_iff.1 hhead
      obtain ⟨hmarks, hopen, hclose⟩ :=
        marks_cutUnescaped_close (by decide) (by decide) (by decide) hlater
      have htext : '$' :: cut.1 ++ '>' :: later = '$' :: rest := by
        rw [← hlater, List.cons_append, cutUnescaped_append]
      have hnext : position + ('$' :: cut.1).length = next := by
        simp [next, Nat.add_comm 1, Nat.add_assoc]
      have hdollar : marks ('$' :: cut.1) = some '$' :: marks cut.1 := marks_cons (by simp)
      rw [← htext, ← hnext]
      refine unopened position ('$' :: cut.1) later ?_ ?_ ?_
      · rw [htext, marks_cons (by simp), hdollar, hmarks, List.cons_append]
      · simpa [hdollar] using hopen
      · simpa [hdollar] using hclose
  | case6 position rest cut next hhead _ _ ih =>
      have htext : (reference cut.1).text ++ cut.2 = '$' :: rest := by
        rw [Token.text, List.cons_append, cutUnescaped_append]
      have hnext : position + (reference cut.1).text.length = next := by
        simp [Token.text, next, Nat.add_comm 1, Nat.add_assoc]
      rw [← htext, ← hnext]
      exact token position (reference cut.1) cut.2 (cutFrom_reference hhead) (hnext ▸ ih)
  | case7 position c rest hopen hclose hdollar cut next hhead =>
      obtain ⟨later, hlater⟩ : ∃ later, cut.2 = '>' :: later := List.head?_eq_some_iff.1 hhead
      obtain ⟨hmarks, hopen, hclose⟩ :=
        marks_cutUnescaped_close (by decide) (by decide) (by decide) hlater
      have htext : cut.1 ++ '>' :: later = c :: rest := by rw [← hlater, cutUnescaped_append]
      rw [← htext]
      exact unopened position cut.1 later (htext ▸ hmarks) hopen hclose
  | case8 position c rest hopen hclose hdollar cut next hhead ih =>
      have hc : endsLiteral c = false := by simp [endsLiteral, hopen, hclose, hdollar]
      rw [← cutUnescaped_append endsLiteral (c :: rest)]
      exact token position (literal cut.1) cut.2 (cutFrom_literal hc hhead) ih

end Scan

end Agreement
