import Agreement.Proofs.Template.TokenCuts
import Agreement.Proofs.Text.Cuts
import Agreement.Template.Compiled

/-!
# Escaped text

Text with a backslash in front of every special character, and how the tokenizer runs over it.
`unescape_escape` says that escaping loses nothing. `Text.Avoids` is what a cut needs of a text to
run over it as a whole, and the lemmas `Scan.scanFrom_…` give the token at the start of a text that
is put together from such texts.
-/

namespace Agreement

/-- Whether a character opens or closes a directive. -/
def isBracket (c : Char) : Bool :=
  c == '<' || c == '>'

/-- Whether a character has a special meaning in a template. -/
def isSpecial (c : Char) : Bool :=
  c == '\\' || c == '$' || isBracket c

/-- A text with a backslash in front of every special character. -/
def escape (t : Text) : Text :=
  t.flatMap fun c => if isSpecial c then ['\\', c] else [c]

/-- The escaped text behind its first character. -/
theorem escape_cons (c : Char) (t : Text) :
    escape (c :: t) = if isSpecial c then '\\' :: c :: escape t else c :: escape t := by
  rw [escape, List.flatMap_cons]
  split <;> rfl

/-- Nothing but the empty text is escaped to the empty text. -/
theorem escape_ne_nil {t : Text} (ht : t ≠ []) : escape t ≠ [] := by
  obtain ⟨c, t, rfl⟩ := List.exists_cons_of_ne_nil ht
  rw [escape_cons]
  split
  · exact List.cons_ne_nil _ _
  · exact List.cons_ne_nil _ _

/-- Escaping loses nothing. -/
theorem unescape_escape (t : Text) : unescape (escape t) = t := by
  induction t with
  | nil => rfl
  | cons c t ih =>
      rw [escape_cons]
      split
      · rw [unescape, ih]
      · next hc =>
          rw [unescape, ih]
          -- a character that is not special is no backslash
          rintro d rest rfl
          exact absurd hc (by decide)

/-- Only special characters end a literal. -/
theorem endsLiteral_of_not_special {c : Char} (hc : isSpecial c = false) :
    Token.endsLiteral c = false := by
  simp only [isSpecial, isBracket, Bool.or_eq_false_iff] at hc
  simp [Token.endsLiteral, hc]

/-- A text whose every backslash escapes a character of the text, and in which no character of a
kind stands unescaped. -/
inductive Text.Avoids (kind : Char → Bool) : Text → Prop where
  | nil : Avoids kind []
  | escaped (c : Char) {t : Text} (ht : Avoids kind t) : Avoids kind ('\\' :: c :: t)
  | plain {c : Char} {t : Text} (hback : c ≠ '\\') (hc : kind c = false) (ht : Avoids kind t) :
    Avoids kind (c :: t)

namespace Text

variable {kind : Char → Bool}

/-- A text avoids what none of its characters is. -/
theorem avoids_of_forall {t : Text} (h : ∀ c ∈ t, c ≠ '\\' ∧ kind c = false) : t.Avoids kind := by
  induction t with
  | nil => exact .nil
  | cons c t ih =>
      obtain ⟨hback, hc⟩ := h c List.mem_cons_self
      exact .plain hback hc (ih fun d hd => h d (List.mem_cons_of_mem _ hd))

/-- Texts one behind the other avoid what all of them avoid. -/
theorem Avoids.append {t t' : Text} (ht : t.Avoids kind) (ht' : t'.Avoids kind) :
    (t ++ t').Avoids kind := by
  induction ht with
  | nil => exact ht'
  | escaped c _ ih => exact .escaped c ih
  | plain hback hc _ ih => exact .plain hback hc ih

/-- A text that avoids a kind does not start with a character of the kind. -/
theorem Avoids.kind_head (hkind : kind '\\' = false) {t : Text} (ht : t.Avoids kind) {c : Char}
    (hc : c ∈ t.head?) : kind c = false := by
  cases ht with
  | nil => cases hc
  | escaped d _ =>
      cases hc
      exact hkind
  | plain _ hd _ =>
      cases hc
      exact hd

/-- An escaped text avoids the special characters. -/
theorem avoids_escape (hkind : ∀ c, isSpecial c = false → kind c = false) (t : Text) :
    (escape t).Avoids kind := by
  induction t with
  | nil => exact .nil
  | cons c t ih =>
      rw [escape_cons]
      split
      · exact .escaped c ih
      · next hc =>
          have hc : isSpecial c = false := by simpa using hc
          refine .plain ?_ (hkind c hc) ih
          rintro rfl
          exact absurd hc (by decide)

end Text

/-- What a text avoids has no mark in it, and the text leaves the next character alone. -/
theorem Text.Avoids.kind_marks {kind : Char → Bool} (hkind : kind '\\' = false) {t : Text}
    (ht : t.Avoids kind) :
    ¬ EndsEscaping t ∧ ∀ c, some c ∈ marks t → kind c = false := by
  induction ht with
  | nil =>
      refine ⟨not_endsEscaping_nil, fun c hc => ?_⟩
      cases hc
  | escaped c _ ih =>
      rw [endsEscaping_escaped]
      refine ⟨ih.1, fun d hd => ?_⟩
      rcases List.mem_cons.1 hd with hd | hd
      · cases hd
        exact hkind
      · exact ih.2 d ((List.mem_cons.1 hd).resolve_left (by simp))
  | plain hback hc _ ih =>
      rw [endsEscaping_cons hback, marks_cons (absurd · hback)]
      refine ⟨ih.1, fun d hd => ?_⟩
      rcases List.mem_cons.1 hd with hd | hd
      · cases hd
        exact hc
      · exact ih.2 d hd

namespace Token

variable {kind : Char → Bool}

/-- A cut takes off a text that avoids the kind, up to a character of the kind. -/
theorem cutUnescaped_eq (hkind : kind '\\' = false) {t rest : Text} (ht : t.Avoids kind)
    (hrest : ∀ c ∈ rest.head?, kind c = true) : cutUnescaped kind (t ++ rest) = (t, rest) := by
  obtain ⟨hescape, hall⟩ := ht.kind_marks hkind
  exact cutUnescaped_of_marks hkind (marks_append hescape rest) hall hrest

/-- A text that avoids brackets is cut off at the bracket behind it. -/
theorem cutClosed_eq {inner : Text} (h : inner.Avoids isBracket) (rest : Text) :
    cutClosed 0 (inner ++ '>' :: rest) = some (inner, rest) := by
  obtain ⟨hescape, hall⟩ := h.kind_marks (by decide)
  refine cutClosed_of_marks (marks_append hescape _) (depthBehind_of_no_bracket ?_ ?_ 0)
  · intro hopen
    exact absurd (hall '<' hopen) (by decide)
  · intro hclose
    exact absurd (hall '>' hclose) (by decide)

end Token

namespace Scan

open Token

/-- The scan of a text that starts with a literal. -/
theorem scanFrom_literal {t rest : Text} (hne : t ≠ []) (ht : t.Avoids endsLiteral)
    (hrest : ∀ c ∈ rest.head?, c = '<' ∨ c = '$') (position : Nat) :
    scanFrom position (t ++ rest) =
      (scanFrom (position + t.length) rest).cons position (.literal t) := by
  have hcut : cutUnescaped endsLiteral (t ++ rest) = (t, rest) :=
    cutUnescaped_eq (by decide) ht fun c hc => by rcases hrest c hc with rfl | rfl <;> decide
  have hclose : rest.head? ≠ some '>' := fun h => by simpa using hrest _ h
  obtain ⟨c, t, rfl⟩ := List.exists_cons_of_ne_nil hne
  exact scanFrom_of_literal (ht.kind_head (by decide) rfl) hcut hclose position

/-- The scan of a text that starts with a reference. -/
theorem scanFrom_reference {name rest : Text} (hname : name.Avoids endsReference)
    (hrest : ∀ c ∈ rest.head?, c = '<' ∨ c = '$' ∨ c = ' ') (position : Nat) :
    scanFrom position ('$' :: name ++ rest) =
      (scanFrom (position + ('$' :: name).length) rest).cons position (.reference name) := by
  have hcut : cutUnescaped endsReference (name ++ rest) = (name, rest) :=
    cutUnescaped_eq (by decide) hname fun c hc => by
      rcases hrest c hc with rfl | rfl | rfl <;> decide
  have hclose : rest.head? ≠ some '>' := fun h => by simpa using hrest _ h
  have hnext : position + ('$' :: name).length = position + 1 + name.length := by
    simp only [List.length_cons]
    omega
  rw [List.cons_append, hnext, scanFrom_of_reference hcut hclose]

/-- The scan of a text that starts with a directive. -/
theorem scanFrom_directive {inner : Text} (h : inner.Avoids isBracket) (rest : Text)
    (position : Nat) :
    scanFrom position ('<' :: inner ++ ['>'] ++ rest) =
      (scanFrom (position + ('<' :: inner ++ ['>']).length) rest).cons position
        (.directive inner) := by
  have hnext : position + ('<' :: inner ++ ['>']).length = position + inner.length + 2 := by
    simp only [List.cons_append, List.length_cons, List.length_append, List.length_nil]
    omega
  rw [List.append_assoc, List.cons_append, List.singleton_append, hnext,
    scanFrom_of_directive (cutClosed_eq h rest)]

end Scan

end Agreement
