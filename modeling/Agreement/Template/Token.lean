import Agreement.Text.Quoted

/-!
# Tokens of a template

A template is cut into literal text, references `$name`, and directives `<…>`, which may nest. A
backslash takes the special meaning from the next character and stays in the text. A reference ends
before a space, a dollar sign or a directive. `Scan.ofText` gives the tokens from left to right, up
to the first bracket that has no partner.
-/

namespace Agreement

/-- A piece of a template. -/
inductive Token where
  /-- Text outside of references and directives, with its backslashes. -/
  | literal (text : Text)
  /-- A dollar sign and a name. -/
  | reference (name : Text)
  /-- What stands between two brackets. -/
  | directive (inner : Text)
  deriving DecidableEq, Repr

/-- A token as it stands in the template. -/
def Token.text : Token → Text
  | .literal t => t
  | .reference name => '$' :: name
  | .directive inner => '<' :: inner ++ ['>']

/-- A token with the position where it starts. -/
structure PlacedToken where
  position : Nat
  token : Token
  deriving DecidableEq, Repr

/-- Brackets without a partner. -/
inductive BracketFault where
  | unopened
  | unclosed
  deriving DecidableEq, Repr

/-- A bracket without a partner, and its position. -/
structure TokenError where
  fault : BracketFault
  position : Nat
  deriving DecidableEq, Repr

/-- The wording of a fault of brackets. -/
def BracketFault.message : BracketFault → Text
  | .unopened => "Attempted to close a directive without one open"
  | .unclosed => "Unclosed directive"

/-- The wording of a token's error in a template. -/
def TokenError.message (template : Text) (e : TokenError) : Text :=
  e.fault.message ++ " at position " ++ Nat.toDigits 10 e.position ++ " in template " ++
    template.quoted

namespace Token

/-- Cuts a text before the first character of a kind that no backslash stands before. -/
def cutUnescaped (kind : Char → Bool) : Text → Text × Text
  | [] => ([], [])
  | '\\' :: c :: rest =>
    ('\\' :: c :: (cutUnescaped kind rest).1, (cutUnescaped kind rest).2)
  | c :: rest =>
    if kind c then ([], c :: rest)
    else (c :: (cutUnescaped kind rest).1, (cutUnescaped kind rest).2)

/-- Puts a character in front of the first part of a cut. -/
def keep (c : Char) (cut : Option (Text × Text)) : Option (Text × Text) :=
  cut.map fun parts => (c :: parts.1, parts.2)

/-- The text up to the bracket that closes a directive, and the text behind that bracket. `depth`
counts the brackets opened inside. -/
def cutClosed : (depth : Nat) → Text → Option (Text × Text)
  | _, [] => none
  | depth, '\\' :: c :: rest => keep '\\' (keep c (cutClosed depth rest))
  | depth, '<' :: rest => keep '<' (cutClosed (depth + 1) rest)
  | 0, '>' :: rest => some ([], rest)
  | depth + 1, '>' :: rest => keep '>' (cutClosed depth rest)
  | depth, c :: rest => keep c (cutClosed depth rest)

/-- Whether a character ends a literal. -/
def endsLiteral (c : Char) : Bool :=
  c == '<' || c == '>' || c == '$'

/-- Whether a character ends a reference. -/
def endsReference (c : Char) : Bool :=
  endsLiteral c || c == ' '

theorem cutUnescaped_append (kind : Char → Bool) (t : Text) :
    (cutUnescaped kind t).1 ++ (cutUnescaped kind t).2 = t := by
  fun_induction cutUnescaped kind t <;> simp_all

theorem cutUnescaped_length (kind : Char → Bool) (t : Text) :
    (cutUnescaped kind t).1.length + (cutUnescaped kind t).2.length = t.length := by
  rw [← List.length_append, cutUnescaped_append]

theorem cutUnescaped_fst_ne_nil {kind : Char → Bool} {c : Char} (h : kind c = false) (t : Text) :
    (cutUnescaped kind (c :: t)).1 ≠ [] := by
  unfold cutUnescaped
  split <;> simp_all

theorem keep_eq_some {c : Char} {cut : Option (Text × Text)} {front rest : Text} :
    keep c cut = some (front, rest) ↔ ∃ t, front = c :: t ∧ cut = some (t, rest) := by
  cases cut with
  | none => simp [keep]
  | some parts => simp [keep]; grind

theorem eq_append_of_cutClosed {depth : Nat} {t inner rest : Text}
    (h : cutClosed depth t = some (inner, rest)) : t = inner ++ '>' :: rest := by
  fun_induction cutClosed depth t generalizing inner rest <;> grind [keep_eq_some]

end Token

/-- The tokens of a template up to a bracket without a partner, if there is one. -/
structure Scan where
  tokens : List PlacedToken := []
  fault : Option TokenError := none
  deriving DecidableEq, Repr

namespace Scan

open Token

/-- Puts a token in front. -/
def cons (position : Nat) (token : Token) (s : Scan) : Scan :=
  { s with tokens := ⟨position, token⟩ :: s.tokens }

/-- The end of a scan at a bracket without a partner. -/
def stop (fault : BracketFault) (position : Nat) : Scan :=
  { fault := some ⟨fault, position⟩ }

/-- The scan of a text that starts at a position of the template. -/
def scanFrom (position : Nat) (t : Text) : Scan :=
  match t with
  | [] => {}
  | c :: rest =>
    if c = '<' then
      match h : cutClosed 0 rest with
      | none => stop .unclosed position
      | some (inner, later) =>
        (scanFrom (position + inner.length + 2) later).cons position (.directive inner)
    else if c = '>' then stop .unopened position
    else if c = '$' then
      let cut := cutUnescaped endsReference rest
      let next := position + 1 + cut.1.length
      if cut.2.head? = some '>' then stop .unopened next
      else (scanFrom next cut.2).cons position (.reference cut.1)
    else
      let cut := cutUnescaped endsLiteral (c :: rest)
      let next := position + cut.1.length
      if cut.2.head? = some '>' then stop .unopened next
      else (scanFrom next cut.2).cons position (.literal cut.1)
termination_by t.length
decreasing_by
  · have := congrArg List.length (eq_append_of_cutClosed h)
    simp only [List.length_append, List.length_cons] at this ⊢
    omega
  · have := cutUnescaped_length endsReference rest
    grind
  · have hc : endsLiteral c = false := by grind [endsLiteral]
    have h₁ := cutUnescaped_length endsLiteral (c :: rest)
    have h₂ := List.length_pos_iff.2 (cutUnescaped_fst_ne_nil hc rest)
    grind

/-- The scan in front of a directive that is never closed. -/
theorem scanFrom_of_unclosed {t : Text} (h : cutClosed 0 t = none) (position : Nat) :
    scanFrom position ('<' :: t) = stop .unclosed position := by
  rw [scanFrom, if_pos rfl]
  -- the scan remembers the cut as an equation, which `rw` cannot see through
  split
  · rfl
  · next hsome => simp [h] at hsome

/-- The scan in front of a directive. -/
theorem scanFrom_of_directive {t inner rest : Text} (h : cutClosed 0 t = some (inner, rest))
    (position : Nat) : scanFrom position ('<' :: t) =
      (scanFrom (position + inner.length + 2) rest).cons position (.directive inner) := by
  rw [scanFrom, if_pos rfl]
  split
  · next hnone => simp [h] at hnone
  · next inner' rest' hsome =>
      obtain ⟨rfl, rfl⟩ := Prod.mk.inj (Option.some.inj (h.symm.trans hsome))
      rfl

/-- The scan in front of a reference. -/
theorem scanFrom_of_reference {t name rest : Text}
    (h : cutUnescaped endsReference t = (name, rest)) (hclose : rest.head? ≠ some '>')
    (position : Nat) : scanFrom position ('$' :: t) =
      (scanFrom (position + 1 + name.length) rest).cons position (.reference name) := by
  rw [scanFrom, if_neg (by decide), if_neg (by decide), if_pos rfl]
  simp only [h, if_neg hclose]

/-- The scan in front of a literal. -/
theorem scanFrom_of_literal {c : Char} {t front rest : Text} (hc : endsLiteral c = false)
    (h : cutUnescaped endsLiteral (c :: t) = (front, rest)) (hclose : rest.head? ≠ some '>')
    (position : Nat) : scanFrom position (c :: t) =
      (scanFrom (position + front.length) rest).cons position (.literal front) := by
  simp only [endsLiteral, Bool.or_eq_false_iff, beq_eq_false_iff_ne] at hc
  rw [scanFrom, if_neg hc.1.1, if_neg hc.1.2, if_neg hc.2]
  simp only [h, if_neg hclose]

/-- The scan of a template. -/
def ofText (template : Text) : Scan :=
  scanFrom 0 template

end Scan

end Agreement
