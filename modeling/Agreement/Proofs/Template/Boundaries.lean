import Agreement.Proofs.Success
import Agreement.Proofs.Template.TokenCuts
import Agreement.Template.Compiled

/-!
# Templates in two parts

A template is tokenized and parsed in two parts wherever a token ends: `parse_boundary`. The second
part gives what it gives on its own, only that it stands further behind. Two facts carry this. The
tokens of the first part are taken off in front of the second as they are in front of nothing, and
a scan and the parsing of a token only add their position to what they find (`Scan.scanFrom_add`,
`Template.parseToken_shift`).
-/

namespace Agreement

/-- A token that stands further behind. -/
def PlacedToken.shift (n : Nat) (p : PlacedToken) : PlacedToken :=
  { p with position := p.position + n }

/-- A fault of brackets that is found further behind. -/
def TokenError.shift (n : Nat) (e : TokenError) : TokenError :=
  { e with position := e.position + n }

/-- A scan that starts further behind. -/
def Scan.shift (n : Nat) (s : Scan) : Scan :=
  ⟨s.tokens.map (PlacedToken.shift n), s.fault.map (TokenError.shift n)⟩

/-- An issue that is found further behind, or in front if the number is negative. -/
def Issue.shift (n : Int) (i : Issue) : Issue :=
  { i with position := i.position + n }

/-- What a text gives that stands further behind. -/
def Parsed.shift (n : Int) (p : Parsed) : Parsed :=
  { p with issues := p.issues.map (Issue.shift n) }

/-- What keeps a text from being parsed that stands further behind. -/
def ParseError.shift (n : Nat) : ParseError → ParseError
  | .token e => .token (e.shift n)
  | .integer e => .integer e

namespace Scan

/-- A token in front of a scan that starts further behind. -/
theorem shift_cons (n position : Nat) (token : Token) (s : Scan) :
    (s.cons position token).shift n = (s.shift n).cons (position + n) token := rfl

/-- A fault that is found further behind. -/
theorem shift_stop (n : Nat) (fault : BracketFault) (position : Nat) :
    (stop fault position).shift n = stop fault (position + n) := rfl

open Token

/-- A scan adds its start to all positions. -/
theorem scanFrom_add (n position : Nat) (t : Text) :
    scanFrom (position + n) t = (scanFrom position t).shift n := by
  fun_induction scanFrom position t with
  | case1 position =>
      rw [scanFrom]
      rfl
  | case2 position rest hcut => exact scanFrom_of_unclosed hcut _
  | case3 position rest inner later hcut ih =>
      have hnext : position + n + inner.length + 2 = position + inner.length + 2 + n := by omega
      rw [scanFrom_of_directive hcut, shift_cons, ← ih, hnext]
  | case4 position rest =>
      rw [scanFrom, if_neg (by decide), if_pos rfl]
      rfl
  | case5 position rest cut next hhead =>
      have hnext : position + n + 1 + cut.1.length = next + n := by
        show _ = position + 1 + cut.1.length + n
        omega
      rw [scanFrom, if_neg (by decide), if_neg (by decide), if_pos rfl, shift_stop, ← hnext]
      exact if_pos hhead
  | case6 position rest cut next hhead _ _ ih =>
      have hnext : position + n + 1 + cut.1.length = next + n := by
        show _ = position + 1 + cut.1.length + n
        omega
      rw [scanFrom_of_reference rfl hhead, shift_cons, ← ih, ← hnext]
  | case7 position c rest hopen hclose hdollar cut next hhead =>
      have hnext : position + n + cut.1.length = next + n := by
        show _ = position + cut.1.length + n
        omega
      rw [scanFrom, if_neg hopen, if_neg hclose, if_neg hdollar, shift_stop, ← hnext]
      exact if_pos hhead
  | case8 position c rest hopen hclose hdollar cut next hhead ih =>
      have hnext : position + n + cut.1.length = next + n := by
        show _ = position + cut.1.length + n
        omega
      have hc : endsLiteral c = false := by simp [endsLiteral, hopen, hclose, hdollar]
      rw [scanFrom_of_literal hc rfl hhead, shift_cons, ← ih, ← hnext]

end Scan

namespace Template

variable {fold : Bool}

/-- Faults of options that stand further behind. -/
theorem placeFaults_add (fragment : Text) (offset n : Int) (faults : OptionFaults) :
    placeFaults fragment (offset + n) faults =
      (placeFaults fragment offset faults).map (Issue.shift n) := by
  unfold placeFaults
  rw [List.map_map]
  refine List.map_congr_left fun fault _ => ?_
  have hposition : offset + n + fault.1 = offset + fault.1 + n := by omega
  show Issue.mk _ _ _ = Issue.mk _ _ _
  rw [hposition]

/-- The body of a numeric directive that stands further behind. -/
theorem numericBody_shift (n : Nat) (p : PlacedToken) (o : NumericOptions) (issues : List Issue)
    (body : Text) :
    numericBody (p.shift n) o (issues.map (Issue.shift n)) body =
      (numericBody p o issues body).map (Parsed.shift n) := by
  unfold numericBody
  split
  · rfl
  · split
    · cases Integer.read body <;> rfl
    · show Except.ok (Parsed.mk _ _) = Except.ok (Parsed.mk _ _)
      rw [List.map_append]
      rfl

/-- The body of a noun directive that stands further behind. -/
theorem nounBody_shift (n : Int) (o : NounOptions) (issues : List Issue) (body : Text) :
    nounBody o (issues.map (Issue.shift n)) body = (nounBody o issues body).shift n := by
  unfold nounBody
  split <;> rfl

/-- A directive that stands further behind. -/
theorem parseDirective_shift (n : Nat) (p : PlacedToken) (inner : Text) :
    parseDirective fold (p.shift n) inner =
      (parseDirective fold p inner).map (Parsed.shift n) := by
  have hfaults (faults : OptionFaults) :
      placeFaults (p.shift n).token.text ((p.shift n).position + 2) faults =
        (placeFaults p.token.text (p.position + 2) faults).map (Issue.shift n) := by
    have hoffset : ((p.shift n).position : Int) + 2 = p.position + 2 + n := by
      show ((p.position + n : Nat) : Int) + 2 = _
      omega
    rw [hoffset, placeFaults_add]
    rfl
  cases inner with
  | nil => rfl
  | cons kind rest =>
      unfold parseDirective
      dsimp only
      rcases Text.cutAt ':' rest with ⟨options, _ | body⟩
      · rfl
      · dsimp only
        rw [hfaults, hfaults]
        split
        · exact numericBody_shift n p _ _ body
        · split
          · exact congrArg Except.ok (nounBody_shift n _ _ body)
          · rfl

/-- A token that stands further behind. -/
theorem parseToken_shift (n : Nat) (p : PlacedToken) :
    parseToken fold (p.shift n) = (parseToken fold p).map (Parsed.shift n) := by
  obtain ⟨position, token⟩ := p
  cases token with
  | literal t => rfl
  | reference name =>
      show (if name = [] then _ else _) = Except.map _ (if name = [] then _ else _)
      split <;> rfl
  | directive inner => exact parseDirective_shift n _ inner

/-- Two parts that stand further behind. -/
theorem shift_append (n : Int) (p q : Parsed) :
    (p.append q).shift n = (p.shift n).append (q.shift n) := by
  show Parsed.mk _ ((p.issues ++ q.issues).map (Issue.shift n)) = _
  rw [List.map_append]
  rfl

/-- Parts are put together from left to right or from right to left. -/
theorem append_assoc (p q r : Parsed) : (p.append q).append r = p.append (q.append r) := by
  show Parsed.mk (p.directives ++ q.directives ++ r.directives) _ = _
  rw [List.append_assoc]
  show Parsed.mk _ (p.issues ++ q.issues ++ r.issues) = _
  rw [List.append_assoc]
  rfl

/-- Tokens that stand further behind. -/
theorem parseTokens_shift (n : Nat) (ps : List PlacedToken) :
    parseTokens fold (ps.map (PlacedToken.shift n)) =
      (parseTokens fold ps).map (Parsed.shift n) := by
  induction ps with
  | nil => rfl
  | cons p ps ih =>
      rw [List.map_cons, parseTokens, parseTokens, parseToken_shift, ih]
      cases parseToken fold p with
      | error e => rfl
      | ok first =>
          cases parseTokens fold ps with
          | error e => rfl
          | ok rest => exact congrArg Except.ok (shift_append n first rest).symm

/-- Tokens are parsed in two parts. -/
theorem parseTokens_append {ps : List PlacedToken} {first : Parsed}
    (h : parseTokens fold ps = .ok first) (qs : List PlacedToken) :
    parseTokens fold (ps ++ qs) = (parseTokens fold qs).map first.append := by
  induction ps generalizing first with
  | nil =>
      cases h
      rw [List.nil_append]
      cases parseTokens fold qs <;> rfl
  | cons p ps ih =>
      rw [parseTokens] at h
      obtain ⟨part, hpart, h⟩ := Except.bind_eq_ok_iff.1 h
      obtain ⟨rest, hrest, h⟩ := Except.bind_eq_ok_iff.1 h
      cases h
      rw [List.cons_append, parseTokens, hpart, ih hrest]
      cases parseTokens fold qs with
      | error e => rfl
      | ok later =>
          exact congrArg Except.ok (append_assoc part rest later).symm

/-- A template is parsed if its brackets are in order and all its tokens are parsed. -/
theorem parse_eq_ok_iff {t : Text} {parsed : Parsed} :
    parse fold t = .ok parsed ↔
      (Scan.ofText t).fault = none ∧ parseTokens fold (Scan.ofText t).tokens = .ok parsed := by
  unfold parse
  dsimp only
  cases parseTokens fold (Scan.ofText t).tokens with
  | error e =>
      refine iff_of_false ?_ ?_
      · intro h
        cases h
      · rintro ⟨-, h⟩
        cases h
  | ok parsed' =>
      cases (Scan.ofText t).fault with
      | none =>
          constructor
          · intro h
            cases h
            exact ⟨rfl, rfl⟩
          · rintro ⟨-, h⟩
            cases h
            rfl
      | some e =>
          refine iff_of_false ?_ ?_
          · intro h
            cases h
          · rintro ⟨h, -⟩
            cases h

end Template

/-- A template may be cut between two parts. The first part is tokenized and leaves the next
character alone. The second starts a token of its own: by its first character, or because it stands
behind nothing or behind a directive. -/
structure IsBoundary (t₁ t₂ : Text) : Prop where
  complete : (Scan.ofText t₁).fault = none
  plain : ¬ EndsEscaping t₁
  starts : t₂.head? = some '<' ∨ t₂.head? = some '$' ∨ t₁ = [] ∨
    ∃ p ∈ (Scan.ofText t₁).tokens.getLast?, p.token.kind = .directive

/-- The tokens of the first part are taken off in front of the second. -/
theorem IsBoundary.exists_takenOff {t₁ t₂ : Text} (h : IsBoundary t₁ t₂) :
    ∃ tokens, t₁ = Token.concat tokens ∧ TakenOff t₂ tokens ∧
      Scan.ofText t₁ = ⟨placeFrom 0 tokens, none⟩ := by
  obtain ⟨tokens, rfl, htaken, hscan⟩ := Scan.exists_takenOff h.complete
  have hstarts := h.starts
  rw [Scan.ofText, hscan] at hstarts
  refine ⟨tokens, rfl, htaken.of_rest (.inr h.plain) fun token htoken c hc => ?_, hscan⟩
  rcases hstarts with hopen | hdollar | hnil | ⟨p, hp, hkind⟩
  · rw [hopen] at hc
    cases hc
    cases token <;> simp [Token.kind, TokenKind.EndsAt]
  · rw [hdollar] at hc
    cases hc
    cases token <;> simp [Token.kind, TokenKind.EndsAt]
  · -- no token makes up the empty text
    obtain rfl : tokens = [] := by
      cases tokens with
      | nil => rfl
      | cons first tokens => exact absurd hnil htaken.concat_ne_nil
    cases htoken
  · have hlast : p.token = token := by
      have hmap := congrArg List.getLast? (map_token_placeFrom 0 tokens)
      rw [List.getLast?_map, hp, htoken] at hmap
      exact Option.some.inj hmap
    rw [← hlast, hkind]
    trivial

/-- A template that is cut where a token ends is tokenized and parsed in two parts. The tokens of
the second part, its fault and its issues are those that it has on its own, behind the first
part. -/
theorem parse_boundary {t₁ t₂ : Text} (h : IsBoundary t₁ t₂) :
    Scan.ofText (t₁ ++ t₂) =
        ⟨(Scan.ofText t₁).tokens ++ (Scan.ofText t₂).tokens.map (PlacedToken.shift t₁.length),
          (Scan.ofText t₂).fault.map (TokenError.shift t₁.length)⟩ ∧
      ∀ fold p₁, Template.parse fold t₁ = .ok p₁ →
        Template.parse fold (t₁ ++ t₂) =
          ((Template.parse fold t₂).map fun p₂ => p₁.append (p₂.shift t₁.length)).mapError
            (ParseError.shift t₁.length) := by
  have hscan : Scan.ofText (t₁ ++ t₂) =
      ⟨(Scan.ofText t₁).tokens ++ (Scan.ofText t₂).tokens.map (PlacedToken.shift t₁.length),
        (Scan.ofText t₂).fault.map (TokenError.shift t₁.length)⟩ := by
    obtain ⟨tokens, rfl, htaken, hfirst⟩ := h.exists_takenOff
    rw [hfirst, Scan.ofText, Scan.scanFrom_takenOff htaken, Scan.scanFrom_add]
    rfl
  refine ⟨hscan, fun fold p₁ hp₁ => ?_⟩
  obtain ⟨-, htokens⟩ := Template.parse_eq_ok_iff.1 hp₁
  have hall := Template.parseTokens_append htokens
    ((Scan.ofText t₂).tokens.map (PlacedToken.shift t₁.length))
  rw [Template.parseTokens_shift] at hall
  unfold Template.parse
  dsimp only
  rw [hscan]
  dsimp only
  rw [hall]
  cases Template.parseTokens fold (Scan.ofText t₂).tokens with
  | error e => rfl
  | ok p₂ => cases (Scan.ofText t₂).fault <;> rfl

/-- An option that is unknown and a reference without a name, on both sides of a boundary. -/
theorem parse_boundary_issues :
    IsBoundary "<#q:1>" " $<n:cat>" ∧
      (Template.parse true ("<#q:1>" ++ " $<n:cat>")).map Parsed.issues =
        .ok [⟨2, "<#q:1>", .option (.unknown "q")⟩, ⟨7, "$", .emptyReference⟩] := by
  have hcut : IsBoundary "<#q:1>" " $<n:cat>" := by
    refine ⟨by decide +kernel, ?_, .inr (.inr (.inr ?_))⟩
    · show ¬ (marks "<#q:1>").getLast? = some (some '\\')
      decide +kernel
    · exact ⟨⟨0, .directive "#q:1"⟩, by decide +kernel, rfl⟩
  have hparse := (parse_boundary hcut).2 true _ (show Template.parse true "<#q:1>" = .ok
    ⟨[.numeric (.constant 1) {}], [⟨2, "<#q:1>", .option (.unknown "q")⟩]⟩ by decide +kernel)
  refine ⟨hcut, ?_⟩
  rw [hparse]
  decide +kernel

end Agreement
