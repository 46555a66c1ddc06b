import Agreement.Proofs.Decimal.Numeral
import Agreement.Proofs.Success
import Agreement.Proofs.Template.Escape

/-!
# What compiling a template ends in

A template gives directives and issues, or an error of its brackets, except where a numeric
directive has an integer that cannot be read (`Token.HasUnreadableInteger`). Such an integer passes
the test for numerals, so it is no issue, and the reading of it fails: with an error that is neither
of the other two, and in front of them both. `Template.compile_cases` tells the three outcomes
apart.
-/

namespace Agreement

/-- A token is a numeric directive with an integer that cannot be read. -/
def Token.HasUnreadableInteger (token : Token) : Prop :=
  ∃ options body, token = .directive ('#' :: options ++ ':' :: body) ∧ ':' ∉ options ∧
    Integer.IsUnreadable body

/-- A directive has an unreadable integer if its kind is `#` and such an integer is behind its first
colon. -/
theorem Token.hasUnreadableInteger_iff {kind : Char} {rest : Text} :
    (Token.directive (kind :: rest)).HasUnreadableInteger ↔
      kind = '#' ∧ ∃ options body, Text.cutAt ':' rest = (options, some body) ∧
        Integer.IsUnreadable body := by
  constructor
  · rintro ⟨options, body, heq, hoptions, hbody⟩
    cases heq
    exact ⟨rfl, options, body, Text.cutAt_append hoptions body, hbody⟩
  · rintro ⟨rfl, options, body, hcut, hbody⟩
    obtain ⟨rfl, hoptions⟩ := Text.cutAt_eq_some_iff.1 hcut
    exact ⟨options, body, rfl, hoptions, hbody⟩

/-- The name of a variable is no integer. -/
theorem Integer.not_isUnreadable_variable (name : Text) : ¬ IsUnreadable ('$' :: name) :=
  fun h => not_isNumeral_trim List.mem_cons_self (by decide) (by decide) (by decide) h.isNumeral

namespace Template

variable {fold : Bool}

/-- The body of a numeric directive is refused if it is an integer that cannot be read. -/
theorem numericBody_error_iff (p : PlacedToken) (o : NumericOptions) (issues : List Issue)
    (body : Text) :
    (∃ e, numericBody p o issues body = .error e) ↔ Integer.IsUnreadable body := by
  unfold numericBody
  split
  · next name =>
      exact iff_of_false (Except.not_exists_eq_error rfl) (Integer.not_isUnreadable_variable name)
  · split
    · next hnumeral => rw [Except.exists_map_eq_error_iff, Integer.read_eq_error_iff hnumeral]
    · next hnumeral =>
        exact iff_of_false (Except.not_exists_eq_error rfl) fun h => hnumeral h.isNumeral

/-- A directive is refused if it is numeric and its integer cannot be read. -/
theorem parseDirective_error_iff (p : PlacedToken) (inner : Text) :
    (∃ e, parseDirective fold p inner = .error e) ↔
      (Token.directive inner).HasUnreadableInteger := by
  cases inner with
  | nil =>
      refine iff_of_false (Except.not_exists_eq_error rfl) ?_
      rintro ⟨options, body, heq, -⟩
      cases heq
  | cons kind rest =>
      rw [Token.hasUnreadableInteger_iff, parseDirective]
      rcases hcut : Text.cutAt ':' rest with ⟨options, _ | body⟩
      · refine iff_of_false (Except.not_exists_eq_error rfl) ?_
        rintro ⟨-, options', body, heq, -⟩
        cases heq
      · by_cases hkind : kind = '#'
        · subst hkind
          simp only [↓reduceIte, numericBody_error_iff, true_and]
          constructor
          · exact fun h => ⟨options, body, rfl, h⟩
          · rintro ⟨options', body', heq, h⟩
            cases heq
            exact h
        · refine iff_of_false ?_ fun h => hkind h.1
          simp only [if_neg hkind]
          split <;> exact Except.not_exists_eq_error rfl

/-- A token is refused if it has an integer that cannot be read. -/
theorem parseToken_error_iff (p : PlacedToken) :
    (∃ e, parseToken fold p = .error e) ↔ p.token.HasUnreadableInteger := by
  obtain ⟨position, token⟩ := p
  cases token with
  | literal t =>
      refine iff_of_false (Except.not_exists_eq_error rfl) ?_
      rintro ⟨options, body, heq, -⟩
      cases heq
  | reference name =>
      refine iff_of_false ?_ ?_
      · rw [parseToken]
        dsimp only
        split <;> exact Except.not_exists_eq_error rfl
      · rintro ⟨options, body, heq, -⟩
        cases heq
  | directive inner => exact parseDirective_error_iff _ inner

/-- Tokens are refused if one of them is. -/
theorem parseTokens_error_iff (fold : Bool) (ps : List PlacedToken) :
    (∃ e, parseTokens fold ps = .error e) ↔ ∃ p ∈ ps, p.token.HasUnreadableInteger := by
  induction ps with
  | nil => simp [parseTokens]
  | cons p ps ih =>
      simp only [List.mem_cons, exists_eq_or_imp]
      cases hparse : parseToken fold p with
      | error e =>
          refine iff_of_true ⟨e, ?_⟩ (.inl ((parseToken_error_iff p).1 ⟨e, hparse⟩))
          rw [parseTokens, hparse]
          rfl
      | ok first =>
          have hp : ¬ p.token.HasUnreadableInteger :=
            mt (parseToken_error_iff p).2 (Except.not_exists_eq_error hparse)
          have hrest : (∃ e, parseTokens fold (p :: ps) = .error e) ↔
              ∃ e, parseTokens fold ps = .error e := by
            rw [parseTokens, hparse]
            exact Except.exists_map_eq_error_iff
          rw [hrest, ih, or_iff_right hp]

/-- A template with an unreadable integer in front of a bracket without a partner ends in the error
of the integer. Any other gives the error of its brackets or, if they match, its directives and
issues, which compiling takes for an error if there are any. -/
theorem compile_cases (fold : Bool) (template : Text) :
    let scan := Scan.ofText template
    let unreadable := ∃ p ∈ scan.tokens, p.token.HasUnreadableInteger
    (unreadable ∧ ∃ e, parse fold template = .error (.integer e) ∧
        compile fold template = .error (.parse (.integer e))) ∨
      (¬ unreadable ∧ ∃ e, scan.fault = some e ∧ parse fold template = .error (.token e) ∧
        compile fold template = .error (.parse (.token e))) ∨
      (¬ unreadable ∧ scan.fault = none ∧ ∃ parsed, parse fold template = .ok parsed ∧
        compile fold template =
          if parsed.issues = [] then .ok parsed.directives
          else .error (.issues parsed.issues)) := by
  intro scan unreadable
  have hiff := parseTokens_error_iff fold (Scan.ofText template).tokens
  cases htokens : parseTokens fold (Scan.ofText template).tokens with
  | error e =>
      have hparse : parse fold template = .error (.integer e) := by
        simp only [parse, htokens]
        rfl
      refine .inl ⟨hiff.1 ⟨e, htokens⟩, e, hparse, ?_⟩
      rw [compile, hparse]
      rfl
  | ok parsed =>
      have hreadable : ¬ unreadable := mt hiff.2 (Except.not_exists_eq_error htokens)
      cases hfault : (Scan.ofText template).fault with
      | some e =>
          have hparse : parse fold template = .error (.token e) := by
            simp only [parse, htokens, hfault]
            rfl
          refine .inr (.inl ⟨hreadable, e, rfl, hparse, ?_⟩)
          rw [compile, hparse]
          rfl
      | none =>
          have hparse : parse fold template = .ok parsed := by
            simp only [parse, htokens, hfault]
            rfl
          refine .inr (.inr ⟨hreadable, rfl, parsed, hparse, ?_⟩)
          rw [compile, hparse]
          rfl

/-- The separator in front of "5" is trimmed, so that the rest is a numeral, but it is not read
over. -/
theorem compile_separator :
    let refused := IntegerError.malformed "\x1c5"
    parse false "<#:\x1c5>" = .error (.integer refused) ∧
      compile false "<#:\x1c5>" = .error (.parse (.integer refused)) := by
  decide +kernel

end Template

end Agreement
