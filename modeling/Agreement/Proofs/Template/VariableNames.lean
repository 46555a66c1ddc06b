import Agreement.Proofs.Template.Diagnostics
import Agreement.Proofs.Template.Failures

/-!
# Names of variables

A variable without a name is an issue where a template refers to it on its own, as in `$`, and only
there. A numeric or a noun directive whose body is a lone dollar sign (`Token.LacksName`) is taken
for one that refers to a variable, and the empty name passes. `parse_named` says which templates
have directives without a name, and which issues of that kind they have. Each token is told apart on
its own first (`Template.parseToken_named`).
-/

namespace Agreement

/-- A token is a numeric or a noun directive with a lone dollar sign behind its options. -/
def Token.LacksName (token : Token) : Prop :=
  ∃ kind options, token = .directive (kind :: options ++ [':', '$']) ∧ ':' ∉ options ∧
    (kind = '#' ∨ kind = 'n' ∨ kind = 'N')

/-- The issue of a reference that has no name. -/
def PlacedToken.emptyReference (p : PlacedToken) : Issue :=
  ⟨p.position, p.token.text, .emptyReference⟩

/-- What a token gives has the names that the token has: a reference has one, a directive does
unless its body is a lone dollar sign, and a reference without a name is the only issue of its
kind. -/
structure Parsed.Named (p : PlacedToken) (part : Parsed) : Prop where
  reference : ∀ name, .variable name ∈ part.directives → name ≠ []
  unnamed : (∃ d ∈ part.directives, d.name? = some []) ↔ p.token.LacksName
  reported : part.issues.filter (fun i => i.cause = .emptyReference) =
    if p.token = .reference [] then [p.emptyReference] else []

/-- A directive lacks a name if its kind takes one and what stands behind its first colon is a
dollar sign. -/
theorem Token.lacksName_iff {kind : Char} {rest : Text} :
    (Token.directive (kind :: rest)).LacksName ↔
      (kind = '#' ∨ kind = 'n' ∨ kind = 'N') ∧
        ∃ options, Text.cutAt ':' rest = (options, some ['$']) := by
  constructor
  · rintro ⟨kind, options, heq, hoptions, hkind⟩
    cases heq
    exact ⟨hkind, options, Text.cutAt_append hoptions ['$']⟩
  · rintro ⟨hkind, options, hcut⟩
    obtain ⟨rfl, hoptions⟩ := Text.cutAt_eq_some_iff.1 hcut
    exact ⟨kind, options, rfl, hoptions, hkind⟩

namespace Template

variable {fold : Bool} {p : PlacedToken} {part : Parsed} {issues : List Issue}

/-- Faults of options are no references. -/
theorem cause_placeFaults_ne (fragment : Text) (offset : Int) (faults : OptionFaults) :
    ∀ i ∈ placeFaults fragment offset faults, i.cause ≠ .emptyReference := by
  intro i hi
  obtain ⟨fault, -, rfl⟩ := List.mem_map.1 hi
  exact IssueCause.noConfusion

/-- Issues of other kinds report no reference. -/
theorem filter_emptyReference (hissues : ∀ i ∈ issues, i.cause ≠ .emptyReference) :
    issues.filter (fun i => i.cause = .emptyReference) = [] :=
  List.filter_eq_nil_iff.2 fun i hi => by simpa using hissues i hi

/-- A token that gives a directive has a name if the directive has one. -/
theorem named_one (hp : p.token ≠ .reference [])
    (hissues : ∀ i ∈ issues, i.cause ≠ .emptyReference) {d : Directive}
    (hreference : ∀ name, d = .variable name → name ≠ [])
    (hname : d.name? = some [] ↔ p.token.LacksName) : (Parsed.one d issues).Named p where
  reference := by
    intro name hmem
    exact hreference name (List.mem_singleton.1 hmem).symm
  unnamed := by
    rw [← hname]
    show (∃ d' ∈ [d], d'.name? = some []) ↔ _
    simp
  reported := by
    rw [if_neg hp]
    exact filter_emptyReference hissues

/-- A directive with a dollar sign in front of its body has what follows for its name. -/
theorem named_dollar (hp : p.token ≠ .reference [])
    (hissues : ∀ i ∈ issues, i.cause ≠ .emptyReference) {d : Directive} {name : Text}
    (hd : d.name? = some name) (hother : ∀ name', d ≠ .variable name')
    (hname : p.token.LacksName ↔ '$' :: name = ['$']) : (Parsed.one d issues).Named p := by
  refine named_one hp hissues (fun name' heq => absurd heq (hother name')) ?_
  rw [hd, hname, List.cons.injEq, Option.some.injEq]
  exact (and_iff_right rfl).symm

/-- A token that gives no directive lacks no name, unless it is reported. -/
theorem named_issues (hp : p.token ≠ .reference [])
    (hissues : ∀ i ∈ issues, i.cause ≠ .emptyReference) (hname : ¬ p.token.LacksName) :
    Parsed.Named p ⟨[], issues⟩ where
  reference := fun name hmem => absurd hmem List.not_mem_nil
  unnamed := by
    refine iff_of_false ?_ hname
    rintro ⟨d, hd, -⟩
    cases hd
  reported := by
    rw [if_neg hp]
    exact filter_emptyReference hissues

/-- A numeric directive lacks a name if its body is a lone dollar sign. -/
theorem numericBody_named (hp : p.token ≠ .reference [])
    (hissues : ∀ i ∈ issues, i.cause ≠ .emptyReference) {o : NumericOptions} {body : Text}
    (hname : p.token.LacksName ↔ body = ['$']) (h : numericBody p o issues body = .ok part) :
    part.Named p := by
  unfold numericBody at h
  split at h
  · next name =>
      cases h
      exact named_dollar hp hissues rfl (fun name' => Directive.noConfusion) hname
  · next hdollar =>
      have hnamed : ¬ p.token.LacksName := fun hlacks => hdollar [] (hname.1 hlacks)
      split at h
      · obtain ⟨n, -, rfl⟩ := Except.map_eq_ok_iff.1 h
        exact named_one hp hissues (fun name' heq => by cases heq)
          (iff_of_false (by simp [Directive.name?]) hnamed)
      · cases h
        refine named_issues hp (fun i hi => ?_) hnamed
        rcases List.mem_append.1 hi with hi | hi
        · exact hissues i hi
        · rw [List.mem_singleton.1 hi]
          exact IssueCause.noConfusion

/-- A noun directive lacks a name if its body is a lone dollar sign. -/
theorem nounBody_named (hp : p.token ≠ .reference [])
    (hissues : ∀ i ∈ issues, i.cause ≠ .emptyReference) {o : NounOptions} {body : Text}
    (hname : p.token.LacksName ↔ body = ['$']) : (nounBody o issues body).Named p := by
  unfold nounBody
  split
  · next name => exact named_dollar hp hissues rfl (fun name' => Directive.noConfusion) hname
  · next hdollar =>
      have hnamed : ¬ p.token.LacksName := fun hlacks => hdollar [] (hname.1 hlacks)
      exact named_one hp hissues (fun name' heq => by cases heq)
        (iff_of_false (by simp [Directive.name?]) hnamed)

/-- A directive lacks a name if it is numeric or a noun and its body is a lone dollar sign, and it
is never reported for that. -/
theorem parseDirective_named {inner : Text} (hp : p.token = .directive inner)
    (h : parseDirective fold p inner = .ok part) : part.Named p := by
  have hne : p.token ≠ .reference [] := by
    rw [hp]
    exact Token.noConfusion
  have hfault (cause : IssueCause) (hcause : cause ≠ .emptyReference) :
      ∀ i ∈ [Issue.mk p.position p.token.text cause], i.cause ≠ .emptyReference := by
    intro i hi
    rw [List.mem_singleton.1 hi]
    exact hcause
  cases inner with
  | nil =>
      cases h
      refine named_issues hne (hfault _ IssueCause.noConfusion) ?_
      rintro ⟨kind, options, heq, -⟩
      rw [hp] at heq
      cases heq
  | cons kind rest =>
      have hlacks : (Token.directive (kind :: rest)).LacksName ↔ _ := Token.lacksName_iff
      rw [← hp] at hlacks
      unfold parseDirective at h
      dsimp only at h
      rcases hcut : Text.cutAt ':' rest with ⟨options, _ | body⟩
      · rw [hcut] at h
        cases h
        refine named_issues hne (hfault _ IssueCause.noConfusion) ?_
        rw [hlacks, hcut]
        rintro ⟨-, options', heq⟩
        cases heq
      · rw [hcut] at h hlacks
        dsimp only at h
        have hbody (hkind : kind = '#' ∨ kind = 'n' ∨ kind = 'N') :
            p.token.LacksName ↔ body = ['$'] := by
          rw [hlacks]
          simp [hkind]
        split at h
        · next hkind =>
            exact numericBody_named hne (cause_placeFaults_ne _ _ _) (hbody (.inl hkind)) h
        · next hnumeric =>
            split at h
            · next hkind =>
                cases h
                exact nounBody_named hne (cause_placeFaults_ne _ _ _) (hbody (.inr hkind))
            · next hnoun =>
                cases h
                refine named_issues hne (hfault _ IssueCause.noConfusion) ?_
                rw [hlacks]
                rintro ⟨hkind | hkind, -⟩
                · exact hnumeric hkind
                · exact hnoun hkind

/-- A token gives the names that it has. -/
theorem parseToken_named (h : parseToken fold p = .ok part) : part.Named p := by
  have hlacks (hkind : p.token.kind ≠ .directive) : ¬ p.token.LacksName := by
    rintro ⟨kind, options, heq, -⟩
    rw [heq] at hkind
    exact hkind rfl
  have hnone : ∀ i ∈ ([] : List Issue), i.cause ≠ .emptyReference := List.forall_mem_nil _
  unfold parseToken at h
  split at h
  · next t hp =>
      cases h
      have hname : ¬ p.token.LacksName := hlacks (by rw [hp]; exact TokenKind.noConfusion)
      exact named_one (by rw [hp]; exact Token.noConfusion) hnone (fun name heq => by cases heq)
        (iff_of_false (by simp [Directive.name?]) hname)
  · next name hp =>
      have hname : ¬ p.token.LacksName := hlacks (by rw [hp]; exact TokenKind.noConfusion)
      split at h
      · next hempty =>
          cases h
          subst hempty
          refine ⟨fun name hmem => absurd hmem List.not_mem_nil, iff_of_false ?_ hname, ?_⟩
          · rintro ⟨d, hd, -⟩
            cases hd
          · rw [if_pos hp]
            rfl
      · next hnonempty =>
          cases h
          refine named_one (by rw [hp]; simpa using hnonempty) hnone (fun name' heq => ?_) ?_
          · cases heq
            exact hnonempty
          · exact iff_of_false (by simpa [Directive.name?] using hnonempty) hname
  · next inner hp => exact parseDirective_named hp h

/-- Parts that have the names of their tokens have them together. -/
theorem named_concat {ps : List PlacedToken} {parts : List Parsed}
    (h : List.Forall₂ (fun p part => part.Named p) ps parts) :
    (∀ name, .variable name ∈ (Parsed.concat parts).directives → name ≠ []) ∧
      ((∃ d ∈ (Parsed.concat parts).directives, d.name? = some []) ↔
        ∃ p ∈ ps, p.token.LacksName) ∧
      (Parsed.concat parts).issues.filter (fun i => i.cause = .emptyReference) =
        (ps.filter fun p => p.token = .reference []).map PlacedToken.emptyReference := by
  induction h with
  | nil => simp [Parsed.concat]
  | @cons p part ps parts hpart hrest ih =>
      obtain ⟨hreference, hunnamed, hreported⟩ := ih
      have hdirectives : (Parsed.concat (part :: parts)).directives =
          part.directives ++ (Parsed.concat parts).directives := List.flatMap_cons
      have hissues : (Parsed.concat (part :: parts)).issues =
          part.issues ++ (Parsed.concat parts).issues := List.flatMap_cons
      rw [hdirectives, hissues]
      refine ⟨fun name hmem => ?_, ?_, ?_⟩
      · rcases List.mem_append.1 hmem with hmem | hmem
        · exact hpart.reference name hmem
        · exact hreference name hmem
      · simp only [List.mem_append, or_and_right, exists_or, hpart.unnamed, hunnamed,
          List.mem_cons, exists_eq_left]
      · rw [List.filter_append, hpart.reported, hreported, List.filter_cons]
        by_cases hp : p.token = .reference [] <;> simp [hp]

end Template

/-- Which directives of a template have no name, and which issues say so. A reference on its own
always has a name, and the references without one are the issues of this kind, each at its place and
in their order. Numeric and noun directives all have names, where they take their values from
variables, exactly if none of them has a lone dollar sign for its body; one that does is no issue of
this kind. -/
theorem parse_named {fold : Bool} {t : Text} {parsed : Parsed}
    (h : Template.parse fold t = .ok parsed) :
    (∀ name, .variable name ∈ parsed.directives → name ≠ []) ∧
      ((∀ d ∈ parsed.directives, d.name? ≠ some []) ↔
        ∀ p ∈ (Scan.ofText t).tokens, ¬ p.token.LacksName) ∧
      parsed.issues.filter (fun i => i.cause = .emptyReference) =
        ((Scan.ofText t).tokens.filter fun p => p.token = .reference []).map
          PlacedToken.emptyReference := by
  obtain ⟨-, parts, hparts, rfl⟩ := Template.parse_eq_concat_iff.1 h
  have hnamed : List.Forall₂ (fun p part => part.Named p) (Scan.ofText t).tokens parts :=
    hparts.imp fun p part hpart => Template.parseToken_named hpart
  obtain ⟨hreference, hunnamed, hreported⟩ := Template.named_concat hnamed
  refine ⟨hreference, ?_, hreported⟩
  rw [← not_iff_not]
  push Not
  exact hunnamed

/-- One reference without a name is reported, and the lone dollar sign of the noun is not. -/
theorem parse_named_dollars :
    Template.parse true "$ <n:$> $b" =
        .ok ⟨[.literal " ", .noun (.variable []) {}, .literal " ", .variable "b"],
          [⟨0, "$", .emptyReference⟩]⟩ ∧
      ¬ (∀ p ∈ (Scan.ofText "$ <n:$> $b").tokens, ¬ p.token.LacksName) := by
  have hparse : Template.parse true "$ <n:$> $b" =
      .ok ⟨[.literal " ", .noun (.variable []) {}, .literal " ", .variable "b"],
        [⟨0, "$", .emptyReference⟩]⟩ := by decide +kernel
  have hnames := (parse_named hparse).2.1
  refine ⟨hparse, fun hall => ?_⟩
  have hnoun := hnames.2 hall (.noun (.variable []) {})
  exact hnoun (by simp) rfl

/-- A lone dollar sign is taken for the name of a variable in a numeric and in a noun directive, and
there is no issue. -/
theorem parse_lone_dollar :
    Template.parse false "<#:$>" = .ok ⟨[.numeric (.variable []) {}], []⟩ ∧
      Template.parse false "<N:$>" = .ok ⟨[.noun (.variable []) {}], []⟩ := by
  decide +kernel

end Agreement
