import Agreement.Proofs.Decimal.Written
import Agreement.Proofs.Template.Articles

/-!
# Failures of an execution

Which directives fail, and with which error, told from the directive and the bindings alone.
`execute_failures` says that an execution reports the first directive that fails, and that without
one it gives a text unless an article that was printed has found no noun. The step is
`Directive.FailsWith.runDirective_eq` in one direction, for every state, and
`Directive.works_of_not_fails` in the other.
-/

namespace Agreement

/-- The name that a directive refers to. -/
def Directive.name? : Directive → Option Text
  | .variable name => some name
  | .numeric (.variable name) _ => some name
  | .noun (.variable name) _ => some name
  | _ => none

/-- A number is to be printed in words that do not exist. -/
structure NumericOptions.LacksWords (o : NumericOptions) (n : Int) : Prop where
  printed : o.suppressOutput = false
  inWords : o.cardinalForm = true
  notNo : o.printsNo n = false
  notArticle : o.opensArticle n = false
  below : n < o.cardinalThreshold
  large : Nat.pow 10 12 ≤ n.natAbs

/-- A directive fails with an error, whatever comes before it. -/
inductive Directive.FailsWith (bindings : Bindings) : Directive → ExecutionError → Prop where
  | unbound {d : Directive} {name : Text} (hname : d.name? = some name)
    (hvalue : bindings.value? name = none) : FailsWith bindings d (.unbound name)
  | notInteger {name shown : Text} {o : NumericOptions} {v : Value}
    (hvalue : bindings.value? name = some v) (hv : ∀ n, v ≠ .int n)
    (hshown : v.quoted = .ok shown) :
    FailsWith bindings (.numeric (.variable name) o) (.wrongType name .integer v.typeName shown)
  | notText {name shown : Text} {o : NounOptions} {v : Value}
    (hvalue : bindings.value? name = some v) (hv : ∀ t, v ≠ .text t)
    (hshown : v.quoted = .ok shown) :
    FailsWith bindings (.noun (.variable name) o) (.wrongType name .text v.typeName shown)
  | lacksWords {source : Source Int} {o : NumericOptions} {n : Int}
    (hn : integerOf bindings source = .ok n) (hwords : o.LacksWords (o.counted n)) :
    FailsWith bindings (.numeric source o) (.number .unnamed)

/-- A directive fails. -/
def Directive.Fails (bindings : Bindings) (d : Directive) : Prop :=
  ∃ e, d.FailsWith bindings e

/-- All integers that an execution writes are short: those that bound values hold, and the numbers
of numeric directives once they are increased. -/
structure ShortIntegers (bindings : Bindings) (ds : List Directive) : Prop where
  bound : ∀ name v, bindings.value? name = some v → ∀ n ∈ v.integers, Integer.IsShort n
  counted : ∀ source o, .numeric source o ∈ ds → ∀ n, integerOf bindings source = .ok n →
    Integer.IsShort (o.counted n)

namespace NumericOptions

variable {o : NumericOptions} {n : Int}

/-- A short number is written, unless words are asked for that do not exist. -/
theorem exists_numberText (h : Integer.IsShort n)
    (hwords : o.cardinalForm = true → n < o.cardinalThreshold → n.natAbs < Cardinal.limit)
    (digits : Text) : ∃ t, o.numberText n digits = .ok t := by
  have hcardinal : ∃ t, o.cardinalText n digits = .ok t := by
    unfold cardinalText
    split
    · next hform => exact exists_cardinal h (hwords hform)
    · exact ⟨digits, rfl⟩
  obtain ⟨t, ht⟩ := hcardinal
  have hordinal : ∃ t', o.ordinalText n t = .ok t' := by
    unfold ordinalText
    split
    · exact exists_ordinal h _
    · exact ⟨t, rfl⟩
  obtain ⟨t', ht'⟩ := hordinal
  refine ⟨o.summaryText n t', ?_⟩
  rw [numberText, ht]
  show (o.ordinalText n t >>= _) = _
  rw [ht']
  rfl

/-- A number without words is an error. -/
theorem LacksWords.numberText_eq (h : o.LacksWords n) (digits : Text) :
    o.numberText n digits = .error .unnamed := by
  have hcardinal : o.cardinalText n digits = .error .unnamed := by
    rw [cardinalText, if_pos h.inWords]
    exact cardinal_eq_error h.below h.large
  rw [numberText, hcardinal]
  rfl

/-- A number without words is an error when it is counted. -/
theorem LacksWords.countNumber_eq (h : o.LacksWords n) (hshort : Integer.IsShort n)
    (s : ExecutionState) : s.countNumber o n = .error .unnamed := by
  rw [ExecutionState.countNumber, writeInteger_eq_ok hshort]
  simp [h.printed, h.notArticle, h.notNo, h.numberText_eq]
  rfl

end NumericOptions

section Failures

variable {inflect : Inflector} {bindings : Bindings} {d : Directive} {ds : List Directive}
  {e : ExecutionError} {name shown : Text} {v : Value}

/-- A value of another type is shown by its error. -/
theorem mismatch_eq (hshown : v.quoted = .ok shown) (name : Text) (expected : Expected) :
    mismatch name expected v = .wrongType name expected v.typeName shown := by
  rw [mismatch, errorWith, hshown]

/-- A number is an integer, or its name is unbound or bound to something else. -/
theorem integerOf_variable (hvalue : bindings.value? name = some v) (hv : ∀ n, v ≠ .int n) :
    integerOf bindings (.variable name) = .error (mismatch name .integer v) := by
  rw [integerOf, hvalue]
  split
  · next hnone => cases hnone
  · next n hsome => exact absurd (Option.some.inj hsome) (hv n)
  · next hsome => rw [Option.some.inj hsome]

/-- A word is a text, or its name is unbound or bound to something else. -/
theorem wordOf_variable (hvalue : bindings.value? name = some v) (hv : ∀ t, v ≠ .text t) :
    wordOf bindings (.variable name) = .error (mismatch name .text v) := by
  rw [wordOf, hvalue]
  split
  · next hnone => cases hnone
  · next t hsome => exact absurd (Option.some.inj hsome) (hv t)
  · next hsome => rw [Option.some.inj hsome]

/-- A numeric directive without an integer is refused. -/
theorem runDirective_numeric_error {source : Source Int} (h : integerOf bindings source = .error e)
    (s : ExecutionState) (o : NumericOptions) :
    runDirective inflect bindings s (.numeric source o) = .error e := by
  rw [runDirective, h]
  rfl

/-- A numeric directive with an integer counts it. -/
theorem runDirective_numeric {source : Source Int} {n : Int} (h : integerOf bindings source = .ok n)
    (s : ExecutionState) (o : NumericOptions) :
    runDirective inflect bindings s (.numeric source o) =
      (s.countNumber o (o.counted n)).mapError .number := by
  rw [runDirective, h, Except.ok_bind]

/-- A noun directive without a word is refused. -/
theorem runDirective_noun_error {source : Source Text} (h : wordOf bindings source = .error e)
    (s : ExecutionState) (o : NounOptions) :
    runDirective inflect bindings s (.noun source o) = .error e := by
  rw [runDirective, h]
  rfl

/-- A directive whose name is unbound is refused. -/
theorem runDirective_unbound (hname : d.name? = some name) (hvalue : bindings.value? name = none)
    (s : ExecutionState) : runDirective inflect bindings s d = .error (.unbound name) := by
  cases d with
  | literal t => cases hname
  | «variable» name' =>
      obtain rfl : name' = name := Option.some.inj hname
      rw [runDirective, referenceText, hvalue]
      rfl
  | numeric source o =>
      cases source with
      | constant n => cases hname
      | «variable» name' =>
          obtain rfl : name' = name := Option.some.inj hname
          refine runDirective_numeric_error ?_ s o
          rw [integerOf, hvalue]
  | noun source o =>
      cases source with
      | constant w => cases hname
      | «variable» name' =>
          obtain rfl : name' = name := Option.some.inj hname
          refine runDirective_noun_error ?_ s o
          rw [wordOf, hvalue]

/-- A directive that fails is refused in every state. -/
theorem Directive.FailsWith.runDirective_eq (h : d.FailsWith bindings e)
    (hshort : ShortIntegers bindings ds) (hd : d ∈ ds) (s : ExecutionState) :
    runDirective inflect bindings s d = .error e := by
  cases h with
  | unbound hname hvalue => exact runDirective_unbound hname hvalue s
  | notInteger hvalue hv hshown =>
      rw [← mismatch_eq hshown]
      exact runDirective_numeric_error (integerOf_variable hvalue hv) s _
  | notText hvalue hv hshown =>
      rw [← mismatch_eq hshown]
      exact runDirective_noun_error (wordOf_variable hvalue hv) s _
  | @lacksWords source o n hn hwords =>
      rw [runDirective_numeric hn, hwords.countNumber_eq (hshort.counted source o hd n hn)]
      rfl

/-- A name that does not make a directive fail is bound. -/
theorem exists_value_of_not_fails (h : ¬ d.Fails bindings) (hname : d.name? = some name) :
    ∃ v, bindings.value? name = some v := by
  cases hvalue : bindings.value? name with
  | none => exact absurd ⟨_, .unbound hname hvalue⟩ h
  | some v => exact ⟨v, rfl⟩

/-- A numeric directive that does not fail has an integer. -/
theorem exists_integerOf_of_not_fails (hshort : ShortIntegers bindings ds) {source : Source Int}
    {o : NumericOptions} (h : ¬ (Directive.numeric source o).Fails bindings) :
    ∃ n, integerOf bindings source = .ok n := by
  cases source with
  | constant n => exact ⟨n, rfl⟩
  | «variable» name =>
      obtain ⟨v, hvalue⟩ := exists_value_of_not_fails h rfl
      by_cases hv : ∃ n, v = .int n
      · obtain ⟨n, rfl⟩ := hv
        refine ⟨n, ?_⟩
        rw [integerOf, hvalue]
      · obtain ⟨shown, hshown⟩ := v.exists_quoted (hshort.bound name v hvalue)
        exact absurd ⟨_, .notInteger hvalue (not_exists.1 hv) hshown⟩ h

/-- A noun directive that does not fail has a word. -/
theorem exists_wordOf_of_not_fails (hshort : ShortIntegers bindings ds) {source : Source Text}
    {o : NounOptions} (h : ¬ (Directive.noun source o).Fails bindings) :
    ∃ w, wordOf bindings source = .ok w := by
  cases source with
  | constant w => exact ⟨w, rfl⟩
  | «variable» name =>
      obtain ⟨v, hvalue⟩ := exists_value_of_not_fails h rfl
      by_cases hv : ∃ t, v = .text t
      · obtain ⟨t, rfl⟩ := hv
        refine ⟨t, ?_⟩
        rw [wordOf, hvalue]
      · obtain ⟨shown, hshown⟩ := v.exists_quoted (hshort.bound name v hvalue)
        exact absurd ⟨_, .notText hvalue (not_exists.1 hv) hshown⟩ h

/-- Behind directives that do not fail it is known whether nouns are singular. -/
theorem exists_singularBehind (hshort : ShortIntegers bindings ds) {before : List Directive}
    (h : ∀ d ∈ before, ¬ d.Fails bindings) :
    ∃ singular, singularBehind bindings before = some singular := by
  unfold singularBehind
  split
  · exact ⟨false, rfl⟩
  · next source o hlast =>
      obtain ⟨d, hd, hnumeric⟩ := List.mem_filterMap.1 (List.mem_of_getLast? hlast)
      obtain rfl : d = .numeric source o := by
        cases d with
        | numeric source' o' =>
            cases hnumeric
            rfl
        | _ => cases hnumeric
      obtain ⟨n, hn⟩ := exists_integerOf_of_not_fails hshort (h _ hd)
      refine ⟨o.isSingular (o.counted n), ?_⟩
      rw [hn]
      rfl

/-- A directive that does not fail works behind others that do not. -/
theorem Directive.works_of_not_fails (hforms : ∀ form w, ∃ t, inflect form w = .ok t)
    (hshort : ShortIntegers bindings ds) {before : List Directive}
    (hbefore : ∀ d' ∈ before, ¬ d'.Fails bindings) (hmem : d ∈ ds) (hd : ¬ d.Fails bindings) :
    d.Works inflect bindings before := by
  cases d with
  | literal t => trivial
  | «variable» name =>
      obtain ⟨v, hvalue⟩ := exists_value_of_not_fails hd rfl
      obtain ⟨t, ht⟩ := v.exists_shown (hshort.bound name v hvalue)
      refine ⟨t, ?_⟩
      rw [referenceText, hvalue]
      show v.shown.mapError _ = _
      rw [ht]
      rfl
  | numeric source o =>
      obtain ⟨n, hn⟩ := exists_integerOf_of_not_fails hshort hd
      have hcounted := hshort.counted source o hmem n hn
      refine ⟨n, _, hn, writeInteger_eq_ok hcounted, fun hprinted harticle hno => ?_⟩
      refine NumericOptions.exists_numberText hcounted (fun hform hbelow => ?_) _
      -- a number that is too large for words would make the directive fail
      by_contra hlarge
      exact hd ⟨_, .lacksWords hn ⟨hprinted, hform, hno, harticle, hbelow, Nat.not_lt.1 hlarge⟩⟩
  | noun source o =>
      -- the form depends on the last number before the noun, which is known since none fails
      obtain ⟨w, hw⟩ := exists_wordOf_of_not_fails hshort hd
      obtain ⟨singular, hsingular⟩ := exists_singularBehind hshort hbefore
      obtain ⟨form, hform⟩ := hforms (o.agreeing singular) w
      refine ⟨form, ?_⟩
      simp [readNoun, hw, hsingular, hform, Except.toOption_ok]

/-- A run over two lists is a run over the first and then over the second. -/
theorem runDirectives_append {s s' : ExecutionState} {before : List Directive}
    (h : runDirectives inflect bindings s before = .ok s') (after : List Directive) :
    runDirectives inflect bindings s (before ++ after) =
      runDirectives inflect bindings s' after := by
  induction before generalizing s with
  | nil =>
      cases h
      rfl
  | cons d before ih =>
      obtain ⟨s₁, hstep, hrun⟩ := Except.bind_eq_ok_iff.1 h
      rw [List.cons_append, runDirectives, hstep]
      exact ih hrun

/-- Directives that do not fail are run, and then every slot is filled exactly if the articles find
their nouns. -/
theorem runDirectives_of_not_fails (hforms : ∀ form w, ∃ t, inflect form w = .ok t)
    (hshort : ShortIntegers bindings ds) {first : List Directive} (hfirst : first ⊆ ds)
    (h : ∀ d ∈ first, ¬ d.Fails bindings) :
    ∃ s, runDirectives inflect bindings {} first = .ok s ∧
      (ArticlesPaired bindings first ↔ ∀ index, .slot index none ∉ s.parts) := by
  have hsingular : singularBehind bindings [] = some ({} : ExecutionState).singular := rfl
  rw [← ExecutionState.settles_start]
  refine ExecutionState.runDirectives_settles ExecutionState.wellFormed_start hsingular ?_
  intro before d after heq
  have hd : d ∈ first := by simp [heq]
  refine Directive.works_of_not_fails hforms hshort (fun d' hd' => h d' ?_) (hfirst hd) (h d hd)
  rw [heq]
  exact List.mem_append_left _ hd'

end Failures

/-- An execution reports the first directive that fails. If none fails, it reports an article that
was printed and has found no noun, and without such an article it gives a text. -/
theorem execute_failures {inflect : Inflector} {bindings : Bindings} {ds : List Directive}
    (hforms : ∀ form w, ∃ t, inflect form w = .ok t) (hshort : ShortIntegers bindings ds) :
    (∀ before d after e, ds = before ++ d :: after → (∀ d' ∈ before, ¬ d'.Fails bindings) →
        d.FailsWith bindings e → execute inflect bindings ds = .error e) ∧
      ((∀ d ∈ ds, ¬ d.Fails bindings) →
        ∃ s, runDirectives inflect bindings {} ds = .ok s ∧
          (ArticlesPaired bindings ds ↔ ∀ index, .slot index none ∉ s.parts) ∧
            ((∃ index, .slot index none ∈ s.parts ∧
                execute inflect bindings ds = .error (.unfilled index)) ∨
              (∀ index, .slot index none ∉ s.parts) ∧
                ∃ out, execute inflect bindings ds = .ok out)) := by
  refine ⟨fun before d after e heq hbefore hd => ?_, fun hnone => ?_⟩
  · -- the directives in front are run, and in the state behind them `d` is refused as in any other
    obtain ⟨s, hrun, -⟩ := runDirectives_of_not_fails hforms hshort
      (heq ▸ List.subset_append_left before (d :: after)) hbefore
    have hmem : d ∈ ds := by simp [heq]
    rw [execute, heq, runDirectives_append hrun, runDirectives, hd.runDirective_eq hshort hmem]
    rfl
  · obtain ⟨s, hrun, hpaired⟩ :=
      runDirectives_of_not_fails hforms hshort (List.Subset.refl ds) hnone
    have hexecute : execute inflect bindings ds = renderParts s.parts := by
      rw [execute, hrun]
      rfl
    refine ⟨s, hrun, hpaired, ?_⟩
    rw [hexecute]
    rcases renderParts_cases s.parts with ⟨hout, hfilled⟩ | ⟨index, herror, hmem⟩
    · exact .inr ⟨hfilled, hout⟩
    · exact .inl ⟨index, hmem, herror⟩

/-- Directives of which two fail: a number without words, and a noun whose name is not bound. -/
def wordlessOwls : List Directive :=
  [.literal "about ", .numeric (.variable "number")
    { cardinalForm := true, cardinalThreshold := 10000000000000 }, .noun (.variable "bird") {}]

/-- The number is reported, since it comes first. -/
theorem execute_failures_owls :
    ShortIntegers [("number", .int 1000000000000)] wordlessOwls ∧
      execute (fun _ w => .ok w) [("number", .int 1000000000000)] wordlessOwls =
        .error (.number .unnamed) := by
  have hforms (form : NounForm) (w : Text) :
      ∃ t, (fun _ w => .ok w : Inflector) form w = .ok t := ⟨w, rfl⟩
  have hlarge : Integer.IsShort 1000000000000 := by
    unfold Integer.IsShort
    decide +kernel
  have hshort : ShortIntegers [("number", .int 1000000000000)] wordlessOwls := by
    refine ⟨fun name v hvalue n hn => ?_, fun source o hmem n hn => ?_⟩
    · rw [Bindings.value?, List.lookup_cons] at hvalue
      split at hvalue
      · cases hvalue
        rw [List.mem_singleton.1 hn]
        exact hlarge
      · cases hvalue
    · simp only [wordlessOwls, List.mem_cons, reduceCtorEq, Directive.numeric.injEq,
        List.not_mem_nil, or_false, false_or] at hmem
      obtain ⟨rfl, rfl⟩ := hmem
      cases hn
      exact hlarge
  refine ⟨hshort, (execute_failures hforms hshort).1 [.literal "about "] _ _ _ rfl ?_
    (.lacksWords rfl ⟨rfl, rfl, rfl, rfl, by decide, by decide⟩)⟩
  intro d hd
  rw [List.mem_singleton.1 hd]
  rintro ⟨e, h⟩
  cases h with
  | unbound hname hvalue => cases hname

end Agreement
