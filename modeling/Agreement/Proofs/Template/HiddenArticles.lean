import Agreement.Proofs.Template.Articles

/-!
# Articles that are not printed

A number that is opened as an article and not printed still waits for a noun, so it takes the noun
of an article that was printed before it. `executeNodes_withoutHidden` compares an execution with
the one in which such articles are not opened at all: the two end alike, except that an article may
have lost its noun in the first one. Both run in lockstep (`foldlM_withoutHidden`), print the same
texts (`reading_withoutHidden`), and pair their articles alike unless a hidden one stands between
an article and its noun (`articlesPaired_iff_withoutHidden`).
-/

namespace Agreement

/-- The options without an article that is not printed. -/
def NumericOptions.withoutHidden (o : NumericOptions) : NumericOptions :=
  { o with useArticle := o.useArticle && !o.suppressOutput }

/-- The directive without an article that is not printed. -/
def Directive.withoutHidden : Directive → Directive
  | .numeric source o => .numeric source o.withoutHidden
  | d => d

/-- The entry without an article that is not printed. -/
def Leaf.withoutHidden : Leaf → Leaf
  | .directive d => .directive d.withoutHidden
  | .stray v => .stray v

mutual

/-- The tree without articles that are not printed. -/
def Node.withoutHidden : Node → Node
  | .directive d => .directive d.withoutHidden
  | .stray v => .stray v
  | .gap => .gap
  | .sequence nodes => .sequence (Node.allWithoutHidden nodes)

/-- The trees without articles that are not printed. -/
def Node.allWithoutHidden : List Node → List Node
  | [] => []
  | n :: ns => n.withoutHidden :: Node.allWithoutHidden ns

end

/-- Trees are walked without their hidden articles as they are walked with them. -/
theorem walk_allWithoutHidden (stack : List (List Node)) :
    walk (stack.map Node.allWithoutHidden) = (walk stack).map Leaf.withoutHidden := by
  fun_induction walk stack with
  | case1 => rw [List.map_nil, walk, List.map_nil]
  | case2 stack ih => rw [List.map_cons, Node.allWithoutHidden, walk, ih]
  | case3 nodes stack ih =>
      rw [List.map_cons, Node.allWithoutHidden, Node.withoutHidden, walk, ih]
  | case4 d nodes stack ih =>
      rw [List.map_cons] at ih
      rw [List.map_cons, Node.allWithoutHidden, Node.withoutHidden, walk, ih]
      rfl
  | case5 v nodes stack ih =>
      rw [List.map_cons] at ih
      rw [List.map_cons, Node.allWithoutHidden, Node.withoutHidden, walk, ih]
      rfl
  | case6 inner nodes stack ih =>
      rw [List.map_cons, List.map_cons] at ih
      rw [List.map_cons, Node.allWithoutHidden, Node.withoutHidden, walk, ih]

namespace NumericOptions

variable {o : NumericOptions}

/-- A number that is printed keeps its article. -/
theorem withoutHidden_of_printed (h : o.suppressOutput = false) : o.withoutHidden = o := by
  have hkept : (o.useArticle && !o.suppressOutput) = o.useArticle := by
    rw [h, Bool.not_false, Bool.and_true]
  rw [withoutHidden, hkept]

/-- A number that is not printed opens no article any more. -/
theorem opensArticle_withoutHidden (o : NumericOptions) (n : Int) :
    o.withoutHidden.opensArticle n = (o.opensArticle n && !o.suppressOutput) := by
  cases h : o.suppressOutput <;> simp [withoutHidden, opensArticle, h]

/-- A number is singular as it was. -/
theorem isSingular_withoutHidden (o : NumericOptions) (n : Int) :
    o.withoutHidden.isSingular n = o.isSingular n := by
  cases h : o.suppressOutput with
  | false => rw [withoutHidden_of_printed h]
  | true => simp [withoutHidden, isSingular, h]

end NumericOptions

section Lockstep

variable {inflect : Inflector} {bindings : Bindings} {s s' t : ExecutionState}

/-- Whether nouns are singular behind a number does not depend on the state before it. -/
theorem ExecutionState.countNumber_singular (s t : ExecutionState) (o : NumericOptions) (n : Int) :
    (s.countNumber o n).map singular = (t.countNumber o n).map singular := by
  unfold countNumber
  cases writeInteger n with
  | error e => rfl
  | ok digits =>
      simp only [Except.ok_bind]
      cases o.opensArticle n <;> cases o.suppressOutput <;> cases o.printsNo n <;> try rfl
      cases o.numberText n digits <;> rfl

/-- An article that is not printed does not change whether nouns are singular. -/
theorem ExecutionState.countNumber_withoutHidden (s t : ExecutionState) (o : NumericOptions)
    (n : Int) : (s.countNumber o n).map singular =
      (t.countNumber o.withoutHidden n).map singular := by
  cases hsuppress : o.suppressOutput with
  | false =>
      rw [NumericOptions.withoutHidden_of_printed hsuppress]
      exact countNumber_singular s t o n
  | true =>
      have hsuppress' : o.withoutHidden.suppressOutput = true := hsuppress
      unfold countNumber
      cases writeInteger n with
      | error e => rfl
      | ok digits =>
          simp only [Except.ok_bind, hsuppress, hsuppress']
          cases o.opensArticle n <;> cases o.withoutHidden.opensArticle n <;> rfl

/-- A noun does not change whether nouns are singular. -/
theorem ExecutionState.printNoun_singular (h : s.singular = t.singular) (o : NounOptions)
    (w : Text) :
    (s.printNoun inflect o w).map singular = (t.printNoun inflect o w).map singular := by
  unfold printNoun
  rw [h]
  refine Except.map_bind_congr fun form => ?_
  show Except.ok ((s.emit (.text form)).fillArticle form).singular =
    Except.ok ((t.emit (.text form)).fillArticle form).singular
  rw [fillArticle_singular, emit_singular, fillArticle_singular, emit_singular, h]

/-- A step in lockstep: from states that agree on whether nouns are singular, an entry and the one
without its hidden article both fail with the same error, or reach states that agree again. -/
theorem runLeaf_withoutHidden (h : s.singular = t.singular) (leaf : Leaf) :
    (runLeaf inflect bindings s leaf).map ExecutionState.singular =
      (runLeaf inflect bindings t leaf.withoutHidden).map ExecutionState.singular := by
  cases leaf with
  | stray v => rfl
  | directive d =>
      cases d with
      | literal text => exact congrArg Except.ok h
      | «variable» name =>
          simp only [runLeaf, Leaf.withoutHidden, Directive.withoutHidden, runDirective]
          cases referenceText bindings name with
          | error e => rfl
          | ok text => exact congrArg Except.ok h
      | numeric source o =>
          simp only [runLeaf, Leaf.withoutHidden, Directive.withoutHidden, runDirective]
          refine Except.map_bind_congr fun n => ?_
          rw [Except.map_mapError, Except.map_mapError,
            ExecutionState.countNumber_withoutHidden s t o]
          rfl
      | noun source o =>
          simp only [runLeaf, Leaf.withoutHidden, Directive.withoutHidden, runDirective]
          refine Except.map_bind_congr fun w => ?_
          rw [Except.map_mapError, Except.map_mapError, ExecutionState.printNoun_singular h]

/-- A run in lockstep: it fails with the same error without hidden articles as with them, or both
runs succeed. -/
theorem foldlM_withoutHidden (inflect : Inflector) (bindings : Bindings)
    (h : s.singular = t.singular) (leaves : List Leaf) :
    (leaves.foldlM (runLeaf inflect bindings) s).map ExecutionState.singular =
      ((leaves.map Leaf.withoutHidden).foldlM (runLeaf inflect bindings) t).map
        ExecutionState.singular := by
  induction leaves generalizing s t with
  | nil => exact congrArg Except.ok h
  | cons leaf leaves ih =>
      rw [List.map_cons, List.foldlM_cons, List.foldlM_cons]
      rcases Except.map_eq_map_iff.1 (runLeaf_withoutHidden h leaf) with
        ⟨e, hs, ht⟩ | ⟨s₁, t₁, hs, ht, hsingular⟩
      · rw [hs, ht]
        rfl
      · rw [hs, ht]
        exact ih hsingular

end Lockstep

section Texts

variable {inflect : Inflector} {bindings : Bindings}

/-- Whether nouns are singular is read without hidden articles as with them. -/
theorem singularBehind_withoutHidden (before : List Directive) :
    singularBehind bindings (before.map Directive.withoutHidden) =
      singularBehind bindings before := by
  have hnumeric (d : Directive) : d.withoutHidden.numeric? =
      d.numeric?.map fun number => (number.1, number.2.withoutHidden) := by
    cases d <;> rfl
  have hlast : ((before.map Directive.withoutHidden).filterMap Directive.numeric?).getLast? =
      (before.filterMap Directive.numeric?).getLast?.map
        fun number => (number.1, number.2.withoutHidden) := by
    rw [List.filterMap_map, ← List.getLast?_map, List.map_filterMap]
    exact congrArg (fun f => (before.filterMap f).getLast?) (funext hnumeric)
  unfold singularBehind
  rw [hlast]
  cases (before.filterMap Directive.numeric?).getLast? with
  | none => rfl
  | some number =>
      refine congrArg (fun f => (integerOf bindings number.1).toOption.map f) (funext fun n => ?_)
      exact NumericOptions.isSingular_withoutHidden number.2 _

/-- A noun is read without hidden articles before it as with them. -/
theorem readNoun_withoutHidden (before : List Directive) (source : Source Text)
    (o : NounOptions) :
    readNoun inflect bindings (before.map Directive.withoutHidden) source o =
      readNoun inflect bindings before source o := by
  simp only [readNoun, singularBehind_withoutHidden]

/-- The article ahead is the same without hidden articles. -/
theorem articleAhead_withoutHidden (inflect : Inflector) (bindings : Bindings)
    (before after : List Directive) :
    articleAhead inflect bindings (before.map Directive.withoutHidden)
      (after.map Directive.withoutHidden) = articleAhead inflect bindings before after := by
  induction after generalizing before with
  | nil => rw [List.map_nil, articleAhead, articleAhead]
  | cons d after ih =>
      have hrest := ih (before ++ [d])
      rw [List.map_append, List.map_singleton] at hrest
      cases d with
      | noun source o =>
          show (readNoun inflect bindings _ source o).map _ = _
          rw [readNoun_withoutHidden]
          rfl
      | _ => exact hrest

/-- A directive is read without hidden articles as with them. -/
theorem reading_withoutHidden (before : List Directive) (d : Directive) (after : List Directive) :
    reading inflect bindings (before.map Directive.withoutHidden) d.withoutHidden
      (after.map Directive.withoutHidden) = reading inflect bindings before d after := by
  cases d with
  | literal t => rfl
  | «variable» name => rfl
  | noun source o => exact readNoun_withoutHidden before source o
  | numeric source o =>
      have hahead := articleAhead_withoutHidden inflect bindings
        (before ++ [.numeric source o]) after
      rw [List.map_append, List.map_singleton] at hahead
      simp only [Directive.withoutHidden] at hahead
      simp only [Directive.withoutHidden, reading, hahead]
      refine congrArg (fun f => (integerOf bindings source).toOption.bind f) (funext fun n => ?_)
      cases hsuppress : o.suppressOutput with
      | false => rw [NumericOptions.withoutHidden_of_printed hsuppress, hsuppress]
      | true => simp [NumericOptions.withoutHidden, hsuppress, NumericOptions.ownText]

/-- Directives behind others have the same texts without hidden articles. -/
theorem ReadAs.withoutHidden {before ds : List Directive} {texts : List Text}
    (h : ReadAs inflect bindings before ds texts) :
    ReadAs inflect bindings (before.map Directive.withoutHidden)
      (ds.map Directive.withoutHidden) texts where
  length_eq := by rw [h.length_eq, List.length_map]
  text_eq := by
    intro mid d after heq
    obtain ⟨mid', rest, rfl, rfl, hrest⟩ := List.map_eq_append_iff.1 heq
    obtain ⟨d', after', rfl, rfl, rfl⟩ := List.map_eq_cons_iff.1 hrest
    rw [← List.map_append, reading_withoutHidden, List.length_map]
    exact h.text_eq mid' d' after' rfl

end Texts

section Pairing

variable {bindings : Bindings} {d : Directive} {ds : List Directive}

/-- An article that is not printed comes before the next noun. -/
def HiddenNext (bindings : Bindings) (ds : List Directive) : Prop :=
  ∃ mid hidden after, ds = mid ++ hidden :: after ∧ (∀ d ∈ mid, d.isNoun = false) ∧
    hidden.opens bindings = true ∧ hidden.isSuppressed = true

/-- An article that is not printed stands between one that is and the next noun. -/
def HiddenBetween (bindings : Bindings) (ds : List Directive) : Prop :=
  ∃ before d after, ds = before ++ d :: after ∧ d.opens bindings = true ∧
    d.isSuppressed = false ∧ HiddenNext bindings after

/-- A directive without its hidden article opens an article if it opened one that is printed. -/
theorem Directive.opens_withoutHidden (d : Directive) :
    d.withoutHidden.opens bindings = (d.opens bindings && !d.isSuppressed) := by
  cases d with
  | numeric source o =>
      show (integerOf bindings source).toOption.any _ =
        ((integerOf bindings source).toOption.any _ && !o.suppressOutput)
      cases integerOf bindings source with
      | error e => rfl
      | ok n => exact o.opensArticle_withoutHidden (o.counted n)
  | _ => rfl

/-- A directive without its hidden article is suppressed as before. -/
theorem Directive.isSuppressed_withoutHidden (d : Directive) :
    d.withoutHidden.isSuppressed = d.isSuppressed := by
  cases d <;> rfl

/-- A directive without its hidden article is a noun as before. -/
theorem Directive.isNoun_withoutHidden (d : Directive) :
    d.withoutHidden.isNoun = d.isNoun := by
  cases d <;> rfl

/-- A noun opens no article. -/
theorem Directive.opens_of_isNoun (h : d.isNoun = true) : d.opens bindings = false := by
  cases d with
  | noun source o => rfl
  | _ => cases h

/-- A hidden article comes before the next noun if it comes first, or later and no noun first. -/
theorem hiddenNext_cons : HiddenNext bindings (d :: ds) ↔
    (d.opens bindings = true ∧ d.isSuppressed = true) ∨
      (d.isNoun = false ∧ HiddenNext bindings ds) := by
  constructor
  · rintro ⟨_ | ⟨first, mid⟩, hidden, after, heq, hmid, hhidden⟩
    · cases heq
      exact .inl hhidden
    · cases heq
      rw [List.forall_mem_cons] at hmid
      exact .inr ⟨hmid.1, mid, hidden, after, rfl, hmid.2, hhidden⟩
  · rintro (hhidden | ⟨hnoun, mid, hidden, after, rfl, hmid, hhidden⟩)
    · exact ⟨[], d, ds, rfl, fun _ h => absurd h List.not_mem_nil, hhidden⟩
    · exact ⟨d :: mid, hidden, after, rfl, List.forall_mem_cons.2 ⟨hnoun, hmid⟩, hhidden⟩

/-- A noun comes before any other article if it comes before any other article that is printed and
before any that is hidden. -/
theorem nounFirst_iff_withoutHidden : nounFirst bindings ds = true ↔
    nounFirst bindings (ds.map Directive.withoutHidden) = true ∧ ¬ HiddenNext bindings ds := by
  induction ds with
  | nil =>
      have hnone : ¬ nounFirst bindings [] = true := Bool.false_ne_true
      exact iff_of_false hnone fun h => hnone h.1
  | cons d ds ih =>
      rw [List.map_cons, nounFirst_cons, nounFirst_cons, hiddenNext_cons,
        Directive.opens_withoutHidden, Directive.isNoun_withoutHidden]
      cases hnoun : d.isNoun with
      | true => simp [Directive.opens_of_isNoun hnoun]
      | false => cases d.opens bindings <;> cases d.isSuppressed <;> simp [ih]

/-- A hidden article stands behind the first directive or among the others. -/
theorem hiddenBetween_cons : HiddenBetween bindings (d :: ds) ↔
    (d.opens bindings = true ∧ d.isSuppressed = false ∧ HiddenNext bindings ds) ∨
      HiddenBetween bindings ds := by
  constructor
  · rintro ⟨_ | ⟨first, before⟩, d', after, heq, h⟩
    · cases heq
      exact .inl h
    · cases heq
      exact .inr ⟨before, d', after, rfl, h⟩
  · rintro (h | ⟨before, d', after, rfl, h⟩)
    · exact ⟨[], d, ds, rfl, h⟩
    · exact ⟨d :: before, d', after, rfl, h⟩

/-- The articles of a list find their nouns if they do so without the hidden ones and none of these
stands between a printed article and its noun. -/
theorem articlesPaired_iff_withoutHidden : ArticlesPaired bindings ds ↔
    ArticlesPaired bindings (ds.map Directive.withoutHidden) ∧ ¬ HiddenBetween bindings ds := by
  induction ds with
  | nil =>
      have hpaired : ArticlesPaired bindings [] := fun before d after heq => absurd heq (by simp)
      exact iff_of_true hpaired ⟨hpaired, fun ⟨_, _, _, heq, _⟩ => absurd heq (by simp)⟩
  | cons d ds ih =>
      rw [List.map_cons, articlesPaired_cons, articlesPaired_cons, hiddenBetween_cons,
        Directive.opens_withoutHidden, Directive.isSuppressed_withoutHidden, ih,
        nounFirst_iff_withoutHidden]
      cases d.opens bindings <;> cases d.isSuppressed <;> simp
      tauto

end Pairing

section Endings

variable {inflect : Inflector} {bindings : Bindings} {ds : List Directive}

/-- A run from a state keeps whether all articles find a noun. -/
theorem ExecutionState.settles_run {s s' : ExecutionState} {before : List Directive}
    (hs : s.WellFormed) (hsingular : singularBehind bindings before = some s.singular)
    (h : runDirectives inflect bindings s ds = .ok s') :
    s.Settles bindings ds ↔ ∀ index, .slot index none ∉ s'.parts := by
  induction ds generalizing s before with
  | nil =>
      cases h
      exact settles_nil
  | cons d ds ih =>
      obtain ⟨s₁, hstep, hrun⟩ := Except.bind_eq_ok_iff.1 h
      obtain ⟨hsingular₁, hprints⟩ := prints_reading hs hsingular hstep ds
      exact (settles_step hs hstep).trans (ih hprints.wellFormed hsingular₁ hrun)

/-- A run that succeeds ends in the texts of its directives if their articles are paired with nouns,
and in an article without a noun otherwise. -/
theorem execute_of_run {s : ExecutionState} (h : runDirectives inflect bindings {} ds = .ok s) :
    (ArticlesPaired bindings ds ∧ ∃ texts, ReadAs inflect bindings [] ds texts ∧
        execute inflect bindings ds = .ok texts.flatten) ∨
      (¬ ArticlesPaired bindings ds ∧
        ∃ index, execute inflect bindings ds = .error (.unfilled index)) := by
  have hexecute : execute inflect bindings ds = renderParts s.parts := by
    rw [execute, h]
    rfl
  have hsingular : singularBehind bindings [] = some ({} : ExecutionState).singular := rfl
  rw [← ExecutionState.settles_start,
    ExecutionState.settles_run ExecutionState.wellFormed_start hsingular h, hexecute]
  rcases renderParts_cases s.parts with ⟨⟨out, hout⟩, hfilled⟩ | ⟨index, herror, hmem⟩
  · obtain ⟨front, texts, hfront, htexts, rfl⟩ :=
      runDirectives_reads ExecutionState.wellFormed_start hsingular h hout
    cases hfront
    exact .inl ⟨hfilled, texts, htexts, hout⟩
  · exact .inr ⟨fun hfilled => hfilled index hmem, index, herror⟩

/-- A nested list that is run without an error holds directives only. -/
theorem exists_directives_of_foldlM {s s' : ExecutionState} {leaves : List Leaf}
    (h : leaves.foldlM (runLeaf inflect bindings) s = .ok s') :
    ∃ ds : List Directive, leaves = ds.map Leaf.directive := by
  induction leaves generalizing s with
  | nil => exact ⟨[], rfl⟩
  | cons leaf leaves ih =>
      rw [List.foldlM_cons] at h
      obtain ⟨s₁, hstep, hrun⟩ := Except.bind_eq_ok_iff.1 h
      obtain ⟨ds, rfl⟩ := ih hrun
      cases leaf with
      | directive d => exact ⟨d :: ds, rfl⟩
      | stray v =>
          rw [runLeaf, errorWith] at hstep
          split at hstep <;> cases hstep

/-- Two executions end alike: in the same text, in the same error, or in an article without a noun,
whose number may differ. -/
def SameEnding (result result' : Except ExecutionError Text) : Prop :=
  result = result' ∨
    ∃ index index', result = .error (.unfilled index) ∧ result' = .error (.unfilled index')

/-- Two runs that succeed, with hidden articles and without them, end alike unless one of these
takes the noun of a printed article. -/
theorem execute_withoutHidden_of_run {s t : ExecutionState}
    (hs : runDirectives inflect bindings {} ds = .ok s)
    (ht : runDirectives inflect bindings {} (ds.map Directive.withoutHidden) = .ok t) :
    let result := execute inflect bindings ds
    let result' := execute inflect bindings (ds.map Directive.withoutHidden)
    (SameEnding result result' ∧ ¬ (HiddenBetween bindings ds ∧ ∃ out, result' = .ok out)) ∨
      (HiddenBetween bindings ds ∧
        ∃ index out, result = .error (.unfilled index) ∧ result' = .ok out) := by
  intro result result'
  rcases execute_of_run hs with ⟨hpaired, texts, htexts, hout⟩ | ⟨hunpaired, index, herror⟩
  · obtain ⟨hpaired', hnone⟩ := articlesPaired_iff_withoutHidden.1 hpaired
    rcases execute_of_run ht with ⟨-, texts', htexts', hout'⟩ | ⟨hunpaired', -⟩
    · obtain rfl := htexts.withoutHidden.unique htexts'
      exact .inl ⟨.inl (hout.trans hout'.symm), fun h => hnone h.1⟩
    · exact absurd hpaired' hunpaired'
  · rcases execute_of_run ht with ⟨hpaired', texts', -, hout'⟩ | ⟨-, index', herror'⟩
    · have hbetween : HiddenBetween bindings ds := by
        by_contra hnone
        exact hunpaired (articlesPaired_iff_withoutHidden.2 ⟨hpaired', hnone⟩)
      exact .inr ⟨hbetween, index, _, herror, hout'⟩
    · refine .inl ⟨.inr ⟨index, index', herror, herror'⟩, ?_⟩
      rintro ⟨-, out, hout⟩
      cases herror'.symm.trans hout

/-- An article that is not printed stands between one that is and the next noun, in a nested list
as it is walked. -/
def Node.HiddenBetween (bindings : Bindings) (nodes : List Node) : Prop :=
  ∃ ds, walk [nodes] = ds.map Leaf.directive ∧ Agreement.HiddenBetween bindings ds

/-- Of a nested list that holds directives only, the hidden articles are those of the list as it is
walked. -/
theorem Node.hiddenBetween_iff {nodes : List Node} (hwalk : walk [nodes] = ds.map Leaf.directive) :
    Node.HiddenBetween bindings nodes ↔ Agreement.HiddenBetween bindings ds := by
  constructor
  · rintro ⟨ds', hwalk', h⟩
    have heq : ds = ds' := (List.map_inj_right fun _ _ => Leaf.directive.inj).1
      (hwalk.symm.trans hwalk')
    rwa [heq]
  · intro h
    exact ⟨ds, hwalk, h⟩

end Endings

/-- An article that is not printed has no effect, except that it takes the noun of an article that
was printed before it. Without the articles that are not printed an execution ends as it does with
them, unless it then succeeds and one of them stands between a printed article and the next noun:
with them, such an execution reports an article without a noun. -/
theorem executeNodes_withoutHidden (inflect : Inflector) (bindings : Bindings)
    (nodes : List Node) :
    let result := executeNodes inflect bindings nodes
    let result' := executeNodes inflect bindings (Node.allWithoutHidden nodes)
    (SameEnding result result' ∧
        ¬ (Node.HiddenBetween bindings nodes ∧ ∃ out, result' = .ok out)) ∨
      (Node.HiddenBetween bindings nodes ∧
        ∃ index out, result = .error (.unfilled index) ∧ result' = .ok out) := by
  intro result result'
  have hwalk : walk [Node.allWithoutHidden nodes] = (walk [nodes]).map Leaf.withoutHidden :=
    walk_allWithoutHidden [nodes]
  rcases Except.map_eq_map_iff.1 (foldlM_withoutHidden inflect bindings
    (s := {}) (t := {}) rfl (walk [nodes])) with ⟨e, hs, ht⟩ | ⟨s, t, hs, ht, -⟩
  · -- an entry fails, and it does so in both runs
    have hresult : result = .error e := by
      show (_ >>= _) = _
      rw [hs]
      rfl
    have hresult' : result' = .error e := by
      show (_ >>= _) = _
      rw [hwalk, ht]
      rfl
    refine .inl ⟨.inl (hresult.trans hresult'.symm), ?_⟩
    rintro ⟨-, out, hout⟩
    cases hresult'.symm.trans hout
  · obtain ⟨ds, hds⟩ := exists_directives_of_foldlM hs
    have hds' : walk [Node.allWithoutHidden nodes] =
        (ds.map Directive.withoutHidden).map Leaf.directive := by
      rw [hwalk, hds, List.map_map, List.map_map]
      rfl
    rw [hds, foldlM_runLeaf] at hs
    rw [← hwalk, hds', foldlM_runLeaf] at ht
    have hresult : result = execute inflect bindings ds := executeNodes_eq_execute hds
    have hresult' : result' = execute inflect bindings (ds.map Directive.withoutHidden) :=
      executeNodes_eq_execute hds'
    rw [hresult, hresult', Node.hiddenBetween_iff hds]
    exact execute_withoutHidden_of_run hs ht

/-- An article in front of a space, and another one that is not printed in front of the noun. -/
def hiddenOwl : List Node :=
  [.directive (.numeric (.constant 1) { useArticle := true }), .directive (.literal " "),
    .directive (.numeric (.constant 1) { useArticle := true, suppressOutput := true }),
    .directive (.noun (.constant "owl") {})]

/-- The article that is not printed takes the noun, and without it the other one has the noun. -/
theorem executeNodes_hiddenOwl :
    executeNodes (fun _ w => .ok w) [] hiddenOwl = .error (.unfilled 0) ∧
      executeNodes (fun _ w => .ok w) [] (Node.allWithoutHidden hiddenOwl) =
        .ok ("an owl" : Text) := by
  have hwalk : walk [hiddenOwl] = [.directive (.numeric (.constant 1) { useArticle := true }),
      .directive (.literal " "),
      .directive (.numeric (.constant 1) { useArticle := true, suppressOutput := true }),
      .directive (.noun (.constant "owl") {})] := by
    simp [hiddenOwl, walk]
  have hwalk' : walk [Node.allWithoutHidden hiddenOwl] =
      (walk [hiddenOwl]).map Leaf.withoutHidden := walk_allWithoutHidden [hiddenOwl]
  rw [executeNodes, executeNodes, hwalk', hwalk]
  decide +kernel

end Agreement
