import Agreement.Proofs.Template.Reading

/-!
# Pairing of articles with nouns

Which templates find a noun for each of their articles. `ArticlesPaired` says it of the list of
directives alone: behind each article that is printed, a noun comes before another article is
opened. `executeNodes_articles` says that this decides whether an execution succeeds in which no
directive fails by itself, and that each article is then the one of its noun. The invariant of a run
is `ExecutionState.Settles`, which `settles_step` keeps in both directions.
-/

namespace Agreement

namespace Directive

/-- Whether a directive opens an article, printed or not: its number is one and is written as an
article. -/
def opens (bindings : Bindings) : Directive → Bool
  | .numeric source o =>
    (integerOf bindings source).toOption.any fun n => o.opensArticle (o.counted n)
  | _ => false

/-- Whether a directive is a number that is not printed. -/
def isSuppressed : Directive → Bool
  | .numeric _ o => o.suppressOutput
  | _ => false

/-- Whether a directive is a noun. -/
def isNoun : Directive → Bool
  | .noun _ _ => true
  | _ => false

/-- A directive behind others does not fail by itself: what it refers to is bound to a value of its
type, its number can be written as it asks, and its noun has the form that agrees. -/
def Works (inflect : Inflector) (bindings : Bindings) (before : List Directive) :
    Directive → Prop
  | .literal _ => True
  | .variable name => ∃ t, referenceText bindings name = .ok t
  | .numeric source o => ∃ n digits,
      integerOf bindings source = .ok n ∧ writeInteger (o.counted n) = .ok digits ∧
        (o.suppressOutput = false → o.opensArticle (o.counted n) = false →
          o.printsNo (o.counted n) = false → ∃ t, o.numberText (o.counted n) digits = .ok t)
  | .noun source o => ∃ form, readNoun inflect bindings before source o = some form

end Directive

/-- Whether some directives have a noun before any other article is opened. -/
def nounFirst (bindings : Bindings) (ds : List Directive) : Bool :=
  (ds.find? fun d => d.opens bindings || d.isNoun).any Directive.isNoun

/-- Behind each article that is printed a noun comes before any other article is opened. -/
def ArticlesPaired (bindings : Bindings) (ds : List Directive) : Prop :=
  ∀ before d after, ds = before ++ d :: after → d.opens bindings = true →
    d.isSuppressed = false → nounFirst bindings after = true

/-- What holds of each place in a list holds of its first place and of each in the rest. -/
theorem forall_place_cons {α : Type} {P : List α → α → List α → Prop} {a : α} {as : List α} :
    (∀ before b after, a :: as = before ++ b :: after → P before b after) ↔
      P [] a as ∧ ∀ before b after, as = before ++ b :: after → P (a :: before) b after := by
  constructor
  · intro h
    exact ⟨h [] a as rfl, fun before b after heq => h (a :: before) b after (congrArg (a :: ·) heq)⟩
  · rintro ⟨hfirst, hrest⟩ (_ | ⟨first, before⟩) b after heq
    · cases heq
      exact hfirst
    · cases heq
      exact hrest before b after rfl

section Pairing

variable {bindings : Bindings} {d : Directive} {ds : List Directive}

/-- A numeric directive opens an article if its number does. -/
theorem Directive.opens_numeric {source : Source Int} {n : Int}
    (hn : integerOf bindings source = .ok n) (o : NumericOptions) :
    (Directive.numeric source o).opens bindings = o.opensArticle (o.counted n) := by
  simp [opens, hn, Except.toOption_ok]

/-- Only a numeric directive with an integer opens an article. -/
theorem Directive.exists_of_opens (h : d.opens bindings = true) :
    ∃ source o n, d = .numeric source o ∧ integerOf bindings source = .ok n ∧
      o.opensArticle (o.counted n) = true := by
  cases d with
  | numeric source o =>
      cases hn : integerOf bindings source with
      | ok n => exact ⟨source, o, n, rfl, hn, (opens_numeric hn o).symm.trans h⟩
      | error e => simp [opens, hn, Except.toOption] at h
  | _ => cases h

/-- The first directive decides if it opens an article or is a noun. -/
theorem nounFirst_cons : nounFirst bindings (d :: ds) =
    if d.opens bindings || d.isNoun then d.isNoun else nounFirst bindings ds := by
  unfold nounFirst
  rw [List.find?_cons]
  split <;> simp_all

/-- An article that is not printed takes the noun all the same. -/
example : nounFirst []
    [.numeric (.constant 1) { useArticle := true, suppressOutput := true },
      .noun (.constant "owl") {}] = false := rfl

/-- A list is paired if its first article is and the rest of the list is. -/
theorem articlesPaired_cons : ArticlesPaired bindings (d :: ds) ↔
    (d.opens bindings = true → d.isSuppressed = false → nounFirst bindings ds = true) ∧
      ArticlesPaired bindings ds :=
  forall_place_cons

end Pairing

/-- Parts are rendered unless one of them is a slot that is not filled, which is then reported. -/
theorem renderParts_cases (parts : List Part) :
    ((∃ out, renderParts parts = .ok out) ∧ ∀ index, .slot index none ∉ parts) ∨
      ∃ index, renderParts parts = .error (.unfilled index) ∧ .slot index none ∈ parts := by
  fun_induction renderParts parts with
  | case1 => exact .inl ⟨⟨[], rfl⟩, fun _ => List.not_mem_nil⟩
  | case2 t parts ih =>
      rcases ih with ⟨⟨out, hout⟩, hnone⟩ | ⟨index, herror, hmem⟩
      · exact .inl ⟨⟨t ++ out, by rw [hout]; rfl⟩, by simpa using hnone⟩
      · exact .inr ⟨index, by rw [herror]; rfl, List.mem_cons_of_mem _ hmem⟩
  | case3 index' article parts ih =>
      rcases ih with ⟨⟨out, hout⟩, hnone⟩ | ⟨index, herror, hmem⟩
      · exact .inl ⟨⟨article.word ++ out, by rw [hout]; rfl⟩, by simpa using hnone⟩
      · exact .inr ⟨index, by rw [herror]; rfl, List.mem_cons_of_mem _ hmem⟩
  | case4 index parts => exact .inr ⟨index, rfl, List.mem_cons_self⟩

namespace ExecutionState

/-- An article that was printed waits for its noun. -/
def Waits (s : ExecutionState) : Prop :=
  ∃ index, s.pending = some index ∧ .slot index none ∈ s.parts

/-- An article that was printed has lost its noun to another article. -/
def Lost (s : ExecutionState) : Prop :=
  ∃ index, s.pending ≠ some index ∧ .slot index none ∈ s.parts

/-- All articles that were printed find a noun if the run goes on with some directives. -/
def Settles (bindings : Bindings) (s : ExecutionState) (ds : List Directive) : Prop :=
  ¬ s.Lost ∧ (s.Waits → nounFirst bindings ds = true) ∧ ArticlesPaired bindings ds

variable {s s' : ExecutionState}

/-- An unfilled slot waits or is lost. -/
theorem lost_or_waits_iff : s.Lost ∨ s.Waits ↔ ∃ index, .slot index none ∈ s.parts := by
  unfold Lost Waits
  grind

/-- A text leaves the articles alone. -/
theorem settles_emit_text {bindings : Bindings} {ds : List Directive} (singular : Bool)
    (t : Text) :
    ({ s with singular }.emit (.text t)).Settles bindings ds ↔ s.Settles bindings ds := by
  simp [Settles, Lost, Waits, emit]

/-- An article that is opened but not printed does not wait. -/
theorem WellFormed.not_waits_openArticle (hs : s.WellFormed) (singular : Bool) :
    ¬ ({ s with singular } : ExecutionState).openArticle.Waits := by
  rintro ⟨index, hpending, hmem⟩
  cases hpending
  exact Nat.lt_irrefl _ (hs.lt_opened s.opened none hmem)

/-- An article that is opened takes the place of any that waits. -/
theorem WellFormed.lost_openArticle (hs : s.WellFormed) (singular : Bool) :
    ({ s with singular } : ExecutionState).openArticle.Lost ↔ s.Lost ∨ s.Waits := by
  rw [lost_or_waits_iff]
  refine exists_congr fun index => and_iff_right_of_imp fun hmem hpending => ?_
  cases hpending
  exact Nat.lt_irrefl _ (hs.lt_opened s.opened none hmem)

/-- An article that is printed waits. -/
theorem waits_article (singular : Bool) :
    (({ s with singular } : ExecutionState).openArticle.emit (.slot s.opened none)).Waits :=
  ⟨s.opened, rfl, by simp [emit]⟩

/-- An article that is printed takes the place of any that waits. -/
theorem WellFormed.lost_article (hs : s.WellFormed) (singular : Bool) :
    (({ s with singular } : ExecutionState).openArticle.emit (.slot s.opened none)).Lost ↔
      s.Lost ∨ s.Waits := by
  rw [← hs.lost_openArticle singular]
  refine exists_congr fun index => and_congr_right fun hne => ?_
  have hindex : index ≠ s.opened := fun heq => hne (congrArg some heq.symm)
  simp [emit, hindex]

/-- The slots that stay unfilled behind a noun are the others. -/
theorem slot_none_mem_map_fill {parts : List Part} {index index' : Nat} {article : Article} :
    .slot index' none ∈ parts.map (Part.fill index article) ↔
      .slot index' none ∈ parts ∧ index' ≠ index := by
  induction parts with
  | nil => simp
  | cons part parts ih =>
      cases part with
      | text t => simp [Part.fill, ih]
      | slot i content =>
          by_cases hi : i = index <;> simp [Part.fill, hi, ih] <;> grind

/-- Behind a noun no article waits. -/
theorem not_waits_noun (form : Text) : ¬ ((s.emit (.text form)).fillArticle form).Waits := by
  rintro ⟨index, hpending, -⟩
  cases hs : s.pending <;> simp [fillArticle, emit, hs] at hpending

/-- A noun loses no article. -/
theorem lost_noun (form : Text) : ((s.emit (.text form)).fillArticle form).Lost ↔ s.Lost := by
  cases hs : s.pending with
  | none => simp [Lost, fillArticle, emit, hs]
  | some index =>
      refine exists_congr fun index' => ?_
      simp [fillArticle, emit, hs, slot_none_mem_map_fill, Part.fill, and_comm, eq_comm]

/-- A number is counted if it can be written as it asks. -/
theorem countNumber_eq_ok (s : ExecutionState) {o : NumericOptions} {n : Int} {digits : Text}
    (hdigits : writeInteger n = .ok digits)
    (ht : o.suppressOutput = false → o.opensArticle n = false → o.printsNo n = false →
      ∃ t, o.numberText n digits = .ok t) : ∃ s', s.countNumber o n = .ok s' := by
  rw [countNumber, hdigits]
  cases hsuppress : o.suppressOutput with
  | true => exact ⟨_, rfl⟩
  | false =>
      cases harticle : o.opensArticle n with
      | true => exact ⟨_, rfl⟩
      | false =>
          cases hno : o.printsNo n with
          | true => exact ⟨_, rfl⟩
          | false =>
              obtain ⟨t, ht⟩ := ht hsuppress harticle hno
              exact ⟨_, Except.bind_eq_ok_iff.2 ⟨digits, rfl, by simp [ht]; rfl⟩⟩

variable {inflect : Inflector} {bindings : Bindings} {d : Directive} {ds : List Directive}

/-- A directive that works is run. -/
theorem runDirective_eq_ok {before : List Directive} (hd : d.Works inflect bindings before)
    (hsingular : singularBehind bindings before = some s.singular) :
    ∃ s', runDirective inflect bindings s d = .ok s' := by
  cases d with
  | literal t => exact ⟨_, rfl⟩
  | «variable» name =>
      obtain ⟨t, ht⟩ := hd
      exact ⟨s.emit (.text t), Except.map_eq_ok_iff.2 ⟨t, ht, rfl⟩⟩
  | numeric source o =>
      obtain ⟨n, digits, hn, hdigits, ht⟩ := hd
      obtain ⟨s', hs'⟩ := s.countNumber_eq_ok hdigits ht
      exact ⟨s', Except.bind_eq_ok_iff.2 ⟨n, hn, Except.mapError_eq_ok_iff.2 hs'⟩⟩
  | noun source o =>
      obtain ⟨form, hform⟩ := hd
      simp only [readNoun, hsingular, Option.bind_eq_bind, Option.bind_eq_some_iff,
        Except.toOption_eq_some_iff, Option.some.injEq] at hform
      obtain ⟨w, hw, _, rfl, hform⟩ := hform
      rw [← NounOptions.form_eq_agreeing] at hform
      have hprint : s.printNoun inflect o w = .ok ((s.emit (.text form)).fillArticle form) :=
        Except.bind_eq_ok_iff.2 ⟨form, hform, rfl⟩
      exact ⟨_, Except.bind_eq_ok_iff.2 ⟨w, hw, Except.mapError_eq_ok_iff.2 hprint⟩⟩

/-- A directive that is neither an article nor a noun leaves the articles alone. -/
theorem settles_cons_of_other (hopens : d.opens bindings = false) (hnoun : d.isNoun = false) :
    s.Settles bindings (d :: ds) ↔ s.Settles bindings ds := by
  simp [Settles, articlesPaired_cons, nounFirst_cons, hopens, hnoun]

/-- An article may be opened if none waits, and needs a noun if it is printed. -/
theorem settles_cons_of_opens (hopens : d.opens bindings = true) (hnoun : d.isNoun = false) :
    s.Settles bindings (d :: ds) ↔
      ¬ (s.Lost ∨ s.Waits) ∧ (d.isSuppressed = false → nounFirst bindings ds = true) ∧
        ArticlesPaired bindings ds := by
  simp [Settles, articlesPaired_cons, nounFirst_cons, hopens, hnoun, and_assoc]

/-- A noun settles the article that waits. -/
theorem settles_cons_noun (source : Source Text) (o : NounOptions) :
    s.Settles bindings (.noun source o :: ds) ↔ ¬ s.Lost ∧ ArticlesPaired bindings ds := by
  simp [Settles, articlesPaired_cons, nounFirst_cons, Directive.opens, Directive.isNoun]

/-- At the start all articles find a noun if they are paired. -/
theorem settles_start :
    ({} : ExecutionState).Settles bindings ds ↔ ArticlesPaired bindings ds := by
  simp [Settles, Lost, Waits]

/-- A step keeps whether all articles find a noun. -/
theorem settles_step (hs : s.WellFormed) (h : runDirective inflect bindings s d = .ok s') :
    s.Settles bindings (d :: ds) ↔ s'.Settles bindings ds := by
  cases d with
  | literal t =>
      cases h
      rw [settles_cons_of_other rfl rfl]
      exact (settles_emit_text s.singular t).symm
  | «variable» name =>
      obtain ⟨t, -, rfl⟩ := Except.map_eq_ok_iff.1 h
      rw [settles_cons_of_other rfl rfl]
      exact (settles_emit_text s.singular t).symm
  | numeric source o =>
      obtain ⟨n, hn, hcount⟩ := Except.bind_eq_ok_iff.1 h
      have hopens := Directive.opens_numeric hn o
      cases countStep_of_countNumber (Except.mapError_eq_ok_iff.1 hcount) with
      | hiddenArticle hsuppress harticle =>
          rw [settles_cons_of_opens (hopens.trans harticle) rfl, Settles, hs.lost_openArticle]
          simp [Directive.isSuppressed, hsuppress, hs.not_waits_openArticle]
      | hidden hsuppress harticle =>
          rw [settles_cons_of_other (hopens.trans harticle) rfl]
          rfl
      | article hsuppress harticle =>
          rw [settles_cons_of_opens (hopens.trans harticle) rfl, Settles, hs.lost_article]
          simp [Directive.isSuppressed, hsuppress, waits_article]
      | no hsuppress harticle hno =>
          rw [settles_cons_of_other (hopens.trans harticle) rfl]
          exact (settles_emit_text _ _).symm
      | number hsuppress harticle hno hdigits ht =>
          rw [settles_cons_of_other (hopens.trans harticle) rfl]
          exact (settles_emit_text _ _).symm
  | noun source o =>
      obtain ⟨w, hw, hprint⟩ := Except.bind_eq_ok_iff.1 h
      obtain ⟨form, hform, hfill⟩ := Except.bind_eq_ok_iff.1 (Except.mapError_eq_ok_iff.1 hprint)
      cases hfill
      rw [settles_cons_noun, Settles, lost_noun]
      simp [not_waits_noun]

/-- Behind all directives the articles have found their nouns if every slot is filled. -/
theorem settles_nil : s.Settles bindings [] ↔ ∀ index, .slot index none ∉ s.parts := by
  have hpaired : ArticlesPaired bindings [] := fun before d after heq => absurd heq (by simp)
  have hfirst : nounFirst bindings [] = false := rfl
  rw [← not_exists, ← lost_or_waits_iff]
  simp [Settles, hpaired, hfirst]

/-- A run of directives that work reaches a state, in which every slot is filled exactly if the
articles find their nouns. -/
theorem runDirectives_settles {before : List Directive} (hs : s.WellFormed)
    (hsingular : singularBehind bindings before = some s.singular)
    (hworks : ∀ mid d after, ds = mid ++ d :: after → d.Works inflect bindings (before ++ mid)) :
    ∃ s', runDirectives inflect bindings s ds = .ok s' ∧
      (s.Settles bindings ds ↔ ∀ index, .slot index none ∉ s'.parts) := by
  induction ds generalizing s before with
  | nil => exact ⟨s, rfl, settles_nil⟩
  | cons d ds ih =>
      obtain ⟨hfirst, hrest⟩ := forall_place_cons.1 hworks
      obtain ⟨s₁, hstep⟩ := runDirective_eq_ok (by simpa using hfirst) hsingular
      obtain ⟨hsingular₁, hprints⟩ := prints_reading hs hsingular hstep ds
      obtain ⟨s', hrun, hiff⟩ := ih hprints.wellFormed hsingular₁ fun mid d' after heq => by
        simpa using hrest mid d' after heq
      exact ⟨s', Except.bind_eq_ok_iff.2 ⟨s₁, hstep, hrun⟩, (settles_step hs hstep).trans hiff⟩

end ExecutionState

section Articles

variable {inflect : Inflector} {bindings : Bindings} {ds : List Directive}

/-- If every directive works, an execution gives a text or reports an article without a noun, and
the list of directives decides which. -/
theorem execute_cases
    (hworks : ∀ before d after, ds = before ++ d :: after → d.Works inflect bindings before) :
    ((∃ out, execute inflect bindings ds = .ok out) ∧ ArticlesPaired bindings ds) ∨
      ((∃ index, execute inflect bindings ds = .error (.unfilled index)) ∧
        ¬ ArticlesPaired bindings ds) := by
  have hsingular : singularBehind bindings [] = some ({} : ExecutionState).singular := rfl
  obtain ⟨s, hrun, hiff⟩ :=
    ExecutionState.runDirectives_settles ExecutionState.wellFormed_start hsingular hworks
  have hexecute : execute inflect bindings ds = renderParts s.parts := by
    rw [execute, hrun]
    rfl
  rw [hexecute, ← ExecutionState.settles_start, hiff]
  refine (renderParts_cases s.parts).imp id ?_
  rintro ⟨index, herror, hmem⟩
  exact ⟨⟨index, herror⟩, fun hnone => hnone index hmem⟩

/-- The article ahead is that of the next noun. -/
theorem articleAhead_append_noun {mid : List Directive} (hmid : ∀ d ∈ mid, d.isNoun = false)
    (before : List Directive) (source : Source Text) (o : NounOptions) (after : List Directive) :
    articleAhead inflect bindings before (mid ++ .noun source o :: after) =
      (readNoun inflect bindings (before ++ mid) source o).map Article.ofPhrase := by
  induction mid generalizing before with
  | nil => rw [List.nil_append, articleAhead, List.append_nil]
  | cons d mid ih =>
      have hrest := ih (fun d' hd' => hmid d' (List.mem_cons_of_mem _ hd')) (before ++ [d])
      have hd : d.isNoun = false := hmid d List.mem_cons_self
      cases d with
      | noun source' o' => cases hd
      | _ => simpa [articleAhead] using hrest

/-- The noun that comes before any other article is opened. -/
theorem exists_noun_of_nounFirst (h : nounFirst bindings ds = true) :
    ∃ mid source o rest, ds = mid ++ .noun source o :: rest ∧
      ∀ d ∈ mid, d.opens bindings = false ∧ d.isNoun = false := by
  unfold nounFirst at h
  rw [Option.any_eq_true] at h
  obtain ⟨d, hfind, hd⟩ := h
  obtain ⟨-, mid, rest, rfl, hmid⟩ := List.find?_eq_some_iff_append.1 hfind
  cases d with
  | noun source o => exact ⟨mid, source, o, rest, rfl, by simpa using hmid⟩
  | _ => cases hd

/-- Among the texts of a list, the one of an article directive is right: nothing if it is
suppressed, and otherwise the article of the text of the noun that comes before any other article is
opened. -/
def PrintsArticle (bindings : Bindings) (texts : List Text) (before : List Directive)
    (d : Directive) (after : List Directive) : Prop :=
  if d.isSuppressed then texts[before.length]? = some []
  else ∃ mid source o rest form, after = mid ++ .noun source o :: rest ∧
    (∀ d' ∈ mid, d'.opens bindings = false ∧ d'.isNoun = false) ∧
      texts[before.length + 1 + mid.length]? = some form ∧
        texts[before.length]? = some (Article.ofPhrase form).word

/-- An article that is not printed is read as nothing. -/
theorem reading_suppressed {before after : List Directive} {d : Directive}
    (hopens : d.opens bindings = true) (hsuppress : d.isSuppressed = true) :
    reading inflect bindings before d after = some [] := by
  obtain ⟨source, o, n, rfl, hn, -⟩ := Directive.exists_of_opens hopens
  have hown : o.ownText (o.counted n) = some [] := if_pos hsuppress
  have hsuppress : o.suppressOutput = true := hsuppress
  simp [reading, hn, hsuppress, hown, Except.toOption_ok]

/-- An article that is printed is read as the one ahead. -/
theorem reading_article {before after : List Directive} {d : Directive}
    (hopens : d.opens bindings = true) (hsuppress : d.isSuppressed = false) :
    reading inflect bindings before d after =
      (articleAhead inflect bindings (before ++ [d]) after).map Article.word := by
  obtain ⟨source, o, n, rfl, hn, harticle⟩ := Directive.exists_of_opens hopens
  have hsuppress : o.suppressOutput = false := hsuppress
  simp [reading, hn, hsuppress, harticle, Except.toOption_ok]

/-- Articles that are read are those of their nouns. -/
theorem ReadAs.printsArticle {texts : List Text} (h : ReadAs inflect bindings [] ds texts)
    (hpaired : ArticlesPaired bindings ds) {before after : List Directive} {d : Directive}
    (heq : ds = before ++ d :: after) (hopens : d.opens bindings = true) :
    PrintsArticle bindings texts before d after := by
  have hread := h.text_eq before d after heq
  unfold PrintsArticle
  split
  · next hsuppress => rw [hread, List.nil_append, reading_suppressed hopens hsuppress]
  · next hsuppress =>
      have hsuppress : d.isSuppressed = false := Bool.eq_false_iff.2 hsuppress
      obtain ⟨mid, source, o, rest, rfl, hmid⟩ :=
        exists_noun_of_nounFirst (hpaired _ _ _ heq hopens hsuppress)
      have hlength : (before ++ d :: mid).length = before.length + 1 + mid.length := by
        simp; omega
      -- the noun has a text, since every directive of the list has one
      have hlt : before.length + 1 + mid.length < texts.length := by
        simp [h.length_eq, heq]; omega
      have hform := List.getElem?_eq_getElem hlt
      have hnoun := h.text_eq (before ++ d :: mid) (.noun source o) rest (by simp [heq])
      rw [hlength, hform, List.nil_append] at hnoun
      refine ⟨mid, source, o, rest, _, rfl, hmid, hform, ?_⟩
      rw [hread, List.nil_append, reading_article hopens hsuppress,
        articleAhead_append_noun fun d' hd' => (hmid d' hd').2, List.append_assoc,
        List.singleton_append, show readNoun inflect bindings _ source o = _ from hnoun.symm]
      rfl

/-- A list that is not nested is run as it stands. -/
theorem foldlM_runLeaf (s : ExecutionState) (ds : List Directive) :
    (ds.map Leaf.directive).foldlM (runLeaf inflect bindings) s =
      runDirectives inflect bindings s ds := by
  induction ds generalizing s with
  | nil => rfl
  | cons d ds ih =>
      rw [List.map_cons, List.foldlM_cons, runDirectives]
      exact bind_congr ih

/-- A flat list is walked as it stands. -/
theorem walk_map_directive (ds : List Directive) :
    walk [ds.map Node.directive] = ds.map Leaf.directive := by
  induction ds with
  | nil => simp [walk]
  | cons d ds ih => rw [List.map_cons, walk, ih, List.map_cons]

/-- A nested list of directives is executed as the list that it is walked as. -/
theorem executeNodes_eq_execute {nodes : List Node}
    (hwalk : walk [nodes] = ds.map Leaf.directive) :
    executeNodes inflect bindings nodes = execute inflect bindings ds := by
  rw [executeNodes, hwalk, foldlM_runLeaf, execute]

/-- A flat list of directives is executed as it stands. -/
theorem executeNodes_map_directive (ds : List Directive) :
    executeNodes inflect bindings (ds.map Node.directive) = execute inflect bindings ds :=
  executeNodes_eq_execute (walk_map_directive ds)

end Articles

/-- Articles are paired with nouns. If no directive fails by itself, an execution succeeds exactly
if behind each article that is printed a noun comes before any other article is opened. Its output
then consists of the texts of the directives, in which each article is that of its noun; and
otherwise an article without a noun is reported. -/
theorem executeNodes_articles {inflect : Inflector} {bindings : Bindings} {nodes : List Node}
    {ds : List Directive} (hwalk : walk [nodes] = ds.map Leaf.directive)
    (hworks : ∀ before d after, ds = before ++ d :: after → d.Works inflect bindings before) :
    ((∃ out, executeNodes inflect bindings nodes = .ok out) ↔ ArticlesPaired bindings ds) ∧
      (∀ out, executeNodes inflect bindings nodes = .ok out →
        ∃ texts : List Text, out = texts.flatten ∧ texts.length = ds.length ∧
          ∀ before d after, ds = before ++ d :: after →
            texts[before.length]? = reading inflect bindings before d after ∧
              (d.opens bindings = true → PrintsArticle bindings texts before d after)) ∧
        (¬ ArticlesPaired bindings ds →
          ∃ index, executeNodes inflect bindings nodes = .error (.unfilled index)) := by
  rw [executeNodes_eq_execute hwalk]
  rcases execute_cases hworks with ⟨hout, hpaired⟩ | ⟨⟨index, herror⟩, hpaired⟩
  · refine ⟨iff_of_true hout hpaired, fun out h => ?_, fun hnot => absurd hpaired hnot⟩
    obtain ⟨s, hrun, hrender⟩ := Except.bind_eq_ok_iff.1 h
    have hsingular : singularBehind bindings [] = some ({} : ExecutionState).singular := rfl
    obtain ⟨front, texts, hfront, htexts, rfl⟩ :=
      runDirectives_reads ExecutionState.wellFormed_start hsingular hrun hrender
    cases hfront
    exact ⟨texts, rfl, htexts.length_eq, fun before d after heq =>
      ⟨htexts.text_eq before d after heq, htexts.printsArticle hpaired heq⟩⟩
  · rw [herror]
    exact ⟨iff_of_false (by simp) hpaired, fun out h => by simp at h, fun _ => ⟨index, rfl⟩⟩

/-- A nested list with an article that is not printed, and one that is. -/
def nestedOwls : List Node :=
  [.directive (.numeric (.constant 1) { useArticle := true, suppressOutput := true }),
    .directive (.noun (.variable "bird") {}),
    .sequence [.directive (.literal " and "),
      .directive (.numeric (.constant 0) { useArticle := true, increment := true }),
      .sequence [.directive (.literal " ")]],
    .directive (.noun (.variable "bird") {})]

/-- The nested list as it is walked. -/
def walkedOwls : List Directive :=
  [.numeric (.constant 1) { useArticle := true, suppressOutput := true },
    .noun (.variable "bird") {}, .literal " and ",
    .numeric (.constant 0) { useArticle := true, increment := true }, .literal " ",
    .noun (.variable "bird") {}]

/-- The list is paired, and its texts are right. -/
theorem executeNodes_articles_owls :
    ArticlesPaired [("bird", .text "owl")] walkedOwls ∧
      ∃ texts : List Text, ("owl and an owl" : Text) = texts.flatten ∧
        texts.length = walkedOwls.length ∧
          ∀ before d after, walkedOwls = before ++ d :: after →
            texts[before.length]? = reading (fun _ w => .ok w) [("bird", .text "owl")]
                before d after ∧
              (d.opens [("bird", .text "owl")] = true →
                PrintsArticle [("bird", .text "owl")] texts before d after) := by
  have hwalk : walk [nestedOwls] = walkedOwls.map Leaf.directive := by
    simp [nestedOwls, walkedOwls, walk]
  have hworks : ∀ before d after, walkedOwls = before ++ d :: after →
      d.Works (fun _ w => .ok w) [("bird", .text "owl")] before := by
    unfold walkedOwls
    simp only [forall_place_cons]
    exact ⟨⟨1, "1", rfl, by decide +kernel, fun h => absurd h (by decide)⟩,
      ⟨"owl", by decide +kernel⟩, trivial,
      ⟨0, "1", rfl, by decide +kernel, fun _ h => absurd h (by decide)⟩, trivial,
      ⟨"owl", by decide +kernel⟩, fun _ _ _ h => absurd h (by simp)⟩
  have hout : executeNodes (fun _ w => .ok w) [("bird", .text "owl")] nestedOwls =
      .ok ("owl and an owl" : Text) := by
    rw [executeNodes_eq_execute hwalk]
    decide +kernel
  have harticles := executeNodes_articles hwalk hworks
  exact ⟨harticles.1.1 ⟨_, hout⟩, harticles.2.1 _ hout⟩

end Agreement
