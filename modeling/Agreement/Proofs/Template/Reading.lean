import Agreement.Proofs.Template.Slots

/-!
# Reading directives without a state

What each directive of a list prints, told from the list alone. A noun looks back for the last
numeric directive, and an article looks ahead for the next noun. The main theorem, `execute_reads`,
says that an execution that succeeds prints these texts one behind the other. `runDirectives_reads`
says it of the rest of a list, behind a state whose waiting article is the next noun's.
-/

namespace Agreement

/-- The integer of a numeric directive with its options. -/
def Directive.numeric? : Directive → Option (Source Int × NumericOptions)
  | .numeric source o => some (source, o)
  | _ => none

namespace NumericOptions

/-- Whether a number is singular: one, zero if it counts as singular, and any number that is printed
as an ordinal. -/
def isSingular (o : NumericOptions) (n : Int) : Bool :=
  n == 1 || (n == 0 && o.singularZero) ||
    (!o.suppressOutput && o.ordinalForm && n < o.ordinalThreshold && !o.printsNo n &&
      !o.opensArticle n)

/-- What is printed for a number that is not printed as an article. -/
def ownText (o : NumericOptions) (n : Int) : Option Text :=
  if o.suppressOutput then some []
  else if o.printsNo n then some ("no" : Text)
  else ((writeInteger n).bind (o.numberText n)).toOption

end NumericOptions

/-- The form of a noun next to a number that is singular or not. -/
def NounOptions.agreeing (o : NounOptions) (singular : Bool) : NounForm :=
  if !o.forcePlural && (o.forceSingular || singular) then .singular
  else if o.classical then .classicalPlural
  else .plural

section Reading

variable (inflect : Inflector) (bindings : Bindings)

/-- Whether nouns are singular behind some directives, which the last numeric directive decides. -/
def singularBehind (before : List Directive) : Option Bool :=
  match (before.filterMap Directive.numeric?).getLast? with
  | none => some false
  | some (source, o) => (integerOf bindings source).toOption.map fun n => o.isSingular (o.counted n)

/-- What a noun directive prints behind some directives. -/
def readNoun (before : List Directive) (source : Source Text) (o : NounOptions) : Option Text := do
  let w ← (wordOf bindings source).toOption
  let singular ← singularBehind bindings before
  (inflect (o.agreeing singular) w).toOption

/-- The article of the first noun in the directives behind others. -/
def articleAhead : (before after : List Directive) → Option Article
  | _, [] => none
  | before, .noun source o :: _ =>
    (readNoun inflect bindings before source o).map Article.ofPhrase
  | before, d :: after => articleAhead (before ++ [d]) after

/-- What a directive prints between others. -/
def reading (before : List Directive) (d : Directive) (after : List Directive) : Option Text :=
  match d with
  | .literal t => some t
  | .variable name => (referenceText bindings name).toOption
  | .numeric source o => do
    let n ← (integerOf bindings source).toOption
    if !o.suppressOutput && o.opensArticle (o.counted n) then
      (articleAhead inflect bindings (before ++ [d]) after).map Article.word
    else o.ownText (o.counted n)
  | .noun source o => readNoun inflect bindings before source o

end Reading

/-- A number that is not singular by its value is singular only as an ordinal. -/
theorem NumericOptions.isSingular_eq (o : NumericOptions) (n : Int) :
    o.isSingular n = (o.countsSingular n ||
      (!o.suppressOutput && !o.opensArticle n && !o.printsNo n && o.isOrdinal n)) := by
  unfold isSingular countsSingular isOrdinal
  grind

/-- The form of a noun is the one that agrees. -/
theorem NounOptions.form_eq_agreeing (o : NounOptions) (singular : Bool) :
    o.form singular = o.agreeing singular := by
  rcases o with ⟨classical, forcePlural, forceSingular⟩
  cases classical <;> cases forcePlural <;> cases forceSingular <;> cases singular <;> rfl

/-- What a numeric directive does: it decides whether nouns are singular, and prints an article or
its own text. -/
theorem ExecutionState.WellFormed.prints_countNumber {s s' : ExecutionState} (hs : s.WellFormed)
    {o : NumericOptions} {n : Int} (h : s.countNumber o n = .ok s') (ahead : Option Article) :
    s'.singular = o.isSingular n ∧
      s.Prints s' ahead ahead
        (if !o.suppressOutput && o.opensArticle n then ahead.map Article.word
          else o.ownText n) := by
  rw [NumericOptions.isSingular_eq]
  cases ExecutionState.countStep_of_countNumber h with
  | hiddenArticle hsuppress harticle =>
      have hown : o.ownText n = some [] := if_pos hsuppress
      refine ⟨by simp [hsuppress], ?_⟩
      simpa [hsuppress, hown] using hs.prints_openArticle _
  | hidden hsuppress harticle =>
      have hown : o.ownText n = some [] := if_pos hsuppress
      refine ⟨by simp [hsuppress], ?_⟩
      simpa [hsuppress, hown] using hs.prints_nothing _
  | article hsuppress harticle =>
      refine ⟨by simp [harticle], ?_⟩
      simpa [hsuppress, harticle] using hs.prints_article _
  | no hsuppress harticle hno =>
      have hown : o.ownText n = some ("no" : Text) := by
        rw [NumericOptions.ownText, if_neg (by simp [hsuppress]), if_pos hno]
      refine ⟨by simp [hno], ?_⟩
      simpa [harticle, hown] using hs.prints_text _ _
  | @number digits t hsuppress harticle hno hdigits ht =>
      have hown : o.ownText n = some t := by
        rw [NumericOptions.ownText, if_neg (by simp [hsuppress]), if_neg (by simp [hno]), hdigits]
        exact congrArg Except.toOption ht
      refine ⟨by simp [hsuppress, harticle, hno], ?_⟩
      simpa [harticle, hown] using hs.prints_text _ _

section Reading

variable {inflect : Inflector} {bindings : Bindings}

/-- A numeric directive decides whether nouns are singular behind it. -/
theorem singularBehind_numeric {source : Source Int} {n : Int}
    (hn : integerOf bindings source = .ok n) (before : List Directive) (o : NumericOptions) :
    singularBehind bindings (before ++ [.numeric source o]) =
      some (o.isSingular (o.counted n)) := by
  simp [singularBehind, Directive.numeric?, hn, Except.toOption_ok]

/-- Other directives do not decide whether nouns are singular. -/
theorem singularBehind_append {d : Directive} (hd : d.numeric? = none) (before : List Directive) :
    singularBehind bindings (before ++ [d]) = singularBehind bindings before := by
  simp [singularBehind, hd]

/-- A directive prints its reading, and behind it nouns are singular if the reading says so. -/
theorem prints_reading {s s' : ExecutionState} {before : List Directive} {d : Directive}
    (hs : s.WellFormed) (hsingular : singularBehind bindings before = some s.singular)
    (h : runDirective inflect bindings s d = .ok s') (after : List Directive) :
    singularBehind bindings (before ++ [d]) = some s'.singular ∧
      s.Prints s' (articleAhead inflect bindings before (d :: after))
        (articleAhead inflect bindings (before ++ [d]) after)
        (reading inflect bindings before d after) := by
  cases d with
  | literal t =>
      cases h
      exact ⟨(singularBehind_append rfl before).trans hsingular, hs.prints_text s.singular t⟩
  | «variable» name =>
      obtain ⟨t, ht, rfl⟩ := Except.map_eq_ok_iff.1 h
      have hreading : reading inflect bindings before (.variable name) after = some t :=
        congrArg Except.toOption ht
      rw [hreading]
      exact ⟨(singularBehind_append rfl before).trans hsingular, hs.prints_text s.singular t⟩
  | numeric source o =>
      obtain ⟨n, hn, hcount⟩ := Except.bind_eq_ok_iff.1 h
      have hprints (ahead : Option Article) :=
        hs.prints_countNumber (Except.mapError_eq_ok_iff.1 hcount) ahead
      have hreading : reading inflect bindings before (.numeric source o) after =
          if !o.suppressOutput && o.opensArticle (o.counted n) then
            (articleAhead inflect bindings (before ++ [.numeric source o]) after).map Article.word
          else o.ownText (o.counted n) := by
        rw [reading, hn]
        rfl
      rw [hreading]
      exact ⟨(singularBehind_numeric hn before o).trans (congrArg some (hprints none).1.symm),
        (hprints _).2⟩
  | noun source o =>
      obtain ⟨w, hw, hprint⟩ := Except.bind_eq_ok_iff.1 h
      obtain ⟨form, hform, hfill⟩ := Except.bind_eq_ok_iff.1 (Except.mapError_eq_ok_iff.1 hprint)
      have hread : readNoun inflect bindings before source o = some form := by
        rw [NounOptions.form_eq_agreeing] at hform
        simp [readNoun, hw, hsingular, hform, Except.toOption_ok]
      cases hfill
      refine ⟨?_, ?_⟩
      · rw [singularBehind_append rfl, hsingular]
        simp
      · rw [articleAhead, reading, hread]
        exact hs.prints_noun form

/-- A run from a state behind some directives ends in a state behind all of them: nouns are singular
if the last numeric directive says so. -/
theorem singularBehind_of_runDirectives {s s' : ExecutionState} {before ds : List Directive}
    (hs : s.WellFormed) (hsingular : singularBehind bindings before = some s.singular)
    (h : runDirectives inflect bindings s ds = .ok s') :
    singularBehind bindings (before ++ ds) = some s'.singular := by
  induction ds generalizing s before with
  | nil =>
      cases h
      rw [List.append_nil, hsingular]
  | cons d ds ih =>
      obtain ⟨s₁, hstep, hrun⟩ := Except.bind_eq_ok_iff.1 h
      obtain ⟨hsingular₁, hprints⟩ := prints_reading hs hsingular hstep ds
      rw [← List.singleton_append, ← List.append_assoc]
      exact ih hprints.wellFormed hsingular₁ hrun

/-- The texts that some directives print behind others. -/
structure ReadAs (inflect : Inflector) (bindings : Bindings) (before ds : List Directive)
    (texts : List Text) : Prop where
  length_eq : texts.length = ds.length
  text_eq : ∀ mid d after, ds = mid ++ d :: after →
    texts[mid.length]? = reading inflect bindings (before ++ mid) d after

/-- A directive in front of others that are read. -/
theorem ReadAs.cons {before ds : List Directive} {d : Directive} {t : Text} {texts : List Text}
    (ht : reading inflect bindings before d ds = some t)
    (h : ReadAs inflect bindings (before ++ [d]) ds texts) :
    ReadAs inflect bindings before (d :: ds) (t :: texts) where
  length_eq := congrArg Nat.succ h.length_eq
  text_eq := by
    rintro (_ | ⟨first, mid⟩) d' after heq
    · cases heq
      rw [List.append_nil, ht]
      rfl
    · cases heq
      have hmid := h.text_eq mid d' after rfl
      rw [List.append_assoc] at hmid
      exact hmid

/-- A directive that is read in front of others, and the others behind it. -/
theorem ReadAs.exists_cons {before ds : List Directive} {d : Directive} {texts : List Text}
    (h : ReadAs inflect bindings before (d :: ds) texts) :
    ∃ t rest, texts = t :: rest ∧ reading inflect bindings before d ds = some t ∧
      ReadAs inflect bindings (before ++ [d]) ds rest := by
  have hlength := h.length_eq
  cases texts with
  | nil => cases hlength
  | cons t rest =>
      have hfirst := h.text_eq [] d ds rfl
      rw [List.append_nil] at hfirst
      refine ⟨t, rest, rfl, hfirst.symm, Nat.succ.inj hlength, fun mid d' after heq => ?_⟩
      have hmid := h.text_eq (d :: mid) d' after (congrArg (d :: ·) heq)
      rw [List.append_assoc, List.singleton_append]
      exact hmid

/-- Each directive of a list with texts can be read. -/
theorem ReadAs.exists_reading {before mid after : List Directive} {d : Directive}
    {texts : List Text} (h : ReadAs inflect bindings before (mid ++ d :: after) texts) :
    ∃ t, reading inflect bindings (before ++ mid) d after = some t := by
  have hlt : mid.length < texts.length := by
    rw [h.length_eq, List.length_append, List.length_cons]
    omega
  rw [← h.text_eq mid d after rfl, List.getElem?_eq_getElem hlt]
  exact ⟨_, rfl⟩

/-- The texts of some directives are determined. -/
theorem ReadAs.unique {before ds : List Directive} {texts texts' : List Text}
    (h : ReadAs inflect bindings before ds texts) (h' : ReadAs inflect bindings before ds texts') :
    texts = texts' := by
  induction ds generalizing before texts texts' with
  | nil => rw [List.eq_nil_of_length_eq_zero h.length_eq,
      List.eq_nil_of_length_eq_zero h'.length_eq]
  | cons d ds ih =>
      obtain ⟨t, rest, rfl, ht, hrest⟩ := h.exists_cons
      obtain ⟨t', rest', rfl, ht', hrest'⟩ := h'.exists_cons
      rw [Option.some.inj (ht.symm.trans ht'), ih hrest hrest']

/-- A run from a state behind some directives prints the readings of the others behind what the
state has printed. -/
theorem runDirectives_reads {s s' : ExecutionState} {before ds : List Directive} {out : Text}
    (hs : s.WellFormed) (hsingular : singularBehind bindings before = some s.singular)
    (h : runDirectives inflect bindings s ds = .ok s') (hout : renderParts s'.parts = .ok out) :
    ∃ front texts,
      renderParts (s.resolved (articleAhead inflect bindings before ds)) = .ok front ∧
        ReadAs inflect bindings before ds texts ∧ out = front ++ texts.flatten := by
  induction ds generalizing s before with
  | nil =>
      cases h
      -- at the end no slot is left to fill, so the article ahead does not matter
      refine ⟨out, [], ?_, ⟨rfl, ?_⟩, (List.append_nil out).symm⟩
      · rw [hs.resolved_eq hout, hout]
      · intro mid d after heq
        exact absurd heq.symm (by simp)
  | cons d ds ih =>
      obtain ⟨s₁, hstep, hrun⟩ := Except.bind_eq_ok_iff.1 h
      obtain ⟨hsingular₁, hprints⟩ := prints_reading hs hsingular hstep ds
      -- the output falls apart from its end: first the later texts, then that of `d`
      obtain ⟨front₁, texts, hfront₁, htexts, rfl⟩ := ih hprints.wellFormed hsingular₁ hrun
      obtain ⟨front, t, hfront, ht, rfl⟩ := hprints.rendered front₁ hfront₁
      exact ⟨front, t :: texts, hfront, htexts.cons ht, by simp⟩

/-- An execution that succeeds prints the texts of its directives. -/
theorem exists_readAs_of_execute {ds : List Directive} {out : Text}
    (h : execute inflect bindings ds = .ok out) :
    ∃ texts, ReadAs inflect bindings [] ds texts ∧ out = texts.flatten := by
  obtain ⟨s, hrun, hout⟩ := Except.bind_eq_ok_iff.1 h
  have hsingular : singularBehind bindings [] = some ({} : ExecutionState).singular := rfl
  obtain ⟨front, texts, hfront, htexts, rfl⟩ :=
    runDirectives_reads ExecutionState.wellFormed_start hsingular hrun hout
  cases hfront
  exact ⟨texts, htexts, rfl⟩

end Reading

/-- An execution that succeeds prints one text for each directive, one behind the other, and each
is the reading of its directive between those before it and those behind it. -/
theorem execute_reads {inflect : Inflector} {bindings : Bindings} {ds : List Directive} {out : Text}
    (h : execute inflect bindings ds = .ok out) :
    ∃ texts : List Text, out = texts.flatten ∧ texts.length = ds.length ∧
      ∀ before d after, ds = before ++ d :: after →
        texts[before.length]? = reading inflect bindings before d after := by
  obtain ⟨s, hrun, hout⟩ := Except.bind_eq_ok_iff.1 h
  have hsingular : singularBehind bindings [] = some ({} : ExecutionState).singular := rfl
  obtain ⟨front, texts, hfront, htexts, rfl⟩ :=
    runDirectives_reads ExecutionState.wellFormed_start hsingular hrun hout
  cases hfront
  exact ⟨texts, rfl, htexts.length_eq, htexts.text_eq⟩

/-- Directives with an article that waits for its noun, a plural and an ordinal. -/
def owls : List Directive :=
  [.numeric (.constant 1) { useArticle := true }, .literal " ", .noun (.constant "owl") {},
    .literal ", ", .numeric (.constant 0) { zeroAsNo := true }, .literal " ",
    .noun (.constant "owl") {}, .variable "rest", .numeric (.constant 3) { ordinalForm := true },
    .literal " ", .noun (.constant "owl") {}]

/-- The directives print their readings. -/
theorem execute_reads_owls :
    ∃ texts : List Text, ("an owl, no owls, the 3rd owl" : Text) = texts.flatten ∧
      texts.length = owls.length ∧
      ∀ before d after, owls = before ++ d :: after →
        texts[before.length]? =
          reading (fun form w => .ok (if form = .singular then w else w ++ ['s']))
            [("rest", .text ", the ")] before d after := by
  refine execute_reads ?_
  decide +kernel

end Agreement
