import Agreement.Proofs.Success
import Agreement.Template.Execution

/-!
# Slots of an execution

An article is printed as a slot that a later noun fills. `ExecutionState.WellFormed` is the
invariant of the slots, `ExecutionState.resolved` the parts of a state with the waiting article
filled in as the directives to come will fill it, and `ExecutionState.Prints` what a step adds to
them. The main statements are the lemmas `WellFormed.prints_…`, one for each way in which a state
goes over into another.
-/

namespace Agreement

/-- Parts that are rendered one behind the other are rendered on their own. -/
theorem renderParts_append {parts parts' : List Part} {out : Text}
    (h : renderParts (parts ++ parts') = .ok out) :
    ∃ front rest, renderParts parts = .ok front ∧ renderParts parts' = .ok rest ∧
      out = front ++ rest := by
  fun_induction renderParts parts generalizing out with
  | case1 => exact ⟨[], out, rfl, h, rfl⟩
  | case2 t parts ih =>
      rw [List.cons_append, renderParts, Except.map_eq_ok_iff] at h
      obtain ⟨out, hout, rfl⟩ := h
      obtain ⟨front, rest, hfront, hrest, rfl⟩ := ih hout
      exact ⟨t ++ front, rest, by rw [hfront]; rfl, hrest, (List.append_assoc _ _ _).symm⟩
  | case3 index article parts ih =>
      rw [List.cons_append, renderParts, Except.map_eq_ok_iff] at h
      obtain ⟨out, hout, rfl⟩ := h
      obtain ⟨front, rest, hfront, hrest, rfl⟩ := ih hout
      exact ⟨article.word ++ front, rest, by rw [hfront]; rfl, hrest,
        (List.append_assoc _ _ _).symm⟩
  | case4 index parts =>
      rw [List.cons_append, renderParts] at h
      cases h

/-- The last part that is rendered stands at the end of the output. -/
theorem renderParts_concat {parts : List Part} {part : Part} {t out : Text}
    (hpart : renderParts [part] = .ok t) (h : renderParts (parts ++ [part]) = .ok out) :
    ∃ front, renderParts parts = .ok front ∧ out = front ++ t := by
  obtain ⟨front, rest, hfront, hrest, rfl⟩ := renderParts_append h
  obtain rfl : t = rest := Except.ok.inj (hpart.symm.trans hrest)
  exact ⟨front, hfront, rfl⟩

/-- A text is rendered as it is. -/
theorem renderParts_text (t : Text) : renderParts [.text t] = .ok t := by
  simp [renderParts, Except.map]

/-- A filled slot is rendered as its article. -/
theorem renderParts_slot (index : Nat) (article : Article) :
    renderParts [.slot index (some article)] = .ok article.word := by
  simp [renderParts, Except.map]

/-- Parts are rendered only if every slot is filled. -/
theorem slot_none_notMem {parts : List Part} {out : Text} (h : renderParts parts = .ok out)
    (index : Nat) : .slot index none ∉ parts := by
  fun_induction renderParts parts generalizing out with
  | case1 => exact List.not_mem_nil
  | case2 t parts ih =>
      obtain ⟨out, hout, -⟩ := Except.map_eq_ok_iff.1 h
      rw [List.mem_cons, not_or]
      exact ⟨Part.noConfusion, ih hout⟩
  | case3 index' article parts ih =>
      obtain ⟨out, hout, -⟩ := Except.map_eq_ok_iff.1 h
      rw [List.mem_cons, not_or]
      exact ⟨by simp, ih hout⟩
  | case4 => cases h

/-- An article is filled in only where its slot is. -/
theorem map_fill_eq {parts : List Part} {index : Nat} (h : ∀ content, .slot index content ∉ parts)
    (article : Article) : parts.map (Part.fill index article) = parts := by
  induction parts with
  | nil => rfl
  | cons part parts ih =>
      have hrest := ih fun content hmem => h content (List.mem_cons_of_mem _ hmem)
      rw [List.map_cons, hrest]
      cases part with
      | text t => rfl
      | slot index' content =>
          have hne : index' ≠ index := by
            rintro rfl
            exact h content List.mem_cons_self
          rw [Part.fill, if_neg hne]

/-- Filling in an article adds no slot. -/
theorem mem_map_fill {parts : List Part} {index index' : Nat} {article : Article}
    {content : Option Article}
    (h : .slot index' content ∈ parts.map (Part.fill index article)) :
    ∃ content', .slot index' content' ∈ parts := by
  obtain ⟨part, hpart, heq⟩ := List.mem_map.1 h
  cases part with
  | text t => cases heq
  | slot i content' =>
      have hindex : i = index' := by
        rw [Part.fill] at heq
        split at heq <;> exact (Part.slot.inj heq).1
      exact ⟨content', hindex ▸ hpart⟩

namespace ExecutionState

/-- The slots of a state: none has the number of an article to come, and the one that waits is not
filled yet. -/
structure WellFormed (s : ExecutionState) : Prop where
  lt_opened : ∀ index content, .slot index content ∈ s.parts → index < s.opened
  waits : ∀ index article, .slot index (some article) ∈ s.parts → s.pending ≠ some index

/-- The parts of a state with the waiting article filled in. -/
def resolved (s : ExecutionState) (ahead : Option Article) : List Part :=
  match s.pending, ahead with
  | some index, some article => s.parts.map (Part.fill index article)
  | _, _ => s.parts

/-- At the start there are no slots. -/
theorem wellFormed_start : ({} : ExecutionState).WellFormed where
  lt_opened := fun _ _ hmem => absurd hmem List.not_mem_nil
  waits := fun _ _ hmem => absurd hmem List.not_mem_nil

variable {s s' : ExecutionState} {ahead ahead' : Option Article}

/-- A part behind the output does not change whether nouns are singular. -/
@[simp] theorem emit_singular (s : ExecutionState) (p : Part) : (s.emit p).singular = s.singular :=
  rfl

/-- An article does not change whether nouns are singular. -/
@[simp] theorem openArticle_singular (s : ExecutionState) :
    s.openArticle.singular = s.singular := rfl

/-- A noun does not change whether nouns are singular. -/
@[simp] theorem fillArticle_singular (s : ExecutionState) (noun : Text) :
    (s.fillArticle noun).singular = s.singular := by
  unfold fillArticle
  split <;> rfl

/-- If a state has no slot left to fill, no article changes it. -/
theorem WellFormed.resolved_eq (hs : s.WellFormed) {out : Text}
    (h : renderParts s.parts = .ok out) (ahead : Option Article) : s.resolved ahead = s.parts := by
  unfold resolved
  split
  · next index article hpending =>
      refine map_fill_eq (fun content hmem => ?_) article
      cases content with
      | none => exact slot_none_notMem h index hmem
      | some filled => exact hs.waits index filled hmem hpending
  · rfl

/-- The article that is opened next changes no earlier part. -/
theorem WellFormed.map_fill_opened (hs : s.WellFormed) (article : Article) :
    s.parts.map (Part.fill s.opened article) = s.parts :=
  map_fill_eq (fun content hmem => Nat.lt_irrefl _ (hs.lt_opened s.opened content hmem)) article

/-- A state goes over into another by printing a text. The article ahead of either state is the one
that its waiting slot will be filled with. -/
structure Prints (s s' : ExecutionState) (ahead ahead' : Option Article) (text : Option Text) :
    Prop where
  wellFormed : s'.WellFormed
  rendered : ∀ out, renderParts (s'.resolved ahead') = .ok out →
    ∃ front t, renderParts (s.resolved ahead) = .ok front ∧ text = some t ∧ out = front ++ t

/-- A text has no slots. -/
theorem WellFormed.emit_text (hs : s.WellFormed) (singular : Bool) (t : Text) :
    ({ s with singular }.emit (.text t)).WellFormed where
  lt_opened := fun index content hmem => hs.lt_opened index content (by simpa [emit] using hmem)
  waits := fun index article hmem => hs.waits index article (by simpa [emit] using hmem)

/-- A text is printed as it is. -/
theorem WellFormed.prints_text (hs : s.WellFormed) (singular : Bool) (t : Text) :
    s.Prints ({ s with singular }.emit (.text t)) ahead ahead (some t) where
  wellFormed := hs.emit_text singular t
  rendered := by
    intro out hout
    have hresolved : ({ s with singular }.emit (.text t)).resolved ahead =
        s.resolved ahead ++ [.text t] := by
      unfold resolved emit
      split <;> simp_all [Part.fill]
    rw [hresolved] at hout
    obtain ⟨front, hfront, rfl⟩ := renderParts_concat (renderParts_text t) hout
    exact ⟨front, t, hfront, rfl, rfl⟩

/-- Nothing may be printed. -/
theorem WellFormed.prints_nothing (hs : s.WellFormed) (singular : Bool) :
    s.Prints { s with singular } ahead ahead (some []) where
  wellFormed := ⟨hs.lt_opened, hs.waits⟩
  rendered := fun out hout => ⟨out, [], hout, rfl, (List.append_nil out).symm⟩

/-- A state that opens an article. -/
theorem WellFormed.openArticle (hs : s.WellFormed) (singular : Bool) :
    ({ s with singular } : ExecutionState).openArticle.WellFormed where
  lt_opened := fun index content hmem => Nat.lt_succ_of_lt (hs.lt_opened index content hmem)
  waits := by
    intro index article hmem heq
    have hlt := hs.lt_opened index (some article) hmem
    simp [ExecutionState.openArticle] at heq
    omega

/-- An article that is not printed is opened. The article that waited before has been filled in if
the execution is to succeed. -/
theorem WellFormed.prints_openArticle (hs : s.WellFormed) (singular : Bool) :
    s.Prints ({ s with singular } : ExecutionState).openArticle ahead ahead' (some []) where
  wellFormed := hs.openArticle singular
  rendered := by
    intro out hout
    have hresolved : ({ s with singular } : ExecutionState).openArticle.resolved ahead' =
        s.parts := by
      unfold resolved ExecutionState.openArticle
      split
      · next index article hpending =>
          cases hpending
          exact hs.map_fill_opened article
      · rfl
    rw [hresolved] at hout
    refine ⟨out, [], ?_, rfl, (List.append_nil out).symm⟩
    -- the new article takes the place of one that waited, so no slot may be left unfilled
    rw [hs.resolved_eq hout, hout]

/-- An article is printed as the one ahead. -/
theorem WellFormed.prints_article (hs : s.WellFormed) (singular : Bool) :
    s.Prints (({ s with singular } : ExecutionState).openArticle.emit (.slot s.opened none))
      ahead ahead' (ahead'.map Article.word) where
  wellFormed := by
    have hopen := hs.openArticle singular
    refine ⟨fun index content hmem => ?_, fun index article hmem => ?_⟩
    · rcases List.mem_append.1 hmem with hold | hnew
      · exact hopen.lt_opened index content hold
      · cases List.mem_singleton.1 hnew
        exact Nat.lt_succ_self _
    · rcases List.mem_append.1 hmem with hold | hnew
      · exact hopen.waits index article hold
      · cases List.mem_singleton.1 hnew
  rendered := by
    intro out hout
    cases ahead' with
    | none =>
        -- no noun is ahead, so the slot stays empty and nothing is rendered
        exact absurd (by simp [emit, resolved]) (slot_none_notMem hout s.opened)
    | some article =>
        have hresolved : (({ s with singular } : ExecutionState).openArticle.emit
            (.slot s.opened none)).resolved (some article) =
              s.parts ++ [.slot s.opened (some article)] := by
          simp [resolved, emit, ExecutionState.openArticle, hs.map_fill_opened, Part.fill]
        rw [hresolved] at hout
        obtain ⟨front, hfront, rfl⟩ := renderParts_concat (renderParts_slot _ article) hout
        refine ⟨front, article.word, ?_, rfl, rfl⟩
        rw [hs.resolved_eq hfront, hfront]

/-- A noun is printed, and the waiting article becomes the noun's. -/
theorem WellFormed.prints_noun (hs : s.WellFormed) (form : Text) :
    s.Prints ((s.emit (.text form)).fillArticle form) (some (Article.ofPhrase form)) ahead'
      (some form) where
  wellFormed := by
    have hemit := hs.emit_text s.singular form
    cases hpending : s.pending with
    | none => simpa [fillArticle, emit, hpending] using hemit
    | some index =>
        simp only [fillArticle, emit, hpending]
        refine ⟨fun index content hmem => ?_, fun _ _ _ => by simp⟩
        obtain ⟨content', hmem⟩ := mem_map_fill hmem
        exact hemit.lt_opened index content' hmem
  rendered := by
    intro out hout
    have hresolved : ((s.emit (.text form)).fillArticle form).resolved ahead' =
        s.resolved (some (Article.ofPhrase form)) ++ [.text form] := by
      cases hpending : s.pending with
      | none => simp [resolved, fillArticle, emit, hpending]
      | some index => simp [resolved, fillArticle, emit, hpending, Part.fill]
    rw [hresolved] at hout
    obtain ⟨front, hfront, rfl⟩ := renderParts_concat (renderParts_text form) hout
    exact ⟨front, form, hfront, rfl, rfl⟩

/-- The ways in which a numeric directive changes a state: it prints nothing, an article, "no", or
the number. -/
inductive CountStep (s : ExecutionState) (o : NumericOptions) (n : Int) :
    ExecutionState → Prop where
  | hiddenArticle (hsuppress : o.suppressOutput = true) (harticle : o.opensArticle n = true) :
    CountStep s o n ({ s with singular := o.countsSingular n } : ExecutionState).openArticle
  | hidden (hsuppress : o.suppressOutput = true) (harticle : o.opensArticle n = false) :
    CountStep s o n { s with singular := o.countsSingular n }
  | article (hsuppress : o.suppressOutput = false) (harticle : o.opensArticle n = true) :
    CountStep s o n
      (({ s with singular := o.countsSingular n } : ExecutionState).openArticle.emit
        (.slot s.opened none))
  | no (hsuppress : o.suppressOutput = false) (harticle : o.opensArticle n = false)
    (hno : o.printsNo n = true) :
    CountStep s o n ({ s with singular := o.countsSingular n }.emit (.text "no"))
  | number {digits t : Text} (hsuppress : o.suppressOutput = false)
    (harticle : o.opensArticle n = false) (hno : o.printsNo n = false)
    (hdigits : writeInteger n = .ok digits) (ht : o.numberText n digits = .ok t) :
    CountStep s o n ({ s with singular := o.countsSingular n || o.isOrdinal n }.emit (.text t))

/-- A numeric directive changes a state in one of these ways. -/
theorem countStep_of_countNumber {o : NumericOptions} {n : Int}
    (h : s.countNumber o n = .ok s') : s.CountStep o n s' := by
  rw [countNumber, Except.bind_eq_ok_iff] at h
  obtain ⟨digits, hdigits, h⟩ := h
  cases hsuppress : o.suppressOutput with
  | true =>
      cases harticle : o.opensArticle n with
      | true =>
          simp only [hsuppress, harticle, if_true] at h
          cases h
          exact .hiddenArticle hsuppress harticle
      | false =>
          simp only [hsuppress, harticle, if_true, Bool.false_eq_true, if_false] at h
          cases h
          exact .hidden hsuppress harticle
  | false =>
      cases harticle : o.opensArticle n with
      | true =>
          simp only [hsuppress, harticle, if_true, Bool.false_eq_true, if_false] at h
          cases h
          exact .article hsuppress harticle
      | false =>
          simp only [hsuppress, harticle, Bool.false_eq_true, if_false] at h
          cases hno : o.printsNo n with
          | true =>
              simp only [hno, if_true] at h
              cases h
              exact .no hsuppress harticle hno
          | false =>
              simp only [hno, Bool.false_eq_true, if_false] at h
              obtain ⟨t, ht, h⟩ := Except.bind_eq_ok_iff.1 h
              cases h
              exact .number hsuppress harticle hno hdigits ht

end ExecutionState

end Agreement
