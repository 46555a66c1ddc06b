import Agreement.Proofs.Noun.LineForms
import Agreement.Proofs.Text.Cuts

/-!
# Solid pieces of a line

The solid pieces of a text are the pieces between blanks, hyphens and bars. They stay the same when
the text is trimmed and when its hyphens become spaces. What is found on either side of such a
character alone depends on the solid pieces alone (`eq_of_solids_eq`): whether a line has an arrow
(`infix_congr`) or a singular head, and which slots a form has (`slots_congr`).
-/

namespace Agreement.RuleText

/-- Whether a character separates solid pieces: a blank, a hyphen or a bar. -/
def isBreak (c : Char) : Bool :=
  isBlank c || c = '-' || c = '|'

/-- The pieces of a text between breaks, without the empty ones. -/
def solids (t : Text) : List Text :=
  (t.splitOnP isBreak).filter (· ≠ [])

section Solids

variable {c : Char} {t u : Text}

/-- No solid piece goes over a break. -/
theorem solids_append_cons (hc : isBreak c = true) (t u : Text) :
    solids (t ++ c :: u) = solids t ++ solids u := by
  rw [solids, List.splitOnP_append_cons t u hc, List.filter_append]
  rfl

/-- An empty text has no solid pieces. -/
@[simp] theorem solids_nil : solids [] = [] := rfl

/-- A break in front is in no solid piece. -/
theorem solids_cons (hc : isBreak c = true) (t : Text) : solids (c :: t) = solids t :=
  solids_append_cons hc [] t

/-- Breaks in front are in no solid piece. -/
theorem solids_append_of_isBreak (h : ∀ c ∈ t, isBreak c = true) (u : Text) :
    solids (t ++ u) = solids u := by
  induction t with
  | nil => rfl
  | cons c t ih =>
      obtain ⟨hc, h⟩ := List.forall_mem_cons.1 h
      exact (solids_cons hc _).trans (ih h)

/-- Breaks at the end are in no solid piece. -/
theorem solids_append_of_isBreak_right (h : ∀ c ∈ u, isBreak c = true) (t : Text) :
    solids (t ++ u) = solids t := by
  cases u with
  | nil => rw [List.append_nil]
  | cons c u =>
      obtain ⟨hc, h⟩ := List.forall_mem_cons.1 h
      have hnil := solids_append_of_isBreak h []
      rw [List.append_nil, solids_nil] at hnil
      rw [solids_append_cons hc, hnil, List.append_nil]

/-- Trimming keeps the solid pieces. -/
theorem solids_trim (t : Text) : solids t.trim = solids t := by
  obtain ⟨front, back, heq, hfront, hback⟩ := Text.exists_of_trim t
  have hbreak {c : Char} (hc : isBlank c = true) : isBreak c = true := by simp [isBreak, hc]
  conv_rhs => rw [heq]
  rw [solids_append_of_isBreak fun c hc => hbreak (hfront c hc),
    solids_append_of_isBreak_right fun c hc => hbreak (hback c hc)]

/-- The pieces between breaks are the same when hyphens become spaces. -/
theorem splitOnP_exchange (t : Text) :
    (Text.exchange '-' ' ' t).splitOnP isBreak = t.splitOnP isBreak := by
  induction t with
  | nil => rfl
  | cons c t ih =>
      have hcons : Text.exchange '-' ' ' (c :: t) =
          (if c = '-' then ' ' else c) :: Text.exchange '-' ' ' t := rfl
      rw [hcons, List.splitOnP_cons_eq_if_modifyHead, ih, List.splitOnP_cons_eq_if_modifyHead]
      by_cases hc : c = '-'
      · subst hc
        rfl
      · rw [if_neg hc]

/-- A text without breaks is a solid piece, unless it is empty. -/
theorem solids_of_no_break (h : ∀ c ∈ t, isBreak c = false) :
    solids t = if t = [] then [] else [t] := by
  rw [solids, List.splitOnP_eq_singleton h]
  split
  · next hnil => rw [hnil]; rfl
  · next hne => simp [hne]

/-- What is found on either side of a break alone depends on the solid pieces alone. -/
theorem eq_of_solids_eq {α : Type} (f : Text → α) (op : α → α → α)
    (hleft : ∀ a, op (f []) a = a) (hright : ∀ a, op a (f []) = a)
    (happend : ∀ c, isBreak c = true → ∀ t u, f (t ++ c :: u) = op (f t) (f u))
    (h : solids t = solids u) : f t = f u := by
  have hfold (t : Text) : f t = (solids t).foldr (fun piece => op (f piece)) (f []) := by
    induction t using Text.kind_induction with
    | none t ht =>
        rw [solids_of_no_break ht]
        split
        · next hnil => rw [hnil]; rfl
        · exact (hright _).symm
    | more front c rest hfront hc ih =>
        rw [happend c hc, ih, solids_append_cons hc, List.foldr_append, solids_of_no_break hfront]
        split
        · next hnil => rw [hnil, hleft]; rfl
        · rfl
  rw [hfold t, hfold u, h]

end Solids

section Arrow

/-- The arrow of a line. -/
def arrow : Text := "=>"

/-- Behind a character that begins no arrow, a text is cut where its rest is. -/
theorem cutArrow_cons {c : Char} {rest : Text} (h : ¬ arrow <+: c :: rest) :
    cutArrow (c :: rest) = (c :: (cutArrow rest).1, (cutArrow rest).2) := by
  rw [cutArrow]
  rintro rest' rfl rfl
  exact h ⟨rest', rfl⟩

/-- A text is cut if it has an arrow. -/
theorem cutArrow_isSome_iff (t : Text) : (cutArrow t).2.isSome = true ↔ arrow <:+: t := by
  induction t with
  | nil => decide
  | cons c rest ih =>
      by_cases h : arrow <+: c :: rest
      · obtain ⟨rest', hrest⟩ := h
        rw [← hrest]
        exact iff_of_true rfl (List.infix_append' [] arrow rest')
      · rw [cutArrow_cons h, List.infix_cons_iff, ih]
        simp only [h, false_or]

/-- What is cut off is in front. -/
theorem prefix_of_cutArrow (t : Text) : (cutArrow t).1 <+: t := by
  induction t with
  | nil => exact List.prefix_rfl
  | cons c rest ih =>
      by_cases h : arrow <+: c :: rest
      · obtain ⟨rest', hrest⟩ := h
        rw [← hrest]
        exact List.nil_prefix
      · rw [cutArrow_cons h]
        exact List.cons_prefix_cons.2 ⟨rfl, ih⟩

/-- What stands behind the cut is at the end. -/
theorem suffix_of_cutArrow {t rest : Text} (h : (cutArrow t).2 = some rest) : rest <:+ t := by
  induction t with
  | nil => cases h
  | cons c t ih =>
      by_cases hstart : arrow <+: c :: t
      · obtain ⟨rest', hrest⟩ := hstart
        rw [← hrest] at h ⊢
        cases h
        exact List.suffix_append arrow _
      · rw [cutArrow_cons hstart] at h
        exact (ih h).trans (List.suffix_cons c t)

/-- There is no arrow in front of the first one. -/
theorem not_arrow_of_cutArrow (t : Text) : ¬ arrow <:+: (cutArrow t).1 := by
  induction t with
  | nil => decide
  | cons c rest ih =>
      by_cases h : arrow <+: c :: rest
      · obtain ⟨rest', hrest⟩ := h
        rw [← hrest]
        exact fun hinfix => absurd (List.infix_nil.1 hinfix) (by decide)
      · rw [cutArrow_cons h, List.infix_cons_iff, not_or]
        refine ⟨fun hstart => h (hstart.trans ?_), ih⟩
        exact List.cons_prefix_cons.2 ⟨rfl, prefix_of_cutArrow rest⟩

/-- A text is cut behind a character that is in no arrow, if there is no arrow in front. -/
theorem cutArrow_append_cons {c : Char} (hc : c ∉ arrow) {t : Text} (h : ¬ arrow <:+: t)
    (u : Text) : cutArrow (t ++ c :: u) = (t ++ c :: (cutArrow u).1, (cutArrow u).2) := by
  have hcons {d : Char} {t : Text} (h : ¬ arrow <+: d :: t) : ¬ arrow <+: d :: t ++ c :: u :=
    fun hstart => h ((Text.prefix_append_cons_iff hc _ u).1 hstart)
  induction t with
  | nil =>
      have hfirst : ¬ arrow <+: c :: u := fun hstart =>
        absurd ((Text.prefix_append_cons_iff hc [] u).1 hstart) (by decide)
      exact cutArrow_cons hfirst
  | cons d t ih =>
      rw [List.infix_cons_iff, not_or] at h
      have hcut := cutArrow_cons (hcons h.1)
      rw [List.append_eq, ih h.2] at hcut
      exact hcut

end Arrow

section Congruence

variable {t u : Text}

/-- A word without breaks is found in the solid pieces alone. -/
theorem infix_congr {word : Text} (hword : word ≠ []) (hsolid : word.any isBreak = false)
    (h : solids t = solids u) : word <:+: t ↔ word <:+: u := by
  have hnil : (word <:+: []) = False := eq_false fun hinfix => hword (List.infix_nil.1 hinfix)
  refine iff_of_eq (eq_of_solids_eq (fun t => word <:+: t) Or ?_ ?_ ?_ h)
  · intro p
    rw [hnil, false_or]
  · intro p
    rw [hnil, or_false]
  · intro c hc t u
    have hmem : c ∉ word := fun hmem => List.any_eq_false.1 hsolid c hmem hc
    exact propext (Text.infix_append_cons_iff hword hmem t u)

/-- A form has the marker of a singular head if it has the text of the marker. -/
theorem hasSingularHead_iff (t : Text) : hasSingularHead t = true ↔ ("(SING)" : Text) <:+: t := by
  induction t with
  | nil => decide
  | cons c rest ih =>
      rw [hasSingularHead, Bool.or_eq_true, List.isPrefixOf_iff_prefix, ih, List.infix_cons_iff]

/-- Whether a form has the marker of a singular head depends on its solid pieces. -/
theorem hasSingularHead_congr (h : solids t = solids u) :
    hasSingularHead t = hasSingularHead u := by
  rw [Bool.eq_iff_iff, hasSingularHead_iff, hasSingularHead_iff]
  exact infix_congr (by decide) (by decide) h

/-- The phrase of a form is that on the one side of a break, the break, and that on the other. -/
theorem ofForm_append_cons {c : Char} (hc : isBreak c = true) (t u : Text) :
    Phrase.ofForm (t ++ c :: u) = Phrase.ofForm t ++ .char c :: Phrase.ofForm u := by
  -- no marker goes over the break
  have hmarker (word : Text) {t rest : Text} (hword : word.any isBreak = false)
      (h : t ++ c :: u = word ++ rest) : ∃ rest', t = word ++ rest' := by
    have hnot : c ∉ word := fun hmem => List.any_eq_false.1 hword c hmem hc
    obtain ⟨rest', heq⟩ := (Text.prefix_append_cons_iff hnot t u).1 ⟨rest, h.symm⟩
    exact ⟨rest', heq.symm⟩
  fun_induction Phrase.ofForm t with
  | case1 t ih => exact congrArg (Piece.slot .head :: ·) ih
  | case2 t ih => exact congrArg (Piece.slot .head :: ·) ih
  | case3 t ih => exact congrArg (Piece.slot .preposition :: ·) ih
  | case4 t ih => exact congrArg (Piece.slot .copied :: ·) ih
  | case5 d t hsing hpl hprep hcopied ih =>
      have hchar : Phrase.ofForm (d :: (t ++ c :: u)) = .char d :: Phrase.ofForm (t ++ c :: u) := by
        rw [Phrase.ofForm]
        · intro rest hd h
          obtain ⟨rest', heq⟩ := hmarker "SING)" (by decide) h
          exact hsing rest' hd heq
        · intro rest hd h
          obtain ⟨rest', heq⟩ := hmarker "PL)" (by decide) h
          exact hpl rest' hd heq
        · intro rest hd h
          obtain ⟨rest', heq⟩ := hmarker "PREP)" (by decide) h
          exact hprep rest' hd heq
        · exact hcopied
      exact hchar.trans (congrArg (Piece.char d :: ·) ih)
  | case6 =>
      have hne {d : Char} (hd : isBreak d = false) : c ≠ d := fun heq => by
        rw [heq, hd] at hc
        cases hc
      have hopen : c ≠ '(' := hne (by decide)
      show Phrase.ofForm (c :: u) = .char c :: Phrase.ofForm u
      rw [Phrase.ofForm]
      · exact fun _ h => absurd h hopen
      · exact fun _ h => absurd h hopen
      · exact fun _ h => absurd h hopen
      · exact hne (by decide)

/-- The slots of two phrases are those of the one and then those of the other. -/
theorem slots_append (p q : Phrase) : Phrase.slots (p ++ q) = p.slots ++ q.slots := by
  induction p with
  | nil => rfl
  | cons piece p ih =>
      cases piece with
      | char c => exact ih
      | slot s => exact congrArg (s :: ·) ih

/-- The slots of a form are those on the one side of a break and those on the other. -/
theorem slots_append_cons {c : Char} (hc : isBreak c = true) (t u : Text) :
    (Phrase.ofForm (t ++ c :: u)).slots = (Phrase.ofForm t).slots ++ (Phrase.ofForm u).slots := by
  rw [ofForm_append_cons hc, slots_append]
  rfl

/-- The slots of a form depend on its solid pieces. -/
theorem slots_congr (h : solids t = solids u) :
    (Phrase.ofForm t).slots = (Phrase.ofForm u).slots :=
  eq_of_solids_eq (fun t => (Phrase.ofForm t).slots) (· ++ ·) List.nil_append List.append_nil
    (fun _ hc t u => slots_append_cons hc t u) h

end Congruence

end Agreement.RuleText
