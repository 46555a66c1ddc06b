import Agreement.Noun.RuleText
import Agreement.Proofs.Noun.Answers
import Mathlib.Data.List.Basic

/-!
# Lines and their forms

A line is accepted if it has one arrow, a singular and a plural form, and its forms give rules
(`rulesOf_eq_ok_iff`). The singular decides which rules the forms give (`rulesOfForms_eq`): compound
rules if every form is a pattern (`exists_compounds_iff`), a categorical rule if every form is an
affix with the marker of the singular (`exists_categorical_iff`), and otherwise an irregular rule.
What the reading of a whole line can come to is listed by `ReadsLine`. All of this holds whatever
reads the suffixes of affixes.
-/

namespace Agreement

namespace Phrase

/-- A phrase can be the pattern of a compound: no slot occurs twice, and one of them is the head. -/
structure IsPattern (p : Phrase) : Prop where
  nodup : p.slots.Nodup
  head_mem : .head ∈ p.slots

/-- A slot is found to be repeated if it occurs twice, or among the slots before the phrase. -/
theorem repeatedSlotAfter_eq_none_iff (groups : List Slot) (position : Nat) (p : Phrase) :
    repeatedSlotAfter groups position p = none ↔ p.slots.Nodup ∧ ∀ s ∈ p.slots, s ∉ groups := by
  induction p generalizing groups position with
  | nil => simp [repeatedSlotAfter, slots]
  | cons piece p ih =>
      cases piece with
      | char c => exact ih groups _
      | slot s =>
          have hfound : (groups.reverse.findIdx? (· = s)).isSome = true ↔ s ∈ groups := by
            simp [List.findIdx?_isSome]
          rw [repeatedSlotAfter, slots, List.nodup_cons, List.forall_mem_cons]
          cases hearlier : groups.reverse.findIdx? (· = s) with
          | some earlier =>
              rw [hearlier] at hfound
              exact iff_of_false nofun fun h => h.2.1 (hfound.1 rfl)
          | none =>
              rw [hearlier] at hfound
              have hnot : s ∉ groups := fun hmem => Bool.noConfusion (hfound.2 hmem)
              show repeatedSlotAfter (s :: groups) _ p = none ↔ _
              rw [ih]
              -- `s` is not among the later slots, rather than the later slots are not `s`
              have hlater : (∀ s' ∈ slots p, s' ∉ s :: groups) ↔
                  s ∉ slots p ∧ ∀ s' ∈ slots p, s' ∉ groups := by
                simp only [List.mem_cons, not_or, forall_and]
                exact and_congr_left' ⟨fun h hmem => h s hmem rfl,
                  fun h s' hmem heq => h (heq ▸ hmem)⟩
              rw [hlater]
              tauto

/-- No slot of a phrase is found to be repeated if none occurs twice. -/
theorem repeatedSlot?_eq_none_iff (p : Phrase) : p.repeatedSlot? = none ↔ p.slots.Nodup := by
  rw [repeatedSlot?, repeatedSlotAfter_eq_none_iff]
  simp

end Phrase

/-- The plurals that are put together are those that are there. -/
theorem Plurals.toList_of_of? {α : Type} {modern classical : Option α} {plurals : Plurals α}
    (h : of? modern classical = some plurals) :
    plurals.toList = modern.toList ++ classical.toList := by
  cases modern <;> cases classical <;> cases h <;> rfl

/-- Plurals can be put together if there is one. -/
theorem Plurals.exists_of?_iff {α : Type} {modern classical : Option α} :
    (∃ plurals, of? modern classical = some plurals) ↔ ¬ (modern = none ∧ classical = none) := by
  cases modern <;> cases classical <;> simp [of?]

/-- A form that is not empty counts as present. -/
theorem filter_present {α : Type} [DecidableEq α] {form : Option (List α)} (h : form ≠ some []) :
    form.filter (· ≠ []) = form := by
  cases form with
  | none => rfl
  | some form =>
      have hne : form ≠ [] := fun heq => h (congrArg some heq)
      simp [hne]

/-- A compound rule can be built around a pattern if there is a plural phrase. -/
theorem CompoundRule.make_eq_ok_iff {written : Text} {pattern singular : Phrase}
    {modern classical : Option Phrase} {r : CompoundRule} (hmodern : modern ≠ some [])
    (hclassical : classical ≠ some []) :
    make written pattern singular modern classical = .ok r ↔
      pattern.IsPattern ∧ ∃ plurals, Plurals.of? modern classical = some plurals ∧
        r = ⟨written, pattern, singular, plurals, {}⟩ := by
  unfold make
  rw [filter_present hmodern, filter_present hclassical]
  cases hrepeated : pattern.repeatedSlot? with
  | some cause =>
      refine iff_of_false nofun fun h => ?_
      rw [(Phrase.repeatedSlot?_eq_none_iff pattern).2 h.1.nodup] at hrepeated
      cases hrepeated
  | none =>
      have hnodup := (Phrase.repeatedSlot?_eq_none_iff pattern).1 hrepeated
      dsimp only
      split
      · next hhead => exact iff_of_false nofun fun h => hhead h.1.head_mem
      · next hhead =>
          rw [and_iff_right ⟨hnodup, not_not.1 hhead⟩]
          cases Plurals.of? modern classical with
          | none => simp
          | some plurals => simp [eq_comm]

/-- An irregular rule can be built from a singular and a plural, and prefers the modern one. -/
theorem IrregularRule.make_eq_ok_iff {singular : Text} {modern classical : Option Text}
    {r : IrregularRule} (hmodern : modern ≠ some []) (hclassical : classical ≠ some []) :
    make singular modern classical = .ok r ↔
      singular ≠ [] ∧ ∃ plurals, Plurals.of? modern classical = some plurals ∧
        r = ⟨singular, plurals, false⟩ := by
  unfold make
  rw [filter_present hmodern, filter_present hclassical]
  split
  · next hnil => exact iff_of_false nofun fun h => h.1 hnil
  · next hne =>
      rw [and_iff_right hne]
      cases Plurals.of? modern classical with
      | none => simp
      | some plurals => simp [eq_comm]

namespace RuleText

variable {patterns : PatternReader}

/-- The forms of a line: the singular, and the modern and the classical plural. -/
def formsOf (line : Text) : Text × Option Text × Option Text :=
  ((cutArrow line).1.trim, splitPlurals ((cutArrow line).2.getD []).trim)

/-- A form that is there is not empty. -/
theorem present?_ne (t : Text) : present? t ≠ some [] := by
  unfold present?
  split
  · nofun
  · next hne => exact fun h => hne (Option.some.inj h)

/-- The plural forms of a line are not empty. -/
theorem formsOf_ne (line : Text) :
    (formsOf line).2.1 ≠ some [] ∧ (formsOf line).2.2 ≠ some [] := by
  unfold formsOf splitPlurals
  dsimp only
  split
  · exact ⟨present?_ne _, nofun⟩
  · exact ⟨present?_ne _, present?_ne _⟩

/-- The rules of some forms. -/
def rulesOfForms (patterns : PatternReader) (singular : Text) (modern classical : Option Text) :
    Except LineFault (List Rule) :=
  if hasSingularHead singular then compounds singular modern classical
  else match singular with
    | '*' :: _ => (categorical patterns '*' singular modern classical).map ([·])
    | '-' :: _ => (categorical patterns '-' singular modern classical).map ([·])
    | _ => ((IrregularRule.make singular modern classical).mapError .rule).map
      fun rule => [.simple (.irregular rule)]

/-- A line has an arrow, and no second one behind it. -/
def HasOneArrow (line : Text) : Prop :=
  ∃ singular plural, cutArrow line = (singular, some plural) ∧ (cutArrow plural).2 = none

/-- The rules of a line with an arrow, with the faults in the order in which they are looked for. -/
theorem rulesOf_of_cutArrow {line singular plural : Text}
    (hcut : cutArrow line = (singular, some plural)) :
    rulesOf patterns line =
      if (cutArrow plural).2.isSome then .error .arrows
      else if singular.trim = [] then .error .noSingular
      else if (splitPlurals plural.trim).1 = none ∧ (splitPlurals plural.trim).2 = none then
        .error .noPlural
      else rulesOfForms patterns singular.trim (splitPlurals plural.trim).1
        (splitPlurals plural.trim).2 := by
  unfold rulesOf
  rw [hcut]
  dsimp only
  split
  · rfl
  · show (if _ then _ else _) = _
    split
    · rfl
    · show (if _ then _ else _) = _
      split <;> rfl

/-- A line is accepted if it has one arrow, a singular and a plural form, and rules for its forms,
which are the rules of the line. -/
theorem rulesOf_eq_ok_iff {line : Text} {rules : List Rule} :
    rulesOf patterns line = .ok rules ↔
      HasOneArrow line ∧ (formsOf line).1 ≠ [] ∧
        ¬ ((formsOf line).2.1 = none ∧ (formsOf line).2.2 = none) ∧
          rulesOfForms patterns (formsOf line).1 (formsOf line).2.1 (formsOf line).2.2 =
            .ok rules := by
  rcases hcut : cutArrow line with ⟨singular, _ | plural⟩
  · refine iff_of_false (fun h => ?_) ?_
    · simp only [rulesOf, hcut] at h
      cases h
    · rintro ⟨⟨_, _, harrow, -⟩, -⟩
      cases hcut.symm.trans harrow
  have hforms : formsOf line = (singular.trim, splitPlurals plural.trim) := by
    simp [formsOf, hcut]
  have harrow : HasOneArrow line ↔ ¬ (cutArrow plural).2.isSome = true := by
    rw [Bool.not_eq_true, Option.isSome_eq_false_iff, Option.isNone_iff_eq_none]
    constructor
    · rintro ⟨_, _, heq, hnone⟩
      cases hcut.symm.trans heq
      exact hnone
    · exact fun hnone => ⟨_, _, hcut, hnone⟩
  rw [rulesOf_of_cutArrow hcut, hforms, harrow]
  -- each fault that is looked for is one of the conditions
  split
  · next h => exact iff_of_false nofun fun hall => hall.1 h
  · next h =>
      rw [and_iff_right h]
      split
      · next hnil => exact iff_of_false nofun fun hall => hall.1 hnil
      · next hne =>
          rw [and_iff_right hne]
          split
          · next hnone => exact iff_of_false nofun fun hall => hall.1 hnone
          · next hsome => exact (and_iff_right hsome).symm

/-- If steps all succeed, each result is that of a step, and each step has a result. -/
theorem mem_of_mapM_eq_ok {α β ε : Type} {f : α → Except ε β} {as : List α} {bs : List β}
    (h : as.mapM f = .ok bs) :
    (∀ b ∈ bs, ∃ a ∈ as, f a = .ok b) ∧ ∀ a ∈ as, ∃ b ∈ bs, f a = .ok b := by
  induction as generalizing bs with
  | nil => cases h; simp
  | cons a as ih =>
      rw [List.mapM_cons, Except.bind_eq_ok_iff] at h
      obtain ⟨b, hb, h⟩ := h
      obtain ⟨bs', hbs', h⟩ := Except.bind_eq_ok_iff.1 h
      cases h
      obtain ⟨hresult, hstep⟩ := ih hbs'
      refine ⟨List.forall_mem_cons.2 ⟨⟨a, List.mem_cons_self, hb⟩, fun b' hb' => ?_⟩,
        List.forall_mem_cons.2 ⟨⟨b, List.mem_cons_self, hb⟩, fun a' ha' => ?_⟩⟩
      · obtain ⟨a', ha', heq⟩ := hresult b' hb'
        exact ⟨a', List.mem_cons_of_mem _ ha', heq⟩
      · obtain ⟨b', hb', heq⟩ := hstep a' ha'
        exact ⟨b', List.mem_cons_of_mem _ hb', heq⟩

/-- Steps all succeed if each of them does. -/
theorem exists_mapM_eq_ok_iff {α β ε : Type} {f : α → Except ε β} {as : List α} :
    (∃ bs, as.mapM f = .ok bs) ↔ ∀ a ∈ as, ∃ b, f a = .ok b := by
  refine ⟨fun ⟨bs, h⟩ a ha => ?_, fun h => ?_⟩
  · obtain ⟨b, -, hb⟩ := (mem_of_mapM_eq_ok h).2 a ha
    exact ⟨b, hb⟩
  · induction as with
    | nil => exact ⟨[], rfl⟩
    | cons a as ih =>
        obtain ⟨⟨b, hb⟩, h⟩ := List.forall_mem_cons.1 h
        obtain ⟨bs, hbs⟩ := ih h
        exact ⟨b :: bs, by rw [List.mapM_cons, hb, Except.ok_bind, hbs]; rfl⟩

/-- A form that starts with a marker is read as an affix by what stands behind. -/
theorem affix_cons (patterns : PatternReader) (marker : Char) (suffix : Text) :
    affix patterns marker (marker :: suffix) =
      (Affix.read (marker = '*') suffix patterns).mapError fun cause =>
        .rule (.pattern (Affix.written (marker = '*') suffix) cause) :=
  if_neg (not_not.2 rfl)

/-- Only a form that starts with the marker is read as an affix. -/
theorem head?_of_affix {marker : Char} {form : Text} {a : Affix}
    (h : affix patterns marker form = .ok a) : form.head? = some marker := by
  unfold affix at h
  split at h
  · cases h
  · split at h
    · cases h
    · next c suffix hc => exact congrArg some (not_not.1 hc)

/-- A form whose suffix stands for itself is read as an affix if it starts with the marker. -/
theorem exists_affix_iff {marker : Char} {form : Text}
    (hliteral : form.head? = some marker → Affix.isLiteral form.tail = true) :
    (∃ a, affix patterns marker form = .ok a) ↔ form.head? = some marker := by
  refine ⟨fun ⟨a, h⟩ => head?_of_affix h, fun h => ?_⟩
  obtain ⟨suffix, rfl⟩ := List.head?_eq_some_iff.1 h
  have hsuffix : Affix.isLiteral suffix = true := hliteral rfl
  rw [affix_cons, Affix.read_of_isLiteral hsuffix]
  exact ⟨_, rfl⟩

/-- Where each part of the forms of a line has its counterpart, each form has. -/
theorem exists_mem_forms {α β : Type} {R : α → β → Prop} {a : α} {b : β} {as as' : List α}
    {bs bs' : List β} (h : R a b) (hmodern : ∀ y ∈ bs, ∃ x ∈ as, R x y)
    (hclassical : ∀ y ∈ bs', ∃ x ∈ as', R x y) :
    ∀ y ∈ b :: (bs ++ bs'), ∃ x ∈ a :: (as ++ as'), R x y := by
  intro y hy
  rcases List.mem_cons.1 hy with rfl | hy
  · exact ⟨a, List.mem_cons_self, h⟩
  · rcases List.mem_append.1 hy with hy | hy
    · obtain ⟨x, hx, hxy⟩ := hmodern y hy
      exact ⟨x, List.mem_cons_of_mem _ (List.mem_append_left _ hx), hxy⟩
    · obtain ⟨x, hx, hxy⟩ := hclassical y hy
      exact ⟨x, List.mem_cons_of_mem _ (List.mem_append_right _ hx), hxy⟩

/-- The affixes of the plurals that are there are read one by one. -/
theorem exists_affix?_iff {marker : Char} {form : Option Text} :
    (∃ a, affix? patterns marker form = .ok a) ↔
      ∀ f ∈ form.toList, ∃ a, affix patterns marker f = .ok a := by
  cases form with
  | none => simp [affix?]
  | some form => simp [affix?]

/-- The missing plurals are those without an affix. -/
theorem affix?_eq_none_iff {marker : Char} {form : Option Text} {a : Option Affix}
    (h : affix? patterns marker form = .ok a) : a = none ↔ form = none := by
  cases form with
  | none => cases h; simp
  | some form =>
      obtain ⟨a, -, rfl⟩ := Except.map_eq_ok_iff.1 h
      simp

/-- The rule of forms with a marker is built from their affixes. -/
theorem categorical_eq_ok_iff {marker : Char} {singular : Text} {modern classical : Option Text}
    {rule : Rule} : categorical patterns marker singular modern classical = .ok rule ↔
      ∃ s, affix patterns marker singular = .ok s ∧ ∃ m, affix? patterns marker modern = .ok m ∧
        ∃ c, affix? patterns marker classical = .ok c ∧ ∃ r, CategoricalRule.make s m c = .ok r ∧
          .simple (.categorical r) = rule := by
  simp only [categorical, Except.bind_eq_ok_iff, Except.mapError_eq_ok_iff, pure, Except.pure,
    Except.ok.injEq]

/-- The suffix of an affix is what stands behind the marker. -/
theorem suffix_of_affix {marker : Char} {form : Text} {a : Affix}
    (h : affix patterns marker form = .ok a) : a.suffix = form.tail := by
  obtain ⟨suffix, rfl⟩ := List.head?_eq_some_iff.1 (head?_of_affix h)
  rw [affix_cons, Except.mapError_eq_ok_iff, Affix.read] at h
  split at h
  · cases h
    rfl
  · obtain ⟨p, -, rfl⟩ := Except.map_eq_ok_iff.1 h
    rfl

/-- Every form with a marker is an affix of the rule. -/
theorem exists_affix_of_categorical {marker : Char} {singular : Text}
    {modern classical : Option Text} {rule : Rule}
    (h : categorical patterns marker singular modern classical = .ok rule) :
    ∃ r, rule = .simple (.categorical r) ∧
      ∀ form ∈ singular :: (modern.toList ++ classical.toList),
        ∃ a ∈ r.affixes, affix patterns marker form = .ok a := by
  have hread {form : Option Text} {a : Option Affix} (ha : affix? patterns marker form = .ok a) :
      ∀ f ∈ form.toList, ∃ b ∈ a.toList, affix patterns marker f = .ok b := by
    cases form with
    | none => simp
    | some form =>
        obtain ⟨b, hb, rfl⟩ := Except.map_eq_ok_iff.1 ha
        simpa using hb
  obtain ⟨s, hs, m, hm, c, hc, r, hr, rfl⟩ := categorical_eq_ok_iff.1 h
  refine ⟨r, rfl, ?_⟩
  unfold CategoricalRule.make at hr
  split at hr
  · cases hr
  · next plurals hplurals =>
      cases hr
      have haffixes : CategoricalRule.affixes ⟨s, plurals⟩ = s :: (m.toList ++ c.toList) :=
        congrArg (s :: ·) (Plurals.toList_of_of? hplurals)
      rw [haffixes]
      exact exists_mem_forms hs (hread hm) (hread hc)

/-- A categorical rule can be built if there is a plural and every form is read as an affix. -/
theorem exists_categorical_iff {marker : Char} {singular : Text} {modern classical : Option Text}
    (hplural : ¬ (modern = none ∧ classical = none)) :
    (∃ rule, categorical patterns marker singular modern classical = .ok rule) ↔
      ∀ form ∈ singular :: (modern.toList ++ classical.toList),
        ∃ a, affix patterns marker form = .ok a := by
  rw [List.forall_mem_cons, List.forall_mem_append, ← exists_affix?_iff, ← exists_affix?_iff]
  constructor
  · rintro ⟨rule, h⟩
    obtain ⟨s, hs, m, hm, c, hc, -⟩ := categorical_eq_ok_iff.1 h
    exact ⟨⟨s, hs⟩, ⟨m, hm⟩, ⟨c, hc⟩⟩
  · rintro ⟨⟨s, hs⟩, ⟨m, hm⟩, ⟨c, hc⟩⟩
    obtain ⟨plurals, hplurals⟩ : ∃ plurals, Plurals.of? m c = some plurals := by
      rwa [Plurals.exists_of?_iff, affix?_eq_none_iff hm, affix?_eq_none_iff hc]
    have hmake : CategoricalRule.make s m c = .ok ⟨s, plurals⟩ := by
      rw [CategoricalRule.make, hplurals]
    exact ⟨_, categorical_eq_ok_iff.2 ⟨s, hs, m, hm, c, hc, _, hmake, rfl⟩⟩

/-- A form that is not empty is a phrase that is not empty. -/
theorem ofForm_ne_nil {form : Text} (h : form ≠ []) : Phrase.ofForm form ≠ [] := by
  unfold Phrase.ofForm
  split <;> simp_all

/-- The phrase of a form is not empty if the form is not. -/
theorem map_ofForm_ne {form : Option Text} (h : form ≠ some []) :
    form.map Phrase.ofForm ≠ some [] := by
  cases form with
  | none => simp
  | some form =>
      intro heq
      exact ofForm_ne_nil (fun hnil => h (congrArg some hnil)) (Option.some.inj heq)

/-- Whether a character in front of a form marks an affix. -/
def isMarker (c : Char) : Bool :=
  c = '*' || c = '-'

section Forms

variable {singular : Text} {modern classical : Option Text} {rules : List Rule}

/-- What stands in front of the singular decides which rules the forms of a line give. -/
theorem rulesOfForms_eq : rulesOfForms patterns singular modern classical =
    if hasSingularHead singular then compounds singular modern classical
    else match singular.head?.filter isMarker with
      | some marker => (categorical patterns marker singular modern classical).map ([·])
      | none => ((IrregularRule.make singular modern classical).mapError .rule).map
          fun rule => [.simple (.irregular rule)] := by
  unfold rulesOfForms
  refine ite_congr rfl (fun _ => rfl) fun _ => ?_
  split
  · rfl
  · rfl
  · next hstar hhyphen =>
      have hnone : singular.head?.filter isMarker = none := by
        cases singular with
        | nil => rfl
        | cons c rest =>
            have hc : isMarker c = false := by
              refine Bool.eq_false_iff.2 fun hc => ?_
              rcases Bool.or_eq_true_iff.1 hc with hc | hc
              · exact hstar rest (by rw [of_decide_eq_true hc])
              · exact hhyphen rest (by rw [of_decide_eq_true hc])
            exact if_neg (Bool.eq_false_iff.1 hc)
      rw [hnone]

/-- The compound rule whose pattern is one of the phrases of a line. -/
def compound (singular : Text) (modern classical : Option Text) (pattern : Phrase) :
    Except LineFault Rule :=
  ((CompoundRule.make pattern.pattern pattern (Phrase.ofForm singular)
    (modern.map Phrase.ofForm) (classical.map Phrase.ofForm)).mapError .rule).map .compound

/-- The compound rules of a line have its phrases for patterns, each one once. -/
theorem compounds_eq : compounds singular modern classical =
    ((singular :: (modern.toList ++ classical.toList)).map Phrase.ofForm).eraseDups.mapM
      (compound singular modern classical) := by
  have hphrases : (singular :: (modern.toList ++ classical.toList)).map Phrase.ofForm =
      Phrase.ofForm singular ::
        ((modern.map Phrase.ofForm).toList ++ (classical.map Phrase.ofForm).toList) := by
    simp [Option.toList_map]
  rw [hphrases]
  rfl

section Present

variable (hmodern : modern ≠ some []) (hclassical : classical ≠ some [])
include hmodern hclassical

/-- A compound rule can be built around a pattern if there is a plural, and has the phrases of the
line. -/
theorem compound_eq_ok_iff {pattern : Phrase} {rule : Rule} :
    compound singular modern classical pattern = .ok rule ↔
      pattern.IsPattern ∧ ∃ plurals,
        Plurals.of? (modern.map Phrase.ofForm) (classical.map Phrase.ofForm) = some plurals ∧
          rule = .compound ⟨pattern.pattern, pattern, Phrase.ofForm singular, plurals, {}⟩ := by
  simp only [compound, Except.map_eq_ok_iff, Except.mapError_eq_ok_iff,
    CompoundRule.make_eq_ok_iff (map_ofForm_ne hmodern) (map_ofForm_ne hclassical)]
  constructor
  · rintro ⟨r, ⟨hpattern, plurals, hplurals, rfl⟩, rfl⟩
    exact ⟨hpattern, plurals, hplurals, rfl⟩
  · rintro ⟨hpattern, plurals, hplurals, rfl⟩
    exact ⟨_, ⟨hpattern, plurals, hplurals, rfl⟩, rfl⟩

/-- There are no other rules among the compound rules of a line. -/
theorem simple_notMem_compounds (h : compounds singular modern classical = .ok rules)
    (r : SimpleRule) : .simple r ∉ rules := by
  intro hmem
  rw [compounds_eq] at h
  obtain ⟨pattern, -, hpattern⟩ := (mem_of_mapM_eq_ok h).1 _ hmem
  obtain ⟨-, _, -, heq⟩ := (compound_eq_ok_iff hmodern hclassical).1 hpattern
  cases heq

variable (hplural : ¬ (modern = none ∧ classical = none))
include hplural

/-- The compound rules of a line can be built if every form is a pattern. -/
theorem exists_compounds_iff : (∃ rules, compounds singular modern classical = .ok rules) ↔
    ∀ form ∈ singular :: (modern.toList ++ classical.toList), (Phrase.ofForm form).IsPattern := by
  obtain ⟨plurals, hplurals⟩ : ∃ plurals,
      Plurals.of? (modern.map Phrase.ofForm) (classical.map Phrase.ofForm) = some plurals := by
    rwa [Plurals.exists_of?_iff, Option.map_eq_none_iff, Option.map_eq_none_iff]
  rw [compounds_eq, exists_mapM_eq_ok_iff]
  simp only [List.mem_eraseDups, List.forall_mem_map]
  refine forall₂_congr fun form _ => ?_
  constructor
  · rintro ⟨rule, h⟩
    exact ((compound_eq_ok_iff hmodern hclassical).1 h).1
  · exact fun h => ⟨_, (compound_eq_ok_iff hmodern hclassical).2 ⟨h, plurals, hplurals, rfl⟩⟩

/-- The forms of a line give rules if they are all patterns, in a line with a compound, or else if
they are all affixes with the marker of the singular, should it have one. -/
theorem exists_rulesOfForms_iff (hsingular : singular ≠ []) :
    (∃ rules, rulesOfForms patterns singular modern classical = .ok rules) ↔
      if hasSingularHead singular then
        ∀ form ∈ singular :: (modern.toList ++ classical.toList), (Phrase.ofForm form).IsPattern
      else ∀ marker, singular.head?.filter isMarker = some marker →
        ∀ form ∈ singular :: (modern.toList ++ classical.toList),
          ∃ a, affix patterns marker form = .ok a := by
  rw [rulesOfForms_eq]
  split
  · exact exists_compounds_iff hmodern hclassical hplural
  · cases hmarker : singular.head?.filter isMarker with
    | some marker =>
        simp only [Option.some.injEq, forall_eq', Except.map_eq_ok_iff,
          ← exists_categorical_iff hplural]
        constructor
        · rintro ⟨_, rule, h, -⟩
          exact ⟨rule, h⟩
        · rintro ⟨rule, h⟩
          exact ⟨_, rule, h, rfl⟩
    | none =>
        obtain ⟨plurals, hplurals⟩ := Plurals.exists_of?_iff.2 hplural
        have hmake : IrregularRule.make singular modern classical =
            .ok ⟨singular, plurals, false⟩ :=
          (IrregularRule.make_eq_ok_iff hmodern hclassical).2 ⟨hsingular, plurals, hplurals, rfl⟩
        dsimp only
        rw [hmake]
        exact iff_of_true ⟨_, rfl⟩ fun marker h => absurd h (Option.some_ne_none marker).symm

end Present

end Forms

/-- The forms of an accepted line give compound rules, or a single categorical or irregular rule. An
irregular rule prefers the modern plural. -/
theorem rulesOf_cases {line : Text} {rules : List Rule}
    (h : rulesOf patterns line = .ok rules) : (hasSingularHead (formsOf line).1 = true ∧
        compounds (formsOf line).1 (formsOf line).2.1 (formsOf line).2.2 = .ok rules) ∨
      (hasSingularHead (formsOf line).1 = false ∧ ∃ r, rules = [.simple r] ∧
        ((∃ c, r = .categorical c) ∨ ∃ i, r = .irregular i ∧ i.preferClassical = false)) := by
  have hrules := (rulesOf_eq_ok_iff.1 h).2.2.2
  obtain ⟨hmodern, hclassical⟩ := formsOf_ne line
  rw [rulesOfForms_eq] at hrules
  split at hrules
  · next hhead => exact .inl ⟨hhead, hrules⟩
  · next hhead =>
      refine .inr ⟨Bool.eq_false_iff.2 hhead, ?_⟩
      split at hrules
      · obtain ⟨rule, hrule, rfl⟩ := Except.map_eq_ok_iff.1 hrules
        obtain ⟨_, -, _, -, _, -, r, -, rfl⟩ := categorical_eq_ok_iff.1 hrule
        exact ⟨_, rfl, .inl ⟨r, rfl⟩⟩
      · obtain ⟨i, hi, rfl⟩ := Except.map_eq_ok_iff.1 hrules
        obtain ⟨-, _, -, rfl⟩ :=
          (IrregularRule.make_eq_ok_iff hmodern hclassical).1 (Except.mapError_eq_ok_iff.1 hi)
        exact ⟨_, rfl, .inr ⟨_, rfl, rfl⟩⟩

/-- What the reading of a line comes to: nothing for a blank one, the fault of its content, the
rules of its content, or those and the fault or the rules of the spaced variant. -/
inductive ReadsLine (patterns : PatternReader) (line : Text) : List Rule × Option LineFault → Prop
  | blank (hblank : content line = []) : ReadsLine patterns line ([], none)
  | rejected {fault : LineFault} (hfault : rulesOf patterns (content line) = .error fault) :
      ReadsLine patterns line ([], some fault)
  | plain {rules : List Rule} (hrules : rulesOf patterns (content line) = .ok rules)
      (hvariant : spacedVariant? (content line) = none) : ReadsLine patterns line (rules, none)
  | variantRejected {rules : List Rule} {variant : Text} {fault : LineFault}
      (hrules : rulesOf patterns (content line) = .ok rules)
      (hvariant : spacedVariant? (content line) = some variant)
      (hfault : rulesOf patterns variant = .error fault) :
      ReadsLine patterns line (rules, some fault)
  | spaced {rules more : List Rule} {variant : Text}
      (hrules : rulesOf patterns (content line) = .ok rules)
      (hvariant : spacedVariant? (content line) = some variant)
      (hmore : rulesOf patterns variant = .ok more) : ReadsLine patterns line (rules ++ more, none)

/-- A line is read in one of these ways. -/
theorem readsLine (patterns : PatternReader) (line : Text) :
    ReadsLine patterns line (readLine patterns line) := by
  unfold readLine
  dsimp only
  split
  · next hblank => exact .blank hblank
  · split
    · next fault hfault => exact .rejected hfault
    · next rules hrules =>
        split
        · next hvariant => exact .plain hrules hvariant
        · next variant hvariant =>
            split
            · next fault hfault => exact .variantRejected hrules hvariant hfault
            · next more hmore => exact .spaced hrules hvariant hmore

/-- Every rule of a line is one of the rules of its content, which is accepted, or of the spaced
variant. -/
theorem exists_rulesOf_of_mem_readLine {line : Text} {r : Rule}
    (h : r ∈ (readLine patterns line).1) :
    ∃ own spelling rules, rulesOf patterns (content line) = .ok own ∧
      spelling ∈ content line :: (spacedVariant? (content line)).toList ∧
        rulesOf patterns spelling = .ok rules ∧ r ∈ rules := by
  generalize readLine patterns line = result, readsLine patterns line = hresult at h
  cases hresult with
  | blank hblank => cases h
  | rejected hfault => cases h
  | plain hrules _ | variantRejected hrules _ _ =>
      exact ⟨_, _, _, hrules, List.mem_cons_self, hrules, h⟩
  | spaced hrules hvariant hmore =>
      rcases List.mem_append.1 h with h | h
      · exact ⟨_, _, _, hrules, List.mem_cons_self, hrules, h⟩
      · exact ⟨_, _, _, hrules, List.mem_cons_of_mem _ (Option.mem_toList.2 hvariant), hmore, h⟩

/-- Every rule that is read is one of the rules of a line. -/
theorem exists_readLine_of_mem_read {strict : Bool} {lines : List Text} {r : Rule}
    (h : r ∈ (read strict lines patterns).rules) :
    ∃ line ∈ lines, r ∈ (readLine patterns line).1 := by
  have hline {line : Text} {lines : List Text} {rules : List Rule} {fault : Option LineFault}
      (hread : readLine patterns line = (rules, fault)) (hr : r ∈ rules) :
      ∃ line' ∈ line :: lines, r ∈ (readLine patterns line').1 :=
    ⟨line, List.mem_cons_self, by rw [hread]; exact hr⟩
  have hlater {line : Text} {lines : List Text}
      (h : ∃ line' ∈ lines, r ∈ (readLine patterns line').1) :
      ∃ line' ∈ line :: lines, r ∈ (readLine patterns line').1 := by
    obtain ⟨line', hmem, hr⟩ := h
    exact ⟨line', List.mem_cons_of_mem _ hmem, hr⟩
  revert h
  unfold read
  fun_induction readFrom patterns strict 1 lines with
  | case1 => exact fun h => absurd h List.not_mem_nil
  | case2 number line lines rules fault hread hstrict => exact hline hread
  | case3 number line lines rules fault hread hstrict later ih =>
      exact fun h => (List.mem_append.1 h).elim (hline hread) fun h => hlater (ih h)
  | case4 number line lines rules hread later ih =>
      exact fun h => (List.mem_append.1 h).elim (hline hread) fun h => hlater (ih h)

end RuleText

end Agreement
