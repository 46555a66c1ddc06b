import Agreement.Proofs.Noun.SolidPieces

/-!
# The spaced variant of a line

The spaced variant of a line has the solid pieces of the line, so it has one arrow if the line has
(`cutArrow_spacedVariant`). Each of its forms has the solid pieces of a form of the line, behind the
same first character (`formsOf_spaced`), and so is a pattern or an affix if that is one. Hence the
variant of an accepted line is accepted too, if the affixes of the line stand for themselves:
`exists_rulesOf_spacedVariant`.
-/

namespace Agreement.RuleText

section Forms

/-- A form with its inner hyphens made spaces. -/
def spaced : Text → Text
  | [] => []
  | c :: rest => c :: Text.exchange '-' ' ' rest

/-- The spaced form is the trimmed form with its inner hyphens made spaces. -/
theorem spacedForm_eq (form : Text) : spacedForm form = spaced form.trim := by
  unfold spacedForm
  split
  · next body heq => rw [heq]; rfl
  · next hhyphen =>
      cases htrim : form.trim with
      | nil => rfl
      | cons c rest =>
          have hc : c ≠ '-' := by
            rintro rfl
            exact hhyphen rest htrim
          show (if c = '-' then ' ' else c) :: _ = _
          rw [if_neg hc]
          rfl

/-- A form has the same solid pieces when its inner hyphens are made spaces. -/
theorem solids_spaced (t : Text) : solids (spaced t) = solids t := by
  cases t with
  | nil => rfl
  | cons c rest =>
      rw [spaced, solids, List.splitOnP_cons_eq_if_modifyHead, splitOnP_exchange,
        ← List.splitOnP_cons_eq_if_modifyHead, solids]

/-- A spaced form has the solid pieces of the form. -/
theorem solids_spacedForm (form : Text) : solids (spacedForm form) = solids form := by
  rw [spacedForm_eq, solids_spaced, solids_trim]

/-- The plural part of a spaced variant. -/
def spacedPlurals (plural : Text) : Text :=
  Text.joinWith " | " ((Text.splitAt '|' plural).map spacedForm)

/-- Without a bar the plural part is a single form. -/
theorem spacedPlurals_of_not_mem {plural : Text} (h : '|' ∉ plural) :
    spacedPlurals plural = spacedForm plural := by
  rw [spacedPlurals, Text.splitAt_of_not_mem h]
  rfl

/-- The form in front of the first bar stands in front of the other ones. -/
theorem spacedPlurals_append {front : Text} (h : '|' ∉ front) (rest : Text) :
    spacedPlurals (front ++ '|' :: rest) =
      (spacedForm front ++ [' ']) ++ '|' :: ' ' :: spacedPlurals rest := by
  obtain ⟨first, more, hpieces⟩ := List.exists_cons_of_ne_nil (Text.splitAt_ne_nil '|' rest)
  rw [spacedPlurals, Text.splitAt_append h, spacedPlurals, hpieces]
  show spacedForm front ++ [' ', '|', ' '] ++
    Text.joinWith " | " ((first :: more).map spacedForm) = _
  simp

/-- The plural part of a spaced variant has the solid pieces of the plural part. -/
theorem solids_spacedPlurals (plural : Text) : solids (spacedPlurals plural) = solids plural := by
  have hbar : isBreak '|' = true := by decide
  have hblank : isBreak ' ' = true := by decide
  induction plural using Text.splitAt_induction with
  | one t h => rw [spacedPlurals_of_not_mem h, solids_spacedForm]
  | more front rest h ih =>
      rw [spacedPlurals_append h, solids_append_cons hbar, solids_append_cons hblank,
        solids_cons hblank, solids_nil, List.append_nil, solids_spacedForm, ih,
        solids_append_cons hbar]

/-- A form of a line and what the spaced variant has for it: the same solid pieces behind the same
first character. What stands behind the first character is literal if it was. -/
structure Respelled (form form' : Text) : Prop where
  head?_eq : form'.head? = form.head?
  solids_eq : solids form' = solids form
  isLiteral_tail : '|' ∉ form → Affix.isLiteral form.tail = true →
    Affix.isLiteral form'.tail = true

/-- A suffix stays literal when hyphens become spaces. -/
theorem isLiteral_exchange {suffix : Text} (h : Affix.isLiteral suffix = true) :
    Affix.isLiteral (Text.exchange '-' ' ' suffix) = true := by
  rw [Affix.isLiteral_iff] at h ⊢
  intro d hd
  obtain ⟨c, hc, rfl⟩ := List.mem_map.1 hd
  split
  · decide
  · exact h c hc

/-- A suffix stays literal when hyphens become spaces and blanks at the end are dropped. -/
theorem isLiteral_spaced {suffix : Text} (h : Affix.isLiteral suffix = true) :
    Affix.isLiteral (Text.dropEndWhile isBlank (Text.exchange '-' ' ' suffix)) = true :=
  Affix.isLiteral_iff.2 fun c hc =>
    Affix.isLiteral_iff.1 (isLiteral_exchange h) c (Text.mem_of_mem_dropEndWhile hc)

/-- A form is respelled as its spaced form. -/
theorem respelled_spacedForm (form : Text) : Respelled form.trim (spacedForm form).trim := by
  have hsolids : solids (spacedForm form).trim = solids form.trim := by
    rw [solids_trim, solids_trim, solids_spacedForm]
  cases htrim : form.trim with
  | nil =>
      rw [spacedForm_eq, htrim]
      exact ⟨rfl, rfl, fun _ _ => rfl⟩
  | cons c rest =>
      have hc : isBlank c = false := by
        have hfind : form.find? (fun c => !isBlank c) = some c := by
          rw [← Text.head?_trim, htrim]
          rfl
        simpa using List.find?_some hfind
      have hspaced : (spacedForm form).trim =
          c :: Text.dropEndWhile isBlank (Text.exchange '-' ' ' rest) := by
        rw [spacedForm_eq, htrim]
        exact Text.trim_append_cons hc [] _
      rw [hspaced, htrim] at hsolids
      rw [hspaced]
      exact ⟨rfl, hsolids, fun _ hliteral => isLiteral_spaced hliteral⟩

/-- A plural part is respelled as the spaced one. -/
theorem respelled_spacedPlurals (plural : Text) :
    Respelled plural.trim (spacedPlurals plural).trim := by
  rcases Text.exists_of_cut '|' plural with h | ⟨front, rest, rfl, h⟩
  · rw [spacedPlurals_of_not_mem h]
    exact respelled_spacedForm plural
  · have hbar : isBlank '|' = false := by decide
    refine ⟨?_, ?_, fun hnot => absurd ?_ hnot⟩
    · have hfront := (respelled_spacedForm front).head?_eq
      rw [Text.head?_trim, Text.head?_trim] at hfront
      have hblank : ([' '] : Text).find? (fun c => !isBlank c) = none := by decide
      have hfirst (t : Text) : ('|' :: t).find? (fun c => !isBlank c) = some '|' :=
        List.find?_cons_of_pos (by decide)
      rw [Text.head?_trim, Text.head?_trim, spacedPlurals_append h, List.find?_append,
        List.find?_append, List.find?_append, hfront, hblank, Option.or_none, hfirst, hfirst]
    · rw [solids_trim, solids_trim, solids_spacedPlurals]
    · rw [Text.trim_append_cons hbar]
      simp

/-- A form is not respelled as an empty one unless it is empty. -/
theorem Respelled.eq_nil_iff {form form' : Text} (h : Respelled form form') :
    form' = [] ↔ form = [] := by
  rw [← List.head?_eq_none_iff, h.head?_eq, List.head?_eq_none_iff]

/-- Where a form is present, so is the respelled one. -/
theorem Respelled.present? {form form' : Text} (h : Respelled form form') :
    Option.Rel Respelled (present? form) (present? form') := by
  unfold RuleText.present?
  by_cases hform : form = []
  · rw [if_pos hform, if_pos (h.eq_nil_iff.2 hform)]
    exact .none
  · rw [if_neg hform, if_neg (mt h.eq_nil_iff.1 hform)]
    exact .some h

/-- The characters other than blanks and hyphens are in a spaced form as they are in the form. -/
theorem mem_spacedForm_iff {form : Text} {c : Char} (hblank : isBlank c = false) (hc : c ≠ '-') :
    c ∈ spacedForm form ↔ c ∈ form := by
  have hspace : ' ' ≠ c := by
    rintro rfl
    cases hblank
  have hexchange (t : Text) : c ∈ Text.exchange '-' ' ' t ↔ c ∈ t := by
    rw [Text.exchange, List.mem_map]
    constructor
    · rintro ⟨d, hd, heq⟩
      split at heq
      · exact absurd heq hspace
      · exact heq ▸ hd
    · exact fun h => ⟨c, h, if_neg hc⟩
  rw [spacedForm_eq, ← @Text.mem_trim_iff form c hblank]
  cases form.trim with
  | nil => rfl
  | cons d rest => rw [spaced, List.mem_cons, List.mem_cons, hexchange]

/-- A bar is in a spaced form if it is in the form. -/
theorem bar_mem_spacedForm_iff {form : Text} : '|' ∈ spacedForm form ↔ '|' ∈ form :=
  mem_spacedForm_iff (by decide) (by decide)

/-- The bars of a plural part are those of the spaced one. -/
theorem count_bar_spacedPlurals (plural : Text) :
    (spacedPlurals plural).count '|' = plural.count '|' := by
  induction plural using Text.splitAt_induction with
  | one t h =>
      have hnot : '|' ∉ spacedForm t := by rwa [bar_mem_spacedForm_iff]
      rw [spacedPlurals_of_not_mem h, List.count_eq_zero.2 h, List.count_eq_zero.2 hnot]
  | more front rest h ih =>
      have hnot : '|' ∉ spacedForm front ++ [' '] := by simp [bar_mem_spacedForm_iff, h]
      rw [spacedPlurals_append h, Text.count_append_cons hnot, Text.count_append_cons h,
        List.count_cons_of_ne (by decide), ih]

/-- The spaced plural part has no comment sign if the plural part has none. -/
theorem comment_notMem_spacedPlurals {plural : Text} (h : '#' ∉ plural) :
    '#' ∉ spacedPlurals plural := by
  have hform {form : Text} (h : '#' ∉ form) : '#' ∉ spacedForm form := by
    rwa [mem_spacedForm_iff (by decide) (by decide)]
  induction plural using Text.splitAt_induction with
  | one t hbar =>
      rw [spacedPlurals_of_not_mem hbar]
      exact hform h
  | more front rest hbar ih =>
      rw [List.mem_append, not_or, List.mem_cons, not_or] at h
      rw [spacedPlurals_append hbar]
      simp [hform h.1, ih h.2.2]

/-- A plural part without a bar is the modern form. -/
theorem splitPlurals_trim_of_not_mem {plural : Text} (h : '|' ∉ plural) :
    splitPlurals plural.trim = (present? plural.trim, none) := by
  rw [splitPlurals, Text.cutAt_of_not_mem (mt Text.mem_of_mem_trim h)]

/-- The bar of a plural part stands between the modern and the classical form. -/
theorem splitPlurals_trim_append {front : Text} (h : '|' ∉ front) (rest : Text) :
    splitPlurals (front ++ '|' :: rest).trim = (present? front.trim, present? rest.trim) := by
  have hnot : '|' ∉ front.dropWhile isBlank :=
    fun hmem => h ((List.dropWhile_suffix isBlank).subset hmem)
  rw [Text.trim_append_cons (by decide), splitPlurals, Text.cutAt_append hnot]
  dsimp only
  rw [Text.trim_dropWhile, Text.trim_dropEndWhile]

/-- A blank at the end is trimmed. -/
theorem trim_append_blank (t : Text) : Text.trim (t ++ [' ']) = t.trim := by
  show Text.trim ([] ++ (t ++ [' '])) = t.trim
  exact Text.trim_append_of_blank (fun c hc => absurd hc List.not_mem_nil)
    (List.forall_mem_singleton.2 (by decide))

section Lines

variable {line variant singular plural front rest : Text}

/-- The forms of a line whose plural part has no bar. -/
theorem formsOf_of_not_mem (hcut : cutArrow line = (singular, some plural)) (h : '|' ∉ plural) :
    formsOf line = (singular.trim, present? plural.trim, none) := by
  rw [formsOf, hcut, Option.getD_some, splitPlurals_trim_of_not_mem h]

/-- The forms of a line whose plural part has a bar. -/
theorem formsOf_of_append (hcut : cutArrow line = (singular, some (front ++ '|' :: rest)))
    (h : '|' ∉ front) :
    formsOf line = (singular.trim, present? front.trim, present? rest.trim) := by
  rw [formsOf, hcut, Option.getD_some, splitPlurals_trim_append h]

/-- The forms of the spaced variant of a line whose plural part has no bar. -/
theorem formsOf_variant_of_not_mem (hvariant : cutArrow variant =
      (spacedForm singular ++ [' '], some (' ' :: spacedPlurals plural))) (h : '|' ∉ plural) :
    formsOf variant = ((spacedForm singular).trim, present? (spacedForm plural).trim, none) := by
  have hnot : '|' ∉ ' ' :: spacedPlurals plural := by
    rw [spacedPlurals_of_not_mem h]
    simp [bar_mem_spacedForm_iff, h]
  rw [formsOf_of_not_mem hvariant hnot, trim_append_blank, spacedPlurals_of_not_mem h]
  rfl

/-- The forms of the spaced variant of a line whose plural part has a bar. -/
theorem formsOf_variant_of_append (hvariant : cutArrow variant =
      (spacedForm singular ++ [' '], some (' ' :: spacedPlurals (front ++ '|' :: rest))))
    (h : '|' ∉ front) :
    formsOf variant = ((spacedForm singular).trim, present? (spacedForm front).trim,
      present? (spacedPlurals rest).trim) := by
  have hnot : '|' ∉ ' ' :: (spacedForm front ++ [' ']) := by simp [bar_mem_spacedForm_iff, h]
  have htrim (t : Text) : Text.trim (' ' :: t) = t.trim := rfl
  rw [spacedPlurals_append h, ← List.cons_append] at hvariant
  rw [formsOf_of_append hvariant hnot, trim_append_blank, htrim, htrim, trim_append_blank]

/-- The forms of the spaced variant are the respelled forms of the line. -/
theorem formsOf_spaced (hcut : cutArrow line = (singular, some plural))
    (hvariant : cutArrow variant =
      (spacedForm singular ++ [' '], some (' ' :: spacedPlurals plural))) :
    Respelled (formsOf line).1 (formsOf variant).1 ∧
      Option.Rel Respelled (formsOf line).2.1 (formsOf variant).2.1 ∧
        Option.Rel Respelled (formsOf line).2.2 (formsOf variant).2.2 := by
  rcases Text.exists_of_cut '|' plural with h | ⟨front, rest, rfl, h⟩
  · rw [formsOf_of_not_mem hcut h, formsOf_variant_of_not_mem hvariant h]
    exact ⟨respelled_spacedForm singular, (respelled_spacedForm plural).present?, .none⟩
  · rw [formsOf_of_append hcut h, formsOf_variant_of_append hvariant h]
    exact ⟨respelled_spacedForm singular, (respelled_spacedForm front).present?,
      (respelled_spacedPlurals rest).present?⟩

end Lines

end Forms

/-- The spaced variant of a line has one arrow if the line has. -/
theorem cutArrow_spacedVariant {line variant singular plural : Text}
    (hcut : cutArrow line = (singular, some plural)) (hone : (cutArrow plural).2 = none)
    (h : spacedVariant? line = some variant) :
    cutArrow variant = (spacedForm singular ++ [' '], some (' ' :: spacedPlurals plural)) ∧
      (cutArrow (' ' :: spacedPlurals plural)).2 = none := by
  have hsolid : arrow.any isBreak = false := by decide
  have hblank : isBreak ' ' = true := by decide
  have hvariant : variant =
      spacedForm singular ++ ' ' :: (arrow ++ ' ' :: spacedPlurals plural) := by
    unfold spacedVariant? at h
    rw [hcut] at h
    dsimp only at h
    split at h
    · cases h
      simp [spacedPlurals, arrow]
    · cases h
  constructor
  · have hnot : ¬ arrow <:+: spacedForm singular := by
      rw [infix_congr (by decide) hsolid (solids_spacedForm singular)]
      have hfirst := not_arrow_of_cutArrow line
      rwa [hcut] at hfirst
    rw [hvariant, cutArrow_append_cons (by decide) hnot]
    rfl
  · have hnot : ¬ arrow <:+: ' ' :: spacedPlurals plural := by
      rw [infix_congr (by decide) hsolid
        ((solids_cons hblank _).trans (solids_spacedPlurals plural)), ← cutArrow_isSome_iff, hone]
      exact Bool.noConfusion
    rw [← cutArrow_isSome_iff] at hnot
    simpa using hnot

section Respelled

variable {singular singular' : Text} {modern modern' classical classical' : Option Text}

/-- A form that is respelled as a pattern is a pattern. -/
theorem Respelled.isPattern {form form' : Text} (h : Respelled form form')
    (hpattern : (Phrase.ofForm form).IsPattern) : (Phrase.ofForm form').IsPattern := by
  have hslots := slots_congr h.solids_eq
  exact ⟨hslots ▸ hpattern.nodup, hslots ▸ hpattern.head_mem⟩

/-- A form that is read as a literal affix is one when it is respelled. -/
theorem Respelled.exists_affix {form form' : Text} (h : Respelled form form') {marker : Char}
    (hmarker : isMarker marker = true) {a : Affix} (ha : affix patterns marker form = .ok a)
    (hliteral : Affix.isLiteral a.suffix = true) : ∃ a, affix patterns marker form' = .ok a := by
  have hhead := head?_of_affix ha
  rw [suffix_of_affix ha] at hliteral
  refine (exists_affix_iff fun _ => h.isLiteral_tail ?_ hliteral).2 (h.head?_eq.trans hhead)
  -- a bar is neither a marker nor part of a literal suffix
  obtain ⟨suffix, rfl⟩ := List.head?_eq_some_iff.1 hhead
  intro hmem
  rcases List.mem_cons.1 hmem with rfl | hmem
  · exact absurd hmarker (by decide)
  · exact Affix.isLiteral_iff.1 hliteral '|' hmem (by decide)

/-- A form is missing in the variant if it is missing in the line. -/
theorem eq_none_iff_of_respelled {form form' : Option Text} (h : Option.Rel Respelled form form') :
    form' = none ↔ form = none := by
  cases h <;> simp

/-- The forms of a line that are respelled. -/
theorem exists_respelled (hsingular : Respelled singular singular')
    (hmodern : Option.Rel Respelled modern modern')
    (hclassical : Option.Rel Respelled classical classical') :
    ∀ form' ∈ singular' :: (modern'.toList ++ classical'.toList),
      ∃ form ∈ singular :: (modern.toList ++ classical.toList), Respelled form form' := by
  have hform {form form' : Option Text} (h : Option.Rel Respelled form form') :
      ∀ f' ∈ form'.toList, ∃ f ∈ form.toList, Respelled f f' := by
    cases h with
    | none => simp
    | some h => simpa using h
  exact exists_mem_forms hsingular (hform hmodern) (hform hclassical)

/-- The affixes of a rule, if it is a categorical one. -/
def affixesOf : Rule → List Affix
  | .simple (.categorical r) => r.affixes
  | _ => []

/-- Where the forms of a line give rules, so do the respelled ones, if the affixes of the rules
stand for themselves. -/
theorem exists_rulesOfForms_respelled (hs : Respelled singular singular')
    (hm : Option.Rel Respelled modern modern') (hc : Option.Rel Respelled classical classical')
    (hne : modern ≠ some [] ∧ classical ≠ some []) (hne' : modern' ≠ some [] ∧ classical' ≠ some [])
    (hsingular : singular ≠ []) (hplural : ¬ (modern = none ∧ classical = none))
    {rules : List Rule} (hrules : rulesOfForms patterns singular modern classical = .ok rules)
    (hliteral : ∀ rule ∈ rules, ∀ a ∈ affixesOf rule, Affix.isLiteral a.suffix = true) :
    ∃ more, rulesOfForms patterns singular' modern' classical' = .ok more := by
  have hplural' : ¬ (modern' = none ∧ classical' = none) := by
    rwa [eq_none_iff_of_respelled hm, eq_none_iff_of_respelled hc]
  have hmem := exists_respelled hs hm hc
  have haccepted := (exists_rulesOfForms_iff hne.1 hne.2 hplural hsingular).1 ⟨rules, hrules⟩
  rw [exists_rulesOfForms_iff hne'.1 hne'.2 hplural' (mt hs.eq_nil_iff.1 hsingular),
    hasSingularHead_congr hs.solids_eq, hs.head?_eq]
  split at haccepted
  · next hhead =>
      rw [if_pos hhead]
      intro form' hform'
      obtain ⟨form, hform, hrel⟩ := hmem form' hform'
      exact hrel.isPattern (haccepted form hform)
  · next hhead =>
      rw [if_neg hhead]
      intro marker hmarker form' hform'
      obtain ⟨form, hform, hrel⟩ := hmem form' hform'
      rw [rulesOfForms_eq, if_neg hhead, hmarker] at hrules
      obtain ⟨rule, hrule, rfl⟩ := Except.map_eq_ok_iff.1 hrules
      obtain ⟨r, rfl, haffixes⟩ := exists_affix_of_categorical hrule
      obtain ⟨a, ha, hread⟩ := haffixes form hform
      exact hrel.exists_affix (Option.filter_eq_some_iff.1 hmarker).2 hread
        (hliteral _ List.mem_cons_self a ha)

end Respelled

/-- The suffixes of all affixes in the rules of a line stand for themselves. -/
def HasLiteralAffixes (patterns : PatternReader) (line : Text) : Prop :=
  ∀ rules, rulesOf patterns line = .ok rules → ∀ rule ∈ rules, ∀ a ∈ affixesOf rule,
    Affix.isLiteral a.suffix = true

instance (line : Text) : Decidable (HasLiteralAffixes patterns line) :=
  decidable_of_iff (∀ rules ∈ (rulesOf patterns line).toOption, ∀ rule ∈ rules,
    ∀ a ∈ affixesOf rule,
      Affix.isLiteral a.suffix = true)
    (forall_congr' fun _ => imp_congr_left Except.toOption_eq_some_iff)

/-- The spaced variant of an accepted line is accepted, if the affixes of the line stand for
themselves. -/
theorem exists_rulesOf_spacedVariant {line variant : Text} {rules : List Rule}
    (hliteral : HasLiteralAffixes patterns line) (hrules : rulesOf patterns line = .ok rules)
    (h : spacedVariant? line = some variant) : ∃ more, rulesOf patterns variant = .ok more := by
  obtain ⟨⟨singular, plural, hcut, hone⟩, hsingular, hplural, hforms⟩ := rulesOf_eq_ok_iff.1 hrules
  obtain ⟨hvariant, hvone⟩ := cutArrow_spacedVariant hcut hone h
  obtain ⟨hs, hm, hc⟩ := formsOf_spaced hcut hvariant
  obtain ⟨more, hmore⟩ := exists_rulesOfForms_respelled hs hm hc (formsOf_ne line)
    (formsOf_ne variant) hsingular hplural hforms (hliteral rules hrules)
  have hplural' : ¬ ((formsOf variant).2.1 = none ∧ (formsOf variant).2.2 = none) := by
    rwa [eq_none_iff_of_respelled hm, eq_none_iff_of_respelled hc]
  exact ⟨more, rulesOf_eq_ok_iff.2
    ⟨⟨_, _, hvariant, hvone⟩, mt hs.eq_nil_iff.1 hsingular, hplural', hmore⟩⟩

end Agreement.RuleText
