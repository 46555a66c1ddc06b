import Agreement.Proofs.Noun.Answers

/-!
# Compounds with the head in front

A compound rule has its head in front if its one phrase begins with the head and a character that
belongs to no word (`CompoundRule.HeadFirst`). A word then falls apart in only one way, and each
answer about it is the answer about its head, with the rest of the word behind a form
(`HeadFirst.inflect_append` and the equations after it). The rule answers if the singular of the
head is a word again (`HeadFirst.answers`). If nothing is left of the head, the rule does not match
the singular that it derived, and refuses to derive a plural from it (`HeadFirst.form_eq_error`).
-/

namespace Agreement.CompoundRule

/-- The phrases of a rule, which goes by the lexicon that is asked, are one phrase with the head in
front: `c` is the character behind the head, and `p` what follows. -/
structure HeadFirst (r : CompoundRule) (c : Char) (p : Phrase) : Prop where
  background_eq : r.background = {}
  pattern_eq : r.pattern = .slot .head :: .char c :: p
  singular_eq : r.singular = r.pattern
  plurals_eq : r.plurals = .modern r.pattern
  not_word : isWord c = false
  nodup : (.head :: p.slots).Nodup

/-- What the slots behind the head hold, if the text has their form and the slot for a preposition
holds one. -/
def tail? (prepositions : Prepositions) (r : CompoundRule) (p : Phrase) (rest : Text) :
    Option Filling :=
  (p.match? rest).filter fun words =>
    !r.hasPreposition || prepositions.has ((words.lookup .preposition).getD [])

namespace HeadFirst

variable {prepositions : Prepositions} {resolve : Text → SimpleRule} {r : CompoundRule} {c : Char}
  {p : Phrase} {head rest w v : Text} {words : Filling}

/-- A word in front of the rest of a compound is matched as its head. -/
theorem match?_append (hr : r.HeadFirst c p) (hhead : head.OneWord) (rest : Text) :
    r.match? prepositions (head ++ c :: rest) =
      (r.tail? prepositions p rest).map ((.head, head) :: ·) := by
  rw [match?, prepositionsIn_eq hr.background_eq, hr.pattern_eq,
    Phrase.match?_slot_char hhead hr.not_word, Option.filter_map]
  rfl

/-- Without a head there is no match. -/
theorem match?_eq_none (hr : r.HeadFirst c p) (rest : Text) :
    r.match? prepositions (c :: rest) = none := by
  rw [match?, hr.pattern_eq, Phrase.match?_slot_eq_none hr.not_word]
  rfl

/-- A word in front of another character is not matched. -/
theorem match?_append_of_ne (hr : r.HeadFirst c p) (hhead : head.OneWord) {d : Char}
    (hd : isWord d = false) (hne : d ≠ c) (rest : Text) :
    r.match? prepositions (head ++ d :: rest) = none := by
  rw [match?, hr.pattern_eq, Phrase.match?_slot_char_of_ne hhead hr.not_word hd hne]
  rfl

/-- A word that matches is a head in front of the rest of a compound. -/
theorem exists_of_match? (hr : r.HeadFirst c p) (h : r.match? prepositions w = some words) :
    ∃ head rest words', head.OneWord ∧ w = head ++ c :: rest ∧
      r.tail? prepositions p rest = some words' := by
  have hspells := spells_of_match? h
  rw [hr.pattern_eq] at hspells
  cases hspells with
  | slot s hhead hspells =>
      cases hspells with
      | char c hspells =>
          rw [hr.match?_append hhead] at h
          obtain ⟨words', htail, -⟩ := Option.map_eq_some_iff.1 h
          exact ⟨_, _, words', hhead, rfl, htail⟩

/-- A single word does not match. -/
theorem match?_oneWord (hr : r.HeadFirst c p) (hw : w.OneWord) :
    r.match? prepositions w = none := by
  refine Option.eq_none_iff_forall_ne_some.2 fun words hmatch => ?_
  obtain ⟨head, rest, -, -, rfl, -⟩ := hr.exists_of_match? hmatch
  exact hw.not_mem hr.not_word (by simp)

/-- The phrase is filled with a form of the head, and the rest of the word stays as it is. -/
theorem render_eq (hr : r.HeadFirst c p) (htail : r.tail? prepositions p rest = some words)
    (head form : Text) :
    render r.pattern ((.head, head) :: words) form = .ok (form ++ c :: rest) := by
  have hspells := Phrase.spells_of_match? (Option.filter_eq_some_iff.1 htail).1
  have hnodup := hr.nodup
  rw [List.nodup_cons, ← hspells.map_fst] at hnodup
  have hfill : Phrase.fill ((.head, form) :: (.head, head) :: words) p = .ok rest := by
    refine hspells.fill_eq fun word hmem => ?_
    have hne : word.1 ≠ .head := fun heq => hnodup.1 (heq ▸ List.mem_map_of_mem hmem)
    rw [List.lookup_cons, beq_eq_false_iff_ne.2 hne, List.lookup_cons, beq_eq_false_iff_ne.2 hne]
    exact Phrase.lookup_eq_some_of_mem hnodup.2 hmem
  rw [render, hr.pattern_eq, Phrase.fill, List.lookup_cons_self, Phrase.fill, hfill]
  rfl

/-- A form of the compound is the form of its head with the rest of the word behind it. -/
theorem inflect_append (hr : r.HeadFirst c p) (hhead : head.OneWord)
    (htail : r.tail? prepositions p rest = some words) (form : NounForm) :
    r.inflect prepositions resolve r.pattern form (head ++ c :: rest) =
      ((resolve head).inflection.form form head).map (· ++ c :: rest) := by
  have hmatch : r.match? prepositions (head ++ c :: rest) = some ((.head, head) :: words) := by
    rw [hr.match?_append hhead, htail]
    rfl
  rw [inflect_of_match? hmatch, headRule_eq hr.background_eq]
  change (resolve head).inflection.form form head >>= _ = _
  cases (resolve head).inflection.form form head with
  | error e => rfl
  | ok u => exact hr.render_eq htail head u

/-- Without a head there are no forms. -/
theorem inflect_eq_error (hr : r.HeadFirst c p) (phrase : Phrase) (form : NounForm) (rest : Text) :
    r.inflect prepositions resolve phrase form (c :: rest) =
      .error (.foreign (c :: rest) r.describe) :=
  CompoundRule.inflect_eq_error (hr.match?_eq_none rest)

/-- The plurals of a compound fill its one phrase with the modern plural of the head. -/
theorem pluralizeModern_eq (hr : r.HeadFirst c p) (w : Text) :
    (r.inflection prepositions resolve).pluralizeModern w =
      r.inflect prepositions resolve r.pattern .modernPlural w := by
  unfold inflection
  rw [hr.plurals_eq]
  rfl

/-- The classical plural of a compound, which its rule lacks, is the modern one. -/
theorem pluralizeClassical_eq (hr : r.HeadFirst c p) (w : Text) :
    (r.inflection prepositions resolve).pluralizeClassical w =
      r.inflect prepositions resolve r.pattern .modernPlural w := by
  unfold inflection
  rw [hr.plurals_eq]
  rfl

section Append

variable (hr : r.HeadFirst c p) (hhead : head.OneWord)
  (htail : r.tail? prepositions p rest = some words)
include hr hhead htail

/-- A compound is singular if its head is. -/
theorem isSingular_append :
    (r.inflection prepositions resolve).isSingular (head ++ c :: rest) =
      (resolve head).inflection.isSingular head := by
  change (r.parts prepositions (head ++ c :: rest) >>= _) = _
  rw [parts, hr.match?_append hhead, htail, headRule_eq hr.background_eq]
  rfl

/-- The singular of a compound is the singular of its head with the rest behind it. -/
theorem singularize_append :
    (r.inflection prepositions resolve).singularize (head ++ c :: rest) =
      ((resolve head).inflection.singularize head).map (· ++ c :: rest) := by
  change r.inflect prepositions resolve r.singular .singular _ = _
  rw [hr.singular_eq]
  exact hr.inflect_append hhead htail .singular

/-- A compound is made singular by its head. -/
theorem asSingular_append :
    (r.inflection prepositions resolve).asSingular (head ++ c :: rest) =
      ((resolve head).inflection.asSingular head).map (· ++ c :: rest) := by
  rw [Inflection.asSingular, hr.isSingular_append hhead htail,
    hr.singularize_append hhead htail, Inflection.asSingular]
  cases (resolve head).inflection.isSingular head with
  | error e => rfl
  | ok b => cases b <;> rfl

/-- The plural of a compound is the plural of its head with the rest behind it. -/
theorem plural_append :
    (r.inflection prepositions resolve).plural (head ++ c :: rest) =
      ((resolve head).inflection.plural head).map (· ++ c :: rest) := by
  have hpluralize : (r.inflection prepositions resolve).pluralize (head ++ c :: rest) =
      ((resolve head).inflection.plural head).map (· ++ c :: rest) := by
    change r.inflect prepositions resolve r.plurals.modernFirst .plural _ = _
    rw [hr.plurals_eq]
    exact hr.inflect_append hhead htail .plural
  have hsingular : (r.inflection prepositions resolve).isSingular (head ++ c :: rest) =
      (resolve head).inflection.isSingular head :=
    hr.isSingular_append hhead htail
  cases hb : (resolve head).inflection.isSingular head with
  | error e =>
      rw [hb] at hsingular
      rw [Inflection.plural, Inflection.isPlural, hsingular, Inflection.plural,
        Inflection.isPlural, hb]
      rfl
  | ok b =>
      rw [hb] at hsingular
      cases b with
      | true => rw [Inflection.plural_of_singular hsingular, hpluralize]
      | false =>
          rw [Inflection.plural_of_plural hsingular, Inflection.plural_of_plural hb]
          rfl

/-- The singular and the plural of a compound are those of its head with the rest behind them. -/
theorem form_append {form : NounForm} (hform : form = .singular ∨ form = .plural) :
    (r.inflection prepositions resolve).form form (head ++ c :: rest) =
      ((resolve head).inflection.form form head).map (· ++ c :: rest) := by
  rcases hform with rfl | rfl
  · exact hr.singularize_append hhead htail
  · exact hr.plural_append hhead htail

/-- Both other plurals of a singular compound are the modern plural of its head with the rest behind
it. -/
theorem plural_of_singular_append (hb : (resolve head).inflection.isSingular head = .ok true)
    {form : NounForm} (hform : form = .modernPlural ∨ form = .classicalPlural) :
    (r.inflection prepositions resolve).form form (head ++ c :: rest) =
      ((resolve head).inflection.modernPlural head).map (· ++ c :: rest) := by
  have hsingular : (r.inflection prepositions resolve).asSingular (head ++ c :: rest) =
      .ok (head ++ c :: rest) :=
    Inflection.asSingular_of_singular ((hr.isSingular_append hhead htail).trans hb)
  rcases hform with rfl | rfl
  · rw [Inflection.form, Inflection.modernPlural_of_asSingular hsingular, hr.pluralizeModern_eq]
    exact hr.inflect_append hhead htail .modernPlural
  · rw [Inflection.form, Inflection.classicalPlural_of_asSingular hsingular,
      hr.pluralizeClassical_eq]
    exact hr.inflect_append hhead htail .modernPlural

/-- A compound has a singular and a plural if its head has. -/
theorem exists_form_append (hanswers : (resolve head).inflection.Answers head) {form : NounForm}
    (hform : form = .singular ∨ form = .plural) :
    ∃ u, (r.inflection prepositions resolve).form form (head ++ c :: rest) = .ok u := by
  obtain ⟨u, hu⟩ := hanswers.form form
  exact ⟨_, (hr.form_append hhead htail hform).trans (congrArg (Except.map _) hu)⟩

/-- The rule of a compound answers if the rule of its head does and the modern plural of the head's
singular is given. -/
theorem answers (hanswers : (resolve head).inflection.Answers head)
    (hv : (resolve head).inflection.asSingular head = .ok v) (hword : v.OneWord)
    (hmodern : ∃ u, (resolve v).inflection.modernPlural v = .ok u) :
    (r.inflection prepositions resolve).Answers (head ++ c :: rest) := by
  obtain ⟨b, hb⟩ := hanswers.isSingular
  obtain ⟨modern, hmodern⟩ := hmodern
  have hsingular : (r.inflection prepositions resolve).asSingular (head ++ c :: rest) =
      .ok (v ++ c :: rest) :=
    (hr.asSingular_append hhead htail).trans (congrArg (Except.map _) hv)
  have hinflect : r.inflect prepositions resolve r.pattern .modernPlural (v ++ c :: rest) =
      .ok (modern ++ c :: rest) :=
    (hr.inflect_append hword htail .modernPlural).trans (congrArg (Except.map _) hmodern)
  exact .of_singular ((hr.isSingular_append hhead htail).trans hb)
    (hr.exists_form_append hhead htail hanswers (.inl rfl))
    (hr.exists_form_append hhead htail hanswers (.inr rfl)) hsingular
    ⟨_, (hr.pluralizeModern_eq _).trans hinflect⟩ ⟨_, (hr.pluralizeClassical_eq _).trans hinflect⟩

/-- If nothing is left of the head, the singular of the compound is refused. -/
theorem form_eq_error (hv : (resolve head).inflection.asSingular head = .ok [])
    {form : NounForm} (hform : form = .modernPlural ∨ form = .classicalPlural) :
    (r.inflection prepositions resolve).form form (head ++ c :: rest) =
      .error (.foreign (c :: rest) r.describe) := by
  have hsingular : (r.inflection prepositions resolve).asSingular (head ++ c :: rest) =
      .ok (c :: rest) :=
    (hr.asSingular_append hhead htail).trans (congrArg (Except.map _) hv)
  rcases hform with rfl | rfl
  · rw [Inflection.form, Inflection.modernPlural_of_asSingular hsingular, hr.pluralizeModern_eq]
    exact hr.inflect_eq_error _ _ rest
  · rw [Inflection.form, Inflection.classicalPlural_of_asSingular hsingular,
      hr.pluralizeClassical_eq]
    exact hr.inflect_eq_error _ _ rest

end Append

end HeadFirst

end Agreement.CompoundRule
