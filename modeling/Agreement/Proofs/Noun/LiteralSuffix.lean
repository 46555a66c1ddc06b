import Agreement.Proofs.Noun.Answers
import Agreement.Proofs.Pattern.Matching

/-!
# Suffixes that stand for themselves

A suffix is recognised by a pattern, in which it stands as it is written, but it is attached as a
text. The two agree if the suffix has no pattern marks, or only braces that are no counts
(`Affix.standsForItself`): the affix is found in exactly the words that are a stem with the suffix
attached, and stripping it gives back that stem (`Affix.has_iff_attached`). With other suffixes they
do not agree (`Affix.has_dot`).
-/

namespace Agreement.Affix

open Pattern (Takes)

/-- Whether a suffix stands for itself in a pattern: it has no pattern marks but opening braces, and
none of these starts a count. -/
def standsForItself : Text → Bool
  | [] => true
  | c :: rest =>
    (!patternMarks.contains c || c == '\x7b' && !Pattern.startsBounds rest) && standsForItself rest

/-- A suffix that stands for itself has no backslash. -/
theorem backslash_notMem {suffix : Text} (h : standsForItself suffix = true) : '\\' ∉ suffix := by
  induction suffix with
  | nil => simp
  | cons c rest ih =>
      simp only [standsForItself, Bool.and_eq_true, Bool.or_eq_true] at h
      rw [List.mem_cons]
      rintro (rfl | hmem)
      · have hmark : '\\' ∈ patternMarks := by decide
        simp [hmark] at h
      · exact ih h.2 hmem

/-- The pattern for words with a suffix that stands for itself. -/
def literalPattern (complete : Bool) (suffix : Text) : Pattern :=
  Pattern.inSequence
    (.captured 1 (.word (if complete then 0 else 1)) :: suffix.map fun c => .one (.only c))

/-- A suffix that stands for itself is read as its characters. -/
theorem sequence_suffix {suffix : Text} (h : standsForItself suffix = true) {fuel : Nat}
    (hfuel : suffix.length < fuel) (before : List Pattern) (c : Pattern.Cursor) :
    Pattern.sequence fuel {} before { c with rest := suffix } =
      .ok (Pattern.inSequence (before.reverse ++ suffix.map fun d => .one (.only d)),
        { c with rest := [] }) := by
  induction suffix generalizing fuel before with
  | nil =>
      obtain ⟨fuel, rfl⟩ := Nat.exists_eq_succ_of_ne_zero (Nat.ne_of_gt hfuel)
      rw [Pattern.sequence_end (by simp), List.map_nil, List.append_nil]
  | cons d rest ih =>
      rw [List.length_cons] at hfuel
      obtain ⟨fuel, rfl⟩ := Nat.exists_eq_succ_of_ne_zero (Nat.ne_of_gt (Nat.zero_lt_of_lt hfuel))
      have hbackslash := List.not_mem_of_not_mem_cons (backslash_notMem h)
      simp only [standsForItself, Bool.and_eq_true, Bool.or_eq_true, Bool.not_eq_true',
        beq_iff_eq] at h
      obtain ⟨hd, hrest⟩ := h
      have hread : Pattern.sequence (fuel + 1) {} before { c with rest := d :: rest } =
          Pattern.sequence fuel {} (.one (.only d) :: before) { c with rest } := by
        rcases hd with hmark | ⟨rfl, hcount⟩
        · obtain ⟨hne, hsingle⟩ := Pattern.mark_of_no_mark hmark
          exact Pattern.sequence_single c hne hsingle (Pattern.ne_lone hbackslash)
        · exact Pattern.sequence_brace c hbackslash hcount
      rw [hread, ih hrest (Nat.lt_of_succ_lt_succ hfuel)]
      simp

/-- The written pattern for a suffix that stands for itself is a stem in front of its characters. -/
theorem read_written {suffix : Text} (h : standsForItself suffix = true) (complete : Bool) :
    Pattern.read (written complete suffix) = .ok (literalPattern complete suffix) := by
  have hmark : Pattern.Mark.of {} (if complete then '*' else '+') =
      .repetition (if complete then 0 else 1, none) := by
    cases complete <;> rfl
  have hne : (if complete then '*' else '+') ≠ '\\' ∧ (if complete then '*' else '+') ≠ '|' ∧
      (if complete then '*' else '+') ≠ ')' := by
    cases complete <;> decide
  have hwritten : written complete suffix = "(?P<" ++ "stem" ++
      '>' :: '\\' :: 'w' :: (if complete then '*' else '+') :: ')' :: suffix := by
    cases complete <;> rfl
  have hlone : written complete suffix ≠ ['\\'] := by
    rw [hwritten]
    simp
  obtain ⟨fuel, hfuel, hlt⟩ : ∃ fuel, 3 * (written complete suffix).length + 4 = fuel + 6 ∧
      suffix.length < fuel + 5 := by
    refine ⟨3 * (written complete suffix).length - 2, ?_⟩
    rw [written, List.length_append]
    cases complete <;> simp <;> omega
  have hread : Pattern.sequence (fuel + 6) {} [] (.atStart (written complete suffix)) =
      .ok (literalPattern complete suffix,
        { (Pattern.Cursor.atStart (written complete suffix)).behindWord "stem"
            (if complete then 0 else 1) suffix with rest := [] }) := by
    have hstart : Pattern.Cursor.atStart (written complete suffix) =
        { Pattern.Cursor.atStart (written complete suffix) with
          rest := "(?P<" ++ "stem" ++
            '>' :: '\\' :: 'w' :: (if complete then '*' else '+') :: ')' :: suffix } := by
      rw [← hwritten]
      rfl
    nth_rewrite 1 [hstart]
    rw [Pattern.sequence_word _ (List.all_eq_true.1 (by decide)) ⟨'s', rfl, by decide⟩ rfl hmark
      hne (Pattern.ne_lone (backslash_notMem h))]
    exact sequence_suffix h hlt [_]
      ((Pattern.Cursor.atStart (written complete suffix)).behindWord "stem"
        (if complete then 0 else 1) suffix)
  refine Pattern.read_of_sequence hlone (hfuel ▸ hread) rfl rfl ?_
  refine Pattern.behindFault?_inSequence (List.forall_mem_cons.2 ⟨rfl, ?_⟩)
  exact List.forall_mem_map.2 fun d _ => rfl

/-- A stem of word characters stands in front of a suffix: at least one of them unless the affix is
complete. -/
theorem takes_stem (complete : Bool) :
    Takes (.word (if complete then 0 else 1)) fun t =>
      (∀ c ∈ t, isWord c = true) ∧ (complete = true ∨ t ≠ []) := by
  have htakes := Pattern.takes_word (if complete then 0 else 1)
  cases complete <;> simpa [Nat.succ_le_iff, List.length_pos_iff, and_comm] using htakes

/-- The pattern for a suffix that stands for itself finds the same stems as a comparison with the
suffix. -/
theorem fullMatch?_literalPattern (complete : Bool) (suffix w : Text) :
    (literalPattern complete suffix).fullMatch? w = stem? ⟨suffix, complete, .literal⟩ w := by
  have hsuffix : 1 ∉ (Pattern.inSequence (suffix.map fun c => .one (.only c))).numbers := by
    simp [Pattern.numbers_inSequence, Pattern.numbers]
  obtain ⟨hfound, hmatch⟩ := (takes_stem complete).fullMatch?_stem (t := w)
    (Pattern.takes_text suffix) List.not_mem_nil hsuffix
  by_cases hstem : ∃ stem, IsStem ⟨suffix, complete, .literal⟩ stem ∧ w = stem ++ suffix
  · obtain ⟨stem, hstem, rfl⟩ := hstem
    rw [stem?_append (a := ⟨suffix, complete, .literal⟩) rfl hstem]
    exact hfound stem hstem rfl
  · have hnone : stem? ⟨suffix, complete, .literal⟩ w = none :=
      Option.not_isSome_iff_eq_none.1 fun hhas => hstem (exists_of_has rfl hhas)
    rw [hnone, Option.eq_none_iff_forall_ne_some]
    intro found hfull
    obtain ⟨stem, hstem', hw, -⟩ := hmatch found hfull
    exact hstem ⟨stem, hstem', hw⟩

/-- A suffix that stands for itself can be read, and its affix finds the stems that the written
pattern captures. -/
theorem exists_read {suffix : Text} (h : standsForItself suffix = true) (complete : Bool) :
    ∃ form, read complete suffix = .ok ⟨suffix, complete, form⟩ ∧
      ∀ w, stem? ⟨suffix, complete, form⟩ w = (literalPattern complete suffix).fullMatch? w := by
  unfold read
  split
  · exact ⟨.literal, rfl, fun w => (fullMatch?_literalPattern complete suffix w).symm⟩
  · exact ⟨.pattern (literalPattern complete suffix), by rw [read_written h]; rfl, fun w => rfl⟩

/-- A suffix that stands for itself can be read, and its affix is found in exactly the words that
are a stem of word characters with the suffix attached. Stripping the affix gives the stem back. All
of this is as the written pattern says, which captures the same stems. -/
theorem has_iff_attached {suffix : Text} (h : standsForItself suffix = true) (complete : Bool) :
    ∃ a p, read complete suffix = .ok a ∧ Pattern.read (written complete suffix) = .ok p ∧
      ∀ w, a.stem? w = p.fullMatch? w ∧
        (a.has w = true ↔ ∃ stem : Text,
          ((∀ c ∈ stem, isWord c = true) ∧ (complete = true ∨ stem ≠ [])) ∧ w = stem ++ suffix) ∧
        ∀ stem : Text, (∀ c ∈ stem, isWord c = true) ∧ (complete = true ∨ stem ≠ []) →
          w = stem ++ suffix → a.strip w = .ok (some stem) ∧ a.attach stem = w := by
  obtain ⟨form, hread, hstem⟩ := exists_read h complete
  refine ⟨⟨suffix, complete, form⟩, literalPattern complete suffix, hread,
    read_written h complete, fun w => ⟨hstem w, ?_, ?_⟩⟩
  all_goals
    have hliteral : stem? ⟨suffix, complete, form⟩ w = stem? ⟨suffix, complete, .literal⟩ w :=
      (hstem w).trans (fullMatch?_literalPattern complete suffix w)
  · rw [has, hliteral]
    refine ⟨fun hhas => exists_of_has (a := ⟨suffix, complete, .literal⟩) rfl hhas, ?_⟩
    rintro ⟨stem, hisStem, rfl⟩
    rw [stem?_append (a := ⟨suffix, complete, .literal⟩) rfl hisStem]
    rfl
  · rintro stem hisStem rfl
    refine ⟨?_, rfl⟩
    rw [strip, hliteral, stem?_append (a := ⟨suffix, complete, .literal⟩) rfl hisStem]

/-- Braces that are no count stand for themselves as well as letters do. -/
theorem has_iff_attached_braces :
    standsForItself "ch\x7b2es\x7d" = true ∧
      ∃ a, read false "ch\x7b2es\x7d" = .ok a ∧ a.has "church\x7b2es\x7d" = true ∧
        a.strip "church\x7b2es\x7d" = .ok (some "chur") := by
  have hstands : standsForItself "ch\x7b2es\x7d" = true := by decide
  obtain ⟨a, p, hread, -, ha⟩ := has_iff_attached hstands false
  obtain ⟨-, hhas, hstrip⟩ := ha "church\x7b2es\x7d"
  have hchur : ∀ c ∈ ("chur" : Text), isWord c = true := List.all_eq_true.1 (by decide)
  have hstem : (∀ c ∈ ("chur" : Text), isWord c = true) ∧ (false = true ∨ ("chur" : Text) ≠ []) :=
    ⟨hchur, .inr (by decide)⟩
  exact ⟨hstands, a, hread, hhas.2 ⟨"chur", hstem, rfl⟩, (hstrip "chur" hstem rfl).1⟩

/-- A point in a suffix stands for any character: "cat" has the affix ".", and loses its last
character, but no stem with a point attached is "cat". -/
theorem has_dot :
    ∃ a, read false "." = .ok a ∧ a.has "cat" = true ∧ a.strip "cat" = .ok (some "ca") ∧
      a.attach "ca" = "ca." ∧ ¬ ∃ stem : Text, ("cat" : Text) = stem ++ ("." : Text) := by
  refine ⟨_, rfl, by decide +kernel, by decide +kernel, rfl, ?_⟩
  rintro ⟨stem, hstem⟩
  have hlast := congrArg List.getLast? hstem
  simp at hlast

end Agreement.Affix
