import Agreement.Proofs.Noun.Spelling
import Agreement.Proofs.Pattern.Matching
import Agreement.Proofs.Text.Cuts

/-!
# Written phrases

A phrase is written as a pattern and as a template, with different characters escaped in each. Both
written forms read back as the phrase (`ofPattern?_pattern`, `ofTemplate?_template`), if its slots
are those that forms have markers for. Where no slot occurs twice, the written pattern matches as a
pattern the texts that the phrase matches (`exists_read_pattern`), and filling undoes matching
(`fill_of_match?`). What a phrase is filled with is what it spells: `exists_fill`.
-/

namespace Agreement

/-- The slots that have a marker in forms. -/
def markedSlots : List Slot := [.head, .preposition, .copied]

namespace Slot

/-- The name of a marked slot is a word that starts with a letter. -/
theorem name_word {s : Slot} (hs : s ∈ markedSlots) : (∀ c ∈ s.name, isWord c = true) ∧
    ∃ c ∈ s.name.head?, isDecimal c = false := by
  simp only [markedSlots, List.mem_cons, List.not_mem_nil, or_false] at hs
  rcases hs with rfl | rfl | rfl
  · exact ⟨List.all_eq_true.1 (by decide), ⟨'n', rfl, by decide⟩⟩
  · exact ⟨List.all_eq_true.1 (by decide), ⟨'p', rfl, by decide⟩⟩
  · exact ⟨List.all_eq_true.1 (by decide), ⟨'s', rfl, by decide⟩⟩

/-- A marked slot has its name alone. -/
theorem slotNamed_name {s : Slot} (hs : s ∈ markedSlots) : Phrase.slotNamed s.name = s := by
  simp only [markedSlots, List.mem_cons, List.not_mem_nil, or_false] at hs
  rcases hs with rfl | rfl | rfl <;> rfl

end Slot

namespace Phrase

variable {p : Phrase} {fuel : Nat}

/-- An escaped character is neither a letter nor a digit. -/
theorem not_isAlphanum_of_escaped {c : Char} (hc : escapedMarks.contains c = true) :
    c.isAlphanum = false := by
  have hall : (escapedMarks.all fun d => !d.isAlphanum) = true := by decide
  simpa using List.all_eq_true.1 hall c (List.contains_iff_mem.1 hc)

/-- A character that is not escaped is no mark. -/
theorem no_mark_of_not_escaped {c : Char} (hc : escapedMarks.contains c = false) :
    Affix.patternMarks.contains c = false := by
  have hall : (Affix.patternMarks.all escapedMarks.contains) = true := by decide
  refine Bool.eq_false_iff.2 fun hmark => ?_
  rw [List.all_eq_true.1 hall c (List.contains_iff_mem.1 hmark)] at hc
  cases hc

/-- The written pattern of a phrase is that of its first piece in front of the others. -/
theorem pattern_cons (piece : Piece) (p : Phrase) :
    pattern (piece :: p) = patternPiece piece ++ pattern p :=
  List.flatMap_cons

/-- The written pattern of a phrase is not a lone backslash. -/
theorem pattern_ne_lone (p : Phrase) : p.pattern ≠ ['\\'] := by
  cases p with
  | nil => simp [pattern]
  | cons piece p =>
      cases piece with
      | slot s => simp [pattern, patternPiece]
      | char c =>
          rw [pattern, List.flatMap_cons, patternPiece]
          split
          · simp
          · next hc =>
              rintro heq
              rw [(List.cons.inj heq).1] at hc
              exact hc (by decide)

/-- A character that ends names is in no name of a marked slot. -/
theorem notMem_name {s : Slot} (hs : s ∈ markedSlots) {c : Char} (hc : isWord c = false) :
    c ∉ s.name := by
  intro hmem
  rw [(Slot.name_word hs).1 c hmem] at hc
  cases hc

/-- The first piece of a written pattern reads back. -/
theorem ofPatternWithin_piece {piece : Piece} (hmarked : ∀ s ∈ slots [piece], s ∈ markedSlots)
    (fuel : Nat) (rest : Text) :
    ofPatternWithin (fuel + 1) (patternPiece piece ++ rest) =
      (ofPatternWithin fuel rest).map (piece :: ·) := by
  cases piece with
  | char c =>
      rw [patternPiece]
      split
      · next hc =>
          show ofPatternWithin (fuel + 1) ('\\' :: c :: rest) = _
          rw [ofPatternWithin, not_isAlphanum_of_escaped hc, if_neg Bool.false_ne_true]
      · next hc =>
          have hmark := no_mark_of_not_escaped (Bool.eq_false_iff.2 hc)
          have hne (d : Char) (hd : Affix.patternMarks.contains d = true) : c ≠ d := by
            rintro rfl
            rw [hd] at hmark
            cases hmark
          show ofPatternWithin (fuel + 1) (c :: rest) = _
          rw [ofPatternWithin]
          · exact if_neg (Bool.eq_false_iff.1 hmark)
          · exact fun _ _ heq => absurd heq (hne _ (by decide))
          · exact fun _ heq => absurd heq (hne _ (by decide))
  | slot s =>
      have hs := hmarked s List.mem_cons_self
      have htext : patternPiece (.slot s) ++ rest = '(' :: '?' :: 'P' :: '<' ::
          (s.name ++ '>' :: '\\' :: 'w' :: '+' :: ')' :: rest) := by
        simp [patternPiece]
      rw [htext, ofPatternWithin, Text.cutAt_append (notMem_name hs (by decide))]
      simp only [Slot.slotNamed_name hs]

/-- The first piece of a written template reads back. -/
theorem ofTemplateWithin_piece {piece : Piece} (hmarked : ∀ s ∈ slots [piece], s ∈ markedSlots)
    (fuel : Nat) (rest : Text) :
    ofTemplateWithin (fuel + 1) (templatePiece piece ++ rest) =
      (ofTemplateWithin fuel rest).map (piece :: ·) := by
  cases piece with
  | char c =>
      rw [templatePiece]
      split
      · next hc => rcases hc with rfl | rfl <;> rfl
      · next hc =>
          obtain ⟨hopen, hclose⟩ := not_or.1 hc
          show ofTemplateWithin (fuel + 1) (c :: rest) = _
          rw [ofTemplateWithin]
          · exact if_neg hclose
          · exact fun _ heq => absurd heq hopen
          · exact fun _ heq => absurd heq hclose
          · exact hopen
  | slot s =>
      have hs := hmarked s List.mem_cons_self
      have htext : templatePiece (.slot s) ++ rest = '\x7b' :: (s.name ++ '\x7d' :: rest) := by
        simp [templatePiece]
      rw [htext, ofTemplateWithin, Text.cutAt_append (notMem_name hs (by decide))]
      · simp only [Slot.slotNamed_name hs]
      · intro t heq
        obtain ⟨first, hfirst, -⟩ := (Slot.name_word hs).2
        obtain ⟨tail, hname⟩ := List.head?_eq_some_iff.1 hfirst
        rw [hname] at heq
        have hopen : '\x7b' ∈ s.name := by
          rw [hname, (List.cons.inj heq).1]
          exact List.mem_cons_self
        exact notMem_name hs (by decide) hopen

/-- A phrase has no more pieces than its written forms have characters. -/
theorem length_le_flatMap {f : Piece → Text} (hf : ∀ piece, f piece ≠ []) (p : Phrase) :
    p.length ≤ (p.flatMap f).length := by
  induction p with
  | nil => exact Nat.zero_le _
  | cons piece p ih =>
      have hpos := List.length_pos_iff.2 (hf piece)
      rw [List.flatMap_cons, List.length_append, List.length_cons]
      omega

/-- What reads back each piece of a written form reads back the whole. -/
theorem eq_some_of_pieces {f : Piece → Text} {readWithin : Nat → Text → Option Phrase}
    (hnil : ∀ fuel, readWithin (fuel + 1) [] = some [])
    (hpiece : ∀ piece, (∀ s ∈ slots [piece], s ∈ markedSlots) → ∀ fuel rest,
      readWithin (fuel + 1) (f piece ++ rest) = (readWithin fuel rest).map (piece :: ·))
    (hmarked : ∀ s ∈ p.slots, s ∈ markedSlots) (hfuel : p.length < fuel) :
    readWithin fuel (p.flatMap f) = some p := by
  induction p generalizing fuel with
  | nil =>
      obtain ⟨fuel, rfl⟩ := Nat.exists_eq_succ_of_ne_zero (Nat.ne_of_gt hfuel)
      exact hnil fuel
  | cons piece p ih =>
      obtain ⟨fuel, rfl⟩ := Nat.exists_eq_succ_of_ne_zero (Nat.ne_of_gt (Nat.zero_lt_of_lt hfuel))
      have hslots : slots (piece :: p) = slots [piece] ++ slots p := by cases piece <;> rfl
      rw [hslots, List.forall_mem_append] at hmarked
      rw [List.flatMap_cons, hpiece piece hmarked.1, ih hmarked.2 (Nat.lt_of_succ_lt_succ hfuel)]
      rfl

/-- A written pattern reads back as its phrase. -/
theorem ofPattern?_pattern (hmarked : ∀ s ∈ p.slots, s ∈ markedSlots) :
    ofPattern? p.pattern = some p := by
  have hne (piece : Piece) : patternPiece piece ≠ [] := by
    cases piece with
    | char c =>
        rw [patternPiece]
        split <;> simp
    | slot s => simp [patternPiece]
  exact eq_some_of_pieces (fun _ => rfl) (fun _ => ofPatternWithin_piece) hmarked
    (Nat.lt_succ_of_le (length_le_flatMap hne p))

/-- A written template reads back as its phrase. -/
theorem ofTemplate?_template (hmarked : ∀ s ∈ p.slots, s ∈ markedSlots) :
    ofTemplate? p.template = some p := by
  have hne (piece : Piece) : templatePiece piece ≠ [] := by
    cases piece with
    | char c =>
        rw [templatePiece]
        split <;> simp
    | slot s => simp [templatePiece]
  exact eq_some_of_pieces (fun _ => rfl) (fun _ => ofTemplateWithin_piece) hmarked
    (Nat.lt_succ_of_le (length_le_flatMap hne p))

/-- The parts of the pattern that a phrase is: a slot is a group with the next number behind the
`groups` earlier ones. -/
def matchers (groups : Nat) : Phrase → List Pattern
  | [] => []
  | .char c :: p => .one (.only c) :: matchers groups p
  | .slot _ :: p => .captured (groups + 1) (.word 1) :: matchers (groups + 1) p

/-- The pattern that a phrase is. -/
def matcher (p : Phrase) : Pattern :=
  Pattern.inSequence (p.matchers 0)

/-- The pattern of a phrase takes the texts that the phrase spells. -/
theorem takes_matchers (groups : Nat) (p : Phrase) :
    (Pattern.inSequence (p.matchers groups)).Takes fun t => ∃ words, p.Spells words t := by
  induction p generalizing groups with
  | nil =>
      refine Pattern.takes_empty.congr fun t => ⟨?_, ?_⟩
      · rintro rfl
        exact ⟨[], .nil⟩
      · rintro ⟨words, ⟨⟩⟩
        rfl
  | cons piece p ih =>
      cases piece with
      | char c =>
          refine ((Pattern.takes_only c).inSequence_cons (ih groups)).congr fun t => ⟨?_, ?_⟩
          · rintro ⟨_, rest, rfl, ⟨words, h⟩, rfl⟩
            exact ⟨words, .char c h⟩
          · rintro ⟨words, h⟩
            cases h with
            | char c h => exact ⟨[c], _, rfl, ⟨words, h⟩, rfl⟩
      | slot s =>
          refine (((Pattern.takes_word 1).captured (groups + 1)).inSequence_cons
            (ih (groups + 1))).congr fun t => ⟨?_, ?_⟩
          · rintro ⟨w, rest, ⟨hlength, hw⟩, ⟨words, h⟩, rfl⟩
            exact ⟨_, .slot s ⟨List.length_pos_iff.1 hlength, hw⟩ h⟩
          · rintro ⟨words, h⟩
            cases h with
            | slot s hw h =>
                exact ⟨_, _, ⟨List.length_pos_iff.2 hw.ne_nil, hw.isWord_of_mem⟩, ⟨_, h⟩, rfl⟩

/-- A character of a written pattern is read as the pattern of that character. -/
theorem sequence_char (d : Char) (p : Phrase) (c : Pattern.Cursor) (before : List Pattern) :
    Pattern.sequence (fuel + 1) {} before { c with rest := pattern (.char d :: p) } =
      Pattern.sequence fuel {} (.one (.only d) :: before) { c with rest := pattern p } := by
  rw [pattern_cons, patternPiece]
  split
  · next hd =>
      exact Pattern.sequence_escaped c (not_isAlphanum_of_escaped hd) (pattern_ne_lone p)
  · next hd =>
      obtain ⟨hne, hsingle⟩ :=
        Pattern.mark_of_no_mark (no_mark_of_not_escaped (Bool.eq_false_iff.2 hd))
      exact Pattern.sequence_single c hne hsingle (pattern_ne_lone p)

/-- A slot of a written pattern is read as a group of that name, which holds a word. -/
theorem sequence_slot {s : Slot} (hs : s ∈ markedSlots) (p : Phrase) {c : Pattern.Cursor}
    (hnew : c.names.lookup s.name = none) (before : List Pattern) :
    Pattern.sequence (fuel + 6) {} before { c with rest := pattern (.slot s :: p) } =
      Pattern.sequence (fuel + 5) {} (.captured (c.groups + 1) (.word 1) :: before)
        (c.behindWord s.name 1 (pattern p)) := by
  obtain ⟨hname, hfirst⟩ := Slot.name_word hs
  have htext : pattern (.slot s :: p) =
      "(?P<" ++ s.name ++ '>' :: '\\' :: 'w' :: '+' :: ')' :: pattern p := by
    simp [pattern_cons, patternPiece]
  have hmark : Pattern.Mark.of {} '+' = .repetition (1, none) := rfl
  rw [htext, Pattern.sequence_word c hname hfirst hnew hmark (by decide) (pattern_ne_lone p)]

/-- A slot that is still to come has no group yet behind the group of another slot. -/
theorem lookup_behindWord {s s' : Slot} (hs : s ∈ markedSlots) (hs' : s' ∈ markedSlots)
    (hne : s' ≠ s) {c : Pattern.Cursor} (hnew : c.names.lookup s'.name = none) (least : Nat)
    (rest : Text) : (c.behindWord s.name least rest).names.lookup s'.name = none := by
  have hname : s'.name ≠ s.name := by
    intro heq
    have hslot := congrArg slotNamed heq
    rw [Slot.slotNamed_name hs', Slot.slotNamed_name hs] at hslot
    exact hne hslot
  show List.lookup s'.name ((s.name, c.groups + 1) :: c.names) = none
  rw [List.lookup_cons, beq_eq_false_iff_ne.2 hname]
  exact hnew

/-- The written pattern of a phrase is read as the pattern that the phrase is. -/
theorem sequence_pattern (hmarked : ∀ s ∈ p.slots, s ∈ markedSlots) (hnodup : p.slots.Nodup)
    {c : Pattern.Cursor} (hnew : ∀ s ∈ p.slots, c.names.lookup s.name = none)
    (hfuel : p.pattern.length < fuel) (before : List Pattern) :
    ∃ c' : Pattern.Cursor, c'.rest = [] ∧ c'.asked = c.asked ∧
      Pattern.sequence fuel {} before { c with rest := p.pattern } =
        .ok (Pattern.inSequence (before.reverse ++ p.matchers c.groups), c') := by
  induction p generalizing fuel c before with
  | nil =>
      obtain ⟨fuel, rfl⟩ := Nat.exists_eq_add_of_le' hfuel
      refine ⟨{ c with rest := [] }, rfl, rfl, ?_⟩
      rw [matchers, List.append_nil]
      exact Pattern.sequence_end rfl
  | cons piece p ih =>
      cases piece with
      | char d =>
          have hlength : (pattern p).length < (pattern (.char d :: p)).length := by
            rw [pattern_cons, patternPiece, List.length_append]
            have hpos : 0 < (if escapedMarks.contains d then ['\\', d] else [d]).length := by
              split <;> simp
            omega
          obtain ⟨fuel, rfl⟩ := Nat.exists_eq_succ_of_ne_zero (by omega : fuel ≠ 0)
          have hlt : (pattern p).length < fuel := by omega
          obtain ⟨c', hend, hasked, hrest⟩ := ih hmarked hnodup hnew hlt (.one (.only d) :: before)
          refine ⟨c', hend, hasked, ?_⟩
          rw [sequence_char, hrest]
          simp [matchers]
      | slot s =>
          have hlength : (pattern p).length + 6 ≤ (pattern (.slot s :: p)).length := by
            rw [pattern_cons, patternPiece]
            simp
            omega
          obtain ⟨fuel, rfl⟩ := Nat.exists_eq_add_of_le' (by omega : 6 ≤ fuel)
          obtain ⟨hs, hmarked⟩ := List.forall_mem_cons.1 hmarked
          obtain ⟨hnot, hnodup⟩ := List.nodup_cons.1 hnodup
          obtain ⟨hsnew, hnew⟩ := List.forall_mem_cons.1 hnew
          have hnew' : ∀ s' ∈ slots p,
              List.lookup s'.name (c.behindWord s.name 1 (pattern p)).names = none :=
            fun s' hs' => lookup_behindWord hs (hmarked s' hs') (fun heq => hnot (heq ▸ hs'))
              (hnew s' hs') 1 (pattern p)
          have hlt : (pattern p).length < fuel + 5 := by omega
          obtain ⟨c', hend, hasked, hrest⟩ :=
            ih hmarked hnodup hnew' hlt (.captured (c.groups + 1) (.word 1) :: before)
          refine ⟨c', hend, hasked, ?_⟩
          rw [sequence_slot hs p hsnew]
          refine hrest.trans ?_
          simp [matchers, Pattern.Cursor.behindWord, Pattern.Cursor.inNamed]

/-- The pattern that a phrase is looks at nothing behind a place. -/
theorem behindFault?_matcher (p : Phrase) : p.matcher.behindFault? = none := by
  have hparts (groups : Nat) : ∀ q ∈ p.matchers groups, q.behindFault? = none := by
    induction p generalizing groups with
    | nil => simp [matchers]
    | cons piece p ih => cases piece <;> exact List.forall_mem_cons.2 ⟨rfl, ih _⟩
  exact Pattern.behindFault?_inSequence (hparts 0)

/-- The written pattern of a phrase without repeated slots can be read, and matches the texts that
the phrase matches. -/
theorem exists_read_pattern (hmarked : ∀ s ∈ p.slots, s ∈ markedSlots) (hnodup : p.slots.Nodup) :
    ∃ q, Pattern.read p.pattern = .ok q ∧
      ∀ t, (q.fullMatch? t).isSome = (p.match? t).isSome := by
  have hfuel : p.pattern.length < 3 * p.pattern.length + 4 := by omega
  obtain ⟨c, hend, hasked, hsequence⟩ := sequence_pattern (c := .atStart p.pattern) hmarked hnodup
    (fun s _ => List.lookup_nil) hfuel []
  refine ⟨p.matcher, Pattern.read_of_sequence (pattern_ne_lone p) hsequence hend hasked
    (behindFault?_matcher p), fun t => ?_⟩
  rw [Bool.eq_iff_iff, matcher, (takes_matchers 0 p).isSome_fullMatch?, match?_isSome_iff]

/-- What a phrase without repeated slots matches is filled again to the text. -/
theorem fill_of_match? (hnodup : p.slots.Nodup) {t : Text} {words : Filling}
    (h : p.match? t = some words) : p.fill words = .ok t := by
  have hspells := spells_of_match? h
  refine hspells.fill_eq fun word hmem => lookup_eq_some_of_mem ?_ hmem
  rwa [hspells.map_fst]

/-- A phrase is filled by words for its slots, and spells the text with them. -/
theorem exists_fill {table : Filling}
    (htable : ∀ s ∈ p.slots, ∃ w, table.lookup s = some w ∧ w.OneWord) :
    ∃ t words, p.fill table = .ok t ∧ p.Spells words t ∧
      ∀ word ∈ words, table.lookup word.1 = some word.2 := by
  induction p with
  | nil => exact ⟨[], [], rfl, .nil, by simp⟩
  | cons piece p ih =>
      cases piece with
      | char c =>
          obtain ⟨t, words, hfill, hspells, hwords⟩ := ih htable
          exact ⟨c :: t, words, by rw [fill, hfill]; rfl, .char c hspells, hwords⟩
      | slot s =>
          obtain ⟨⟨w, hw, hone⟩, htable⟩ := List.forall_mem_cons.1 htable
          obtain ⟨t, words, hfill, hspells, hwords⟩ := ih htable
          refine ⟨w ++ t, (s, w) :: words, by rw [fill, hw, hfill]; rfl, .slot s hone hspells, ?_⟩
          exact List.forall_mem_cons.2 ⟨hw, hwords⟩

end Phrase

end Agreement
