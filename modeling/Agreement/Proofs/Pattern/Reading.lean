import Agreement.Noun.Affix
import Agreement.Proofs.Success

/-!
# Reading written patterns

What `Pattern.read` makes of the parts that written patterns for nouns consist of: a character that
is no mark, an escaped character, a brace that starts no count, and a named group of word
characters. Each part has one lemma, which says how the reading goes on behind it, from any cursor.
A whole pattern is then read part by part, as `read_of_sequence` says.
-/

namespace Agreement.Pattern

/-- A character that belongs to words. -/
def wordChar : Pattern :=
  .one (.set none false [.kind .word .full false])

/-- A word of at least `least` characters, as long as possible. -/
def word (least : Nat) : Pattern :=
  .repeated wordChar least none .most

/-- A text without backslashes is no lone backslash. -/
theorem ne_lone {t : Text} (h : '\\' ∉ t) : t ≠ ['\\'] := by
  rintro rfl
  exact h List.mem_cons_self

namespace Cursor

variable {rest : Text}

/-- No lone backslash behind the characters that are skipped is no fault. -/
theorem skip_eq (c : Cursor) (n : Nat) (h : c.rest.drop n ≠ ['\\']) :
    c.skip n = .ok { c with rest := c.rest.drop n } := by
  rw [skip, if_neg h]

/-- A character comes next as it is. -/
theorem next?_char (c : Cursor) {d : Char} (hd : d ≠ '\\') (hrest : rest ≠ ['\\']) :
    next? { c with rest := d :: rest } = .ok (some [d], { c with rest }) := by
  have hskip := skip_eq { c with rest := d :: rest } 1 hrest
  unfold next?
  simp only [hskip]
  split
  · next h => cases h
  · next h => exact absurd (List.cons.inj h).1 hd
  · next h =>
      cases h
      rfl

/-- An escape comes next with its character. -/
theorem next?_escape (c : Cursor) (d : Char) (hrest : rest ≠ ['\\']) :
    next? { c with rest := '\\' :: d :: rest } = .ok (some ['\\', d], { c with rest }) := by
  have hskip := skip_eq { c with rest := '\\' :: d :: rest } 2 hrest
  unfold next?
  simp only [hskip]
  rfl

/-- A mark is accepted where it comes next. -/
theorem accept?_mark (c : Cursor) (mark : Char) (hrest : rest ≠ ['\\']) :
    accept? { c with rest := mark :: rest } mark = .ok (some { c with rest }) := by
  have hskip := skip_eq { c with rest := mark :: rest } 1 hrest
  rw [accept?, hskip]
  simp only [List.head?_cons, if_pos]
  rfl

/-- A mark is not accepted where something else comes next. -/
theorem accept?_of_ne {c : Cursor} {mark : Char} (h : c.rest.head? ≠ some mark) :
    c.accept? mark = .ok none := by
  rw [accept?, if_neg h]
  rfl

/-- Characters of a kind are taken as far as they go, if no backslash comes behind them. -/
theorem takeWhile_eq (c : Cursor) (hrest : '\\' ∉ rest) (kind : Char → Bool) :
    takeWhile { c with rest } rest.length kind =
      .ok (rest.takeWhile kind, { c with rest := rest.dropWhile kind }) := by
  have hdrop : rest.drop (rest.takeWhile kind).length = rest.dropWhile kind := by
    have hleft : (rest.takeWhile kind ++ rest.dropWhile kind).drop (rest.takeWhile kind).length =
      rest.dropWhile kind := List.drop_left
    rwa [List.takeWhile_append_dropWhile] at hleft
  rw [takeWhile, List.take_length, skip_eq _ _ ?_]
  · simp only [hdrop]
    rfl
  · simp only [hdrop]
    intro h
    exact hrest ((List.dropWhile_suffix kind).subset (by simp [h]))

/-- A text of word characters is read up to the closing mark behind it. -/
theorem nameUntil_word (c : Cursor) {name before : Text} (hname : ∀ d ∈ name, isWord d = true)
    {closing : Char} (hclosing : isWord closing = false) (hmark : closing ≠ '\\') (what : Text)
    (hne : before ++ name ≠ []) (hrest : rest ≠ ['\\']) {fuel : Nat} (hfuel : name.length < fuel) :
    nameUntil closing what fuel before { c with rest := name ++ closing :: rest } =
      .ok (before ++ name, { c with rest }) := by
  induction name generalizing before fuel with
  | nil =>
      obtain ⟨fuel, rfl⟩ := Nat.exists_eq_succ_of_ne_zero (Nat.ne_of_gt hfuel)
      rw [List.append_nil] at hne ⊢
      rw [nameUntil, List.nil_append, next?_char c hmark hrest, Except.ok_bind]
      dsimp only
      rw [if_neg (not_not.2 rfl), if_neg hne]
      rfl
  | cons d name ih =>
      obtain ⟨hd, hname⟩ := List.forall_mem_cons.1 hname
      rw [List.length_cons] at hfuel
      obtain ⟨fuel, rfl⟩ := Nat.exists_eq_succ_of_ne_zero (Nat.ne_of_gt (Nat.zero_lt_of_lt hfuel))
      have hbackslash : d ≠ '\\' := by
        rintro rfl
        exact absurd hd (by decide)
      have hopen : [d] ≠ [closing] := by
        rintro heq
        rw [List.singleton_inj.1 heq, hclosing] at hd
        cases hd
      have hlone : name ++ closing :: rest ≠ ['\\'] := by
        cases name with
        | nil => exact fun heq => hmark (List.cons.inj heq).1
        | cons e name => simp
      rw [nameUntil, List.cons_append, next?_char c hbackslash hlone, Except.ok_bind]
      dsimp only
      rw [if_pos hopen, ih hname (by simp) (Nat.lt_of_succ_lt_succ hfuel), List.append_assoc]
      rfl

end Cursor

section Reading

variable {fuel : Nat} {rest : Text} {before : List Pattern}

/-- A sequence ends with the pattern, and in front of a closing parenthesis. -/
theorem sequence_end {c : Cursor} (h : c.rest.head?.all fun d => d == '|' || d == ')') :
    sequence (fuel + 1) {} before c = .ok (inSequence before.reverse, c) := by
  rw [sequence, if_pos h]
  rfl

variable (c : Cursor)

/-- A character that writes a pattern on its own is read as it. -/
theorem sequence_single {d : Char} {p : Pattern} (hd : d ≠ '\\' ∧ d ≠ '|' ∧ d ≠ ')')
    (hmark : Mark.of {} d = .single p) (hrest : rest ≠ ['\\']) :
    sequence (fuel + 1) {} before { c with rest := d :: rest } =
      sequence fuel {} (p :: before) { c with rest } := by
  rw [sequence, if_neg (by simp [hd]), Cursor.next?_char c hd.1 hrest, Except.ok_bind]
  simp only [hmark]

/-- A character that is no mark stands for itself. -/
theorem mark_of_no_mark {d : Char} (hd : Affix.patternMarks.contains d = false) :
    (d ≠ '\\' ∧ d ≠ '|' ∧ d ≠ ')') ∧ Mark.of {} d = .single (.one (.only d)) := by
  have hne (c : Char) (hc : c ∈ Affix.patternMarks) : d ≠ c := by
    rintro rfl
    rw [List.contains_iff_mem.2 hc] at hd
    cases hd
  refine ⟨⟨hne _ (by decide), hne _ (by decide), hne _ (by decide)⟩, ?_⟩
  unfold Mark.of
  rw [if_neg (by simp)]
  split
  case h_10 => rfl
  case h_11 => rfl
  all_goals exact absurd rfl (hne _ (by decide))

/-- An escaped character that is neither a letter nor a digit stands for itself. -/
theorem sequence_escaped {d : Char} (hd : d.isAlphanum = false) (hrest : rest ≠ ['\\']) :
    sequence (fuel + 1) {} before { c with rest := '\\' :: d :: rest } =
      sequence fuel {} (.one (.only d) :: before) { c with rest } := by
  have hne (e : Char) (he : e.isAlphanum = true) : d ≠ e := by
    rintro rfl
    rw [he] at hd
    cases hd
  have hdigit : d.isDigit = false := by
    rw [Char.isAlphanum, Bool.or_eq_false_iff] at hd
    exact hd.2
  have hescape (c : Cursor) : escape {} false d c = .ok (.char d.toNat, c) := by
    have hcondition : conditionEscape? {} d = none := by
      unfold conditionEscape?
      split <;> first | rfl | exact absurd rfl (hne _ (by decide))
    have hkind : kindEscape? d = none := by
      unfold kindEscape?
      split <;> first | rfl | exact absurd rfl (hne _ (by decide))
    have hcontrol : controlEscape? d = none := by
      unfold controlEscape?
      split <;> first | rfl | exact absurd rfl (hne _ (by decide))
    rw [escape, if_neg (by simp), hcondition, hkind, hcontrol]
    simp [hne, hd, hdigit]
    rfl
  rw [sequence, if_neg (by simp), Cursor.next?_escape c d hrest, Except.ok_bind]
  simp only [hescape]
  rfl

/-- Whether a text goes on behind an opening brace as the bounds of a repetition. -/
def startsBounds (t : Text) : Bool :=
  let low := t.dropWhile Char.isDigit
  let behind := if low.head? = some ',' then (low.drop 1).dropWhile Char.isDigit else low
  t.head? != some '\x7d' && behind.head? == some '\x7d'

/-- A brace that no bounds follow stands for itself. -/
theorem braceBounds_eq_none (hrest : '\\' ∉ rest) (h : startsBounds rest = false) :
    braceBounds { c with rest } = .ok none := by
  have hlow : '\\' ∉ rest.dropWhile Char.isDigit := fun hmem =>
    hrest ((List.dropWhile_suffix _).subset hmem)
  unfold braceBounds
  split
  · rfl
  next hbrace =>
  simp only [startsBounds, Bool.and_eq_false_iff, bne_eq_false_iff_eq, hbrace, false_or,
    beq_eq_false_iff_ne] at h
  rw [Cursor.takeWhile_eq c hrest, Except.ok_bind]
  dsimp only
  by_cases hcomma : (rest.dropWhile Char.isDigit).head? = some ','
  · obtain ⟨high, hhigh⟩ := List.head?_eq_some_iff.1 hcomma
    rw [if_pos hcomma] at h
    rw [hhigh] at hlow h ⊢
    have hnone := List.not_mem_of_not_mem_cons hlow
    rw [Cursor.accept?_mark c _ (ne_lone hnone), Except.ok_bind]
    dsimp only
    rw [Cursor.takeWhile_eq c hnone, Except.ok_bind]
    dsimp only
    rw [Cursor.accept?_of_ne h, Except.ok_bind]
    rfl
  · rw [if_neg hcomma] at h
    rw [Cursor.accept?_of_ne hcomma, Except.ok_bind]
    dsimp only [pure, Except.pure]
    rw [Except.ok_bind]
    dsimp only
    rw [Cursor.accept?_of_ne h, Except.ok_bind]

/-- A brace that no bounds follow is read as itself. -/
theorem sequence_brace (hrest : '\\' ∉ rest) (h : startsBounds rest = false) :
    sequence (fuel + 1) {} before { c with rest := '\x7b' :: rest } =
      sequence fuel {} (.one (.only '\x7b') :: before) { c with rest } := by
  rw [sequence, if_neg (by simp), Cursor.next?_char c (by decide) (ne_lone hrest), Except.ok_bind]
  have hmark : Mark.of {} '\x7b' = .brace := rfl
  simp only [hmark, braceBounds_eq_none c hrest h]
  rfl

/-- What is read of the inside of a group that takes a word. -/
theorem choices_word {mark : Char} {least : Nat}
    (hmark : Mark.of {} mark = .repetition (least, none))
    (hne : mark ≠ '\\' ∧ mark ≠ '|' ∧ mark ≠ ')') :
    choices (fuel + 4) {} { c with rest := '\\' :: 'w' :: mark :: ')' :: rest } =
      .ok (word least, { c with rest := ')' :: rest }) := by
  have hescape (c : Cursor) : escape {} false 'w' c = .ok (.kind .word false, c) := rfl
  have hpattern (c : Cursor) : Escaped.pattern {} c (.kind .word false) = wordChar := rfl
  have hrepeat (here : Nat) :
      repeatLast here (least, none) [wordChar] { c with rest := ')' :: rest } =
        .ok ([word least], { c with rest := ')' :: rest }) := by
    unfold repeatLast wordChar
    dsimp only
    rw [Cursor.accept?_of_ne (by simp), Except.ok_bind]
    dsimp only
    rw [Cursor.accept?_of_ne (by simp), Except.ok_bind]
    rfl
  have hsequence :
      sequence (fuel + 3) {} [] { c with rest := '\\' :: 'w' :: mark :: ')' :: rest } =
        .ok (word least, { c with rest := ')' :: rest }) := by
    rw [sequence, if_neg (by simp), Cursor.next?_escape c _ (by simp), Except.ok_bind]
    dsimp only
    rw [hescape, Except.ok_bind]
    dsimp only
    rw [hpattern, sequence, if_neg (by simp [hne]), Cursor.next?_char c hne.1 (by simp),
      Except.ok_bind]
    simp only [hmark]
    rw [hrepeat, Except.ok_bind]
    dsimp only
    rw [sequence_end (by simp)]
    rfl
  rw [choices, hsequence, Except.ok_bind]
  dsimp only
  rw [Cursor.accept?_of_ne (by simp), Except.ok_bind]
  rfl

/-- The cursor behind the front of a new group with a name. -/
def Cursor.inNamed (c : Cursor) (name rest : Text) : Cursor :=
  { c with rest, groups := c.groups + 1, names := (name, c.groups + 1) :: c.names }

/-- The start of a group with a name. -/
theorem groupFront_named {name : Text} (hname : ∀ d ∈ name, isWord d = true)
    (hfirst : ∃ d ∈ name.head?, isDecimal d = false) (hnew : c.names.lookup name = none)
    (hrest : rest ≠ ['\\']) (opening : Nat) :
    groupFront {} opening { c with rest := '?' :: 'P' :: '<' :: (name ++ '>' :: rest) } =
      .ok (.captured (c.groups + 1), c.inNamed name rest) := by
  obtain ⟨first, hmem, hdecimal⟩ := hfirst
  obtain ⟨tail, hcons⟩ := List.head?_eq_some_iff.1 hmem
  have hne : name ≠ [] := by simp [hcons]
  have hgroupName : groupName '>' { c with rest := name ++ '>' :: rest } =
      .ok (name, { c with rest }) := by
    have hfuel : name.length < (name ++ '>' :: rest).length + 1 := by
      rw [List.length_append]
      omega
    have hread : Cursor.nameUntil '>' "group name" ((name ++ '>' :: rest).length + 1) []
        { c with rest := name ++ '>' :: rest } = .ok ([] ++ name, { c with rest }) :=
      c.nameUntil_word hname (by decide) (by decide) "group name" (by rwa [List.nil_append]) hrest
        hfuel
    have hall : isGroupName name = true := by
      simp [isGroupName, hne, List.all_eq_true.2 hname, Option.mem_def.1 hmem, hdecimal]
    unfold groupName Cursor.name
    dsimp only
    rw [hread, Except.ok_bind]
    dsimp only [List.nil_append]
    rw [if_pos hall]
    rfl
  have hlone : name ++ '>' :: rest ≠ ['\\'] := by simp [hcons]
  rw [groupFront, Cursor.accept?_mark c _ (by simp), Except.ok_bind]
  dsimp only
  rw [Cursor.next?_char c (by decide) (by simp), Except.ok_bind]
  change (Cursor.accept? { c with rest := '<' :: (name ++ '>' :: rest) } '<' >>= _) = _
  rw [Cursor.accept?_mark c _ hlone, Except.ok_bind]
  dsimp only
  rw [hgroupName, Except.ok_bind]
  dsimp only [openGroup]
  rw [hnew]
  rfl

/-- The cursor behind a group with a name that takes a word. -/
def Cursor.behindWord (c : Cursor) (name : Text) (least : Nat) (rest : Text) : Cursor :=
  { c.inNamed name rest with widths := (c.groups + 1, (word least).width) :: c.widths }

/-- A named group that takes a word is read as a group with the next number. -/
theorem sequence_word {name : Text} (hname : ∀ d ∈ name, isWord d = true)
    (hfirst : ∃ d ∈ name.head?, isDecimal d = false) (hnew : c.names.lookup name = none)
    {mark : Char} {least : Nat} (hmark : Mark.of {} mark = .repetition (least, none))
    (hne : mark ≠ '\\' ∧ mark ≠ '|' ∧ mark ≠ ')') (hrest : rest ≠ ['\\']) :
    sequence (fuel + 6) {} before
        { c with rest := "(?P<" ++ name ++ '>' :: '\\' :: 'w' :: mark :: ')' :: rest } =
      sequence (fuel + 5) {} (.captured (c.groups + 1) (word least) :: before)
        (c.behindWord name least rest) := by
  rw [List.append_assoc]
  change sequence (fuel + 5 + 1) {} before
    { c with rest := '(' :: '?' :: 'P' :: '<' :: (name ++ _) } = _
  have hmarkGroup : Mark.of {} '(' = .group := rfl
  have hgroup (opening : Nat) : groupPattern (fuel + 5) {} opening
      { c with rest := '?' :: 'P' :: '<' :: (name ++ '>' :: '\\' :: 'w' :: mark :: ')' :: rest) } =
        .ok (some (.captured (c.groups + 1) (word least)), c.behindWord name least rest) := by
    rw [groupPattern, groupFront_named c hname hfirst hnew (by simp), Except.ok_bind]
    dsimp only [GroupFront.flags, GroupFront.enter]
    change (choices (fuel + 4) {}
      { c.inNamed name rest with rest := '\\' :: 'w' :: mark :: ')' :: rest } >>= _) = _
    rw [choices_word _ hmark hne, Except.ok_bind]
    dsimp only
    rw [Cursor.accept?_mark _ _ hrest, Except.ok_bind]
    rfl
  rw [sequence, if_neg (by simp), Cursor.next?_char c (by decide) (by simp), Except.ok_bind]
  simp only [hmarkGroup]
  rw [hgroup, Except.ok_bind]
  rfl

/-- A sequence has no faulty look-behind if none of its parts has one. -/
theorem behindFault?_inSequence {ps : List Pattern} (h : ∀ p ∈ ps, p.behindFault? = none) :
    (inSequence ps).behindFault? = none := by
  induction ps with
  | nil => rfl
  | cons p ps ih =>
      obtain ⟨hp, hps⟩ := List.forall_mem_cons.1 h
      cases ps with
      | nil => exact hp
      | cons q ps =>
          show (p.behindFault? <|> (inSequence (q :: ps)).behindFault?) = none
          rw [hp, ih hps]
          rfl

/-- The cursor in front of a written pattern. -/
def Cursor.atStart (t : Text) : Cursor where
  characters _ := none
  total := t.length
  rest := t

/-- A written pattern is read as the sequence that it is, if this goes up to its end, asks about no
group by its number, and has no faulty look-behind. -/
theorem read_of_sequence {t : Text} {p : Pattern} {c : Cursor} (ht : t ≠ ['\\'])
    (h : sequence (3 * t.length + 4) {} [] (.atStart t) = .ok (p, c)) (hend : c.rest = [])
    (hasked : c.asked = []) (hbehind : p.behindFault? = none) : read t = .ok p := by
  have hskip : (Cursor.atStart t).skip 0 = .ok (.atStart t) := Cursor.skip_eq _ 0 ht
  unfold read readNaming
  change ((Cursor.atStart t).skip 0 >>= _) = _
  rw [hskip, Except.ok_bind, choices, h, Except.ok_bind]
  dsimp only
  rw [Cursor.accept?_of_ne (by simp [hend]), Except.ok_bind]
  dsimp only [pure, Except.pure]
  rw [Except.ok_bind]
  dsimp only
  rw [if_neg (not_not.2 hend), hasked]
  dsimp only [List.find?_nil]
  rw [hbehind]

end Reading

end Agreement.Pattern
