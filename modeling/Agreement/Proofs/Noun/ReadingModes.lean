import Agreement.Proofs.Noun.Loaders
import Agreement.Proofs.Noun.SpacedVariant

/-!
# Strict and lenient reading

A malformed line gives no rules, since the spaced variant of an accepted line is accepted
(`readLine_of_isMalformed`). So a lenient reading leaves out each malformed line as a whole, and a
strict reading ends in front of the first one. Up to there they give the same rules
(`readFrom_append`), and a lexicon that is loaded strictly has just the rules of the lines before:
`lenient_skips_strict_stops`.
-/

namespace Agreement.RuleText

variable {patterns : PatternReader}

/-- Whether a line is malformed: a strict reading of the line alone ends with a fault. -/
def isMalformed (patterns : PatternReader) (line : Text) : Bool :=
  (read true [line] patterns).fault.isSome

/-- The lines with empty ones in place of the malformed ones. -/
def withoutMalformed (patterns : PatternReader) (lines : List Text) : List Text :=
  lines.map fun line => if isMalformed patterns line then [] else line

/-- The rules of some lines, with those of malformed lines up to the fault. -/
def rulesOfLines (patterns : PatternReader) (lines : List Text) : List Rule :=
  lines.flatMap fun line => (readLine patterns line).1

section Line

variable {line : Text}

/-- A line is malformed if it has a fault. -/
theorem isMalformed_eq (patterns : PatternReader) (line : Text) :
    isMalformed patterns line = (readLine patterns line).2.isSome := by
  unfold isMalformed read
  rcases hline : readLine patterns line with ⟨rules, _ | fault⟩ <;> simp [readFrom, hline]

/-- A malformed line has a fault and no rules, if its affixes stand for themselves. -/
theorem readLine_of_isMalformed (hliteral : HasLiteralAffixes patterns (content line))
    (h : isMalformed patterns line = true) :
    ∃ fault, readLine patterns line = ([], some fault) := by
  rw [isMalformed_eq] at h
  generalize hread : readLine patterns line = result at h
  cases hread ▸ readsLine patterns line with
  | blank hblank => cases h
  | rejected hfault => exact ⟨_, rfl⟩
  | plain hrules hvariant => cases h
  | variantRejected hrules hvariant hfault =>
      -- the variant of an accepted line would be accepted
      obtain ⟨more, hmore⟩ := exists_rulesOf_spacedVariant hliteral hrules hvariant
      cases hmore.symm.trans hfault
  | spaced hrules hvariant hmore => cases h

end Line

section Run

variable {strict : Bool} {number : Nat} {line : Text} {before after lines : List Text}

/-- The rules of a line without a fault stand in front of those of the later lines. -/
theorem readFrom_cons (h : isMalformed patterns line = false) :
    readFrom patterns strict number (line :: lines) =
      let later := readFrom patterns strict (number + 1) lines
      { later with rules := (readLine patterns line).1 ++ later.rules } := by
  rw [isMalformed_eq, Option.isSome_eq_false_iff, Option.isNone_iff_eq_none] at h
  rcases hline : readLine patterns line with ⟨rules, fault⟩
  rw [hline] at h
  cases h
  rw [readFrom, hline]

/-- Up to the first malformed line, both readings give the rules of the lines. -/
theorem readFrom_append (h : ∀ line ∈ before, isMalformed patterns line = false) :
    readFrom patterns strict number (before ++ after) =
      let later := readFrom patterns strict (number + before.length) after
      { later with rules := rulesOfLines patterns before ++ later.rules } := by
  induction before generalizing number with
  | nil => rfl
  | cons line before ih =>
      obtain ⟨hline, h⟩ := List.forall_mem_cons.1 h
      have hnumber : number + 1 + before.length = number + (line :: before).length := by
        rw [List.length_cons]
        omega
      rw [List.cons_append, readFrom_cons hline, ih h, hnumber]
      simp only [rulesOfLines, List.flatMap_cons, List.append_assoc]

/-- Lines without a fault are read as a whole. -/
theorem readFrom_of_no_malformed (h : ∀ line ∈ lines, isMalformed patterns line = false) :
    readFrom patterns strict number lines = ⟨rulesOfLines patterns lines, none⟩ := by
  have happend : readFrom patterns strict number (lines ++ []) = _ := readFrom_append h
  rw [List.append_nil] at happend
  rw [happend, readFrom]
  dsimp only
  rw [List.append_nil]

/-- A lenient reading goes over all lines. -/
theorem readFrom_lenient (number : Nat) (lines : List Text) :
    readFrom patterns false number lines = ⟨rulesOfLines patterns lines, none⟩ := by
  induction lines generalizing number with
  | nil => rfl
  | cons line lines ih =>
      rcases hline : readLine patterns line with ⟨rules, _ | fault⟩ <;>
        simp [readFrom, hline, ih, rulesOfLines]

/-- A strict reading without a fault is the lenient one. -/
theorem readFrom_eq_of_fault_eq_none (strict : Bool)
    (h : (readFrom patterns true number lines).fault = none) :
    readFrom patterns strict number lines = readFrom patterns true number lines := by
  induction lines generalizing number with
  | nil => rfl
  | cons line lines ih =>
      rcases hline : readLine patterns line with ⟨rules, _ | fault⟩
      · rw [readFrom, hline] at h
        rw [readFrom, readFrom, hline]
        dsimp only at h ⊢
        rw [ih h]
      · rw [readFrom, hline] at h
        cases h

/-- A strict reading ends with the first malformed line. -/
theorem readFrom_strict {rules : List Rule} {fault : LineFault}
    (h : ∀ line ∈ before, isMalformed patterns line = false)
    (hline : readLine patterns line = (rules, some fault)) :
    readFrom patterns true number (before ++ line :: after) =
      ⟨rulesOfLines patterns before ++ rules, some ⟨number + before.length, line, fault⟩⟩ := by
  rw [readFrom_append h, readFrom, hline]
  rfl

end Run

section Modes

variable {lines : List Text}

/-- Where there is a malformed line, there is a first one. -/
theorem exists_first_malformed (h : ∃ line ∈ lines, isMalformed patterns line = true) :
    ∃ before line after, lines = before ++ line :: after ∧
      (∀ line ∈ before, isMalformed patterns line = false) ∧ isMalformed patterns line = true := by
  obtain ⟨line, hline⟩ := Option.isSome_iff_exists.1 (List.find?_isSome.2 h)
  obtain ⟨hmalformed, before, after, heq, hbefore⟩ := List.find?_eq_some_iff_append.1 hline
  exact ⟨before, line, after, heq, fun line hmem => by simpa using hbefore line hmem, hmalformed⟩

variable (hliteral : ∀ line ∈ lines, HasLiteralAffixes patterns (content line))
include hliteral

/-- The malformed lines have no rules. -/
theorem rulesOfLines_withoutMalformed :
    rulesOfLines patterns (withoutMalformed patterns lines) = rulesOfLines patterns lines := by
  induction lines with
  | nil => rfl
  | cons line lines ih =>
      obtain ⟨hline, hlines⟩ := List.forall_mem_cons.1 hliteral
      have hrules : (readLine patterns (if isMalformed patterns line then [] else line)).1 =
          (readLine patterns line).1 := by
        split
        · next h =>
            obtain ⟨fault, hread⟩ := readLine_of_isMalformed hline h
            rw [hread]
            rfl
        · rfl
      show (readLine patterns (if isMalformed patterns line then [] else line)).1 ++
        rulesOfLines patterns (withoutMalformed patterns lines) =
          (readLine patterns line).1 ++ rulesOfLines patterns lines
      rw [hrules, ih hlines]

/-- A lenient reading of some lines is the strict one with the malformed lines left empty. -/
theorem read_lenient_eq :
    read false lines patterns = read true (withoutMalformed patterns lines) patterns := by
  have hnone : ∀ line ∈ withoutMalformed patterns lines, isMalformed patterns line = false := by
    intro line hmem
    obtain ⟨line, -, rfl⟩ := List.mem_map.1 hmem
    split
    · rfl
    · next h => exact Bool.eq_false_iff.2 h
  rw [read, read, readFrom_lenient, readFrom_of_no_malformed hnone,
    rulesOfLines_withoutMalformed hliteral]

/-- A strict reading ends with the first malformed line, and has the rules of the lines before. -/
theorem read_strict_eq {before after : List Text} {line : Text}
    (heq : lines = before ++ line :: after) (h : ∀ line ∈ before, isMalformed patterns line = false)
    (hline : isMalformed patterns line = true) :
    ∃ fault, (read true [line] patterns).fault = some ⟨1, line, fault⟩ ∧
      read true before patterns = ⟨rulesOfLines patterns before, none⟩ ∧
        read true lines patterns =
          ⟨rulesOfLines patterns before, some ⟨before.length + 1, line, fault⟩⟩ := by
  have hmem : line ∈ lines := by simp [heq]
  obtain ⟨fault, hread⟩ := readLine_of_isMalformed (hliteral line hmem) hline
  have hstrict : readFrom patterns true 1 (before ++ line :: after) = _ := readFrom_strict h hread
  refine ⟨fault, ?_, readFrom_of_no_malformed h, ?_⟩
  · simp [read, readFrom, hread]
  · rw [List.append_nil, Nat.add_comm] at hstrict
    rw [heq]
    exact hstrict

/-- Only malformed lines make a difference between a lenient and a strict reading, if the affixes of
the lines stand for themselves. The lenient reading is the strict one with the malformed lines left
empty. The strict one ends with a fault if there is a malformed line, at the first one, and leaves a
lexicon as the lines before that one load it. -/
theorem lenient_skips_strict_stops :
    (read false lines patterns = read true (withoutMalformed patterns lines) patterns ∧
      (read false lines patterns).fault = none) ∧
    ((read true lines patterns).fault.isSome = true ↔
      ∃ line ∈ lines, isMalformed patterns line = true) ∧
    ∀ before line after, lines = before ++ line :: after →
      (∀ line ∈ before, isMalformed patterns line = false) → isMalformed patterns line = true →
      ∃ fault, (read true [line] patterns).fault = some ⟨1, line, fault⟩ ∧
        let e : RuleTextError := ⟨before.length + 1, line, fault⟩
        read true lines patterns = ⟨(read true before patterns).rules, some e⟩ ∧
          (read true before patterns).fault = none ∧
          ∀ lexicon : Lexicon,
            lexicon.populate true lines patterns =
              ((lexicon.populate true before patterns).1, some e) ∧
            ∀ t : Text, t.lines = lines → lexicon.loadUser true t patterns =
              ((lexicon.loadUser true (Text.ofLines before) patterns).1, .error e) := by
  refine ⟨⟨read_lenient_eq hliteral, congrArg Reading.fault (readFrom_lenient 1 lines)⟩, ?_, ?_⟩
  · constructor
    · intro hfault
      by_contra hnone
      have hall : ∀ line ∈ lines, isMalformed patterns line = false :=
        fun line hmem => Bool.eq_false_iff.2 fun h => hnone ⟨line, hmem, h⟩
      rw [read, readFrom_of_no_malformed hall] at hfault
      cases hfault
    · intro h
      obtain ⟨before, line, after, heq, hbefore, hline⟩ := exists_first_malformed h
      obtain ⟨fault, -, -, hread⟩ := read_strict_eq hliteral heq hbefore hline
      rw [hread]
      rfl
  · intro before line after heq hbefore hline
    obtain ⟨fault, halone, hread, hstrict⟩ := read_strict_eq hliteral heq hbefore hline
    refine ⟨fault, halone, ?_⟩
    intro e
    rw [hread]
    refine ⟨hstrict, rfl, fun lexicon => ⟨?_, fun t ht => ?_⟩⟩
    · rw [Lexicon.populate, Lexicon.populate, hstrict, hread]
    · -- the earlier lines are those of a text of their own
      have hlines : (Text.ofLines before).lines = before := by
        refine Text.lines_ofLines fun line hmem => ?_
        have hline : line ∈ t.lines := by
          rw [ht, heq]
          exact List.mem_append_left _ hmem
        exact Text.isLineBreak_of_mem_lines hline
      rw [Lexicon.loadUser, Lexicon.loadUser, ht, hlines, hstrict, hread]

end Modes

/-- A malformed line between others. -/
def malformedLines : List Text :=
  ["# animals", "ox => oxen", "", "cat =>", "-dog-fish => -dog-fishes"]

/-- The fourth line ends a strict reading behind the rule of the second one. A lenient reading goes
on to the last line, which has a rule and that of its spaced variant. -/
theorem lenient_skips_cat :
    (∀ line ∈ malformedLines, HasLiteralAffixes Pattern.read (content line)) ∧
      (∃ fault, (read true malformedLines).fault = some ⟨4, "cat =>", fault⟩) ∧
        (read true malformedLines).rules = [.simple (.irregular ⟨"ox", .modern "oxen", false⟩)] ∧
          (read false malformedLines).fault = none ∧
            (read false malformedLines).rules.length = 3 := by
  have hliteral : ∀ line ∈ malformedLines, HasLiteralAffixes Pattern.read (content line) := by
    decide +kernel
  obtain ⟨⟨hlenient, hnone⟩, -, hstrict⟩ := lenient_skips_strict_stops hliteral
  obtain ⟨fault, -, hread, -⟩ := hstrict ["# animals", "ox => oxen", ""] "cat =>"
    ["-dog-fish => -dog-fishes"] rfl (by decide +kernel) (by decide +kernel)
  have hox : (read true ["# animals", "ox => oxen", ""]).rules =
      [.simple (.irregular ⟨"ox", .modern "oxen", false⟩)] := by decide +kernel
  refine ⟨hliteral, ⟨fault, congrArg Reading.fault hread⟩, ?_, hnone, ?_⟩
  · rw [hread]
    exact hox
  · rw [hlenient]
    decide +kernel

end Agreement.RuleText
