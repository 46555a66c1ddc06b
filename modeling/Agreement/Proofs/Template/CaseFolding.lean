import Agreement.Proofs.Template.OptionText
import Agreement.Proofs.Text.Case
import Agreement.Proofs.Text.Cuts
import Agreement.Template.Compiled

/-!
# Case folding as a change of the text

Options that are read with case folding read as another text does without it: the text in which the
letters that would be skipped are deleted and the capitals are small (`Text.caseFolded`). A skipped
letter neither ends a parameter nor takes one, so the digits on both sides of it make one parameter
in either reading. `Template.parseToken_caseFolded` says so for options and for directives: the same
options, and the same faults in the same order. Only the places of faults differ.
-/

namespace Agreement

namespace Text

/-- The capitals of a text as small letters, without the small letters that it has. -/
def capitalsLowered (t : Text) : Text :=
  (t.filter fun c => !c.isLower).map Char.toLower

/-- A text of options as it is read when case is folded from its first capital on, or from its start
if `folding`. -/
def caseFolded (folding : Bool) (t : Text) : Text :=
  let start := if folding then 0 else t.findIdx Char.isUpper
  t.take start ++ capitalsLowered (t.drop start)

end Text

section Character

variable {c : Char} (hc : c.toNat < 128)
include hc

/-- A capital is in no parameter and no small letter, and its small letter is read as it is. -/
theorem ascii_capital (hupper : c.isUpper = true) :
    c.isLower = false ∧
      NumericOptions.isParameter c = false ∧ NumericOptions.isParameter c.toLower = false ∧
        foldLetter false c.toLower = (some [c.toLower], false) :=
  forall_ascii (p := fun c => c.isUpper = true → c.isLower = false ∧
    NumericOptions.isParameter c = false ∧ NumericOptions.isParameter c.toLower = false ∧
      foldLetter false c.toLower = (some [c.toLower], false)) (by decide) hc hupper

/-- A character that is no capital is its own small letter. -/
theorem toLower_of_not_isUpper (hupper : c.isUpper = false) : c.toLower = c :=
  forall_ascii (p := fun c => c.isUpper = false → c.toLower = c) (by decide) hc hupper

/-- A character of a parameter is no letter. -/
theorem not_letter_of_isParameter (hparameter : NumericOptions.isParameter c = true) :
    c.isLower = false ∧ c.isUpper = false :=
  forall_ascii (p := fun c => NumericOptions.isParameter c = true →
    c.isLower = false ∧ c.isUpper = false) (by decide) hc hparameter

/-- How an ASCII character is read. -/
theorem foldLetter_ascii (folding : Bool) :
    foldLetter folding c =
      if folding && c.isLower then (none, folding)
      else if c.isUpper then (some [c.toLower], true)
      else (some [c], folding) := by
  have hlower : Text.lower [c] = [c.toLower] := by
    simp [Text.lower, Text.lowerAfter, lowerChar, hc]
  rw [foldLetter, isLower, isUpper, if_pos hc, if_pos hc, hlower]

/-- What becomes of an ASCII character in a text of options. -/
theorem caseFolded_cons (folding : Bool) (t : Text) :
    Text.caseFolded folding (c :: t) =
      if folding && c.isLower then Text.caseFolded folding t
      else if c.isUpper then c.toLower :: Text.caseFolded true t
      else c :: Text.caseFolded folding t := by
  cases hupper : c.isUpper with
  | true =>
      have hlower := (ascii_capital hc hupper).1
      cases folding <;> simp [Text.caseFolded, Text.capitalsLowered, List.findIdx_cons, *]
  | false =>
      have hself := toLower_of_not_isUpper hc hupper
      cases hlower : c.isLower <;> cases folding <;>
        simp [Text.caseFolded, Text.capitalsLowered, List.findIdx_cons, *]

/-- A character of a parameter is kept. -/
theorem caseFolded_of_isParameter (hparameter : NumericOptions.isParameter c = true)
    (folding : Bool) (t : Text) :
    Text.caseFolded folding (c :: t) = c :: Text.caseFolded folding t := by
  obtain ⟨hlower, hupper⟩ := not_letter_of_isParameter hc hparameter
  simp [caseFolded_cons hc, hlower, hupper]

/-- What case folding makes of a character: it is skipped by the reading and deleted from the text,
or it is read as the character `d` that the text has in its place. -/
inductive FoldsAs (folding : Bool) (c : Char) : Prop
  | skipped (hread : foldLetter folding c = (none, folding))
      (htext : ∀ t, Text.caseFolded folding (c :: t) = Text.caseFolded folding t)
  | letter (d : Char) (folding' : Bool)
      (hparameter : NumericOptions.isParameter d = NumericOptions.isParameter c)
      (hread : foldLetter folding c = (some [d], folding'))
      (hread' : foldLetter false d = (some [d], false))
      (htext : ∀ t, Text.caseFolded folding (c :: t) = d :: Text.caseFolded folding' t)

/-- Every ASCII character is skipped or read. -/
theorem foldsAs (folding : Bool) : FoldsAs folding c := by
  have hread := foldLetter_ascii hc folding
  have htext := caseFolded_cons hc folding
  by_cases hskipped : (folding && c.isLower) = true
  · simp only [if_pos hskipped] at hread htext
    exact .skipped hread htext
  simp only [if_neg hskipped] at hread htext
  by_cases hupper : c.isUpper = true
  · simp only [if_pos hupper] at hread htext
    obtain ⟨-, hparameter, hsmall, hread'⟩ := ascii_capital hc hupper
    exact .letter _ _ (hsmall.trans hparameter.symm) hread hread' htext
  · simp only [if_neg hupper] at hread htext
    refine .letter _ _ rfl hread ?_ htext
    rw [foldLetter_ascii hc, if_neg (by simp), if_neg hupper]

end Character

/-- Two readings agree if they give the same options and the same faults, perhaps in other
places. -/
def SameReading {α : Type} (reading reading' : α × OptionFaults) : Prop :=
  reading'.1 = reading.1 ∧ reading'.2.map Prod.snd = reading.2.map Prod.snd

namespace NumericOptions

namespace Scan

/-- Two scans have come equally far, the second one without case folding. -/
structure ReadsAlike (s s' : Scan) : Prop where
  options : s'.options = s.options
  letter : s'.letter = s.letter
  parameter : s'.parameter = s.parameter
  faults : s'.faults.map Prod.snd = s.faults.map Prod.snd
  folding : s'.folding = false

variable {s s' : Scan}

/-- Whether the first scan folds case does not matter. -/
theorem ReadsAlike.with_folding (h : s.ReadsAlike s') (folding : Bool) :
    ReadsAlike { s with folding } s' :=
  ⟨h.options, h.letter, h.parameter, h.faults, h.folding⟩

/-- A fault is added to both scans. -/
theorem ReadsAlike.addFault (h : s.ReadsAlike s') (index index' : Nat) (fault : OptionFault) :
    (s.addFault index fault).ReadsAlike (s'.addFault index' fault) := by
  refine ⟨h.options, h.letter, h.parameter, ?_, h.folding⟩
  rw [Scan.addFault, Scan.addFault, List.map_append, List.map_append, h.faults]
  rfl

/-- Both scans give the parameter to its letter. -/
theorem ReadsAlike.settle (h : s.ReadsAlike s') (index index' : Nat) :
    (s.settle index).ReadsAlike (s'.settle index') := by
  unfold Scan.settle
  rw [h.options, h.letter, h.parameter]
  split
  · exact h
  · split
    · exact ⟨rfl, rfl, rfl, h.faults, h.folding⟩
    · next fault _ =>
        have hadd := h.addFault index index' fault
        exact ⟨hadd.options, hadd.letter, rfl, hadd.faults, hadd.folding⟩

/-- Both scans read a letter. -/
theorem ReadsAlike.readLetter (h : s.ReadsAlike s') (index index' : Nat) (letter : Text) :
    (s.readLetter index letter).ReadsAlike (s'.readLetter index' letter) := by
  unfold Scan.readLetter
  rw [h.options]
  split
  · exact ⟨rfl, rfl, h.parameter, h.faults, h.folding⟩
  · have hadd := h.addFault index index' (.unknown letter)
    exact ⟨hadd.options, rfl, hadd.parameter, hadd.faults, hadd.folding⟩

/-- Both scans read a character of a parameter. -/
theorem ReadsAlike.step_of_isParameter (h : s.ReadsAlike s') {c : Char}
    (hc : isParameter c = true) (index index' : Nat) :
    (s.step (c, index)).ReadsAlike (s'.step (c, index')) := by
  rw [Scan.step, if_pos hc, Scan.step, if_pos hc]
  refine ⟨h.options, h.letter, ?_, h.faults, h.folding⟩
  rw [h.parameter]

/-- A letter that is skipped changes nothing. -/
theorem step_of_skipped {c : Char} (hparameter : isParameter c = false)
    (hread : foldLetter s.folding c = (none, s.folding)) (index : Nat) :
    s.step (c, index) = s := by
  rw [step, if_neg (Bool.eq_false_iff.1 hparameter), hread]

/-- Both scans read the same letter, the first one perhaps from a capital. -/
theorem ReadsAlike.step_of_foldLetter (h : s.ReadsAlike s') {c d : Char} {folding : Bool}
    (hc : isParameter c = false) (hd : isParameter d = false)
    (hread : foldLetter s.folding c = (some [d], folding))
    (hread' : foldLetter false d = (some [d], false)) (index index' : Nat) :
    (s.step (c, index)).ReadsAlike (s'.step (d, index')) ∧
      (s.step (c, index)).folding = folding := by
  rw [← h.folding] at hread'
  rw [Scan.step_of_foldLetter hc hread, Scan.step_of_foldLetter hd hread']
  refine ⟨?_, by rw [folding_readLetter, folding_settle]⟩
  have hfolding : ReadsAlike { s with folding } { s' with folding := s'.folding } :=
    h.with_folding folding
  exact (hfolding.settle index index').readLetter index index' [d]

/-- The scan of a text and the scan of what becomes of it when case is folded come equally far. -/
theorem ReadsAlike.foldl_step {t : Text} (ht : ∀ c ∈ t, c.toNat < 128) (h : s.ReadsAlike s')
    (index index' : Nat) :
    ((t.zipIdx index).foldl Scan.step s).ReadsAlike
      (((t.caseFolded s.folding).zipIdx index').foldl Scan.step s') := by
  induction t generalizing s s' index index' with
  | nil => cases s.folding <;> exact h
  | cons c t ih =>
      obtain ⟨hc, ht⟩ := List.forall_mem_cons.1 ht
      rw [List.zipIdx_cons, List.foldl_cons]
      by_cases hparameter : isParameter c = true
      · have hstep := h.step_of_isParameter hparameter index index'
        have hfolding : (s.step (c, index)).folding = s.folding := by
          rw [Scan.step, if_pos hparameter]
        rw [caseFolded_of_isParameter hc hparameter, ← hfolding]
        exact ih ht hstep (index + 1) (index' + 1)
      have hnone := Bool.eq_false_iff.2 hparameter
      cases foldsAs hc s.folding with
      | skipped hread htext =>
          rw [htext, step_of_skipped hnone hread]
          exact ih ht h _ _
      | letter d folding' hsame hread hread' htext =>
          obtain ⟨hstep, hfolding⟩ :=
            h.step_of_foldLetter hnone (hsame.trans hnone) hread hread' index index'
          rw [htext, ← hfolding]
          exact ih ht hstep (index + 1) (index' + 1)

end Scan

/-- Numeric options read with case folding as the changed text does without it. -/
theorem read_caseFolded {t : Text} (ht : ∀ c ∈ t, c.toNat < 128) (folding : Bool) :
    SameReading (read folding t) (read false (t.caseFolded folding)) := by
  have hstart : Scan.ReadsAlike { folding } { folding := false } := ⟨rfl, rfl, rfl, rfl, rfl⟩
  have hscan := (hstart.foldl_step ht 0 0).settle (t.length - 1)
    ((t.caseFolded folding).length - 1)
  exact ⟨hscan.options, hscan.faults⟩

end NumericOptions

namespace NounOptions

/-- Characters of noun options read with case folding as the changed text does without it. -/
theorem readFrom_caseFolded {t : Text} (ht : ∀ c ∈ t, c.toNat < 128) (o : NounOptions)
    (folding : Bool) (index index' : Nat) :
    SameReading (readFrom o folding (t.zipIdx index))
      (readFrom o false ((t.caseFolded folding).zipIdx index')) := by
  induction t generalizing o folding index index' with
  | nil => cases folding <;> exact ⟨rfl, rfl⟩
  | cons c t ih =>
      obtain ⟨hc, ht⟩ := List.forall_mem_cons.1 ht
      rw [List.zipIdx_cons, readFrom]
      cases foldsAs hc folding with
      | skipped hread htext =>
          rw [htext, hread]
          exact ih ht o folding _ _
      | letter d folding' _ hread hread' htext =>
          rw [htext, List.zipIdx_cons, readFrom, hread, hread']
          dsimp only
          cases o.setFlag [d] with
          | some flagged => exact ih ht flagged folding' _ _
          | none =>
              have hrest := ih ht o folding' (index + 1) (index' + 1)
              exact ⟨hrest.1, congrArg (OptionFault.unknown [d] :: ·) hrest.2⟩

/-- Noun options read with case folding as the changed text does without it. -/
theorem read_caseFolded {t : Text} (ht : ∀ c ∈ t, c.toNat < 128) (folding : Bool) :
    SameReading (read folding t) (read false (t.caseFolded folding)) :=
  readFrom_caseFolded ht {} folding 0 0

end NounOptions

namespace Template

/-- The issues of faults have the faults for causes, wherever they stand. -/
theorem map_cause_placeFaults (fragment : Text) (offset : Int) (faults : OptionFaults) :
    (placeFaults fragment offset faults).map Issue.cause =
      (faults.map Prod.snd).map IssueCause.option := by
  simp [placeFaults]

/-- The issues of a noun directive are those of its options, and do not change the directive. -/
theorem nounBody_eq_mk (o : NounOptions) (issues : List Issue) (body : Text) :
    nounBody o issues body = ⟨(nounBody o [] body).directives, issues⟩ := by
  unfold nounBody
  split <;> rfl

/-- No colon comes into options when case is folded. -/
theorem colon_notMem_capitalsLowered {options : Text} (hascii : ∀ c ∈ options, c.toNat < 128)
    (h : ':' ∉ options) : ':' ∉ options.capitalsLowered := by
  intro hmem
  obtain ⟨c, hc, hlower⟩ := List.mem_map.1 hmem
  have hc := (List.mem_filter.1 hc).1
  have hcolon : c = ':' :=
    forall_ascii (p := fun c => c.toLower = ':' → c = ':') (by decide) (hascii c hc) hlower
  exact h (hcolon ▸ hc)

/-- What a noun directive with a capital kind gives. -/
theorem parseToken_capitalNoun (fold : Bool) (position : Nat) {options : Text} (h : ':' ∉ options)
    (body : Text) :
    let token : Token := .directive ('N' :: options ++ ':' :: body)
    let reading := NounOptions.read fold options
    parseToken fold ⟨position, token⟩ =
      .ok ⟨(nounBody reading.1 [] body).directives,
        placeFaults token.text (position + 2) reading.2⟩ := by
  have hcapital : isUpper 'N' = true := by decide
  dsimp only
  rw [parseToken, List.cons_append]
  dsimp only
  rw [parseDirective, Text.cutAt_append h]
  simp only [hcapital, Bool.and_true]
  rw [if_neg (by decide), if_pos (by simp), nounBody_eq_mk]

/-- Case folding is a change of the text that is read. Options of ASCII characters that are read
with case folding give what their changed text gives without it. So a directive of the kind `N`
whose kind folds the case of its options gives what it would give with only the capitals of its
options, as small letters, if it did not; and directives of the kinds `#` and `n` fold no case. -/
theorem parseToken_caseFolded :
    (∀ t : Text, (∀ c ∈ t, c.toNat < 128) → ∀ folding,
      SameReading (NumericOptions.read folding t)
          (NumericOptions.read false (t.caseFolded folding)) ∧
        SameReading (NounOptions.read folding t)
          (NounOptions.read false (t.caseFolded folding))) ∧
    (∀ options : Text, (∀ c ∈ options, c.toNat < 128) → ':' ∉ options →
      ∀ body position position', ∃ p p',
        parseToken true ⟨position, .directive ('N' :: options ++ ':' :: body)⟩ = .ok p ∧
          parseToken false
              ⟨position', .directive ('N' :: options.capitalsLowered ++ ':' :: body)⟩ = .ok p' ∧
            p'.directives = p.directives ∧
              p'.issues.map Issue.cause = p.issues.map Issue.cause) ∧
    ∀ kind, kind = '#' ∨ kind = 'n' → ∀ rest position,
      parseToken true ⟨position, .directive (kind :: rest)⟩ =
        parseToken false ⟨position, .directive (kind :: rest)⟩ := by
  refine ⟨fun t ht folding => ⟨NumericOptions.read_caseFolded ht folding,
    NounOptions.read_caseFolded ht folding⟩, ?_, ?_⟩
  · intro options hascii hcolon body position position'
    have hcolon' := colon_notMem_capitalsLowered hascii hcolon
    have hreading : SameReading (NounOptions.read true options)
        (NounOptions.read false options.capitalsLowered) :=
      NounOptions.read_caseFolded hascii true
    refine ⟨_, _, parseToken_capitalNoun true position hcolon body,
      parseToken_capitalNoun false position' hcolon' body, ?_, ?_⟩
    · dsimp only
      rw [hreading.1]
    · dsimp only
      rw [map_cause_placeFaults, map_cause_placeFaults, hreading.2]
  · intro kind hkind rest position
    have hsmall : isUpper kind = false := by
      rcases hkind with rfl | rfl <;> decide
    simp only [parseToken, parseDirective, hsmall, Bool.and_false]

/-- Digits on both sides of a skipped letter make one parameter: "i1xW2o3" reads as "i1xw23". The
noun options "pCxQ" with case folding are "cq" without it, in a directive with the same noun and the
same issue; and the options of a number keep their case. -/
theorem parseToken_caseFolded_joined :
    ((∀ c ∈ ("i1xW2o3" : Text), c.toNat < 128) ∧
        Text.caseFolded false "i1xW2o3" = "i1xw23" ∧
        SameReading (NumericOptions.read false "i1xW2o3") (NumericOptions.read false "i1xw23") ∧
        (NumericOptions.read false "i1xW2o3").1.cardinalThreshold = 23) ∧
      ((∀ c ∈ ("pCxQ" : Text), c.toNat < 128) ∧ ':' ∉ ("pCxQ" : Text) ∧
        Text.caseFolded true "pCxQ" = "cq" ∧ Text.capitalsLowered "pCxQ" = "cq" ∧
        SameReading (NounOptions.read true "pCxQ") (NounOptions.read false "cq") ∧
        ∃ p p', parseToken true ⟨0, .directive "NpCxQ:cat"⟩ = .ok p ∧
          parseToken false ⟨7, .directive "Ncq:cat"⟩ = .ok p' ∧
            p'.directives = p.directives ∧
              p'.issues.map Issue.cause = p.issues.map Issue.cause ∧
                p.directives = [.noun (.constant "cat") { classical := true }] ∧
                  p.issues.map Issue.cause = [.option (.unknown "q")]) ∧
      parseToken true ⟨0, .directive "#aW:1"⟩ = parseToken false ⟨0, .directive "#aW:1"⟩ := by
  have hnumeric : ∀ c ∈ ("i1xW2o3" : Text), c.toNat < 128 := by simp
  have hjoined : Text.caseFolded false "i1xW2o3" = "i1xw23" := by decide
  have hnoun : ∀ c ∈ ("pCxQ" : Text), c.toNat < 128 := by simp
  have hcolon : ':' ∉ ("pCxQ" : Text) := by decide
  have hfolded : Text.caseFolded true "pCxQ" = "cq" := by decide
  have hlowered : Text.capitalsLowered "pCxQ" = "cq" := by decide
  obtain ⟨hoptions, hdirectives, hsmall⟩ := parseToken_caseFolded
  have hreading := (hoptions "i1xW2o3" hnumeric false).1
  rw [hjoined] at hreading
  have hnounReading := (hoptions "pCxQ" hnoun true).2
  rw [hfolded] at hnounReading
  obtain ⟨p, p', hp, hp', hsame, hcauses⟩ := hdirectives "pCxQ" hnoun hcolon "cat" 0 7
  rw [hlowered] at hp'
  have hparse : parseToken true ⟨0, .directive "NpCxQ:cat"⟩ =
      .ok ⟨[.noun (.constant "cat") { classical := true }],
        [⟨5, "<NpCxQ:cat>", .option (.unknown "q")⟩]⟩ := by decide +kernel
  cases hp.symm.trans hparse
  exact ⟨⟨hnumeric, hjoined, hreading, by decide⟩,
    ⟨hnoun, hcolon, hfolded, hlowered, hnounReading, _, p', hp, hp', hsame, hcauses, rfl, rfl⟩,
    hsmall '#' (.inl rfl) "aW:1" 0⟩

end Template

end Agreement
