import Agreement.Proofs.Success
import Agreement.Proofs.Template.Escape

/-!
# Where issues stand

Every issue of a token lies in that token: `Template.parseToken_fromToken`. Positions come from
three places. An issue of a whole token stands at its start, a fault of an option at the index of
its letter, and a fault of the last parameter at the last index of the options, which is an index of
theirs because options that end in a parameter are not empty (`NumericOptions.read_faults`).
-/

namespace Agreement

namespace NumericOptions

namespace Scan

/-- The faults found so far have indices below a bound. -/
def FaultsBelow (n : Nat) (s : Scan) : Prop :=
  ∀ fault ∈ s.faults, fault.1 < n

variable {n index : Nat} {s : Scan}

/-- A fault is added below the bound. -/
theorem FaultsBelow.addFault (h : s.FaultsBelow n) (hindex : index < n) (fault : OptionFault) :
    (s.addFault index fault).FaultsBelow n := by
  intro found hfound
  rcases List.mem_append.1 hfound with hfound | hfound
  · exact h found hfound
  · rw [List.mem_singleton.1 hfound]
    exact hindex

/-- A parameter is given to its letter, and a fault of it stands below the bound. -/
theorem FaultsBelow.settle (h : s.FaultsBelow n) (hindex : index < n) :
    (s.settle index).FaultsBelow n := by
  unfold Scan.settle
  split
  · exact h
  · split
    · exact h
    · next fault _ => exact h.addFault hindex fault

/-- A letter is read, and a fault of it stands below the bound. -/
theorem FaultsBelow.readLetter (h : s.FaultsBelow n) (hindex : index < n) (letter : Text) :
    (s.readLetter index letter).FaultsBelow n := by
  unfold Scan.readLetter
  split
  · exact h
  · exact h.addFault hindex (.unknown letter)

/-- A character is read. -/
theorem FaultsBelow.step (h : s.FaultsBelow n) {at_ : Char × Nat} (hindex : at_.2 < n) :
    (s.step at_).FaultsBelow n := by
  unfold Scan.step
  split
  · exact h
  · split
    · exact h
    · next letter folding _ =>
        -- whether case is folded does not matter for the faults
        have hfolding : FaultsBelow n { s with folding } := h
        exact (hfolding.settle hindex).readLetter hindex letter

/-- Characters are read one behind the other. -/
theorem FaultsBelow.foldl {ats : List (Char × Nat)} (h : s.FaultsBelow n)
    (hats : ∀ at_ ∈ ats, at_.2 < n) : (ats.foldl Scan.step s).FaultsBelow n := by
  induction ats generalizing s with
  | nil => exact h
  | cons at_ ats ih =>
      exact ih (h.step (hats at_ List.mem_cons_self)) fun later hlater =>
        hats later (List.mem_cons_of_mem _ hlater)

end Scan

/-- The faults of numeric options have indices in the options. -/
theorem read_faults (folding : Bool) (t : Text) :
    ∀ fault ∈ (read folding t).2, fault.1 < t.length := by
  cases t with
  | nil =>
      intro fault hfault
      cases hfault
  | cons c t =>
      have hnone : Scan.FaultsBelow (c :: t).length { folding } := by
        intro fault hfault
        cases hfault
      have hall : ((c :: t).zipIdx.foldl Scan.step { folding }).FaultsBelow (c :: t).length :=
        hnone.foldl fun at_ hat => by
          have hindex := List.snd_lt_of_mem_zipIdx hat
          omega
      -- the last parameter is given to its letter at the last index
      exact hall.settle (Nat.sub_lt (Nat.succ_pos _) Nat.one_pos)

end NumericOptions

namespace NounOptions

/-- The faults of noun options have indices of characters that were read. -/
theorem readFrom_faults (o : NounOptions) (folding : Bool) (ats : List (Char × Nat)) :
    ∀ fault ∈ (readFrom o folding ats).2, ∃ at_ ∈ ats, at_.2 = fault.1 := by
  fun_induction readFrom o folding ats with
  | case1 =>
      intro fault hfault
      cases hfault
  | case2 o folding c index rest folding' hletter ih =>
      intro fault hfault
      obtain ⟨at_, hat, hindex⟩ := ih fault hfault
      exact ⟨at_, List.mem_cons_of_mem _ hat, hindex⟩
  | case3 o folding c index rest letter folding' hletter o' hflag ih =>
      intro fault hfault
      obtain ⟨at_, hat, hindex⟩ := ih fault hfault
      exact ⟨at_, List.mem_cons_of_mem _ hat, hindex⟩
  | case4 o folding c index rest letter folding' hletter hflag o' faults hread ih =>
      intro fault hfault
      rcases List.mem_cons.1 hfault with rfl | hfault
      · exact ⟨(c, index), List.mem_cons_self, rfl⟩
      · rw [hread] at ih
        obtain ⟨at_, hat, hindex⟩ := ih fault hfault
        exact ⟨at_, List.mem_cons_of_mem _ hat, hindex⟩

/-- The faults of noun options have indices in the options. -/
theorem read_faults (folding : Bool) (t : Text) :
    ∀ fault ∈ (read folding t).2, fault.1 < t.length := by
  intro fault hfault
  obtain ⟨at_, hat, hindex⟩ := readFrom_faults {} folding t.zipIdx fault hfault
  have hlt := List.snd_lt_of_mem_zipIdx hat
  omega

end NounOptions

/-- An issue lies in a token: it shows the token, and it stands at one of its characters. -/
structure Issue.LiesIn (i : Issue) (p : PlacedToken) : Prop where
  fragment : i.fragment = p.token.text
  behind : (p.position : Int) ≤ i.position
  before : i.position < p.position + p.token.text.length

/-- What a token can give: a directive or an issue, no two directives, and only issues that lie in
it. -/
structure Parsed.FromToken (p : PlacedToken) (part : Parsed) : Prop where
  nonempty : part.directives ≠ [] ∨ part.issues ≠ []
  single : part.directives.length ≤ 1
  located : ∀ i ∈ part.issues, i.LiesIn p

namespace Template

variable {fold : Bool} {p : PlacedToken}

/-- An issue of a whole token lies in it. -/
theorem liesIn_start (h : p.token.text ≠ []) (cause : IssueCause) :
    Issue.LiesIn ⟨p.position, p.token.text, cause⟩ p where
  fragment := rfl
  behind := Int.le_refl _
  before := by
    have hpos := List.length_pos_iff.2 h
    show (p.position : Int) < _
    omega

/-- A directive gives one issue. -/
theorem fromToken_issue (h : p.token.text ≠ []) (cause : IssueCause) :
    (Parsed.issue ⟨p.position, p.token.text, cause⟩).FromToken p where
  nonempty := .inr (List.cons_ne_nil _ _)
  single := Nat.zero_le _
  located := by
    intro i hi
    rw [List.mem_singleton.1 hi]
    exact liesIn_start h cause

/-- A token gives one directive, whatever the issues of its options. -/
theorem fromToken_one {issues : List Issue} (h : ∀ i ∈ issues, i.LiesIn p) (d : Directive) :
    (Parsed.one d issues).FromToken p where
  nonempty := .inl (List.cons_ne_nil _ _)
  single := Nat.le_refl _
  located := h

/-- Faults of options lie in the directive that the options belong to. -/
theorem liesIn_placeFaults {kind : Char} {options body : Text}
    (hp : p.token = .directive (kind :: options ++ ':' :: body)) {faults : OptionFaults}
    (hfaults : ∀ fault ∈ faults, fault.1 < options.length) :
    ∀ i ∈ placeFaults p.token.text (p.position + 2) faults, i.LiesIn p := by
  intro i hi
  obtain ⟨fault, hfault, rfl⟩ := List.mem_map.1 hi
  have hindex := hfaults fault hfault
  have hlength : p.token.text.length = options.length + body.length + 4 := by
    rw [hp]
    simp only [Token.text, List.cons_append, List.length_cons, List.length_append, List.length_nil]
    omega
  refine ⟨rfl, ?_, ?_⟩
  · show (p.position : Int) ≤ p.position + 2 + fault.1
    omega
  · show (p.position : Int) + 2 + fault.1 < p.position + p.token.text.length
    omega

/-- A numeric directive gives a directive or an issue of its own. -/
theorem numericBody_fromToken (hne : p.token.text ≠ []) {o : NumericOptions} {issues : List Issue}
    (hissues : ∀ i ∈ issues, i.LiesIn p) {body : Text} {part : Parsed}
    (h : numericBody p o issues body = .ok part) : part.FromToken p := by
  unfold numericBody at h
  split at h
  · cases h
    exact fromToken_one hissues _
  · split at h
    · obtain ⟨n, -, rfl⟩ := Except.map_eq_ok_iff.1 h
      exact fromToken_one hissues _
    · cases h
      refine ⟨.inr (List.concat_ne_nil _ _), Nat.zero_le _, fun i hi => ?_⟩
      rcases List.mem_append.1 hi with hi | hi
      · exact hissues i hi
      · rw [List.mem_singleton.1 hi]
        exact liesIn_start hne _

/-- A noun directive gives a directive. -/
theorem nounBody_fromToken {o : NounOptions} {issues : List Issue}
    (hissues : ∀ i ∈ issues, i.LiesIn p) (body : Text) :
    (nounBody o issues body).FromToken p := by
  unfold nounBody
  split
  · exact fromToken_one hissues _
  · exact fromToken_one hissues _

/-- A directive gives a directive or an issue, and its issues lie in it. -/
theorem parseDirective_fromToken {inner : Text} (hp : p.token = .directive inner) {part : Parsed}
    (h : parseDirective fold p inner = .ok part) : part.FromToken p := by
  have hne : p.token.text ≠ [] := by
    rw [hp]
    exact List.cons_ne_nil _ _
  cases inner with
  | nil =>
      cases h
      exact fromToken_issue hne _
  | cons kind rest =>
      unfold parseDirective at h
      dsimp only at h
      rcases hcut : Text.cutAt ':' rest with ⟨options, _ | body⟩
      · rw [hcut] at h
        cases h
        exact fromToken_issue hne _
      · rw [hcut] at h
        dsimp only at h
        obtain ⟨rfl, -⟩ := Text.cutAt_eq_some_iff.1 hcut
        split at h
        · exact numericBody_fromToken hne
            (liesIn_placeFaults hp (NumericOptions.read_faults _ options)) h
        · split at h
          · cases h
            exact nounBody_fromToken
              (liesIn_placeFaults hp (NounOptions.read_faults _ options)) body
          · cases h
            exact fromToken_issue hne _

/-- A token gives a directive or an issue, and its issues lie in it. -/
theorem parseToken_fromToken {part : Parsed} (h : parseToken fold p = .ok part) :
    part.FromToken p := by
  unfold parseToken at h
  split at h
  · cases h
    exact fromToken_one (List.forall_mem_nil _) _
  · next name hp =>
      split at h
      · cases h
        refine fromToken_issue ?_ _
        rw [hp]
        exact List.cons_ne_nil _ _
      · cases h
        exact fromToken_one (List.forall_mem_nil _) _
  · next inner hp => exact parseDirective_fromToken hp h

end Template

end Agreement
