import Agreement.Proofs.Pattern.Reading
import Mathlib.Data.List.Basic

/-!
# What patterns match

A match moves through a text and keeps the groups that the pattern does not have
(`Pattern.follows_of_mem_ends`), which follows from what one repetition does by induction over the
repetitions (`Pattern.iterate_induction`). Apart from how the matching searches, a pattern that
looks at nothing but the text that it takes is described by the texts that it can take
(`Pattern.Takes`); a sequence takes the texts of its parts one behind the other
(`Takes.inSequence_cons`). A whole text is then matched if it is one of them:
`Takes.isSome_fullMatch?`, and `Takes.fullMatch?_stem` with the stem that is found.
-/

namespace Agreement

/-- A place comes behind another one in a match: in the same text, with the same bounds of the
groups that are not among some numbers. -/
structure Place.Follows (numbers : List Nat) (p q : Place) : Prop where
  text_eq : q.text = p.text
  starts_eq : ∀ n ∉ numbers, q.starts.lookup n = p.starts.lookup n
  stops_eq : ∀ n ∉ numbers, q.stops.lookup n = p.stops.lookup n

namespace Place.Follows

variable {numbers numbers' : List Nat} {p q r : Place}

/-- A place comes behind itself. -/
theorem refl (numbers : List Nat) (p : Place) : p.Follows numbers p :=
  ⟨rfl, fun _ _ => rfl, fun _ _ => rfl⟩

/-- What comes behind a place that comes behind another one comes behind that. -/
theorem trans (h : p.Follows numbers q) (h' : q.Follows numbers r) : p.Follows numbers r :=
  ⟨h'.text_eq.trans h.text_eq, fun n hn => (h'.starts_eq n hn).trans (h.starts_eq n hn),
    fun n hn => (h'.stops_eq n hn).trans (h.stops_eq n hn)⟩

/-- More numbers may be left out. -/
theorem mono (h : p.Follows numbers q) (hsub : ∀ n ∈ numbers, n ∈ numbers') :
    p.Follows numbers' q :=
  ⟨h.text_eq, fun n hn => h.starts_eq n fun hmem => hn (hsub n hmem),
    fun n hn => h.stops_eq n fun hmem => hn (hsub n hmem)⟩

/-- A place with the start or the end of a group that is left out comes behind the place. -/
theorem start_stop (p : Place) {n : Nat} (hn : n ∈ numbers) :
    p.Follows numbers (p.start n) ∧ p.Follows numbers (p.stop n) := by
  have hlookup (entries : List (Nat × Nat)) :
      ∀ m ∉ numbers, ((n, p.position) :: entries).lookup m = entries.lookup m := by
    intro m hm
    have hne : m ≠ n := fun heq => hm (heq ▸ hn)
    rw [List.lookup_cons, beq_eq_false_iff_ne.2 hne]
  exact ⟨⟨rfl, hlookup _, fun _ _ => rfl⟩, ⟨rfl, fun _ _ => rfl, hlookup _⟩⟩

/-- The place behind some characters comes behind the place. -/
theorem forth (p : Place) (n : Nat) : p.Follows numbers (p.forth n) := by
  refine ⟨?_, fun _ _ => rfl, fun _ _ => rfl⟩
  simp [Place.text, Place.forth]

/-- A place before some characters is in the same text. -/
theorem back (h : p.back? n = some q) : p.Follows numbers q := by
  unfold Place.back? at h
  split at h
  · cases h
    refine ⟨?_, fun _ _ => rfl, fun _ _ => rfl⟩
    rw [Place.text, ← List.append_assoc, ← List.reverse_append, List.take_append_drop]
    rfl
  · cases h

/-- A look at the text around a place leads to the place, with groups that a match has come to. -/
theorem look {found : List Place} (h : ∀ m ∈ found, p.Follows numbers m) {outside : Bool}
    (hq : q ∈ p.look outside found) : p.Follows numbers q := by
  unfold Place.look at hq
  split at hq <;> split at hq
  · obtain rfl := List.mem_singleton.1 hq
    exact refl numbers q
  · cases hq
  · cases hq
  · obtain rfl := List.mem_singleton.1 hq
    have hfirst := h _ List.mem_cons_self
    exact ⟨rfl, hfirst.starts_eq, hfirst.stops_eq⟩

/-- A group that is not left out holds the same text. -/
theorem captured?_eq (h : p.Follows numbers q) {n : Nat} (hn : n ∉ numbers) :
    q.captured? n = p.captured? n := by
  rw [captured?, captured?, h.text_eq, h.starts_eq n hn, h.stops_eq n hn]

end Place.Follows

namespace Pattern

/-- The numbers of the groups in a pattern. -/
def numbers : Pattern → List Nat
  | .empty | .one _ | .anchor _ | .same .. => []
  | .both first second | .either first second | .ifGroup _ first second =>
    first.numbers ++ second.numbers
  | .captured number inner => number :: inner.numbers
  | .group inner | .repeated inner _ _ _ | .atomic inner | .ahead _ inner | .behind _ inner =>
    inner.numbers

section Iteration

variable {step : Place → List Place} {preference : Preference} {fuel least : Nat}
  {most last : Option Nat} {p q : Place}

/-- A repetition goes on behind one more iteration, or ends where it stands if none is due. -/
theorem cases_of_mem_iterate (hq : q ∈ iterate step preference (fuel + 1) least most last p) :
    (∃ m ∈ step p, ∃ last, q ∈ iterate step preference fuel (least - 1) (most.map (· - 1)) last m) ∨
      least = 0 ∧ q = p := by
  have hfurther {last : Option Nat} (h : q ∈ (step p).flatMap fun m =>
      iterate step preference fuel (least - 1) (most.map (· - 1)) last m) :
      ∃ m ∈ step p, ∃ last,
        q ∈ iterate step preference fuel (least - 1) (most.map (· - 1)) last m := by
    obtain ⟨m, hm, hq⟩ := List.mem_flatMap.1 h
    exact ⟨m, hm, last, hq⟩
  unfold iterate at hq
  dsimp only at hq
  split at hq
  · exact .inl (hfurther hq)
  · next hleast =>
      have hzero : least = 0 := Nat.eq_zero_of_not_pos hleast
      split at hq
      · exact .inr ⟨hzero, List.mem_singleton.1 hq⟩
      · split at hq
        · rcases List.mem_cons.1 hq with hq | hq
          · exact .inr ⟨hzero, hq⟩
          · exact .inl (hfurther hq)
        · rcases List.mem_append.1 hq with hq | hq
          · exact .inl (hfurther hq)
          · exact .inr ⟨hzero, List.mem_singleton.1 hq⟩

/-- A repetition as often as possible goes on behind any further iteration, and may end where it
stands if none is due, unless it does not move on. -/
theorem mem_iterate_most (hlast : last ≠ some p.position)
    (h : (∃ m ∈ step p, q ∈ iterate step .most fuel (least - 1) none
        (if 0 < least then last else some p.position) m) ∨ least = 0 ∧ q = p) :
    q ∈ iterate step .most (fuel + 1) least none last p := by
  have hmoves : (last == some p.position) = false := beq_eq_false_iff_ne.2 hlast
  unfold iterate
  simp only [hmoves, Option.map_none]
  rcases h with ⟨m, hm, hq⟩ | ⟨rfl, rfl⟩
  · have hmem := List.mem_flatMap.2 ⟨m, hm, hq⟩
    by_cases hleast : 0 < least
    · simpa [hleast] using hmem
    · simp only [hleast, if_false] at hmem ⊢
      exact List.mem_append_left _ hmem
  · simp

/-- What holds from the start to the end of one iteration holds from the start to the end of all. -/
theorem iterate_induction {R : Place → Place → Prop} (hrefl : ∀ p, R p p)
    (htrans : ∀ {p q r}, R p q → R q r → R p r) (hstep : ∀ {p q}, q ∈ step p → R p q)
    (hq : q ∈ iterate step preference fuel least most last p) : R p q := by
  induction fuel generalizing least most last p with
  | zero =>
      obtain rfl := List.mem_singleton.1 hq
      exact hrefl q
  | succ fuel ih =>
      rcases cases_of_mem_iterate hq with ⟨m, hm, _, hq⟩ | ⟨-, rfl⟩
      · exact htrans (hstep hm) (ih hq)
      · exact hrefl q

end Iteration

/-- A match ends in the text that it starts in, and keeps the groups that the pattern does not
have. -/
theorem follows_of_mem_ends {pattern : Pattern} {p q : Place} (hq : q ∈ pattern.ends p) :
    p.Follows pattern.numbers q := by
  induction pattern generalizing p q with
  | empty =>
      obtain rfl := List.mem_singleton.1 hq
      exact .refl _ _
  | one test =>
      unfold ends at hq
      split at hq
      · cases hq
      · next c rest hrest =>
          split at hq
          · obtain rfl := List.mem_singleton.1 hq
            refine ⟨?_, fun _ _ => rfl, fun _ _ => rfl⟩
            simp [Place.text, hrest]
          · cases hq
  | anchor condition =>
      unfold ends at hq
      split at hq
      · obtain rfl := List.mem_singleton.1 hq
        exact .refl _ _
      · cases hq
  | both first second ih ih' =>
      obtain ⟨m, hm, hq⟩ := List.mem_flatMap.1 hq
      exact ((ih hm).mono fun n hn => List.mem_append_left _ hn).trans
        ((ih' hq).mono fun n hn => List.mem_append_right _ hn)
  | either first second ih ih' =>
      rcases List.mem_append.1 hq with hq | hq
      · exact (ih hq).mono fun n hn => List.mem_append_left _ hn
      · exact (ih' hq).mono fun n hn => List.mem_append_right _ hn
  | group inner ih => exact ih hq
  | captured number inner ih =>
      obtain ⟨m, hm, rfl⟩ := List.mem_map.1 hq
      have hnumber : number ∈ numbers (.captured number inner) := List.mem_cons_self
      exact ((Place.Follows.start_stop p hnumber).1.trans
        ((ih hm).mono fun n hn => List.mem_cons_of_mem _ hn)).trans
          (Place.Follows.start_stop m hnumber).2
  | repeated inner least most preference ih =>
      unfold ends at hq
      dsimp only at hq
      split at hq
      · exact iterate_induction (Place.Follows.refl _) Place.Follows.trans
          (fun hm => ih (List.mem_of_mem_take hm)) (List.mem_of_mem_take hq)
      · exact iterate_induction (Place.Follows.refl _) Place.Follows.trans ih hq
  | same number fold width =>
      unfold ends at hq
      split at hq
      · cases hq
      · dsimp only at hq
        split at hq
        · obtain rfl := List.mem_singleton.1 hq
          exact .forth p _
        · cases hq
  | atomic inner ih => exact ih (List.mem_of_mem_take hq)
  | ahead outside inner ih => exact .look (fun m hm => ih hm) hq
  | behind outside inner ih =>
      refine .look (fun m hm => ?_) hq
      cases hback : p.back? inner.width.least with
      | none =>
          rw [hback] at hm
          cases hm
      | some start =>
          rw [hback] at hm
          exact (Place.Follows.back hback).trans (ih hm)
  | ifGroup number inner other ih ih' =>
      unfold ends at hq
      split at hq
      · exact (ih hq).mono fun n hn => List.mem_append_left _ hn
      · exact (ih' hq).mono fun n hn => List.mem_append_right _ hn

/-- A pattern takes the texts of `taken` from the text behind a place, wherever that is. -/
structure Takes (pattern : Pattern) (taken : Text → Prop) : Prop where
  sound : ∀ {p q : Place}, q ∈ pattern.ends p → ∃ t, taken t ∧ p.rest = t ++ q.rest
  complete : ∀ {p : Place} {t rest : Text}, taken t → p.rest = t ++ rest →
    ∃ q ∈ pattern.ends p, q.rest = rest

variable {pattern : Pattern} {taken : Text → Prop}

/-- What a pattern takes can be said in another way. -/
theorem Takes.congr {taken' : Text → Prop} (h : Takes pattern taken)
    (heq : ∀ t, taken t ↔ taken' t) : Takes pattern taken' :=
  funext (fun t => propext (heq t)) ▸ h

/-- A pattern for one character takes a character that passes. -/
theorem takes_one (test : CharTest) :
    Takes (.one test) fun t => ∃ c, test.has c = true ∧ t = [c] := by
  constructor
  · intro p q hq
    unfold ends at hq
    split at hq
    · cases hq
    · next c rest hrest =>
        split at hq
        · next hc =>
            obtain rfl := List.mem_singleton.1 hq
            exact ⟨[c], ⟨c, hc, rfl⟩, hrest⟩
        · cases hq
  · rintro p t rest ⟨c, hc, rfl⟩ hrest
    refine ⟨{ p with earlier := c :: p.earlier, rest }, ?_, rfl⟩
    simp [ends, hrest, hc]

/-- A character that stands for itself takes itself. -/
theorem takes_only (c : Char) : Takes (.one (.only c)) (· = [c]) := by
  have hhas (d : Char) : (CharTest.only c).has d = true ↔ d = c := by
    have hcodes : (CharTest.only c).has d = true ↔ c.toNat ≤ d.toNat ∧ d.toNat ≤ c.toNat := by
      simp [CharTest.only, CharTest.has, SetItem.has]
    rw [hcodes, ← Nat.le_antisymm_iff, Char.toNat_inj, eq_comm]
  have htakes := takes_one (.only c)
  simpa [hhas] using htakes

/-- The empty sequence takes nothing. -/
theorem takes_empty : Takes .empty (· = []) := by
  constructor
  · intro p q hq
    obtain rfl := List.mem_singleton.1 hq
    exact ⟨[], rfl, rfl⟩
  · rintro p t rest rfl hrest
    exact ⟨p, List.mem_singleton_self p, hrest⟩

/-- A group takes what its inside takes. -/
theorem Takes.captured (h : Takes pattern taken) (number : Nat) :
    Takes (.captured number pattern) taken := by
  constructor
  · intro p q hq
    obtain ⟨m, hm, rfl⟩ := List.mem_map.1 hq
    obtain ⟨t, ht, hrest⟩ := h.sound hm
    exact ⟨t, ht, hrest⟩
  · intro p t rest ht hrest
    obtain ⟨m, hm, hend⟩ := h.complete (p := p.start number) ht hrest
    exact ⟨m.stop number, List.mem_map.2 ⟨m, hm, rfl⟩, hend⟩

/-- The ends of a sequence are those of the rest behind the ends of the first part. -/
theorem ends_inSequence_cons (first : Pattern) (rest : List Pattern) (p : Place) :
    (inSequence (first :: rest)).ends p = (first.ends p).flatMap (inSequence rest).ends := by
  cases rest with
  | nil => simp [inSequence, ends]
  | cons second rest => rfl

/-- The groups of a sequence are those of its parts. -/
theorem numbers_inSequence (ps : List Pattern) : (inSequence ps).numbers = ps.flatMap numbers := by
  induction ps with
  | nil => rfl
  | cons p ps ih =>
      cases ps with
      | nil => simp [inSequence]
      | cons q ps => exact congrArg (p.numbers ++ ·) ih

/-- A sequence takes what its first part and the rest take, one behind the other. -/
theorem Takes.inSequence_cons {first : Pattern} {rest : List Pattern} {taken' : Text → Prop}
    (h : Takes first taken) (h' : Takes (inSequence rest) taken') :
    Takes (inSequence (first :: rest)) fun t => ∃ u v, taken u ∧ taken' v ∧ t = u ++ v := by
  constructor
  · intro p q hq
    rw [ends_inSequence_cons] at hq
    obtain ⟨m, hm, hq⟩ := List.mem_flatMap.1 hq
    obtain ⟨u, hu, hrest⟩ := h.sound hm
    obtain ⟨v, hv, hrest'⟩ := h'.sound hq
    refine ⟨u ++ v, ⟨u, v, hu, hv, rfl⟩, ?_⟩
    rw [hrest, hrest', List.append_assoc]
  · rintro p t rest ⟨u, v, hu, hv, rfl⟩ hrest
    rw [List.append_assoc] at hrest
    obtain ⟨m, hm, hmid⟩ := h.complete hu hrest
    obtain ⟨q, hq, hend⟩ := h'.complete hv hmid
    refine ⟨q, ?_, hend⟩
    rw [ends_inSequence_cons]
    exact List.mem_flatMap.2 ⟨m, hm, hq⟩

/-- Characters that stand for themselves take the text of them. -/
theorem takes_text (t : Text) : Takes (inSequence (t.map fun c => .one (.only c))) (· = t) := by
  induction t with
  | nil => exact takes_empty
  | cons c t ih =>
      have htakes := (takes_only c).inSequence_cons ih
      simpa using htakes

section Word

variable {test : CharTest}

/-- The repetition of a character takes no fewer than the least number, all of which pass. -/
theorem iterate_sound {fuel least : Nat} {last : Option Nat} (hfuel : least ≤ fuel) {p q : Place}
    (hq : q ∈ iterate (Pattern.one test).ends .most fuel least none last p) :
    ∃ t : Text, (least ≤ t.length ∧ ∀ c ∈ t, test.has c = true) ∧ p.rest = t ++ q.rest := by
  induction fuel generalizing least last p with
  | zero =>
      obtain rfl := List.mem_singleton.1 hq
      exact ⟨[], ⟨hfuel, by simp⟩, rfl⟩
  | succ fuel ih =>
      rcases cases_of_mem_iterate hq with ⟨m, hm, _, hq⟩ | ⟨rfl, rfl⟩
      · obtain ⟨_, ⟨c, hc, rfl⟩, hrest⟩ := (takes_one test).sound hm
        obtain ⟨t, ⟨hleast, ht⟩, hrest'⟩ := ih (by omega) hq
        refine ⟨c :: t, ⟨?_, List.forall_mem_cons.2 ⟨hc, ht⟩⟩, ?_⟩
        · rw [List.length_cons]
          omega
        · rw [hrest, hrest']
          rfl
      · exact ⟨[], ⟨Nat.le_refl 0, by simp⟩, rfl⟩

/-- The repetition of a character takes every text of enough characters that pass. -/
theorem iterate_complete {fuel least : Nat} {last : Option Nat} {p : Place} {t rest : Text}
    (hfuel : t.length ≤ fuel) (hleast : least ≤ t.length) (ht : ∀ c ∈ t, test.has c = true)
    (hlast : ∀ n, last = some n → n < p.position) (hrest : p.rest = t ++ rest) :
    ∃ q ∈ iterate (Pattern.one test).ends .most fuel least none last p, q.rest = rest := by
  have hmoves : last ≠ some p.position := fun h => Nat.lt_irrefl _ (hlast _ h)
  induction t generalizing fuel least last p with
  | nil =>
      refine ⟨p, ?_, hrest⟩
      cases fuel with
      | zero => exact List.mem_singleton_self p
      | succ fuel => exact mem_iterate_most hmoves (.inr ⟨Nat.le_zero.1 hleast, rfl⟩)
  | cons c t ih =>
      obtain ⟨hc, ht⟩ := List.forall_mem_cons.1 ht
      rw [List.length_cons] at hfuel hleast
      obtain ⟨fuel, rfl⟩ := Nat.exists_eq_succ_of_ne_zero (Nat.ne_of_gt (Nat.lt_of_lt_of_le
        (Nat.succ_pos _) hfuel))
      have hm : { p with earlier := c :: p.earlier, rest := t ++ rest } ∈
          (Pattern.one test).ends p := by
        simp [ends, hrest, hc]
      -- the iteration has moved on, whether it was due or not
      have hlast' : ∀ n, (if 0 < least then last else some p.position) = some n →
          n < Place.position { p with earlier := c :: p.earlier, rest := t ++ rest } := by
        intro n hn
        refine Nat.lt_succ_of_le ?_
        split at hn
        · exact Nat.le_of_lt (hlast n hn)
        · exact Nat.le_of_eq (Option.some.inj hn).symm
      obtain ⟨q, hq, hend⟩ := ih (Nat.le_of_succ_le_succ hfuel) (by omega : least - 1 ≤ t.length)
        ht hlast' rfl fun h => Nat.lt_irrefl _ (hlast' _ h)
      exact ⟨q, mem_iterate_most hmoves (.inl ⟨_, hm, hq⟩), hend⟩

/-- A word takes its characters. -/
theorem takes_word (least : Nat) :
    Takes (word least) fun t => least ≤ t.length ∧ ∀ c ∈ t, isWord c = true := by
  have hhas (c : Char) : (CharTest.set none false [.kind .word .full false]).has c = isWord c := by
    simp [CharTest.has, SetItem.has, CharKind.has]
  have hends (p : Place) : (word least).ends p =
      iterate wordChar.ends .most (least + p.rest.length + 2) least none none p := rfl
  constructor
  · intro p q hq
    rw [hends] at hq
    simpa only [hhas] using iterate_sound (by omega) hq
  · intro p t rest ht hrest
    rw [hends]
    refine iterate_complete ?_ ht.1 (by simpa only [hhas] using ht.2) nofun hrest
    rw [hrest, List.length_append]
    omega

end Word

/-- The whole text is matched if the pattern takes it. -/
theorem Takes.isSome_fullMatch? (h : Takes pattern taken) {t : Text} :
    (pattern.fullMatch? t).isSome = true ↔ taken t := by
  rw [fullMatch?, Option.isSome_map, List.find?_isSome]
  constructor
  · rintro ⟨q, hq, hend⟩
    obtain ⟨u, hu, hrest⟩ := h.sound hq
    rw [List.isEmpty_iff.1 hend, List.append_nil] at hrest
    cases hrest
    exact hu
  · intro ht
    obtain ⟨q, hq, hend⟩ := h.complete (p := ⟨[], t, [], []⟩) ht (List.append_nil t).symm
    exact ⟨q, hq, List.isEmpty_iff.2 hend⟩

/-- A match of a whole text by a first group and a text that is taken as it is keeps the stem that
the group takes. -/
theorem Takes.captured?_of_mem_ends {inner : Pattern} {rest : List Pattern} {suffix t : Text}
    (h : Takes inner taken) (h' : Takes (inSequence rest) (· = suffix))
    (hinner : 1 ∉ inner.numbers) (houter : 1 ∉ (inSequence rest).numbers) {q : Place}
    (hq : q ∈ (inSequence (.captured 1 inner :: rest)).ends ⟨[], t, [], []⟩) (hend : q.rest = []) :
    ∃ stem, taken stem ∧ t = stem ++ suffix ∧ q.captured? 1 = some stem := by
  rw [ends_inSequence_cons] at hq
  obtain ⟨m, hm, hq⟩ := List.mem_flatMap.1 hq
  obtain ⟨i, hi, rfl⟩ := List.mem_map.1 hm
  obtain ⟨stem, htaken, hrest⟩ := h.sound hi
  obtain ⟨u, hu, hmid⟩ := h'.sound hq
  have hinside := follows_of_mem_ends hi
  have hsuffix : i.rest = suffix := by
    have hmid' : i.rest = u ++ q.rest := hmid
    rw [hmid', hend, List.append_nil]
    exact hu
  have ht : t = stem ++ suffix := by
    rw [← hsuffix]
    exact hrest
  have hearlier : i.earlier.reverse = stem := by
    have htext : i.earlier.reverse ++ i.rest = t := hinside.text_eq
    rw [ht, hsuffix] at htext
    exact List.append_cancel_right htext
  refine ⟨stem, htaken, ht, ?_⟩
  rw [(follows_of_mem_ends hq).captured?_eq houter]
  -- the group has started at the start of the text, and stopped here
  have hstart : (i.stop 1).starts.lookup 1 = some 0 := hinside.starts_eq 1 hinner
  have hstop : (i.stop 1).stops.lookup 1 = some stem.length := by
    rw [← hearlier, List.length_reverse]
    rfl
  have htext : (i.stop 1).text = stem ++ suffix := by
    rw [← ht]
    exact hinside.text_eq
  rw [Place.captured?, hstart, hstop, htext]
  simp

/-- A stem in front of a text that is taken as it is is found in exactly the texts that are a stem
and that text, if the first group is no other one. -/
theorem Takes.fullMatch?_stem {inner : Pattern} {rest : List Pattern} {suffix : Text}
    (h : Takes inner taken) (h' : Takes (inSequence rest) (· = suffix))
    (hinner : 1 ∉ inner.numbers) (houter : 1 ∉ (inSequence rest).numbers) {t : Text} :
    (∀ stem, taken stem → t = stem ++ suffix →
        (inSequence (.captured 1 inner :: rest)).fullMatch? t = some (some stem)) ∧
      ∀ found, (inSequence (.captured 1 inner :: rest)).fullMatch? t = some found →
        ∃ stem, taken stem ∧ t = stem ++ suffix ∧ found = some stem := by
  have hfound {found : Option Text} (hmatch :
      (inSequence (.captured 1 inner :: rest)).fullMatch? t = some found) :
      ∃ stem, taken stem ∧ t = stem ++ suffix ∧ found = some stem := by
    obtain ⟨q, hq, rfl⟩ := Option.map_eq_some_iff.1 hmatch
    have hend := List.find?_some hq
    exact h.captured?_of_mem_ends h' hinner houter (List.mem_of_find?_eq_some hq)
      (List.isEmpty_iff.1 hend)
  refine ⟨fun stem htaken ht => ?_, fun found => hfound⟩
  have hmatch : ((inSequence (.captured 1 inner :: rest)).fullMatch? t).isSome = true :=
    ((h.captured 1).inSequence_cons h').isSome_fullMatch?.2 ⟨stem, suffix, htaken, rfl, ht⟩
  obtain ⟨found, hmatch⟩ := Option.isSome_iff_exists.1 hmatch
  obtain ⟨stem', -, ht', rfl⟩ := hfound hmatch
  rw [hmatch, List.append_cancel_right (ht'.symm.trans ht)]

end Pattern

end Agreement
