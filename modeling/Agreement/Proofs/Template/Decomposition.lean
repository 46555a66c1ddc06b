import Agreement.Proofs.Template.Brackets
import Mathlib.Data.List.Chain

/-!
# Decomposition of a template

A template falls into pieces in one way only. `IsDecomposition` says what the pieces are, where
escapes are judged in the whole template, and `isDecomposition_iff` that a template has such pieces
exactly if the tokenizer accepts it, and that they are the tokens. Uniqueness is about the marks of
the pieces: the first piece of two decompositions cannot differ in length.
-/

namespace Agreement

/-- A piece of a template, and the position where it starts. -/
structure PlacedText where
  position : Nat
  text : Text
  deriving DecidableEq, Repr

/-- A token as a piece of its template. -/
def PlacedToken.piece (p : PlacedToken) : PlacedText :=
  ⟨p.position, p.token.text⟩

/-- The marks of a piece in a template. -/
def PlacedText.marksIn (t : Text) (p : PlacedText) : List Mark :=
  ((marks t).drop p.position).take p.text.length

/-- What may stand side by side: no two literals, and behind a reference only a literal that starts
with a space. -/
def Adjacent (ms ms' : List Mark) : Prop :=
  ¬ (TokenKind.literal.Fits ms ∧ TokenKind.literal.Fits ms') ∧
    (TokenKind.reference.Fits ms → TokenKind.literal.Fits ms' → ms'.head? = some (some ' '))

/-- The pieces that a template falls into. -/
structure IsDecomposition (t : Text) (pieces : List PlacedText) : Prop where
  nonempty : ∀ p ∈ pieces, p.text ≠ []
  concat : pieces.flatMap PlacedText.text = t
  placed : ∀ before p after, pieces = before ++ p :: after →
    p.position = (before.flatMap PlacedText.text).length
  kinds : ∀ p ∈ pieces, ∃! kind : TokenKind, kind.Fits (p.marksIn t)
  adjacent : pieces.IsChain fun p q => Adjacent (p.marksIn t) (q.marksIn t)

/-- The marks of the pieces of a template, one list for each piece. -/
structure Segmented (segments : List (List Mark)) : Prop where
  nonempty : ∀ ms ∈ segments, ms ≠ []
  kinds : ∀ ms ∈ segments, ∃ kind : TokenKind, kind.Fits ms
  adjacent : segments.IsChain Adjacent

/-- The kind of a token that starts with a mark. -/
def TokenKind.ofMark (m : Mark) : TokenKind :=
  if m = some '<' then .directive else if m = some '$' then .reference else .literal

/-- The first mark of a token decides its kind. -/
theorem TokenKind.Fits.eq_ofMark {kind : TokenKind} {m : Mark} {ms : List Mark}
    (h : kind.Fits (m :: ms)) : kind = .ofMark m := by
  cases kind with
  | literal =>
      have hopen := h '<' (by simp)
      have hdollar := h '$' (by simp)
      rw [List.mem_cons, not_or] at hopen hdollar
      simp [ofMark, Ne.symm hopen.1, Ne.symm hdollar.1]
  | reference =>
      obtain ⟨name, heq, -⟩ := h
      simp [ofMark, (List.cons.inj heq).1]
  | directive =>
      obtain ⟨⟨inner, heq⟩, -⟩ := h
      simp [ofMark, (List.cons.inj heq).1]

/-- The same marks fit one kind only. -/
theorem TokenKind.Fits.unique {kind kind' : TokenKind} {ms : List Mark} (h : kind.Fits ms)
    (h' : kind'.Fits ms) (hnonempty : ms ≠ []) : kind = kind' := by
  obtain ⟨m, ms, rfl⟩ := List.exists_cons_of_ne_nil hnonempty
  exact h.eq_ofMark.trans h'.eq_ofMark.symm

/-- A token cannot be continued by a mark that may follow it. -/
theorem TokenKind.Fits.not_append {kind : TokenKind} {ms more : List Mark} {m : Mark}
    (h : kind.Fits ms) (hnonempty : ms ≠ []) (hends : kind.EndsAt m) :
    ¬ kind.Fits (ms ++ m :: more) := by
  intro hlong
  cases kind with
  | literal =>
      rcases hends with rfl | rfl
      · exact hlong '<' (by simp) (by simp)
      · exact hlong '$' (by simp) (by simp)
  | reference =>
      obtain ⟨name, rfl, -⟩ := h
      obtain ⟨name', heq, hname⟩ := hlong
      obtain rfl := (List.cons.inj heq).2
      rcases hends with rfl | rfl | rfl
      · exact hname '<' (by simp) (by simp)
      · exact hname '$' (by simp) (by simp)
      · exact hname ' ' (by simp) (by simp)
  | directive =>
      -- the shorter directive would close the longer one before its end
      have hlt := hlong.2.2 ms.length (List.length_pos_iff.2 hnonempty) (by simp)
      rw [List.take_left] at hlt
      exact Nat.ne_of_lt hlt h.2.1

namespace Segmented

variable {ms ms' : List Mark} {segments segments' : List (List Mark)}

/-- The segments behind the first one. -/
theorem tail (h : Segmented (ms :: segments)) : Segmented segments where
  nonempty := fun s hs => h.nonempty s (List.mem_cons_of_mem _ hs)
  kinds := fun s hs => h.kinds s (List.mem_cons_of_mem _ hs)
  adjacent := h.adjacent.tail

/-- Segments hold no marks only if there are none. -/
theorem eq_nil_of_flatten (h : Segmented segments) (hnil : segments.flatten = []) :
    segments = [] :=
  List.eq_nil_iff_forall_not_mem.2 fun s hs =>
    h.nonempty s hs (List.flatten_eq_nil_iff.1 hnil s hs)

/-- A segment ends at a mark that may follow its kind. -/
theorem endsAt (h : Segmented (ms :: segments)) {kind : TokenKind} (hkind : kind.Fits ms)
    {m : Mark} {later : List Mark} (hm : segments.flatten = m :: later) : kind.EndsAt m := by
  cases segments with
  | nil => cases hm
  | cons next segments =>
      obtain ⟨m', next, rfl⟩ := List.exists_cons_of_ne_nil (h.tail.nonempty next (by simp))
      obtain rfl : m' = m := (List.cons.inj hm).1
      obtain ⟨nextKind, hnext⟩ := h.tail.kinds _ List.mem_cons_self
      have hadjacent := (List.isChain_cons_cons.1 h.adjacent).1
      by_cases hopen : m' = some '<'
      · cases kind <;> simp [TokenKind.EndsAt, hopen]
      · by_cases hdollar : m' = some '$'
        · cases kind <;> simp [TokenKind.EndsAt, hdollar]
        · have hliteral : TokenKind.literal.Fits (m' :: next) := by
            have hkind := hnext.eq_ofMark
            simp only [TokenKind.ofMark, if_neg hopen, if_neg hdollar] at hkind
            exact hkind ▸ hnext
          cases kind with
          | literal => exact False.elim (hadjacent.1 ⟨hkind, hliteral⟩)
          | reference => exact .inr (.inr (by simpa using hadjacent.2 hkind hliteral))
          | directive => trivial

/-- The first of two segments that start the same marks is not shorter than the other. -/
theorem length_le (h : Segmented (ms :: segments)) (h' : Segmented (ms' :: segments'))
    (heq : ms ++ segments.flatten = ms' ++ segments'.flatten) : ms'.length ≤ ms.length := by
  by_contra hlt
  have hprefix : ms <+: ms' :=
    List.prefix_of_prefix_length_le ⟨_, heq⟩ (List.prefix_append _ _) (by omega)
  obtain ⟨extra, rfl⟩ := hprefix
  cases extra with
  | nil => simp at hlt
  | cons m more =>
      rw [List.append_assoc] at heq
      have hrest := List.append_cancel_left heq
      obtain ⟨kind, hkind⟩ := h.kinds ms (by simp)
      obtain ⟨kind', hkind'⟩ := h'.kinds _ List.mem_cons_self
      have hnonempty := h.nonempty ms (by simp)
      obtain ⟨first, ms, rfl⟩ := List.exists_cons_of_ne_nil hnonempty
      obtain rfl : kind' = kind := hkind'.eq_ofMark.trans hkind.eq_ofMark.symm
      exact hkind.not_append hnonempty (h.endsAt hkind hrest) hkind'

/-- The same marks have only one segmentation. -/
theorem unique (h : Segmented segments) (h' : Segmented segments')
    (heq : segments.flatten = segments'.flatten) : segments = segments' := by
  induction segments generalizing segments' with
  | nil => exact (h'.eq_nil_of_flatten heq.symm).symm
  | cons ms segments ih =>
      cases segments' with
      | nil => exact h.eq_nil_of_flatten heq
      | cons ms' segments' =>
          rw [List.flatten_cons, List.flatten_cons] at heq
          have hlength := Nat.le_antisymm (length_le h' h heq.symm) (length_le h h' heq)
          obtain ⟨rfl, hrest⟩ := List.append_inj heq hlength
          rw [ih h.tail h'.tail hrest]

/-- Segments leave no bracket open and close none that is not. -/
theorem depthBehind_flatten (h : Segmented segments) :
    depthBehind 0 segments.flatten = some 0 := by
  induction segments with
  | nil => rfl
  | cons ms segments ih =>
      obtain ⟨kind, hkind⟩ := h.kinds ms (by simp)
      rw [List.flatten_cons, depthBehind_append, hkind.depthBehind_eq, Option.bind_some,
        ih h.tail]

end Segmented

/-- The marks of the tokens of a scan, one list for each token. -/
def segmentsOf (tokens : List PlacedToken) : List (List Mark) :=
  tokens.map fun p => marks p.token.text

/-- The texts stand one behind the other from a position on. -/
def PlacedFrom (position : Nat) : List PlacedText → Prop
  | [] => True
  | p :: pieces => p.position = position ∧ PlacedFrom (position + p.text.length) pieces

/-- What a scan without a fault takes off. -/
structure Scan.Complete (position : Nat) (t : Text) (s : Scan) : Prop where
  concat : textOf s.tokens = t
  marks_eq : (segmentsOf s.tokens).flatten = marks t
  placed : PlacedFrom position (s.tokens.map PlacedToken.piece)
  segmented : Segmented (segmentsOf s.tokens)

/-- A token in front of a segmentation. -/
theorem Segmented.cons {token : Token} {rest : Text} {segments : List (List Mark)}
    (hcut : token.CutFrom rest) (h : Segmented segments) (hrest : segments.flatten = marks rest) :
    Segmented (marks token.text :: segments) := by
  have hnonempty : marks token.text ≠ [] := by
    rw [← List.length_pos_iff, length_marks, List.length_pos_iff]
    exact hcut.nonempty
  refine ⟨?_, ?_, List.isChain_cons.2 ⟨fun next hnext => ?_, h.adjacent⟩⟩
  · rintro ms (_ | ⟨_, hms⟩)
    · exact hnonempty
    · exact h.nonempty ms hms
  · rintro ms (_ | ⟨_, hms⟩)
    · exact ⟨token.kind, hcut.fits⟩
    · exact h.kinds ms hms
  · -- the next segment starts with the mark that the token ends at
    obtain ⟨later, rfl⟩ := List.head?_eq_some_iff.1 hnext
    obtain ⟨m, next, rfl⟩ := List.exists_cons_of_ne_nil (h.nonempty next (by simp))
    have hends := hcut.ends m (by rw [← hrest]; rfl)
    refine ⟨fun ⟨hthis, hliteral⟩ => ?_, fun hthis hliteral => ?_⟩
    · rw [hcut.fits.unique hthis hnonempty] at hends
      rcases hends with rfl | rfl
      · exact hliteral '<' (by simp) (by simp)
      · exact hliteral '$' (by simp) (by simp)
    · rw [hcut.fits.unique hthis hnonempty] at hends
      rcases hends with rfl | rfl | rfl
      · exact False.elim (hliteral '<' (by simp) (by simp))
      · exact False.elim (hliteral '$' (by simp) (by simp))
      · rfl

/-- A scan without a fault loses no character, places every token, and cuts only where a token
ends. -/
theorem Scan.complete_scanFrom (position : Nat) (t : Text)
    (h : (Scan.scanFrom position t).fault = none) :
    Scan.Complete position t (Scan.scanFrom position t) := by
  refine Scan.induction (motive := fun position t s => s.fault = none → s.Complete position t)
    ?_ ?_ ?_ ?_ position t h
  · intro position _
    exact ⟨rfl, rfl, trivial, by simp [segmentsOf], by simp [segmentsOf], by simp [segmentsOf]⟩
  · intro position rest final _ hfault
    cases hfault
  · intro position front rest _ _ _ hfault
    cases hfault
  · intro position token rest hcut ih hfault
    obtain ⟨hconcat, hmarks, hplaced, hsegmented⟩ := ih hfault
    refine ⟨?_, ?_, ⟨rfl, hplaced⟩, hsegmented.cons hcut hmarks⟩
    · rw [textOf_cons, hconcat]
    · rw [hcut.marks_append, ← hmarks]
      rfl

namespace PlacedFrom

variable {position : Nat} {t : Text} {pieces pieces' : List PlacedText}

/-- Pieces are placed if each starts behind the texts before it. -/
theorem iff_forall : PlacedFrom position pieces ↔ ∀ before p after, pieces = before ++ p :: after →
    p.position = position + (before.flatMap PlacedText.text).length := by
  induction pieces generalizing position with
  | nil => simp [PlacedFrom]
  | cons first pieces ih =>
      rw [PlacedFrom, ih]
      constructor
      · rintro ⟨hfirst, hrest⟩ (_ | ⟨q, before⟩) p after heq
        · cases heq
          exact hfirst
        · cases heq
          rw [hrest before p after rfl, List.flatMap_cons, List.length_append, Nat.add_assoc]
      · intro h
        refine ⟨h [] first pieces rfl, fun before p after heq => ?_⟩
        rw [h (first :: before) p after (by rw [heq]; rfl), List.flatMap_cons, List.length_append,
          Nat.add_assoc]

/-- Where pieces stand is decided by their texts. -/
theorem eq_of_texts (h : PlacedFrom position pieces) (h' : PlacedFrom position pieces')
    (htexts : pieces.map PlacedText.text = pieces'.map PlacedText.text) : pieces = pieces' := by
  induction pieces generalizing position pieces' with
  | nil => exact (List.map_eq_nil_iff.1 htexts.symm).symm
  | cons p pieces ih =>
      cases pieces' with
      | nil => cases htexts
      | cons p' pieces' =>
          obtain ⟨htext, hrest⟩ := List.cons.inj htexts
          obtain ⟨hp, hplaced⟩ := h
          obtain ⟨hp', hplaced'⟩ := h'
          have hfirst : p = p' := by
            cases p
            cases p'
            simp_all
          subst hfirst
          rw [ih hplaced hplaced' hrest]

/-- The marks of pieces that stand one behind the other are the marks of their texts together. -/
theorem flatten_marksIn (h : PlacedFrom position pieces) :
    (pieces.map (PlacedText.marksIn t)).flatten =
      ((marks t).drop position).take (pieces.flatMap PlacedText.text).length := by
  induction pieces generalizing position with
  | nil => rfl
  | cons p pieces ih =>
      obtain ⟨rfl, hrest⟩ := h
      rw [List.map_cons, List.flatten_cons, ih hrest, List.flatMap_cons, List.length_append,
        List.take_add, List.drop_drop]
      rfl

/-- A piece has as many marks as characters. -/
theorem length_marksIn (h : PlacedFrom position pieces)
    (hle : position + (pieces.flatMap PlacedText.text).length ≤ t.length) :
    ∀ p ∈ pieces, (p.marksIn t).length = p.text.length := by
  induction pieces generalizing position with
  | nil => simp
  | cons first pieces ih =>
      obtain ⟨rfl, hrest⟩ := h
      rw [List.flatMap_cons, List.length_append] at hle
      rintro p (_ | ⟨_, hp⟩)
      · rw [PlacedText.marksIn, List.length_take, List.length_drop, length_marks]
        omega
      · exact ih hrest (by omega) p hp

end PlacedFrom

variable {t : Text} {pieces : List PlacedText}

/-- The marks of pieces that make up a template are the marks of the template. -/
theorem marks_eq_of_placed (h : PlacedFrom 0 pieces)
    (hconcat : pieces.flatMap PlacedText.text = t) :
    (pieces.map (PlacedText.marksIn t)).flatten = marks t := by
  rw [h.flatten_marksIn, hconcat, List.drop_zero, ← length_marks, List.take_length]

/-- In a template that is made up of pieces, each piece has as many marks as characters. -/
theorem map_length_marksIn (h : PlacedFrom 0 pieces)
    (hconcat : pieces.flatMap PlacedText.text = t) :
    (pieces.map (PlacedText.marksIn t)).map List.length =
      (pieces.map PlacedText.text).map List.length := by
  rw [List.map_map, List.map_map]
  exact List.map_congr_left (h.length_marksIn (by rw [hconcat, Nat.zero_add]))

namespace IsDecomposition

/-- The pieces of a decomposition stand one behind the other. -/
theorem placedFrom (h : IsDecomposition t pieces) : PlacedFrom 0 pieces :=
  PlacedFrom.iff_forall.2 fun before p after heq => by
    rw [h.placed before p after heq, Nat.zero_add]

/-- The marks of the pieces of a decomposition. -/
theorem segmented (h : IsDecomposition t pieces) :
    Segmented (pieces.map (PlacedText.marksIn t)) where
  nonempty := by
    rintro ms hms
    obtain ⟨p, hp, rfl⟩ := List.mem_map.1 hms
    have hlength := h.placedFrom.length_marksIn (by rw [h.concat, Nat.zero_add]) p hp
    rw [← List.length_pos_iff, hlength, List.length_pos_iff]
    exact h.nonempty p hp
  kinds := by
    rintro ms hms
    obtain ⟨p, hp, rfl⟩ := List.mem_map.1 hms
    exact (h.kinds p hp).exists
  adjacent := (List.isChain_map _).2 h.adjacent

/-- A template that has a decomposition is accepted. -/
theorem fault_eq_none (h : IsDecomposition t pieces) : (Scan.ofText t).fault = none := by
  rw [fault_eq_none_iff, balanced_iff, ← marks_eq_of_placed h.placedFrom h.concat]
  exact h.segmented.depthBehind_flatten

end IsDecomposition

namespace Scan.Complete

variable {s : Scan}

/-- The pieces of a scan without a fault make up the template. -/
theorem flatMap_pieces (h : s.Complete 0 t) :
    (s.tokens.map PlacedToken.piece).flatMap PlacedText.text = t := by
  rw [← h.concat, List.flatMap_map]
  rfl

/-- In a scan without a fault the tokens have the marks that they have in the template. -/
theorem map_marksIn (h : s.Complete 0 t) :
    (s.tokens.map PlacedToken.piece).map (PlacedText.marksIn t) = segmentsOf s.tokens := by
  rw [List.eq_iff_flatten_eq, marks_eq_of_placed h.placed h.flatMap_pieces, h.marks_eq,
    map_length_marksIn h.placed h.flatMap_pieces]
  simp [segmentsOf, PlacedToken.piece]

/-- The marks of a token in the template are one of the segments. -/
theorem marksIn_mem (h : s.Complete 0 t) {p : PlacedText}
    (hp : p ∈ s.tokens.map PlacedToken.piece) : p.marksIn t ∈ segmentsOf s.tokens := by
  rw [← h.map_marksIn]
  exact List.mem_map_of_mem hp

/-- The tokens of a scan without a fault are a decomposition. -/
theorem isDecomposition (h : s.Complete 0 t) :
    IsDecomposition t (s.tokens.map PlacedToken.piece) where
  nonempty := by
    intro p hp htext
    refine h.segmented.nonempty _ (h.marksIn_mem hp) ?_
    rw [PlacedText.marksIn, htext]
    rfl
  concat := h.flatMap_pieces
  placed := fun before p after heq => by
    rw [PlacedFrom.iff_forall.1 h.placed before p after heq, Nat.zero_add]
  kinds := by
    intro p hp
    have hmem := h.marksIn_mem hp
    obtain ⟨kind, hkind⟩ := h.segmented.kinds _ hmem
    exact ⟨kind, hkind, fun kind' hkind' => hkind'.unique hkind (h.segmented.nonempty _ hmem)⟩
  adjacent := by
    rw [← List.isChain_map (R := Adjacent), h.map_marksIn]
    exact h.segmented.adjacent

end Scan.Complete

/-- A template falls into pieces exactly if the tokenizer accepts it, and only into the tokens. -/
theorem isDecomposition_iff (t : Text) (pieces : List PlacedText) :
    IsDecomposition t pieces ↔
      (Scan.ofText t).fault = none ∧ pieces = (Scan.ofText t).tokens.map PlacedToken.piece := by
  constructor
  · intro h
    have hfault := h.fault_eq_none
    have hscan : (Scan.ofText t).Complete 0 t := Scan.complete_scanFrom 0 t hfault
    have hmarks : pieces.map (PlacedText.marksIn t) = segmentsOf (Scan.ofText t).tokens :=
      h.segmented.unique hscan.segmented
        ((marks_eq_of_placed h.placedFrom h.concat).trans hscan.marks_eq.symm)
    refine ⟨hfault, h.placedFrom.eq_of_texts hscan.placed ?_⟩
    rw [List.eq_iff_flatten_eq, ← List.flatMap_def, ← List.flatMap_def, h.concat,
      hscan.flatMap_pieces, ← map_length_marksIn h.placedFrom h.concat, hmarks,
      ← map_length_marksIn hscan.placed hscan.flatMap_pieces, hscan.map_marksIn]
    exact ⟨rfl, rfl⟩
  · rintro ⟨hfault, rfl⟩
    exact (Scan.complete_scanFrom 0 t hfault).isDecomposition

end Agreement
