import Agreement.Proofs.Template.Kinds

/-!
# Tokens that are taken off in front of a text

`Token.CutFrom` is not only what a scan guarantees of a token, it also decides what the scan does:
whatever is cut off in front of a text in this sense is the next token (`Scan.scanFrom_cutFrom`).
`TakenOff` says it of several tokens, one behind the other, and `Scan.scanFrom_takenOff` that a scan
takes them off and goes on behind them as if nothing stood before. What follows a list of tokens may
be exchanged if the last of them still ends there (`TakenOff.of_rest`).
-/

namespace Agreement

/-- A text ends in a backslash that escapes nothing, and would escape the next character. -/
def EndsEscaping (t : Text) : Prop :=
  (marks t).getLast? = some (some '\\')

/-- The empty text leaves the next character alone. -/
theorem not_endsEscaping_nil : ¬ EndsEscaping [] := by
  unfold EndsEscaping
  simp [marks]

/-- Behind an escaped character the rest of the text decides. -/
theorem endsEscaping_escaped (c : Char) (t : Text) :
    EndsEscaping ('\\' :: c :: t) ↔ EndsEscaping t := by
  unfold EndsEscaping
  rw [marks, List.getLast?_cons_cons]
  cases marks t with
  | nil => simp
  | cons m ms => rw [List.getLast?_cons_cons]

/-- Behind a character other than a backslash the rest of the text decides. -/
theorem endsEscaping_cons {c : Char} (h : c ≠ '\\') (t : Text) :
    EndsEscaping (c :: t) ↔ EndsEscaping t := by
  unfold EndsEscaping
  rw [marks_cons (absurd · h)]
  cases marks t with
  | nil => simpa using h
  | cons m ms => rw [List.getLast?_cons_cons]

/-- The marks of a text that leaves the next character alone do not depend on what follows. -/
theorem marks_append {t : Text} (h : ¬ EndsEscaping t) (rest : Text) :
    marks (t ++ rest) = marks t ++ marks rest := by
  fun_induction marks t with
  | case1 => rfl
  | case2 c t ih =>
      rw [endsEscaping_escaped] at h
      rw [List.cons_append, List.cons_append, marks, ih h]
      rfl
  | case3 c t hescape ih =>
      by_cases hback : c = '\\'
      · subst hback
        rw [eq_nil_of_no_escape hescape rfl] at h
        exact absurd rfl h
      · rw [endsEscaping_cons hback] at h
        rw [List.cons_append, marks_cons (absurd · hback), ih h]
        rfl

/-- A text whose marks do not depend on what follows leaves the next character alone. -/
theorem not_endsEscaping {t : Text} {c : Char} {rest : Text}
    (h : marks (t ++ c :: rest) = marks t ++ marks (c :: rest)) : ¬ EndsEscaping t := by
  fun_induction marks t with
  | case1 => exact not_endsEscaping_nil
  | case2 d t ih =>
      rw [endsEscaping_escaped]
      exact ih (List.cons.inj (List.cons.inj h).2).2
  | case3 d t hescape ih =>
      by_cases hback : d = '\\'
      · subst hback
        rw [eq_nil_of_no_escape hescape rfl, List.singleton_append] at h
        -- the next character is escaped here, but its own mark comes first there
        have hnext : none :: marks rest = marks (c :: rest) := (List.cons.inj h).2
        have hhead := head?_marks (c :: rest)
        rw [← hnext] at hhead
        cases hhead
      · rw [List.cons_append, marks_cons (absurd · hback)] at h
        rw [endsEscaping_cons hback]
        exact ih (List.cons.inj h).2

/-- A text leaves the next character alone if its last part does. -/
theorem endsEscaping_append {t t' : Text} (h : ¬ EndsEscaping t) (ht' : t' ≠ []) :
    EndsEscaping (t ++ t') ↔ EndsEscaping t' := by
  have hmarks : marks t' ≠ [] := by
    rw [← List.length_pos_iff, length_marks, List.length_pos_iff]
    exact ht'
  unfold EndsEscaping
  rw [marks_append h, List.getLast?_append_of_ne_nil _ hmarks]

/-- A text that ends in a character of its own is that character behind others. -/
theorem exists_of_marks_concat {t : Text} {ms : List Mark} {c : Char}
    (h : marks t = ms ++ [some c]) : ∃ front, t = front ++ [c] ∧ marks front = ms := by
  fun_induction marks t generalizing ms with
  | case1 => simp at h
  | case2 d t ih =>
      rcases ms with _ | ⟨m, _ | ⟨m', ms⟩⟩
      · simp at h
      · simp at h
      · obtain ⟨hm, hm', htail⟩ : some '\\' = m ∧ none = m' ∧ marks t = ms ++ [some c] := by
          simpa using h
        obtain ⟨front, rfl, hfront⟩ := ih htail
        exact ⟨'\\' :: d :: front, rfl, by rw [marks, hfront, hm, hm']⟩
  | case3 d t hescape ih =>
      rcases ms with _ | ⟨m, ms⟩
      · obtain ⟨hd, htail⟩ : d = c ∧ marks t = [] := by simpa using h
        have hnil : t = [] := by
          rw [← List.length_eq_zero_iff, ← length_marks, htail]
          rfl
        exact ⟨[], by rw [hd, hnil]; rfl, rfl⟩
      · obtain ⟨hm, htail⟩ : some d = m ∧ marks t = ms ++ [some c] := by simpa using h
        obtain ⟨front, rfl, hfront⟩ := ih htail
        refine ⟨d :: front, rfl, ?_⟩
        have hback : d ≠ '\\' := fun hback => by
          simpa using eq_nil_of_no_escape hescape hback
        rw [marks_cons (absurd · hback), hfront, hm]

namespace Token

variable {kind : Char → Bool}

/-- A cut takes off what holds no unescaped character of the kind, up to such a character. -/
theorem cutUnescaped_of_marks (hkind : kind '\\' = false) {t rest : Text}
    (hmarks : marks (t ++ rest) = marks t ++ marks rest)
    (ht : ∀ c, some c ∈ marks t → kind c = false) (hrest : ∀ c ∈ rest.head?, kind c = true) :
    cutUnescaped kind (t ++ rest) = (t, rest) := by
  fun_induction marks t with
  | case1 =>
      cases rest with
      | nil => rfl
      | cons c rest =>
          have hc : kind c = true := hrest c rfl
          rw [List.nil_append, cutUnescaped, if_pos hc]
          rintro d tail rfl
          simp [hkind] at hc
  | case2 c t ih =>
      have htail : marks (t ++ rest) = marks t ++ marks rest :=
        (List.cons.inj (List.cons.inj hmarks).2).2
      have hcut := ih htail fun d hd => ht d (List.mem_cons_of_mem _ (List.mem_cons_of_mem _ hd))
      rw [List.cons_append, List.cons_append, cutUnescaped, hcut]
  | case3 c t hescape ih =>
      have hc : ¬ kind c = true := by simp [ht c List.mem_cons_self]
      by_cases hback : c = '\\'
      · -- a backslash that escapes nothing stands at the end
        subst hback
        rw [eq_nil_of_no_escape hescape rfl] at hmarks ⊢
        cases rest with
        | nil => exact if_neg hc
        | cons d rest => exact absurd rfl (not_endsEscaping hmarks)
      · rw [List.cons_append, marks_cons (absurd · hback)] at hmarks
        have hcut := ih (List.cons.inj hmarks).2 fun d hd => ht d (List.mem_cons_of_mem _ hd)
        rw [List.cons_append, cutUnescaped, if_neg hc, hcut]
        exact fun _ _ heq => absurd heq hback

/-- A directive is cut off at the first bracket that closes what is open. -/
theorem cutClosed_of_marks {depth : Nat} {inner rest : Text}
    (hmarks : marks (inner ++ '>' :: rest) = marks inner ++ marks ('>' :: rest))
    (hdepth : depthBehind depth (marks inner) = some 0) :
    cutClosed depth (inner ++ '>' :: rest) = some (inner, rest) := by
  fun_induction marks inner generalizing depth with
  | case1 =>
      obtain rfl : depth = 0 := Option.some.inj hdepth
      rfl
  | case2 c inner ih =>
      have htail := (List.cons.inj (List.cons.inj hmarks).2).2
      have hcut := ih htail (by simpa [depthBehind] using hdepth)
      rw [List.cons_append, List.cons_append, cutClosed, hcut]
      rfl
  | case3 c inner hescape ih =>
      have hback : c ≠ '\\' := by
        rintro rfl
        rw [eq_nil_of_no_escape hescape rfl] at hmarks
        exact absurd rfl (not_endsEscaping hmarks)
      rw [List.cons_append, marks_cons (absurd · hback)] at hmarks
      have hcut {outer : Nat} := @ih outer (List.cons.inj hmarks).2
      by_cases hopen : c = '<'
      · subst hopen
        rw [List.cons_append, cutClosed, hcut (by simpa [depthBehind] using hdepth)]
        rfl
      · by_cases hclose : c = '>'
        · subst hclose
          cases depth with
          | zero => simp [depthBehind] at hdepth
          | succ depth =>
              rw [List.cons_append, cutClosed, hcut (by simpa [depthBehind] using hdepth)]
              rfl
        · have hrest : depthBehind depth (marks inner) = some 0 := by
            rwa [depthBehind_cons (by simpa using hopen) (by simpa using hclose)] at hdepth
          rw [List.cons_append, cutClosed, hcut hrest]
          · rfl
          · exact fun _ _ heq => absurd heq hback
          · exact hopen
          · exact fun _ => hclose
          · exact fun _ _ => hclose

/-- What fits a directive is what stands between two brackets, where it settles its own brackets. -/
theorem exists_inner_of_fits {t : Text} (h : TokenKind.directive.Fits (marks t)) :
    ∃ inner, t = '<' :: inner ++ ['>'] ∧ depthBehind 0 (marks inner) = some 0 ∧
      ¬ EndsEscaping inner := by
  obtain ⟨⟨ms, hms⟩, hcount, hprefix⟩ := h
  obtain ⟨front, rfl, hfront⟩ := exists_of_marks_concat hms
  obtain ⟨inner, rfl⟩ : ∃ inner, front = '<' :: inner := by
    have hhead := head?_marks front
    rw [hfront] at hhead
    obtain ⟨c, hc, hopen⟩ := Option.map_eq_some_iff.1 hhead.symm
    obtain ⟨inner, rfl⟩ := List.head?_eq_some_iff.1 hc
    exact ⟨inner, by rw [Option.some.inj hopen]⟩
  rw [marks_cons (by simp)] at hfront
  obtain rfl : marks inner = ms := (List.cons.inj hfront).2
  rw [List.cons_append, marks_cons (by simp)] at hms
  refine ⟨inner, rfl, depthBehind_eq_some_iff.2 ⟨fun n => ?_, ?_⟩,
    not_endsEscaping (List.cons.inj hms).2⟩
  · -- the opening bracket is open all the time, so what is inside closes no more than it opens
    rw [List.cons_append, marks_cons (by simp), hms] at hprefix
    by_cases hn : n ≤ (marks inner).length
    · have hlt := hprefix (n + 1) (Nat.succ_pos n) (by
        simp only [List.cons_append, List.length_cons, List.length_append, List.length_nil]
        omega)
      rw [List.cons_append, List.take_succ_cons, List.take_append_of_le_length hn,
        List.count_cons_self, List.count_cons_of_ne (by simp)] at hlt
      omega
    · have hlt := hprefix ((marks inner).length + 1) (Nat.succ_pos _) (by simp)
      rw [List.cons_append, List.take_succ_cons, List.take_left, List.count_cons_self,
        List.count_cons_of_ne (by simp)] at hlt
      rw [List.take_of_length_le (by omega)]
      omega
  · rw [List.cons_append, marks_cons (by simp), hms] at hcount
    simp at hcount
    omega

/-- A literal ends at none of its own characters. -/
theorem endsLiteral_of_fits {ms : List Mark} (h : TokenKind.literal.Fits ms) {c : Char}
    (hc : some c ∈ ms) : endsLiteral c = false := by
  simp only [endsLiteral, Bool.or_eq_false_iff, beq_eq_false_iff_ne]
  refine ⟨⟨?_, ?_⟩, ?_⟩ <;> rintro rfl
  · exact h '<' (by simp) hc
  · exact h '>' (by simp) hc
  · exact h '$' (by simp) hc

/-- A reference ends at none of the characters of its name. -/
theorem endsReference_of_fits {ms : List Mark} (h : TokenKind.reference.Fits (some '$' :: ms))
    {c : Char} (hc : some c ∈ ms) : endsReference c = false := by
  obtain ⟨name, heq, hname⟩ := h
  obtain rfl := (List.cons.inj heq).2
  simp only [endsReference, endsLiteral, Bool.or_eq_false_iff, beq_eq_false_iff_ne]
  refine ⟨⟨⟨?_, ?_⟩, ?_⟩, ?_⟩ <;> rintro rfl
  · exact hname '<' (by simp) hc
  · exact hname '>' (by simp) hc
  · exact hname '$' (by simp) hc
  · exact hname ' ' (by simp) hc

end Token

namespace Scan

open Token

/-- What is cut off in front of a text is the token that a scan takes off there. -/
theorem scanFrom_cutFrom {token : Token} {rest : Text} (h : token.CutFrom rest) (position : Nat) :
    scanFrom position (token.text ++ rest) =
      (scanFrom (position + token.text.length) rest).cons position token := by
  have hends : ∀ c ∈ rest.head?, token.kind.EndsAt (some c) := by
    intro c hc
    refine h.ends (some c) ?_
    rw [head?_marks, hc]
    rfl
  cases token with
  | literal t =>
      have hrest : ∀ c ∈ rest.head?, c = '<' ∨ c = '$' := by
        intro c hc
        simpa [kind, TokenKind.EndsAt] using hends c hc
      have hcut : cutUnescaped endsLiteral (t ++ rest) = (t, rest) := by
        refine cutUnescaped_of_marks (by decide) h.marks_append ?_ ?_
        · intro c hc
          exact endsLiteral_of_fits h.fits hc
        · intro c hc
          rcases hrest c hc with rfl | rfl <;> decide
      have hclose : rest.head? ≠ some '>' := fun hc => by simpa using hrest _ hc
      obtain ⟨c, t, rfl⟩ := List.exists_cons_of_ne_nil h.nonempty
      have hc : endsLiteral c = false := by
        refine endsLiteral_of_fits h.fits (List.mem_of_mem_head? ?_)
        rw [head?_marks]
        rfl
      exact scanFrom_of_literal hc hcut hclose position
  | reference name =>
      have hmarks : marks ('$' :: name) = some '$' :: marks name := marks_cons (by simp)
      have hall : marks ('$' :: (name ++ rest)) = marks ('$' :: name) ++ marks rest :=
        h.marks_append
      rw [marks_cons (by simp), hmarks] at hall
      have hcut : cutUnescaped endsReference (name ++ rest) = (name, rest) := by
        refine cutUnescaped_of_marks (by decide) (List.cons.inj hall).2 ?_ ?_
        · intro c hc
          exact endsReference_of_fits (hmarks ▸ h.fits) hc
        · intro c hc
          have hc : c = '<' ∨ c = '$' ∨ c = ' ' := by
            simpa [kind, TokenKind.EndsAt] using hends c hc
          rcases hc with rfl | rfl | rfl <;> decide
      have hclose : rest.head? ≠ some '>' := fun hc => by
        simpa [kind, TokenKind.EndsAt] using hends _ hc
      have hnext : position + (Token.reference name).text.length = position + 1 + name.length := by
        simp only [Token.text, List.length_cons]
        omega
      rw [hnext]
      exact scanFrom_of_reference hcut hclose position
  | directive inner =>
      obtain ⟨inner', hinner, hdepth, hescape⟩ := exists_inner_of_fits h.fits
      obtain rfl : inner = inner' := List.append_cancel_right (List.cons.inj hinner).2
      have hcut : cutClosed 0 (inner ++ '>' :: rest) = some (inner, rest) :=
        cutClosed_of_marks (marks_append hescape _) hdepth
      have hnext : position + (Token.directive inner).text.length =
          position + inner.length + 2 := by
        simp only [Token.text, List.cons_append, List.length_cons, List.length_append,
          List.length_nil]
        omega
      rw [hnext, Token.text, List.append_assoc]
      exact scanFrom_of_directive hcut position

end Scan

/-- What stands behind a token may be exchanged if the token leaves its first character alone and
ends there. -/
theorem Token.CutFrom.of_rest {token : Token} {rest rest' : Text} (h : token.CutFrom rest)
    (hescape : rest' = [] ∨ ¬ EndsEscaping token.text)
    (hends : ∀ c ∈ rest'.head?, token.kind.EndsAt (some c)) : token.CutFrom rest' where
  nonempty := h.nonempty
  marks_append := by
    rcases hescape with rfl | hescape
    · rw [List.append_nil, marks, List.append_nil]
    · exact Agreement.marks_append hescape rest'
  fits := h.fits
  ends := by
    intro m hm
    rw [head?_marks] at hm
    obtain ⟨c, hc, rfl⟩ := Option.map_eq_some_iff.1 hm
    exact hends c hc

/-- Of what stands behind a token only the first character matters. -/
theorem Token.CutFrom.of_cons {token : Token} {c : Char} {rest rest' : Text}
    (h : token.CutFrom (c :: rest)) : token.CutFrom (c :: rest') := by
  refine h.of_rest (.inr (not_endsEscaping h.marks_append)) fun d hd => h.ends (some d) ?_
  rw [head?_marks]
  exact congrArg (Option.map some) hd

/-- The text that some tokens make up. -/
def Token.concat (tokens : List Token) : Text :=
  tokens.flatMap Token.text

/-- Some tokens are cut off in front of a text, one behind the other. -/
def TakenOff (rest : Text) : List Token → Prop
  | [] => True
  | token :: tokens => token.CutFrom (Token.concat tokens ++ rest) ∧ TakenOff rest tokens

/-- Some tokens with their positions, the first one at a given position. -/
def placeFrom (position : Nat) : List Token → List PlacedToken
  | [] => []
  | token :: tokens => ⟨position, token⟩ :: placeFrom (position + token.text.length) tokens

/-- The scan with some tokens in front. -/
def Scan.prepend (placed : List PlacedToken) (s : Scan) : Scan :=
  { s with tokens := placed ++ s.tokens }

section TakenOff

variable {rest rest' : Text} {tokens tokens' : List Token}

@[simp] theorem Token.concat_nil : Token.concat [] = [] := rfl

@[simp] theorem Token.concat_cons (token : Token) (tokens : List Token) :
    Token.concat (token :: tokens) = token.text ++ Token.concat tokens := rfl

@[simp] theorem Token.concat_append (tokens tokens' : List Token) :
    Token.concat (tokens ++ tokens') = Token.concat tokens ++ Token.concat tokens' :=
  List.flatMap_append

/-- Tokens are taken off in two parts. -/
theorem takenOff_append : TakenOff rest (tokens ++ tokens') ↔
    TakenOff (Token.concat tokens' ++ rest) tokens ∧ TakenOff rest tokens' := by
  induction tokens with
  | nil => simp [TakenOff]
  | cons token tokens ih =>
      rw [List.cons_append, TakenOff, TakenOff, ih, Token.concat_append, List.append_assoc,
        and_assoc]

/-- Tokens that are taken off make up a text. -/
theorem TakenOff.concat_ne_nil {token : Token} (h : TakenOff rest (token :: tokens)) :
    Token.concat (token :: tokens) ≠ [] := by
  intro hnil
  exact h.1.nonempty (List.append_eq_nil_iff.1 hnil).1

/-- Of what stands behind some tokens only the first character matters. -/
theorem TakenOff.of_cons {c : Char} (h : TakenOff (c :: rest) tokens) :
    TakenOff (c :: rest') tokens := by
  induction tokens with
  | nil => trivial
  | cons token tokens ih =>
      obtain ⟨hcut, hrest⟩ := h
      refine ⟨?_, ih hrest⟩
      cases tokens with
      | nil => exact Token.CutFrom.of_cons hcut
      | cons next tokens =>
          obtain ⟨d, t, hd⟩ := List.exists_cons_of_ne_nil hrest.concat_ne_nil
          rw [hd] at hcut ⊢
          exact Token.CutFrom.of_cons hcut

/-- What stands behind some tokens may be exchanged if they leave its first character alone and the
last of them ends there. -/
theorem TakenOff.of_rest (h : TakenOff rest tokens)
    (hescape : rest' = [] ∨ ¬ EndsEscaping (Token.concat tokens))
    (hends : ∀ token ∈ tokens.getLast?, ∀ c ∈ rest'.head?, token.kind.EndsAt (some c)) :
    TakenOff rest' tokens := by
  induction tokens with
  | nil => trivial
  | cons token tokens ih =>
      obtain ⟨hcut, hrest⟩ := h
      cases tokens with
      | nil =>
          rw [Token.concat_cons, Token.concat_nil, List.append_nil] at hescape
          exact ⟨hcut.of_rest hescape (hends token rfl), trivial⟩
      | cons next tokens =>
          -- only the last token stands next to what is exchanged
          have hne := hrest.concat_ne_nil
          obtain ⟨c, t, hc⟩ := List.exists_cons_of_ne_nil hne
          rw [hc] at hcut
          have hplain : ¬ EndsEscaping token.text := not_endsEscaping hcut.marks_append
          rw [Token.concat_cons, endsEscaping_append hplain hne] at hescape
          refine ⟨?_, ih hrest hescape fun last hlast => hends last (by simpa using hlast)⟩
          rw [hc]
          exact Token.CutFrom.of_cons hcut

/-- A scan takes off the tokens in front of a text, and goes on behind them. -/
theorem Scan.scanFrom_takenOff (h : TakenOff rest tokens) (position : Nat) :
    scanFrom position (Token.concat tokens ++ rest) =
      (scanFrom (position + (Token.concat tokens).length) rest).prepend
        (placeFrom position tokens) := by
  induction tokens generalizing position with
  | nil => rfl
  | cons token tokens ih =>
      obtain ⟨hcut, hrest⟩ := h
      rw [Token.concat_cons, List.append_assoc, scanFrom_cutFrom hcut, ih hrest,
        List.length_append, Nat.add_assoc]
      rfl

/-- The tokens of a scan without a fault are taken off in front of nothing. -/
theorem Scan.exists_takenOff {position : Nat} {t : Text}
    (h : (scanFrom position t).fault = none) :
    ∃ tokens, t = Token.concat tokens ∧ TakenOff [] tokens ∧
      scanFrom position t = ⟨placeFrom position tokens, none⟩ := by
  refine Scan.induction (motive := fun position t s => s.fault = none →
    ∃ tokens, t = Token.concat tokens ∧ TakenOff [] tokens ∧ s = ⟨placeFrom position tokens, none⟩)
    ?_ ?_ ?_ ?_ position t h
  · intro position _
    exact ⟨[], rfl, trivial, rfl⟩
  · intro position rest final _ hfault
    cases hfault
  · intro position front rest _ _ _ hfault
    cases hfault
  · intro position token rest hcut ih hfault
    obtain ⟨tokens, rfl, htaken, hscan⟩ := ih hfault
    refine ⟨token :: tokens, rfl, ⟨by rwa [List.append_nil], htaken⟩, ?_⟩
    rw [hscan]
    rfl

/-- Tokens that are taken off in front of nothing are those of their text. -/
theorem Scan.ofText_concat (h : TakenOff [] tokens) :
    ofText (Token.concat tokens) = ⟨placeFrom 0 tokens, none⟩ := by
  have hscan := scanFrom_takenOff h 0
  rw [List.append_nil] at hscan
  rw [ofText, hscan, scanFrom, prepend, List.append_nil]

/-- Tokens are placed in two parts. -/
theorem placeFrom_append (position : Nat) (tokens tokens' : List Token) :
    placeFrom position (tokens ++ tokens') =
      placeFrom position tokens ++
        placeFrom (position + (Token.concat tokens).length) tokens' := by
  induction tokens generalizing position with
  | nil => rfl
  | cons token tokens ih =>
      rw [List.cons_append, placeFrom, ih, placeFrom, Token.concat_cons, List.length_append,
        Nat.add_assoc]
      rfl

/-- Placing tokens keeps them. -/
@[simp] theorem map_token_placeFrom (position : Nat) (tokens : List Token) :
    (placeFrom position tokens).map PlacedToken.token = tokens := by
  induction tokens generalizing position with
  | nil => rfl
  | cons token tokens ih => rw [placeFrom, List.map_cons, ih]

/-- Where placed tokens are parted, the tokens are. -/
theorem exists_of_placeFrom_eq {position : Nat} {before after : List PlacedToken}
    (h : placeFrom position tokens = before ++ after) :
    ∃ front back, tokens = front ++ back ∧ before = placeFrom position front ∧
      after = placeFrom (position + (Token.concat front).length) back := by
  have htokens : tokens = before.map PlacedToken.token ++ after.map PlacedToken.token := by
    rw [← map_token_placeFrom position tokens, h, List.map_append]
  refine ⟨before.map PlacedToken.token, after.map PlacedToken.token, htokens, ?_⟩
  rw [htokens, placeFrom_append] at h
  have hlength : (placeFrom position (before.map PlacedToken.token)).length = before.length := by
    have hmap := congrArg List.length (map_token_placeFrom position (before.map PlacedToken.token))
    simpa only [List.length_map] using hmap
  obtain ⟨hbefore, hafter⟩ := List.append_inj h hlength
  exact ⟨hbefore.symm, hafter.symm⟩

end TakenOff

end Agreement
