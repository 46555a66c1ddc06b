import Agreement.Proofs.Template.Boundaries
import Agreement.Proofs.Template.IssuePlaces
import Mathlib.Data.List.Forall2

/-!
# Issues of a template

What `Template.parse` gives is put together from what the tokens give on their own, one part for
each token, and every issue lies in the token that it belongs to: `parse_located`. One directive may
take the place of another without a change to the parts of the other tokens, since a token shows
nothing but its first character to the token in front of it, and every directive shows the same one
(`Scan.ofText_replaceIn`).
-/

namespace Agreement

/-- What several parts give together. -/
def Parsed.concat (parts : List Parsed) : Parsed :=
  ⟨parts.flatMap Parsed.directives, parts.flatMap Parsed.issues⟩

/-- A token is the only one of its text. -/
def Token.Alone (token : Token) : Prop :=
  Scan.ofText token.text = ⟨[⟨0, token⟩], none⟩

/-- A template with another text in place of a token. -/
def PlacedToken.replaceIn (p : PlacedToken) (t text : Text) : Text :=
  t.take p.position ++ text ++ t.drop (p.position + p.token.text.length)

/-- What a token gives in a template: what it gives on its own, only further behind, and no issue
that shows another piece of the template than the token. -/
structure PlacedToken.Gives (fold : Bool) (t : Text) (p : PlacedToken) (part : Parsed) : Prop
    extends part.FromToken p where
  stands : (t.drop p.position).take p.token.text.length = p.token.text
  own : ∃ own, Template.parse fold p.token.text = .ok own ∧ part = own.shift p.position

/-- The parts of a template do not depend on each other: if a directive takes the place of another,
all other tokens and parts are kept, and what stands behind is moved. -/
def Template.Isolated (fold : Bool) (t : Text) (parts : List Parsed) : Prop :=
  ∀ before p after first part later,
    (Scan.ofText t).tokens = before ++ p :: after → parts = first ++ part :: later →
    first.length = before.length → p.token.kind = .directive →
    ∀ token own, token.kind = .directive → token.Alone → parse fold token.text = .ok own →
      (Scan.ofText (p.replaceIn t token.text)).tokens.map PlacedToken.token =
          before.map PlacedToken.token ++ token :: after.map PlacedToken.token ∧
        parse fold (p.replaceIn t token.text) = .ok (.concat (first ++ own.shift p.position ::
          later.map (Parsed.shift (token.text.length - p.token.text.length))))

/-- A template without a fault around one of its tokens: the tokens in front of it and behind it,
and where they stand. -/
theorem Scan.exists_around {t : Text} {before after : List PlacedToken} {p : PlacedToken}
    (hfault : (ofText t).fault = none) (htokens : (ofText t).tokens = before ++ p :: after) :
    ∃ front back, t = Token.concat front ++ (p.token.text ++ Token.concat back) ∧
      TakenOff [] (front ++ p.token :: back) ∧ before = placeFrom 0 front ∧
      p.position = (Token.concat front).length ∧
      after = placeFrom (p.position + p.token.text.length) back := by
  obtain ⟨tokens, rfl, htaken, hscan⟩ := Scan.exists_takenOff hfault
  have hplaced : placeFrom 0 tokens = before ++ p :: after := by
    rw [← htokens, ofText, hscan]
  obtain ⟨front, back, rfl, hbefore, hrest⟩ := exists_of_placeFrom_eq hplaced
  cases back with
  | nil => cases hrest
  | cons token back =>
      rw [placeFrom, Nat.zero_add] at hrest
      obtain ⟨rfl, hafter⟩ := List.cons.inj hrest
      exact ⟨front, back, Token.concat_append _ _, htaken, hbefore, rfl, hafter⟩

/-- A token that is cut off is the only one of its text. -/
theorem Token.CutFrom.alone {token : Token} {rest : Text} (h : token.CutFrom rest) :
    token.Alone := by
  have htaken : TakenOff [] [token] := by
    refine ⟨h.of_rest (.inl rfl) fun c hc => ?_, trivial⟩
    cases hc
  have hscan := Scan.ofText_concat htaken
  rwa [Token.concat_cons, Token.concat_nil, List.append_nil] at hscan

/-- A token that is the only one of its text is cut off in front of nothing. -/
theorem Token.Alone.cutFrom {token : Token} (h : token.Alone) : token.CutFrom [] := by
  have hfault : (Scan.ofText token.text).fault = none := by rw [h]
  obtain ⟨tokens, -, htaken, hscan⟩ := Scan.exists_takenOff hfault
  rw [← Scan.ofText, h] at hscan
  have hplaced : placeFrom 0 tokens = [⟨0, token⟩] := by rw [Scan.mk.inj hscan |>.1]
  have htokens := map_token_placeFrom 0 tokens
  rw [hplaced] at htokens
  obtain rfl : [token] = tokens := htokens
  exact htaken.1

/-- Every directive starts with an opening bracket, and leaves the next character alone. -/
theorem Token.CutFrom.of_directive {token : Token} {rest : Text} (h : token.CutFrom rest)
    (hkind : token.kind = .directive) :
    (∃ t, token.text = '<' :: t) ∧ ∀ rest', token.CutFrom rest' := by
  have hfits := h.fits
  rw [hkind] at hfits
  obtain ⟨inner, htext, -, -⟩ := exists_inner_of_fits hfits
  refine ⟨⟨inner ++ ['>'], htext⟩, fun rest' => h.of_rest (.inr ?_) fun c _ => ?_⟩
  · obtain ⟨⟨ms, hms⟩, -⟩ := hfits
    rw [EndsEscaping, hms, List.getLast?_concat]
    decide
  · rw [hkind]
    trivial

/-- The scan of a template with a directive in place of another one. -/
theorem Scan.ofText_replaceIn {t : Text} {before after : List PlacedToken} {p : PlacedToken}
    (hfault : (ofText t).fault = none) (htokens : (ofText t).tokens = before ++ p :: after)
    (hp : p.token.kind = .directive) {token : Token} (htoken : token.kind = .directive)
    (halone : token.Alone) :
    ofText (p.replaceIn t token.text) =
      ⟨before ++ ⟨p.position, token⟩ :: placeFrom (p.position + token.text.length)
        (after.map PlacedToken.token), none⟩ := by
  obtain ⟨front, back, ht, htaken, rfl, hposition, rfl⟩ := exists_around hfault htokens
  obtain ⟨hfront, hcut, hback⟩ := takenOff_append.1 htaken
  -- the tokens in front see only the first character, an opening bracket in either case
  obtain ⟨⟨old, hold⟩, -⟩ := hcut.of_directive hp
  obtain ⟨⟨new, hnew⟩, hcuts⟩ := halone.cutFrom.of_directive htoken
  have hreplaced : p.replaceIn t token.text = Token.concat (front ++ token :: back) := by
    rw [PlacedToken.replaceIn, ht, hposition, List.take_left, ← List.drop_drop, List.drop_left,
      List.drop_left, List.append_assoc, Token.concat_append, Token.concat_cons]
  have htaken' : TakenOff [] (front ++ token :: back) := by
    refine takenOff_append.2 ⟨?_, hcuts _, hback⟩
    rw [Token.concat_cons, hold] at hfront
    rw [Token.concat_cons, hnew]
    exact TakenOff.of_cons hfront
  rw [hreplaced, Scan.ofText_concat htaken', placeFrom_append, placeFrom, Nat.zero_add, ← hposition,
    map_token_placeFrom]

namespace Template

variable {fold : Bool} {t : Text} {parsed : Parsed}

/-- Tokens are parsed if each of them is, and give what they give on their own. -/
theorem parseTokens_eq_ok_iff {ps : List PlacedToken} :
    parseTokens fold ps = .ok parsed ↔
      ∃ parts, List.Forall₂ (fun p part => parseToken fold p = .ok part) ps parts ∧
        parsed = .concat parts := by
  induction ps generalizing parsed with
  | nil =>
      constructor
      · intro h
        cases h
        exact ⟨[], .nil, rfl⟩
      · rintro ⟨parts, hparts, rfl⟩
        cases hparts
        rfl
  | cons p ps ih =>
      rw [parseTokens]
      constructor
      · intro h
        obtain ⟨part, hpart, h⟩ := Except.bind_eq_ok_iff.1 h
        obtain ⟨rest, hrest, h⟩ := Except.bind_eq_ok_iff.1 h
        obtain ⟨parts, hparts, rfl⟩ := ih.1 hrest
        cases h
        exact ⟨part :: parts, .cons hpart hparts, rfl⟩
      · rintro ⟨parts, hparts, rfl⟩
        cases hparts with
        | cons hpart hparts =>
            rw [hpart, ih.2 ⟨_, hparts, rfl⟩]
            rfl

/-- A template is parsed if its brackets are in order and each of its tokens is parsed. -/
theorem parse_eq_concat_iff :
    parse fold t = .ok parsed ↔ (Scan.ofText t).fault = none ∧
      ∃ parts, List.Forall₂ (fun p part => parseToken fold p = .ok part) (Scan.ofText t).tokens
        parts ∧ parsed = .concat parts := by
  rw [parse_eq_ok_iff, parseTokens_eq_ok_iff]

/-- A token that is the only one of its text is all there is to parse. -/
theorem parse_alone {token : Token} (h : token.Alone) :
    parse fold token.text = .ok parsed ↔ parseToken fold ⟨0, token⟩ = .ok parsed := by
  rw [parse_eq_concat_iff, h]
  constructor
  · rintro ⟨-, parts, hparts, rfl⟩
    cases hparts with
    | cons hpart hrest =>
        cases hrest
        rw [hpart, Parsed.concat, List.flatMap_singleton, List.flatMap_singleton]
  · intro hparsed
    refine ⟨rfl, [parsed], .cons hparsed .nil, ?_⟩
    rw [Parsed.concat, List.flatMap_singleton, List.flatMap_singleton]

/-- What a token gives is what it gives at the start, only further behind. -/
theorem parseToken_eq_ok_iff {p : PlacedToken} {part : Parsed} :
    parseToken fold p = .ok part ↔
      ∃ own, parseToken fold ⟨0, p.token⟩ = .ok own ∧ part = own.shift p.position := by
  have hplace : p = PlacedToken.shift p.position ⟨0, p.token⟩ := by
    rw [PlacedToken.shift, Nat.zero_add]
  conv_lhs => rw [hplace, parseToken_shift, Except.map_eq_ok_iff]
  simp only [eq_comm]

/-- Moving a part twice. -/
theorem shift_shift (m n : Int) (part : Parsed) : (part.shift m).shift n = part.shift (m + n) := by
  show Parsed.mk _ ((part.issues.map _).map _) = Parsed.mk _ _
  rw [List.map_map]
  refine congrArg (Parsed.mk _) (List.map_congr_left fun i _ => ?_)
  show Issue.mk (i.position + m + n) _ _ = Issue.mk (i.position + (m + n)) _ _
  rw [Int.add_assoc]
  rfl

/-- Tokens that are placed elsewhere give the same, moved by as much. -/
theorem forall₂_parseToken_placeFrom {position : Nat} {tokens : List Token} {parts : List Parsed}
    (h : List.Forall₂ (fun p part => parseToken fold p = .ok part) (placeFrom position tokens)
      parts) (position' : Nat) :
    List.Forall₂ (fun p part => parseToken fold p = .ok part) (placeFrom position' tokens)
      (parts.map (Parsed.shift (position' - position))) := by
  induction tokens generalizing position position' parts with
  | nil =>
      cases h
      exact .nil
  | cons token tokens ih =>
      cases h with
      | cons hpart hrest =>
          obtain ⟨own, hown, rfl⟩ := parseToken_eq_ok_iff.1 hpart
          refine .cons (parseToken_eq_ok_iff.2 ⟨own, hown, ?_⟩) ?_
          · rw [shift_shift]
            congr 1
            show (position : Int) + (position' - position) = position'
            omega
          · -- the next token is moved by as much as this one
            have hmoved := ih hrest (position' + token.text.length)
            have hby : ((position' + token.text.length : Nat) : Int) -
                (position + token.text.length : Nat) = position' - position := by omega
            rwa [hby] at hmoved

/-- Every token of a template gives its part. -/
theorem gives_of_parseToken (hfault : (Scan.ofText t).fault = none) {p : PlacedToken}
    (hp : p ∈ (Scan.ofText t).tokens) {part : Parsed} (h : parseToken fold p = .ok part) :
    p.Gives fold t part := by
  obtain ⟨before, after, htokens⟩ := List.append_of_mem hp
  obtain ⟨front, back, ht, htaken, -, hposition, -⟩ := Scan.exists_around hfault htokens
  obtain ⟨-, hcut, -⟩ := takenOff_append.1 htaken
  refine ⟨parseToken_fromToken h, ?_, ?_⟩
  · rw [ht, hposition, List.drop_left, List.take_left]
  · obtain ⟨own, hown, hpart⟩ := parseToken_eq_ok_iff.1 h
    exact ⟨own, (parse_alone hcut.alone).2 hown, hpart⟩

/-- Tokens without issues give one directive each. -/
theorem forall₂_one {ps : List PlacedToken} {parts : List Parsed}
    (h : List.Forall₂ (PlacedToken.Gives fold t) ps parts)
    (hissues : (Parsed.concat parts).issues = []) :
    List.Forall₂ (fun p d => parse fold p.token.text = .ok (.one d)) ps
      (Parsed.concat parts).directives := by
  induction h with
  | nil => exact .nil
  | @cons p part ps parts hpart hrest ih =>
      obtain ⟨hnone, hlater⟩ := List.append_eq_nil_iff.1 hissues
      obtain ⟨own, hown, rfl⟩ := hpart.own
      -- without an issue there must be a directive, and there are never two
      have hsome : own.directives ≠ [] := hpart.nonempty.resolve_right (absurd hnone)
      have hsingle : own.directives.length ≤ 1 := hpart.single
      obtain ⟨d, hd⟩ : ∃ d, own.directives = [d] := by
        rw [← List.length_eq_one_iff]
        have hpos := List.length_pos_iff.2 hsome
        omega
      have hone : own = .one d := by
        have hempty : own.issues = [] := List.map_eq_nil_iff.1 hnone
        rw [Parsed.one, ← hd, ← hempty]
      subst hone
      exact .cons hown (ih hlater)

/-- A directive in place of another one leaves the other parts alone. -/
theorem isolated_of_parseToken (hfault : (Scan.ofText t).fault = none) {parts : List Parsed}
    (h : List.Forall₂ (fun p part => parseToken fold p = .ok part) (Scan.ofText t).tokens parts) :
    Isolated fold t parts := by
  intro before p after first part later htokens hparts hlength hp token own htoken halone hown
  have hscan := Scan.ofText_replaceIn hfault htokens hp htoken halone
  obtain ⟨-, back, -, -, -, -, hafter⟩ := Scan.exists_around hfault htokens
  refine ⟨?_, parse_eq_concat_iff.2 ⟨?_, _, ?_, rfl⟩⟩
  · rw [hscan, List.map_append, List.map_cons, map_token_placeFrom]
  · rw [hscan]
  · -- the parts in front stay where they are, those behind are moved
    rw [htokens, hparts] at h
    have hfirst := List.forall₂_take_append _ _ _ h
    have hrest := List.forall₂_drop_append _ _ _ h
    rw [hlength, List.take_left] at hfirst
    rw [hlength, List.drop_left] at hrest
    obtain ⟨-, hlater⟩ := List.forall₂_cons.1 hrest
    rw [hafter] at hlater
    have hmoved := forall₂_parseToken_placeFrom hlater (p.position + token.text.length)
    have hby : ((p.position + token.text.length : Nat) : Int) -
        (p.position + p.token.text.length : Nat) =
          token.text.length - p.token.text.length := by omega
    rw [hby] at hmoved
    rw [hscan, hafter, map_token_placeFrom]
    exact List.rel_append hfirst (.cons
      (parseToken_eq_ok_iff.2 ⟨own, (parse_alone halone).1 hown, rfl⟩) hmoved)

end Template

/-- What is given by a template that is parsed. It is put together from one part for each token, in
their order, and the parts are isolated. Without issues every token has one directive and these are
what is compiled, and otherwise all the issues are reported. -/
theorem parse_located {fold : Bool} {t : Text} {parsed : Parsed}
    (h : Template.parse fold t = .ok parsed) :
    ∃ parts, List.Forall₂ (PlacedToken.Gives fold t) (Scan.ofText t).tokens parts ∧
      parsed = .concat parts ∧ Template.Isolated fold t parts ∧
      (parsed.issues = [] → Template.compile fold t = .ok parsed.directives ∧
        List.Forall₂ (fun p d => Template.parse fold p.token.text = .ok (.one d))
          (Scan.ofText t).tokens parsed.directives) ∧
      (parsed.issues ≠ [] → Template.compile fold t = .error (.issues parsed.issues)) := by
  obtain ⟨hfault, parts, hparts, rfl⟩ := Template.parse_eq_concat_iff.1 h
  have hgives : List.Forall₂ (PlacedToken.Gives fold t) (Scan.ofText t).tokens parts := by
    refine List.Forall₂.imp (fun p part hpart => ?_)
      ((List.forall₂_and_left _ _).2 ⟨fun p hp => hp, hparts⟩)
    exact Template.gives_of_parseToken hfault hpart.1 hpart.2
  refine ⟨parts, hgives, rfl, Template.isolated_of_parseToken hfault hparts, fun hnone => ?_,
    fun hsome => ?_⟩
  · refine ⟨?_, Template.forall₂_one hgives hnone⟩
    rw [Template.compile, h]
    exact if_pos hnone
  · rw [Template.compile, h]
    exact if_neg hsome

/-- An unknown option and a reference without a name are both reported, and each is located. -/
theorem parse_located_both :
    Template.compile true "<#q:1> $" =
        .error (.issues [⟨2, "<#q:1>", .option (.unknown "q")⟩, ⟨7, "$", .emptyReference⟩]) ∧
      ∃ parts, List.Forall₂ (PlacedToken.Gives true "<#q:1> $") (Scan.ofText "<#q:1> $").tokens
        parts ∧ Template.Isolated true "<#q:1> $" parts := by
  have hparse : Template.parse true "<#q:1> $" =
      .ok ⟨[.numeric (.constant 1) {}, .literal " "],
        [⟨2, "<#q:1>", .option (.unknown "q")⟩, ⟨7, "$", .emptyReference⟩]⟩ := by decide +kernel
  obtain ⟨parts, hgives, -, hisolated, -, hissues⟩ := parse_located hparse
  exact ⟨hissues (List.cons_ne_nil _ _), parts, hgives, hisolated⟩

end Agreement
