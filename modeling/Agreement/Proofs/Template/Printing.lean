import Agreement.Proofs.Template.Escape
import Agreement.Proofs.Template.OptionText
import Mathlib.Data.List.Chain
import Mathlib.Data.List.Forall2

/-!
# Printed directives

Directives as a template writes them. `Directive.IsPrinted` says how each directive is written, and
`Directive.MayPrecede` which directives may stand next to each other. The main statement is
`parse_printed`: directives that are written one behind the other are parsed back without an issue.
The step is `IsPrinted.exists_token`, which takes one directive off the front.
-/

namespace Agreement

/-- A name that is not empty and has no excluded character. -/
def IsName (excluded : List Char) (name : Text) : Prop :=
  name ≠ [] ∧ ∀ c ∈ name, c ∉ excluded

/-- The characters that a name inside a directive cannot have. -/
def excludedInside : List Char :=
  ['\\', '<', '>']

/-- How a numeric directive writes where its integer comes from. -/
inductive Source.IsIntegerText : Source Int → Text → Prop where
  | constant {n : Int} (hn : n.natAbs < Nat.pow 10 digitLimit) :
    IsIntegerText (.constant n) (Integer.text n)
  | named {name : Text} (hname : IsName excludedInside name) :
    IsIntegerText (.variable name) ('$' :: name)

/-- How a noun directive writes where its word comes from. -/
inductive Source.IsWordText : Source Text → Text → Prop where
  | constant (w : Text) : IsWordText (.constant w) (escape w)
  | named {name : Text} (hname : IsName excludedInside name) :
    IsWordText (.variable name) ('$' :: name)

namespace Directive

/-- How a directive is written in a template. -/
inductive IsPrinted : Directive → Text → Prop where
  | literal {t : Text} (ht : t ≠ []) : IsPrinted (.literal t) (escape t)
  | reference {name : Text} (hname : IsName (' ' :: '$' :: excludedInside) name) :
    IsPrinted (.variable name) ('$' :: name)
  | numeric {source : Source Int} {o : NumericOptions} {options body : Text} (ho : o.Writable)
    (hoptions : o.IsWritten options) (hbody : source.IsIntegerText body) :
    IsPrinted (.numeric source o) ('<' :: ('#' :: options ++ ':' :: body) ++ ['>'])
  | noun {source : Source Text} {o : NounOptions} {options body : Text}
    (hoptions : o.IsWritten options) (hbody : source.IsWordText body) :
    IsPrinted (.noun source o) ('<' :: ('n' :: options ++ ':' :: body) ++ ['>'])

/-- Which directives may stand next to each other: no two literals, and behind a variable only a
literal that starts with a space. -/
def MayPrecede : Directive → Directive → Prop
  | .literal _, .literal _ => False
  | .variable _, .literal t => t.head? = some ' '
  | _, _ => True

/-- How the rest of a template may start behind a directive. -/
def EndsAt : Directive → Char → Prop
  | .literal _, c => c = '<' ∨ c = '$'
  | .variable _, c => c = '<' ∨ c = '$' ∨ c = ' '
  | _, _ => True

end Directive

/-- Whether a character neither has a special meaning nor ends the options of a directive. -/
def isPlain (c : Char) : Bool :=
  !isSpecial c && c != ':'

/-- Digits and signs are plain. -/
theorem isPlain_of_isParameter {c : Char} (hc : NumericOptions.isParameter c) :
    isPlain c = true := by
  simp only [NumericOptions.isParameter, Bool.or_eq_true, beq_iff_eq] at hc
  rcases hc with (hdigit | rfl) | rfl
  · have hrange := toNat_of_isDigit hdigit
    by_contra hplain
    simp only [isPlain, isSpecial, isBracket, Bool.and_eq_true, Bool.not_eq_true', bne_iff_ne,
      Bool.or_eq_false_iff, beq_eq_false_iff_ne, not_and_or, not_not] at hplain
    rcases hplain with ((rfl | rfl) | rfl | rfl) | rfl <;> simp at hrange
  · decide
  · decide

/-- The characters of written numeric options are plain. -/
theorem NumericOptions.IsWritten.isPlain {o : NumericOptions} {t : Text} (h : o.IsWritten t) :
    ∀ c ∈ t, isPlain c = true := by
  obtain ⟨flags, -, rfl⟩ := h
  intro c hc
  obtain ⟨flag, -, hc⟩ := List.mem_flatMap.1 hc
  rcases List.mem_cons.1 hc with rfl | hc
  · cases flag <;> decide
  · exact isPlain_of_isParameter (isParameter_of_mem flag c hc)

/-- The characters of written noun options are plain. -/
theorem NounOptions.IsWritten.isPlain {o : NounOptions} {t : Text} (h : o.IsWritten t) :
    ∀ c ∈ t, isPlain c = true := by
  obtain ⟨flags, -, rfl⟩ := h
  intro c hc
  obtain ⟨flag, -, rfl⟩ := List.mem_map.1 hc
  cases flag <;> decide

/-- Plain characters are no brackets. -/
theorem Text.avoids_of_isPlain {t : Text} (h : ∀ c ∈ t, isPlain c = true) : t.Avoids isBracket := by
  refine avoids_of_forall fun c hc => ?_
  have hplain := h c hc
  simp only [isPlain, isSpecial, Bool.and_eq_true, Bool.not_eq_true', Bool.or_eq_false_iff,
    beq_eq_false_iff_ne] at hplain
  exact ⟨hplain.1.1.1, hplain.1.2⟩

/-- A name inside a directive has no brackets. -/
theorem IsName.avoids {name : Text} (h : IsName excludedInside name) : name.Avoids isBracket := by
  refine Text.avoids_of_forall fun c hc => ?_
  have hout := h.2 c hc
  simp only [excludedInside, List.mem_cons, List.not_mem_nil, or_false, not_or] at hout
  exact ⟨hout.1, by simp [isBracket, hout.2]⟩

/-- The text of an integer has no brackets. -/
theorem Source.IsIntegerText.avoids {source : Source Int} {body : Text}
    (h : source.IsIntegerText body) : body.Avoids isBracket := by
  cases h with
  | constant hn =>
      refine Text.avoids_of_isPlain fun c hc => isPlain_of_isParameter ?_
      rcases Integer.mem_text hc with rfl | hdigit
      · decide
      · simp [NumericOptions.isParameter, hdigit]
  | named hname => exact .plain (by decide) (by decide) hname.avoids

/-- The text of a word has no brackets that are not escaped. -/
theorem Source.IsWordText.avoids {source : Source Text} {body : Text}
    (h : source.IsWordText body) : body.Avoids isBracket := by
  cases h with
  | constant w =>
      refine Text.avoids_escape (fun c hc => ?_) w
      simp only [isSpecial, Bool.or_eq_false_iff] at hc
      exact hc.2
  | named hname => exact .plain (by decide) (by decide) hname.avoids

/-- Inside a directive nothing but the brackets around it can end it. -/
theorem Text.avoids_inner {kind : Char} {options body : Text} (hkind : isPlain kind = true)
    (hoptions : ∀ c ∈ options, isPlain c = true) (hbody : body.Avoids isBracket) :
    Text.Avoids isBracket (kind :: options ++ ':' :: body) := by
  refine (Text.avoids_of_isPlain ?_).append (.plain (by decide) (by decide) hbody)
  rintro c (_ | ⟨_, hc⟩)
  · exact hkind
  · exact hoptions c hc

/-- The options of a directive end at its first colon. -/
theorem Text.cutAt_of_isPlain {options : Text} (h : ∀ c ∈ options, isPlain c = true)
    (body : Text) : cutAt ':' (options ++ ':' :: body) = (options, some body) :=
  cutAt_append (fun hmem => absurd (h ':' hmem) (by decide)) body

namespace Template

/-- The body of a printed numeric directive is read back. -/
theorem numericBody_eq {source : Source Int} {body : Text} (h : source.IsIntegerText body)
    (p : PlacedToken) (o : NumericOptions) :
    numericBody p o [] body = .ok (.one (.numeric source o)) := by
  cases h with
  | constant hn =>
      rw [numericBody, if_pos (Integer.isNumeral_trim_text _), Integer.read_text hn]
      · rfl
      · -- the text of an integer does not start with a dollar sign
        intro name hbody
        rcases Integer.mem_text (hbody ▸ List.mem_cons_self) with hc | hc <;> cases hc
  | named hname => rfl

/-- The body of a printed noun directive is read back. -/
theorem nounBody_eq {source : Source Text} {body : Text} (h : source.IsWordText body)
    (o : NounOptions) : nounBody o [] body = .one (.noun source o) := by
  cases h with
  | constant w =>
      rw [nounBody, unescape_escape]
      -- an escaped text does not start with a dollar sign
      intro name hbody
      cases w with
      | nil => cases hbody
      | cons c w =>
          rw [escape_cons] at hbody
          split at hbody
          · cases hbody
          · next hc =>
              cases hbody
              exact hc (by decide)
  | named hname => rfl

/-- A printed numeric directive is parsed back. -/
theorem parseDirective_numeric {source : Source Int} {o : NumericOptions} {options body : Text}
    (ho : o.Writable) (hoptions : o.IsWritten options) (hbody : source.IsIntegerText body)
    (fold : Bool) (p : PlacedToken) :
    parseDirective fold p ('#' :: options ++ ':' :: body) = .ok (.one (.numeric source o)) := by
  -- neither kind that is printed is a capital, so case is not folded whatever `fold` says
  have hfold : (fold && isUpper '#') = false := by
    rw [show isUpper '#' = false by decide, Bool.and_false]
  rw [List.cons_append, parseDirective, Text.cutAt_of_isPlain hoptions.isPlain]
  simp only [hfold, NumericOptions.read_written ho hoptions, if_pos]
  exact numericBody_eq hbody p o

/-- A printed noun directive is parsed back. -/
theorem parseDirective_noun {source : Source Text} {o : NounOptions} {options body : Text}
    (hoptions : o.IsWritten options) (hbody : source.IsWordText body) (fold : Bool)
    (p : PlacedToken) :
    parseDirective fold p ('n' :: options ++ ':' :: body) = .ok (.one (.noun source o)) := by
  have hfold : (fold && isUpper 'n') = false := by
    rw [show isUpper 'n' = false by decide, Bool.and_false]
  rw [List.cons_append, parseDirective, Text.cutAt_of_isPlain hoptions.isPlain]
  simp only [hfold, NounOptions.read_written hoptions]
  rw [if_neg (by decide), if_pos (by simp)]
  exact congrArg Except.ok (nounBody_eq hbody o)

end Template

namespace Directive

variable {d d' : Directive} {t t' : Text} {ds : List Directive} {ts : List Text}

/-- The scan of a text that starts with a printed directive takes off one token, which is parsed
back. -/
theorem IsPrinted.exists_token (h : d.IsPrinted t) {rest : Text}
    (hrest : ∀ c ∈ rest.head?, d.EndsAt c) (fold : Bool) (position : Nat) :
    ∃ token,
      Scan.scanFrom position (t ++ rest) =
        (Scan.scanFrom (position + t.length) rest).cons position token ∧
      Template.parseToken fold ⟨position, token⟩ = .ok (.one d) := by
  cases h with
  | @literal t ht =>
      have havoids : (escape t).Avoids Token.endsLiteral :=
        Text.avoids_escape (fun _ => endsLiteral_of_not_special) t
      refine ⟨.literal (escape t), ?_, ?_⟩
      · exact Scan.scanFrom_literal (escape_ne_nil ht) havoids hrest position
      · simp only [Template.parseToken, unescape_escape]
  | @reference name hname =>
      have havoids : name.Avoids Token.endsReference := by
        refine Text.avoids_of_forall fun c hc => ?_
        have hout := hname.2 c hc
        simp only [excludedInside, List.mem_cons, List.not_mem_nil, or_false, not_or] at hout
        simp [Token.endsReference, Token.endsLiteral, hout]
      exact ⟨.reference name, Scan.scanFrom_reference havoids hrest position, if_neg hname.1⟩
  | @numeric source o options body ho hoptions hbody =>
      have hkind : isPlain '#' = true := by decide
      have havoids := Text.avoids_inner hkind hoptions.isPlain hbody.avoids
      exact ⟨.directive _, Scan.scanFrom_directive havoids rest position,
        Template.parseDirective_numeric ho hoptions hbody fold _⟩
  | @noun source o options body hoptions hbody =>
      have hkind : isPlain 'n' = true := by decide
      have havoids := Text.avoids_inner hkind hoptions.isPlain hbody.avoids
      exact ⟨.directive _, Scan.scanFrom_directive havoids rest position,
        Template.parseDirective_noun hoptions hbody fold _⟩

/-- A directive ends where the next one starts. -/
theorem IsPrinted.endsAt (h : d'.IsPrinted t) (hnext : d.MayPrecede d') {c : Char}
    (hc : c ∈ t.head?) : d.EndsAt c := by
  cases d with
  | literal =>
      cases h with
      | literal ht => cases hnext
      | reference hname =>
          cases hc
          exact .inr rfl
      | numeric | noun =>
          cases hc
          exact .inl rfl
  | «variable» =>
      cases h with
      | @literal t ht =>
          obtain ⟨t, rfl⟩ := List.head?_eq_some_iff.1 hnext
          cases hc
          exact .inr (.inr rfl)
      | reference hname =>
          cases hc
          exact .inr (.inl rfl)
      | numeric | noun =>
          cases hc
          exact .inl rfl
  | numeric | noun => trivial

/-- A printed directive is not empty. -/
theorem IsPrinted.ne_nil (h : d.IsPrinted t) : t ≠ [] := by
  cases h with
  | literal ht => exact escape_ne_nil ht
  | reference | numeric | noun => exact List.cons_ne_nil _ _

/-- Printed directives are scanned without a fault, and the tokens are parsed back. -/
theorem parseTokens_printed (fold : Bool) (hprinted : List.Forall₂ IsPrinted ds ts)
    (hchain : ds.IsChain MayPrecede) (position : Nat) :
    (Scan.scanFrom position ts.flatten).fault = none ∧
      Template.parseTokens fold (Scan.scanFrom position ts.flatten).tokens = .ok ⟨ds, []⟩ := by
  induction hprinted generalizing position with
  | nil =>
      rw [List.flatten_nil, Scan.scanFrom]
      exact ⟨rfl, rfl⟩
  | @cons d t ds ts hd hds ih =>
      -- what stands behind the first directive starts with the next one
      have hrest : ∀ c ∈ ts.flatten.head?, d.EndsAt c := by
        intro c hc
        cases hds with
        | nil => cases hc
        | cons hnext _ =>
            rw [List.flatten_cons, List.head?_append_of_ne_nil _ hnext.ne_nil] at hc
            exact hnext.endsAt (List.isChain_cons_cons.1 hchain).1 hc
      obtain ⟨token, hscan, hparse⟩ := hd.exists_token hrest fold position
      obtain ⟨hfault, htokens⟩ := ih hchain.tail (position + t.length)
      rw [List.flatten_cons, hscan]
      refine ⟨hfault, ?_⟩
      simp only [Scan.cons, Template.parseTokens, hparse, htokens]
      rfl

end Directive

/-- Printed directives that may stand next to each other are parsed back without an issue. -/
theorem parse_printed (fold : Bool) {ds : List Directive} {ts : List Text}
    (hprinted : List.Forall₂ Directive.IsPrinted ds ts)
    (hchain : ds.IsChain Directive.MayPrecede) :
    Template.parse fold ts.flatten = .ok ⟨ds, []⟩ := by
  obtain ⟨hfault, htokens⟩ := Directive.parseTokens_printed fold hprinted hchain 0
  simp only [Template.parse, Scan.ofText, htokens, hfault]
  rfl

/-- A template with every kind of directive and with special characters in its texts. -/
theorem parse_printed_kinds :
    Template.parse true
      (List.flatten [("a\\<\\\\" : Text), "<#i-2w11:-5>", " \\$", "<np:x\\>:>", "$who",
        "<#df1:$n:>", "<n:$what>"]) =
      .ok ⟨[.literal "a<\\",
        .numeric (.constant (-5))
          { increment := true, incrementAmount := -2, cardinalForm := true },
        .literal " $", .noun (.constant "x>:") { forcePlural := true }, .variable "who",
        .numeric (.variable "n:")
          { suppressOutput := true, summarizeForm := true, summarizeAtEnd := true },
        .noun (.variable "what") {}], []⟩ := by
  refine parse_printed true ?_ (by simp [Directive.MayPrecede])
  have hliteral (t t' : Text) (ht : t ≠ []) (heq : t' = escape t) :
      Directive.IsPrinted (.literal t) t' := heq ▸ .literal ht
  have hconstant : Directive.IsPrinted (.numeric (.constant (-5))
      { increment := true, incrementAmount := -2, cardinalForm := true }) "<#i-2w11:-5>" := by
    have hoptions : NumericOptions.IsWritten
        { increment := true, incrementAmount := -2, cardinalForm := true } "i-2w11" :=
      ⟨[.increment, .cardinalForm], fun flag => by cases flag <;> decide, by decide +kernel⟩
    have htext : ("<#i-2w11:-5>" : Text) =
        '<' :: ('#' :: ("i-2w11" : Text) ++ ':' :: Integer.text (-5)) ++ ['>'] := by
      decide +kernel
    rw [htext]
    refine .numeric ?_ hoptions (.constant (by decide +kernel))
    constructor <;> decide +kernel
  have hvariable : Directive.IsPrinted (.numeric (.variable "n:")
      { suppressOutput := true, summarizeForm := true, summarizeAtEnd := true })
      "<#df1:$n:>" := by
    have hoptions : NumericOptions.IsWritten
        { suppressOutput := true, summarizeForm := true, summarizeAtEnd := true } "df1" :=
      ⟨[.suppressOutput, .summarizeForm], fun flag => by cases flag <;> decide, by decide +kernel⟩
    refine .numeric ?_ hoptions (.named ⟨by decide, by simp [excludedInside]⟩)
    constructor <;> decide +kernel
  have hword : Directive.IsPrinted (.noun (.constant "x>:") { forcePlural := true })
      "<np:x\\>:>" := by
    have hoptions : NounOptions.IsWritten { forcePlural := true } "p" :=
      ⟨[.forcePlural], fun flag => by cases flag <;> decide, by decide⟩
    exact .noun hoptions (.constant _)
  have hnoun : Directive.IsPrinted (.noun (.variable "what") {}) "<n:$what>" := by
    have hoptions : NounOptions.IsWritten {} "" :=
      ⟨[], fun flag => by cases flag <;> decide, by decide⟩
    exact .noun hoptions (.named ⟨by decide, by simp [excludedInside]⟩)
  exact .cons (hliteral _ _ (by decide) (by decide)) <| .cons hconstant <|
    .cons (hliteral _ _ (by decide) (by decide)) <| .cons hword <|
    .cons (.reference ⟨by decide, by simp [excludedInside]⟩) <| .cons hvariable <| .cons hnoun .nil

end Agreement
