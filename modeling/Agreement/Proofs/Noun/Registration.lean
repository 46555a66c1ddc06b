import Agreement.Noun.RuleText
import Mathlib.Data.List.Basic
import Mathlib.Data.List.Find
import Mathlib.Tactic.Common

/-!
# Lookup as a scan over registrations

A lexicon is filled by calls that register a rule in one of its two tiers. Its tables keep the
earliest irregular rule for each form, and so a lookup finds what a plain scan over the calls finds:
`lookup_registerAll`. The tables after some calls depend only on the rules that went to each of the
four places, in their order (`registerAll_eq`). A compound rule that was built for one lexicon can
be registered in another one, where it keeps its prepositions and finds its heads where it did
(`inflection_of_background`). Where all rules go to the predefined tier, a lookup finds one of them
that matches, or the default rule (`rule_addAllPredefined_cases`). A word that no compound rule
matches has a simple rule (`rule_eq_simple`), and a text that no simple rule is found for has the
first compound rule that matches it (`rule_eq_find?`).
-/

namespace Agreement

/-- A call that registers a rule in a tier. -/
inductive Registration where
  | userIrregular (rule : IrregularRule)
  | userRule (rule : Rule)
  | predefinedIrregular (rule : IrregularRule)
  | predefinedRule (rule : Rule)
  deriving DecidableEq, Repr

/-- The rules that were registered in a tier, in order: irregular rules for their forms, and rules
that are asked one after the other. -/
structure Tier.History where
  irregulars : List IrregularRule := []
  rules : List Rule := []
  deriving DecidableEq, Repr

namespace Registration

/-- The irregular rule of a call that registers it under its forms in the user's tier. -/
def userIrregular? : Registration → Option IrregularRule
  | userIrregular rule => some rule
  | _ => none

/-- The rule of a call that registers it behind the others in the user's tier. -/
def userRule? : Registration → Option Rule
  | userRule rule => some rule
  | _ => none

/-- The irregular rule of a call that registers it under its forms in the predefined tier. -/
def predefinedIrregular? : Registration → Option IrregularRule
  | predefinedIrregular rule => some rule
  | _ => none

/-- The rule of a call that registers it behind the others in the predefined tier. -/
def predefinedRule? : Registration → Option Rule
  | predefinedRule rule => some rule
  | _ => none

/-- What some calls register in the user's tier. -/
def user (calls : List Registration) : Tier.History :=
  ⟨calls.filterMap userIrregular?, calls.filterMap userRule?⟩

/-- What some calls register in the predefined tier. -/
def predefined (calls : List Registration) : Tier.History :=
  ⟨calls.filterMap predefinedIrregular?, calls.filterMap predefinedRule?⟩

end Registration

/-- Whether a rule is a compound rule. -/
def Rule.isCompound : Rule → Bool
  | .compound _ => true
  | .simple _ => false

/-- The irregular rule that a rule is, if it is one. -/
def Rule.irregular? : Rule → Option IrregularRule
  | .simple (.irregular r) => some r
  | _ => none

/-- A rule is irregular if it is an irregular rule. -/
theorem Rule.irregular?_eq_some_iff {rule : Rule} {r : IrregularRule} :
    rule.irregular? = some r ↔ rule = .simple (.irregular r) := by
  rcases rule with (_ | _ | _) | _ <;> simp [irregular?]

/-- The words that a simple rule is found for: an irregular rule for exactly its forms, and any
other rule for the words that it matches. -/
def SimpleRule.FoundFor : SimpleRule → Text → Prop
  | .irregular r, w => w ∈ r.forms
  | r, w => r.inflection.matches? w = true

/-- The first rule that was registered in a tier for a word: the earliest irregular rule with
exactly the word as one of its forms, and otherwise the earliest of the other rules that matches.
`compounds` says whether compound rules are asked. -/
def Tier.History.first? (prepositions : Prepositions) (h : Tier.History) (compounds : Bool)
    (w : Text) : Option Rule :=
  (h.irregulars.find? fun r => w ∈ r.forms).map (fun r => .simple (.irregular r)) <|>
    h.rules.find? fun r => (compounds || !r.isCompound) && r.matches? prepositions w

namespace Lexicon

/-- The lexicon behind a call. -/
def register (lexicon : Lexicon) : Registration → Lexicon
  | .userIrregular rule => lexicon.addUserIrregular rule
  | .userRule rule => lexicon.addUserRule rule
  | .predefinedIrregular rule => lexicon.addPredefinedIrregular rule
  | .predefinedRule rule => lexicon.addPredefinedRule rule

/-- The lexicon behind some calls. -/
def registerAll (lexicon : Lexicon) (calls : List Registration) : Lexicon :=
  calls.foldl register lexicon

/-- The rule that a scan over some calls finds for a word, the user's tier before the predefined
one. -/
def scan (prepositions : Prepositions) (calls : List Registration) (compounds : Bool) (w : Text) :
    Rule :=
  ((Registration.user calls).first? prepositions compounds w <|>
    (Registration.predefined calls).first? prepositions compounds w).getD (.simple .default)

end Lexicon

namespace Tier

/-- The tier with a history behind what it holds. -/
def extend (t : Tier) (h : History) : Tier where
  irregulars := (h.irregulars.foldl addIrregular t).irregulars
  rules := t.rules ++ h.rules

/-- The tier without its compound rules. -/
def withoutCompounds (t : Tier) : Tier :=
  { t with rules := t.rules.filter fun r => !r.isCompound }

/-- An irregular rule is found under a form unless an earlier one has it. -/
theorem lookup_register (rule : IrregularRule) (table : List (Text × IrregularRule))
    (form w : Text) : (register rule table form).lookup w =
      (table.lookup w).or (if w = form then some rule else none) := by
  unfold register
  split
  · next h =>
      by_cases hw : w = form
      · obtain ⟨earlier, hearlier⟩ := Option.isSome_iff_exists.1 h
        simp [hw, hearlier]
      · simp [hw]
  · rw [List.lookup_append, List.lookup_cons, List.lookup_nil]
    by_cases hw : w = form
    · simp [hw]
    · simp [hw, beq_eq_false_iff_ne.2 hw]

/-- An irregular rule is found under each of its forms that no earlier one has. -/
theorem lookup_foldl_register (rule : IrregularRule) (forms : List Text)
    (table : List (Text × IrregularRule)) (w : Text) :
    (forms.foldl (register rule) table).lookup w =
      (table.lookup w).or (if w ∈ forms then some rule else none) := by
  induction forms generalizing table with
  | nil => simp
  | cons form forms ih =>
      rw [List.foldl_cons, ih, lookup_register, Option.or_assoc]
      by_cases hw : w = form <;> simp [hw]

/-- The table of irregular rules has the earliest one for each form. -/
theorem lookup_foldl_addIrregular (t : Tier) (rules : List IrregularRule) (w : Text) :
    (rules.foldl addIrregular t).irregulars.lookup w =
      (t.irregulars.lookup w).or (rules.find? fun r => w ∈ r.forms) := by
  induction rules generalizing t with
  | nil => simp
  | cons rule rules ih =>
      rw [List.foldl_cons, ih, addIrregular, lookup_foldl_register, Option.or_assoc,
        List.find?_cons]
      by_cases hw : w ∈ rule.forms <;> simp [hw]

/-- The table of irregular rules does not depend on the other rules. -/
theorem irregulars_foldl_addIrregular (t : Tier) (others : List Rule)
    (rules : List IrregularRule) :
    (rules.foldl addIrregular { t with rules := others }).irregulars =
      (rules.foldl addIrregular t).irregulars := by
  induction rules generalizing t with
  | nil => rfl
  | cons rule rules ih => exact ih (t.addIrregular rule)

/-- A rule behind the others is the first of those that follow. -/
theorem extend_addRule (t : Tier) (rule : Rule) (h : History) :
    (t.addRule rule).extend h = t.extend { h with rules := rule :: h.rules } := by
  simp [extend, addRule, irregulars_foldl_addIrregular]

/-- The simple rules of a tier are those that are left without its compound rules. -/
theorem map_simple_filterMap_simple? (rules : List Rule) :
    (rules.filterMap Rule.simple?).map Rule.simple = rules.filter fun r => !r.isCompound := by
  induction rules with
  | nil => rfl
  | cons rule rules ih =>
      cases rule with
      | compound rule => exact ih
      | simple rule => exact congrArg (Rule.simple rule :: ·) ih

/-- The first simple rule of a tier is the first one that is left without its compound rules. -/
theorem rule?_simple (prepositions : Prepositions) (t : Tier) (w : Text) :
    (t.simple.rule? w).map Rule.simple = t.withoutCompounds.rule? prepositions w := by
  have hfind : ((t.rules.filterMap Rule.simple?).find? fun r => r.inflection.matches? w).map
      Rule.simple = (t.rules.filter fun r => !r.isCompound).find? fun r =>
        r.matches? prepositions w := by
    rw [← map_simple_filterMap_simple?, List.find?_map]
    rfl
  rw [SimpleTier.rule?, rule?, withoutCompounds, ← hfind, simple]
  cases t.irregulars.lookup w <;> rfl

/-- A tier finds what a scan over its history finds. -/
theorem rule?_extend (prepositions : Prepositions) (h : History) (w : Text) :
    (({} : Tier).extend h).rule? prepositions w = h.first? prepositions true w := by
  simp [rule?, extend, History.first?, lookup_foldl_addIrregular]

/-- Without its compound rules, a tier finds what a scan finds that leaves them out. -/
theorem rule?_simple_extend (prepositions : Prepositions) (h : History) (w : Text) :
    ((({} : Tier).extend h).simple.rule? w).map Rule.simple = h.first? prepositions false w := by
  rw [rule?_simple prepositions]
  simp [rule?, extend, withoutCompounds, History.first?, lookup_foldl_addIrregular]

end Tier

namespace Lexicon

/-- The lexicon without its compound rules. -/
def withoutCompounds (lexicon : Lexicon) : Lexicon :=
  { lexicon with
    user := lexicon.user.withoutCompounds
    predefined := lexicon.predefined.withoutCompounds }

/-- The tables behind some calls hold what the calls registered in each tier. -/
theorem registerAll_eq (lexicon : Lexicon) (calls : List Registration) :
    lexicon.registerAll calls =
      { lexicon with
        user := lexicon.user.extend (Registration.user calls)
        predefined := lexicon.predefined.extend (Registration.predefined calls) } := by
  induction calls generalizing lexicon with
  | nil => simp [registerAll, Registration.user, Registration.predefined, Tier.extend]
  | cons call calls ih =>
      rw [registerAll, List.foldl_cons]
      refine (ih (lexicon.register call)).trans ?_
      cases call with
      | userIrregular rule => rfl
      | userRule rule =>
          exact congrArg (fun user => Lexicon.mk lexicon.prepositions user _)
            (Tier.extend_addRule lexicon.user rule (Registration.user calls))
      | predefinedIrregular rule => rfl
      | predefinedRule rule =>
          exact congrArg (Lexicon.mk lexicon.prepositions _)
            (Tier.extend_addRule lexicon.predefined rule (Registration.predefined calls))

/-- The predefined tier is asked for a simple rule if the user's tier has none. -/
theorem simple_simpleRule (lexicon : Lexicon) (w : Text) :
    Rule.simple (lexicon.simpleRule w) =
      ((lexicon.user.simple.rule? w).map Rule.simple <|>
        (lexicon.predefined.simple.rule? w).map Rule.simple).getD (.simple .default) := by
  rw [simpleRule, SimpleTier.firstRule, simpleTiers, List.findSome?_cons, List.findSome?_cons]
  cases lexicon.user.simple.rule? w <;> cases lexicon.predefined.simple.rule? w <;> rfl

/-- The head of a compound is looked up as if there were no compound rules. -/
theorem head_eq_lookup (lexicon : Lexicon) (w : Text) :
    lexicon.head w = lexicon.withoutCompounds.lookup w := by
  have hrule : Rule.simple (lexicon.simpleRule w) = lexicon.withoutCompounds.rule w := by
    rw [simple_simpleRule, Tier.rule?_simple lexicon.prepositions,
      Tier.rule?_simple lexicon.prepositions]
    rfl
  exact congrArg (Noun.mk w) hrule

/-- A compound rule with the background of a lexicon answers everywhere as it does there without
one. -/
theorem inflection_of_background (other lexicon : Lexicon) {r : CompoundRule}
    (h : r.background = {}) :
    other.inflection (.compound { r with background := lexicon.background }) =
      lexicon.inflection (.compound r) := by
  obtain ⟨written, pattern, singular, plurals, background⟩ := r
  cases h
  rfl

variable (prepositions : Prepositions) (calls : List Registration) (w : Text)

/-- The rule of a word is the one that a scan finds. -/
theorem rule_registerAll :
    (({ prepositions } : Lexicon).registerAll calls).rule w =
      scan prepositions calls true w := by
  rw [registerAll_eq, rule, Tier.rule?_extend, Tier.rule?_extend, scan]

/-- The simple rule of a word is the one that a scan finds which leaves compound rules out. -/
theorem simpleRule_registerAll :
    Rule.simple ((({ prepositions } : Lexicon).registerAll calls).simpleRule w) =
      scan prepositions calls false w := by
  rw [registerAll_eq, simple_simpleRule, Tier.rule?_simple_extend prepositions,
    Tier.rule?_simple_extend prepositions, scan]

/-- A lookup finds what a scan over the registrations finds. It depends only on what was registered
at each place, and the head of a compound is looked up as if there were no compound rules. -/
theorem lookup_registerAll (compounds : Bool) :
    (({ prepositions } : Lexicon).registerAll calls).lookup w compounds =
        ⟨w, scan prepositions calls compounds w⟩ ∧
      (∀ calls', Registration.user calls' = Registration.user calls →
        Registration.predefined calls' = Registration.predefined calls →
          (({ prepositions } : Lexicon).registerAll calls').lookup w compounds =
            (({ prepositions } : Lexicon).registerAll calls).lookup w compounds) ∧
        (({ prepositions } : Lexicon).registerAll calls).head w =
          (({ prepositions } : Lexicon).registerAll calls).withoutCompounds.lookup w := by
  refine ⟨?_, fun calls' huser hpredefined => ?_, head_eq_lookup _ w⟩
  · cases compounds with
    | true => exact congrArg (Noun.mk w) (rule_registerAll prepositions calls w)
    | false => exact congrArg (Noun.mk w) (simpleRule_registerAll prepositions calls w)
  · rw [registerAll_eq, registerAll_eq, huser, hpredefined]

/-- The noun "base". -/
def baseRule : IrregularRule := ⟨"base", .modern "bases", false⟩

/-- The noun "basis", which has the plural of "base". -/
def basisRule : IrregularRule := ⟨"basis", .modern "bases", false⟩

/-- Compounds such as "base via camp", with a preposition of their own. -/
def viaRule : CompoundRule where
  written := "(?P<noun>\\w+)\\ (?P<preposition>\\w+)\\ (?P<scratch>\\w+)"
  pattern := Phrase.ofForm "(SING) (PREP) *"
  singular := Phrase.ofForm "(SING) (PREP) *"
  plurals := .modern (Phrase.ofForm "(PL) (PREP) *")
  background := { prepositions := some ⟨["via"]⟩ }

/-- A compound of the user between two predefined nouns. -/
def basesCalls : List Registration :=
  [.predefinedIrregular baseRule, .userRule (.compound viaRule), .predefinedIrregular basisRule]

/-- The compound may be registered behind both nouns, and "bases" is the plural of "base". The
compound is found by its own preposition, which the lexicon does not have. -/
theorem lookup_registerAll_bases :
    let lexicon := ({} : Lexicon).registerAll basesCalls
    let calls := [basesCalls[0], basesCalls[2], basesCalls[1]]
    (Registration.user calls = Registration.user basesCalls ∧
      Registration.predefined calls = Registration.predefined basesCalls) ∧
      lexicon.lookup "bases" = ⟨"bases", .simple (.irregular baseRule)⟩ ∧
        (({} : Lexicon).registerAll calls).lookup "bases" = lexicon.lookup "bases" ∧
          lexicon.head "bases" = lexicon.withoutCompounds.lookup "bases" ∧
            lexicon.lookup "base via camp" = ⟨"base via camp", .compound viaRule⟩ ∧
              lexicon.lookup "base in camp" = ⟨"base in camp", .simple .default⟩ := by
  have h := lookup_registerAll {} basesCalls "bases" true
  have hvia := lookup_registerAll {} basesCalls "base via camp" true
  have hin := lookup_registerAll {} basesCalls "base in camp" true
  exact ⟨⟨rfl, rfl⟩, h.1.trans (by decide +kernel), h.2.1 _ rfl rfl, h.2.2,
    hvia.1.trans (by decide +kernel), hin.1.trans (by decide +kernel)⟩

end Lexicon

/-- An irregular rule matches the forms under which it is registered. -/
theorem IrregularRule.matches?_of_mem_forms {r : IrregularRule} {w : Text} (h : w ∈ r.forms) :
    r.matches? w = true := by
  rcases List.mem_cons.1 h with rfl | h
  · simp [matches?, isSingularForm]
  · rw [matches?, isPluralForm, Bool.or_eq_true, List.any_eq_true]
    exact .inr ⟨w, h, decide_eq_true rfl⟩

/-- The rule that a scan over one tier finds is one of its rules and matches, and an irregular rule
has the word as one of its forms. -/
theorem Tier.History.first?_cases {prepositions : Prepositions} {h : History} {compounds : Bool}
    {w : Text} {rule : Rule} (hfirst : h.first? prepositions compounds w = some rule) :
    (rule ∈ h.rules ∨ ∃ r ∈ h.irregulars, w ∈ r.forms ∧ rule = .simple (.irregular r)) ∧
      rule.matches? prepositions w = true := by
  rw [first?, Option.orElse_eq_orElse, Option.orElse_eq_or, Option.or_eq_some_iff] at hfirst
  rcases hfirst with hirregular | ⟨-, hrule⟩
  · obtain ⟨r, hfind, rfl⟩ := Option.map_eq_some_iff.1 hirregular
    have hfound := List.find?_some hfind
    have hforms : w ∈ r.forms := of_decide_eq_true hfound
    exact ⟨.inr ⟨r, List.mem_of_find?_eq_some hfind, hforms, rfl⟩,
      IrregularRule.matches?_of_mem_forms hforms⟩
  · have hmatches := List.find?_some hrule
    exact ⟨.inl (List.mem_of_find?_eq_some hrule), (Bool.and_eq_true_iff.1 hmatches).2⟩

/-- Rules as they are registered in a tier: irregular rules for their forms, and all others behind
each other. -/
def Tier.History.ofRules (rules : List Rule) : Tier.History where
  irregulars := rules.filterMap Rule.irregular?
  rules := rules.filter fun rule => rule.irregular?.isNone

namespace Tier.History

variable {rules : List Rule}

/-- The irregular rules of a tier are among those that were registered in it. -/
theorem mem_of_irregulars_ofRules {r : IrregularRule} (h : r ∈ (ofRules rules).irregulars) :
    .simple (.irregular r) ∈ rules := by
  obtain ⟨rule, hrule, hr⟩ := List.mem_filterMap.1 h
  exact Rule.irregular?_eq_some_iff.1 hr ▸ hrule

/-- The other rules of a tier are among those that were registered in it, and are not irregular. -/
theorem mem_of_rules_ofRules {rule : Rule} (h : rule ∈ (ofRules rules).rules) :
    rule ∈ rules ∧ rule.irregular? = none := by
  rwa [ofRules, List.mem_filter, Option.isNone_iff_eq_none] at h

/-- The rule that a scan over one tier finds was registered in it and matches. -/
theorem mem_of_first?_ofRules {prepositions : Prepositions} {compounds : Bool} {w : Text}
    {rule : Rule} (h : (ofRules rules).first? prepositions compounds w = some rule) :
    rule ∈ rules ∧ rule.matches? prepositions w = true := by
  obtain ⟨hrule | ⟨r, hr, -, rfl⟩, hmatches⟩ := first?_cases h
  · exact ⟨(mem_of_rules_ofRules hrule).1, hmatches⟩
  · exact ⟨mem_of_irregulars_ofRules hr, hmatches⟩

end Tier.History

namespace Registration

/-- The call that registers a rule in the predefined tier. -/
def predefinedOf : Rule → Registration
  | .simple (.irregular rule) => .predefinedIrregular rule
  | rule => .predefinedRule rule

/-- Such calls register nothing in the user's tier. -/
theorem user_map_predefinedOf (rules : List Rule) : user (rules.map predefinedOf) = {} := by
  have hirregulars : (rules.map predefinedOf).filterMap userIrregular? = [] := by
    rw [List.filterMap_map, List.filterMap_eq_nil_iff]
    rintro ((_ | _ | _) | _) - <;> rfl
  have hrules : (rules.map predefinedOf).filterMap userRule? = [] := by
    rw [List.filterMap_map, List.filterMap_eq_nil_iff]
    rintro ((_ | _ | _) | _) - <;> rfl
  rw [user, hirregulars, hrules]

/-- Such calls register the rules in the predefined tier. -/
theorem predefined_map_predefinedOf (rules : List Rule) :
    predefined (rules.map predefinedOf) = .ofRules rules := by
  have hirregulars : (rules.map predefinedOf).filterMap predefinedIrregular? =
      rules.filterMap Rule.irregular? := by
    rw [List.filterMap_map]
    refine List.filterMap_congr ?_
    rintro ((_ | _ | _) | _) - <;> rfl
  have hrules : (rules.map predefinedOf).filterMap predefinedRule? =
      rules.filter fun rule => rule.irregular?.isNone := by
    rw [List.filterMap_map, ← List.filterMap_eq_filter]
    refine List.filterMap_congr ?_
    rintro ((_ | _ | _) | _) - <;> rfl
  rw [predefined, hirregulars, hrules]
  rfl

end Registration

namespace Lexicon

/-- Rules of the predefined tier are registered by calls. -/
theorem addAllPredefined_eq (lexicon : Lexicon) (rules : List Rule) :
    lexicon.addAllPredefined rules =
      lexicon.registerAll (rules.map Registration.predefinedOf) := by
  rw [addAllPredefined, registerAll, List.foldl_map]
  congr 1
  funext lexicon rule
  rcases rule with (_ | _ | _) | _ <;> rfl

/-- Rules do not change the prepositions. -/
theorem prepositions_addAllPredefined (lexicon : Lexicon) (rules : List Rule) :
    (lexicon.addAllPredefined rules).prepositions = lexicon.prepositions := by
  rw [addAllPredefined_eq, registerAll_eq]

variable (prepositions : Prepositions) (rules : List Rule) (w : Text)

/-- A scan over rules of the predefined tier is a scan over that tier. -/
theorem scan_predefined (compounds : Bool) :
    scan prepositions (rules.map Registration.predefinedOf) compounds w =
      ((Tier.History.ofRules rules).first? prepositions compounds w).getD (.simple .default) := by
  rw [scan, Registration.user_map_predefinedOf, Registration.predefined_map_predefinedOf]
  rfl

/-- A scan over rules of the predefined tier finds one of them that matches, or the default one. -/
theorem scan_cases (compounds : Bool) :
    let rule := scan prepositions (rules.map Registration.predefinedOf) compounds w
    rule = .simple .default ∨ rule ∈ rules ∧ rule.matches? prepositions w = true := by
  rw [scan_predefined]
  cases hfirst : (Tier.History.ofRules rules).first? prepositions compounds w with
  | none => exact .inl rfl
  | some rule => exact .inr (Tier.History.mem_of_first?_ofRules hfirst)

/-- A scan over rules of the predefined tier finds a simple rule only for the words that such a rule
is found for. -/
theorem foundFor_of_scan {prepositions : Prepositions} {rules : List Rule} {w : Text}
    {compounds : Bool} {r : SimpleRule}
    (h : scan prepositions (rules.map Registration.predefinedOf) compounds w = .simple r) :
    r.FoundFor w := by
  rw [scan_predefined] at h
  cases hfirst : (Tier.History.ofRules rules).first? prepositions compounds w with
  | none =>
      rw [hfirst] at h
      cases h
      rfl
  | some rule =>
      rw [hfirst] at h
      obtain rfl : rule = .simple r := h
      obtain ⟨hrule | ⟨r', -, hforms, heq⟩, hmatches⟩ := Tier.History.first?_cases hfirst
      · have hregular := (Tier.History.mem_of_rules_ofRules hrule).2
        cases r with
        | default => rfl
        | irregular r => cases hregular
        | categorical r => exact hmatches
      · cases heq
        exact hforms

/-- If no compound rule matches, it makes no difference whether compound rules are asked. -/
theorem scan_eq_of_no_compound
    (h : ∀ rule ∈ rules, rule.isCompound = true → rule.matches? prepositions w = false) :
    scan prepositions (rules.map Registration.predefinedOf) true w =
      scan prepositions (rules.map Registration.predefinedOf) false w := by
  have hfind : (Tier.History.ofRules rules).rules.find?
        (fun rule => (true || !rule.isCompound) && rule.matches? prepositions w) =
      (Tier.History.ofRules rules).rules.find?
        (fun rule => (false || !rule.isCompound) && rule.matches? prepositions w) := by
    refine List.find?_congr fun rule hrule => ?_
    have hcompound := h rule (Tier.History.mem_of_rules_ofRules hrule).1
    cases hkind : rule.isCompound with
    | false => rfl
    | true => simp [hcompound hkind]
  rw [scan_predefined, scan_predefined, Tier.History.first?, hfind, Tier.History.first?]

/-- If no simple rule is found for a text, a scan finds the first compound rule that matches. -/
theorem scan_eq_of_no_simple (h : ∀ r, .simple r ∈ rules → ¬ r.FoundFor w) :
    scan prepositions (rules.map Registration.predefinedOf) true w =
      ((rules.filter Rule.isCompound).find? fun rule =>
        rule.matches? prepositions w).getD (.simple .default) := by
  have hirregulars : (Tier.History.ofRules rules).irregulars.find?
      (fun r => decide (w ∈ r.forms)) = none := by
    refine List.find?_eq_none.2 fun r hr => ?_
    have hforms : w ∉ r.forms := h _ (Tier.History.mem_of_irregulars_ofRules hr)
    simpa using hforms
  rw [scan_predefined, Tier.History.first?, hirregulars, Tier.History.ofRules,
    List.find?_filter, List.find?_filter]
  refine congrArg (Option.getD · _) (List.find?_congr fun rule hrule => ?_)
  rcases rule with (_ | r | r) | r
  · exact absurd rfl (h _ hrule)
  · rfl
  · have hmatches : ¬ r.inflection.matches? w = true := h _ hrule
    simp [Rule.isCompound, Rule.matches?, SimpleRule.inflection, hmatches]
  · rfl

/-- The rule of a word is one of the predefined rules that matches it, or the default one. -/
theorem rule_addAllPredefined_cases :
    let rule := (({ prepositions } : Lexicon).addAllPredefined rules).rule w
    rule = .simple .default ∨ rule ∈ rules ∧ rule.matches? prepositions w = true := by
  rw [addAllPredefined_eq, rule_registerAll]
  exact scan_cases prepositions rules w true

/-- The simple rule of a word is one of the predefined rules that matches it, or the default one. -/
theorem simpleRule_addAllPredefined_cases :
    let rule := (({ prepositions } : Lexicon).addAllPredefined rules).simpleRule w
    rule = .default ∨ .simple rule ∈ rules ∧ rule.inflection.matches? w = true := by
  have hscan := scan_cases prepositions rules w false
  rw [← simpleRule_registerAll, ← addAllPredefined_eq] at hscan
  exact hscan.imp_left fun h => Rule.simple.inj h

/-- A word that no compound rule matches has the rule that it has as the head of a compound. -/
theorem rule_eq_simple
    (h : ∀ rule ∈ rules, rule.isCompound = true → rule.matches? prepositions w = false) :
    (({ prepositions } : Lexicon).addAllPredefined rules).rule w =
      .simple ((({ prepositions } : Lexicon).addAllPredefined rules).simpleRule w) := by
  rw [addAllPredefined_eq, rule_registerAll, simpleRule_registerAll]
  exact scan_eq_of_no_compound prepositions rules w h

/-- A text that no simple rule is found for has the first compound rule that matches it, or the
default rule. -/
theorem rule_eq_find? (h : ∀ r, .simple r ∈ rules → ¬ r.FoundFor w) :
    (({ prepositions } : Lexicon).addAllPredefined rules).rule w =
      ((rules.filter Rule.isCompound).find? fun rule =>
        rule.matches? prepositions w).getD (.simple .default) := by
  rw [addAllPredefined_eq, rule_registerAll]
  exact scan_eq_of_no_simple prepositions rules w h

variable {prepositions rules w}

/-- The rule of a word is simple only if it is found for the word. -/
theorem foundFor_of_rule {r : SimpleRule}
    (h : (({ prepositions } : Lexicon).addAllPredefined rules).rule w = .simple r) :
    r.FoundFor w := by
  rw [addAllPredefined_eq, rule_registerAll] at h
  exact foundFor_of_scan h

/-- A text that no simple rule is found for has a compound rule if one matches it. -/
theorem isCompound_rule (h : ∀ r, .simple r ∈ rules → ¬ r.FoundFor w) {r : CompoundRule}
    (hr : .compound r ∈ rules) {words : Filling} (hmatch : r.match? prepositions w = some words) :
    ((({ prepositions } : Lexicon).addAllPredefined rules).rule w).isCompound = true := by
  rw [rule_eq_find? prepositions rules w h]
  have hsome : ((rules.filter Rule.isCompound).find? fun rule =>
      rule.matches? prepositions w).isSome = true := by
    refine List.find?_isSome.2 ⟨.compound r, List.mem_filter.2 ⟨hr, rfl⟩, ?_⟩
    rw [Rule.matches?, hmatch]
    rfl
  obtain ⟨rule, hrule⟩ := Option.isSome_iff_exists.1 hsome
  rw [hrule]
  exact (List.mem_filter.1 (List.mem_of_find?_eq_some hrule)).2

/-- A text that no rule is found for has the default rule. -/
theorem rule_eq_default (h : ∀ r, .simple r ∈ rules → ¬ r.FoundFor w)
    (hcompound : ∀ r, .compound r ∈ rules → r.match? prepositions w = none) :
    (({ prepositions } : Lexicon).addAllPredefined rules).rule w = .simple .default := by
  have hnone : ((rules.filter Rule.isCompound).find? fun rule =>
      rule.matches? prepositions w) = none := by
    refine List.find?_eq_none.2 fun rule hrule => ?_
    obtain ⟨hmem, hkind⟩ := List.mem_filter.1 hrule
    cases rule with
    | simple r => cases hkind
    | compound r =>
        rw [Rule.matches?, hcompound r hmem]
        exact Bool.false_ne_true
  rw [rule_eq_find? prepositions rules w h, hnone]
  rfl

/-- The simple rule of a word is found for the word. -/
theorem foundFor_simpleRule :
    ((({ prepositions } : Lexicon).addAllPredefined rules).simpleRule w).FoundFor w := by
  rw [addAllPredefined_eq]
  exact foundFor_of_scan (simpleRule_registerAll prepositions _ w).symm

end Lexicon

end Agreement
