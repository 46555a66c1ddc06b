import Agreement.Proofs.Noun.LineForms
import Agreement.Proofs.Noun.Registration

/-!
# Rules read into either tier

Rules read into the user's tier of a lexicon and rules read into the predefined one
(`Lexicon.loaders_agree`). A lookup asks a tier by a question that depends only on the irregular
rules for each form and on the other rules in their order (`Tier.find?_eq`), and these are the same
whichever tier the rules went to. Reading them once more adds nothing in front, so it changes no
question. What a tier finds has every property that all added rules have (`Tier.Holds.find?`), so it
is never the default rule, which no line of a text gives (`RuleText.default_notMem_read`).
-/

namespace Agreement

/-- Two lexicons find the same rule for every word, as a word of its own and as a head, and their
rules answer alike. -/
structure Lexicon.SameLookups (lexicon lexicon' : Lexicon) : Prop where
  lookup : ∀ w compounds, lexicon.lookup w compounds = lexicon'.lookup w compounds
  inflection : ∀ rule, lexicon.inflection rule = lexicon'.inflection rule

/-- Every rule of a tier has a property, under whatever form it is found. -/
structure Tier.Holds (P : Rule → Prop) (t : Tier) : Prop where
  irregulars : ∀ w r, t.irregulars.lookup w = some r → P (.simple (.irregular r))
  rules : ∀ rule ∈ t.rules, P rule

namespace Tier

/-- The tier with some rules, in order. -/
def addAll (t : Tier) (rules : List Rule) : Tier :=
  rules.foldl add t

/-- The first rule of the tier for a word; `compounds` says whether compound rules are asked. -/
def find? (prepositions : Prepositions) (compounds : Bool) (t : Tier) (w : Text) : Option Rule :=
  if compounds then t.rule? prepositions w else (t.simple.rule? w).map .simple

/-- Rules that are added one by one extend a tier. -/
theorem addAll_eq_extend (t : Tier) (rules : List Rule) :
    t.addAll rules = t.extend (.ofRules rules) := by
  induction rules generalizing t with
  | nil => simp [addAll, extend, History.ofRules]
  | cons rule rules ih =>
      rw [addAll, List.foldl_cons]
      refine (ih (t.add rule)).trans ?_
      rcases rule with (_ | r | r) | r
      · exact extend_addRule t _ _
      · rfl
      · exact extend_addRule t _ _
      · exact extend_addRule t _ _

variable (prepositions : Prepositions) (compounds : Bool) (w : Text)

/-- A tier is asked for an irregular rule, and then for the first other rule that matches. -/
theorem find?_eq (t : Tier) : t.find? prepositions compounds w =
    ((t.irregulars.lookup w).map fun r => .simple (.irregular r)).or
      (t.rules.find? fun r => (compounds || !r.isCompound) && r.matches? prepositions w) := by
  cases compounds with
  | true => simp [find?, rule?]
  | false =>
      show (t.simple.rule? w).map Rule.simple = _
      rw [rule?_simple prepositions]
      simp [rule?, withoutCompounds]

/-- A tier that holds nothing finds nothing. -/
theorem find?_empty : ({} : Tier).find? prepositions compounds w = none := by
  rw [find?_eq]
  rfl

/-- A tier with the same rules once more finds what it found before. -/
theorem find?_extend_extend (t : Tier) (h : History) :
    ((t.extend h).extend h).find? prepositions compounds w =
      (t.extend h).find? prepositions compounds w := by
  have hirregulars : ((t.extend h).extend h).irregulars.lookup w =
      (t.extend h).irregulars.lookup w := by
    show (h.irregulars.foldl addIrregular (t.extend h)).irregulars.lookup w =
      (h.irregulars.foldl addIrregular t).irregulars.lookup w
    -- a form that is found now was found before, so the second entry for it is never asked
    rw [lookup_foldl_addIrregular]
    show ((h.irregulars.foldl addIrregular t).irregulars.lookup w).or _ = _
    rw [lookup_foldl_addIrregular, Option.or_assoc, Option.or_self]
  have hrules : ((t.extend h).extend h).rules = t.rules ++ h.rules ++ h.rules := rfl
  rw [find?_eq, find?_eq, hirregulars, hrules, List.find?_append]
  show _ = Option.or _ ((t.rules ++ h.rules).find? _)
  rw [List.find?_append, Option.or_assoc, Option.or_self]

section Holds

variable {P : Rule → Prop} {t : Tier}

/-- A tier without rules holds any property. -/
theorem holds_empty : ({} : Tier).Holds P :=
  ⟨nofun, nofun⟩

/-- A tier with one more rule holds what it held and the rule. -/
theorem Holds.add (ht : t.Holds P) {rule : Rule} (hrule : P rule) : (t.add rule).Holds P := by
  have haddRule : (t.addRule rule).Holds P :=
    ⟨ht.irregulars, List.forall_mem_append.2 ⟨ht.rules, List.forall_mem_singleton.2 hrule⟩⟩
  rcases rule with (_ | r | r) | r
  · exact haddRule
  · refine ⟨fun w r' h => ?_, ht.rules⟩
    have hlookup : (r.forms.foldl (register r) t.irregulars).lookup w = some r' := h
    rw [lookup_foldl_register, Option.or_eq_some_iff] at hlookup
    rcases hlookup with h | ⟨-, h⟩
    · exact ht.irregulars w r' h
    · obtain ⟨-, heq⟩ := Option.ite_none_right_eq_some.1 h
      cases heq
      exact hrule
  · exact haddRule
  · exact haddRule

/-- A tier with some more rules holds what it held and the rules. -/
theorem Holds.addAll (ht : t.Holds P) {rules : List Rule} (hrules : ∀ rule ∈ rules, P rule) :
    (t.addAll rules).Holds P := by
  induction rules generalizing t with
  | nil => exact ht
  | cons rule rules ih =>
      obtain ⟨hrule, hrules⟩ := List.forall_mem_cons.1 hrules
      exact ih (ht.add hrule) hrules

/-- What a tier finds has the property that its rules have. -/
theorem Holds.find? (ht : t.Holds P) {prepositions : Prepositions} {compounds : Bool} {w : Text}
    {rule : Rule} (h : t.find? prepositions compounds w = some rule) : P rule := by
  rw [find?_eq, Option.or_eq_some_iff] at h
  rcases h with h | ⟨-, h⟩
  · obtain ⟨r, hr, rfl⟩ := Option.map_eq_some_iff.1 h
    exact ht.irregulars w r hr
  · exact ht.rules _ (List.mem_of_find?_eq_some h)

end Holds

end Tier

namespace RuleText

/-- No text gives the default rule. -/
theorem default_notMem_read (patterns : PatternReader) (strict : Bool) (lines : List Text) :
    .simple .default ∉ (read strict lines patterns).rules := by
  intro hmem
  obtain ⟨line, -, hline⟩ := exists_readLine_of_mem_read hmem
  obtain ⟨-, spelling, rules, -, -, hrules, hr⟩ := exists_rulesOf_of_mem_readLine hline
  rcases rulesOf_cases hrules with ⟨-, hcompounds⟩ | ⟨-, r, rfl, hsimple⟩
  · obtain ⟨hmodern, hclassical⟩ := formsOf_ne spelling
    exact simple_notMem_compounds hmodern hclassical hcompounds .default hr
  · obtain rfl := Rule.simple.inj (List.mem_singleton.1 hr)
    rcases hsimple with ⟨_, heq⟩ | ⟨_, heq, -⟩ <;> cases heq

end RuleText

namespace Lexicon

/-- The rule of a lookup is what the user's tier finds, or else the predefined one. -/
theorem lookup_eq (lexicon : Lexicon) (w : Text) (compounds : Bool) :
    lexicon.lookup w compounds =
      ⟨w, ((lexicon.user.find? lexicon.prepositions compounds w).or
        (lexicon.predefined.find? lexicon.prepositions compounds w)).getD (.simple .default)⟩ := by
  refine congrArg (Noun.mk w) ?_
  cases compounds with
  | true =>
      show lexicon.rule w = _
      rw [rule, Option.orElse_eq_orElse, Option.orElse_eq_or]
      rfl
  | false =>
      show Rule.simple (lexicon.simpleRule w) = _
      rw [simple_simpleRule, Option.orElse_eq_orElse, Option.orElse_eq_or]
      rfl

/-- Lexicons with the same prepositions whose tiers find the same have the same lookups. -/
theorem sameLookups_of_lookup {lexicon lexicon' : Lexicon}
    (hprepositions : lexicon.prepositions = lexicon'.prepositions)
    (hlookup : ∀ w compounds, lexicon.lookup w compounds = lexicon'.lookup w compounds) :
    lexicon.SameLookups lexicon' where
  lookup := hlookup
  inflection := by
    have hsimple : lexicon.simpleRule = lexicon'.simpleRule := by
      funext w
      have hrule := congrArg Noun.rule (hlookup w false)
      exact Rule.simple.inj hrule
    intro rule
    rw [Lexicon.inflection, Lexicon.inflection, hprepositions, hsimple]

/-- Rules are added to the user's tier. -/
theorem addAllUser_eq (lexicon : Lexicon) (rules : List Rule) :
    lexicon.addAllUser rules = { lexicon with user := lexicon.user.addAll rules } := by
  induction rules generalizing lexicon with
  | nil => rfl
  | cons rule rules ih => exact ih (lexicon.addUser rule)

/-- Rules are added to the predefined tier. -/
theorem addAllPredefined_eq_addAll (lexicon : Lexicon) (rules : List Rule) :
    lexicon.addAllPredefined rules =
      { lexicon with predefined := lexicon.predefined.addAll rules } := by
  induction rules generalizing lexicon with
  | nil => rfl
  | cons rule rules ih => exact ih (lexicon.addPredefined rule)

variable (patterns : PatternReader) (strict : Bool) (t : Text)

/-- A text is loaded into the user's tier as the rules that are read from it. -/
theorem loadUser_eq (lexicon : Lexicon) : (lexicon.loadUser strict t patterns).1 =
    { lexicon with user := lexicon.user.addAll (RuleText.read strict t.lines patterns).rules } :=
  addAllUser_eq lexicon _

/-- Lines are loaded into the predefined tier as the rules that are read from them. -/
theorem populate_eq (lexicon : Lexicon) (lines : List Text) :
    (lexicon.populate strict lines patterns).1 =
      { lexicon with
        predefined := lexicon.predefined.addAll (RuleText.read strict lines patterns).rules } :=
  addAllPredefined_eq_addAll lexicon _

/-- The two loaders fill an empty lexicon alike. -/
theorem loadUser_sameLookups_populate (prepositions : Prepositions) :
    ((({ prepositions } : Lexicon).loadUser strict t patterns).1).SameLookups
      (({ prepositions } : Lexicon).populate strict t.lines patterns).1 := by
  rw [loadUser_eq, populate_eq]
  refine sameLookups_of_lookup rfl fun w compounds => ?_
  rw [lookup_eq, lookup_eq]
  dsimp only
  rw [Tier.find?_empty, Option.or_none, Option.none_or]

/-- A text that is loaded into the user's tier again changes no lookup. -/
theorem loadUser_loadUser_sameLookups (lexicon : Lexicon) :
    ((lexicon.loadUser strict t patterns).1.loadUser strict t patterns).1.SameLookups
      (lexicon.loadUser strict t patterns).1 := by
  rw [loadUser_eq, loadUser_eq]
  refine sameLookups_of_lookup rfl fun w compounds => ?_
  rw [lookup_eq, lookup_eq]
  dsimp only
  rw [Tier.addAll_eq_extend, Tier.addAll_eq_extend, Tier.find?_extend_extend]

/-- Lines that are loaded into the predefined tier again change no lookup. -/
theorem populate_populate_sameLookups (lexicon : Lexicon) (lines : List Text) :
    ((lexicon.populate strict lines patterns).1.populate strict lines patterns).1.SameLookups
      (lexicon.populate strict lines patterns).1 := by
  rw [populate_eq, populate_eq]
  refine sameLookups_of_lookup rfl fun w compounds => ?_
  rw [lookup_eq, lookup_eq]
  dsimp only
  rw [Tier.addAll_eq_extend, Tier.addAll_eq_extend, Tier.find?_extend_extend]

/-- A text that is loaded into an empty user's tier decides what it has a rule for, and leaves the
other words alone. -/
theorem lookup_loadUser (prepositions : Prepositions) (predefined : Tier) (w : Text)
    (compounds : Bool) :
    (({ prepositions, predefined } : Lexicon).loadUser strict t patterns).1.lookup w compounds =
      if ((({ prepositions } : Lexicon).loadUser strict t patterns).1.lookup w compounds).rule =
          .simple .default then
        ({ prepositions, predefined } : Lexicon).lookup w compounds
      else (({ prepositions } : Lexicon).loadUser strict t patterns).1.lookup w compounds := by
  rw [loadUser_eq, loadUser_eq]
  simp only [lookup_eq, Tier.find?_empty, Option.or_none, Option.none_or]
  cases hfind : (({} : Tier).addAll (RuleText.read strict t.lines patterns).rules).find?
      prepositions compounds w with
  | none => exact (if_pos rfl).symm
  | some rule =>
      -- the default rule would count as no rule at all
      have hholds : (({} : Tier).addAll (RuleText.read strict t.lines patterns).rules).Holds
          (· ≠ .simple .default) := Tier.holds_empty.addAll fun rule hmem heq =>
        RuleText.default_notMem_read patterns strict t.lines (heq ▸ hmem)
      have hrule : rule ≠ .simple .default := hholds.find? hfind
      exact (if_neg hrule).symm

/-- The loaders agree on every text. It gives the same lookups in either tier of an empty lexicon,
with the same fault if it has one; loading it again in the same way changes no lookup; and in front
of predefined rules it decides exactly the words that it has a rule for. -/
theorem loaders_agree :
    (∀ prepositions,
      let user := ({ prepositions } : Lexicon).loadUser strict t patterns
      let predefined := ({ prepositions } : Lexicon).populate strict t.lines patterns
      user.1.SameLookups predefined.1 ∧ ∀ e, user.2 = .error e ↔ predefined.2 = some e) ∧
    (∀ lexicon : Lexicon,
      ((lexicon.loadUser strict t patterns).1.loadUser strict t patterns).1.SameLookups
          (lexicon.loadUser strict t patterns).1 ∧
        ((lexicon.populate strict t.lines patterns).1.populate
          strict t.lines patterns).1.SameLookups (lexicon.populate strict t.lines patterns).1) ∧
    ∀ prepositions predefined w compounds,
      let alone := (({ prepositions } : Lexicon).loadUser strict t patterns).1
      let lexicon : Lexicon := { prepositions, predefined }
      (lexicon.loadUser strict t patterns).1.lookup w compounds =
        if (alone.lookup w compounds).rule = .simple .default then lexicon.lookup w compounds
        else alone.lookup w compounds := by
  refine ⟨fun prepositions =>
      ⟨loadUser_sameLookups_populate patterns strict t prepositions, fun e => ?_⟩,
    fun lexicon => ⟨loadUser_loadUser_sameLookups patterns strict t lexicon,
      populate_populate_sameLookups patterns strict lexicon t.lines⟩,
    lookup_loadUser patterns strict t⟩
  unfold loadUser populate
  dsimp only
  cases (RuleText.read strict t.lines patterns).fault with
  | none => simp
  | some fault => simp

end Lexicon

end Agreement
