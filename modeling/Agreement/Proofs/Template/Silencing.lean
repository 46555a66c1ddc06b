import Agreement.Proofs.Template.Articles

/-!
# Numbers that are silenced

A numeric directive is executed once as it is printed and once as it is silenced.
`execute_silenced` says how the two outputs differ: by the text of the directive and by nothing
else, unless the number is singular only because it is printed as an ordinal. Such a number makes
the nouns up to the next number singular when it is printed, and leaves them plural when it is not.

What a directive prints depends on those before it only by the numbers of nouns. `AgreeBehind` says
that two lists before others give their nouns the same numbers, and `reading_congr` that they then
read alike.
-/

namespace Agreement

namespace NumericOptions

/-- The options of a number that is printed. -/
def printed (o : NumericOptions) : NumericOptions :=
  { o with suppressOutput := false }

/-- The options of a number that is not printed. -/
def silenced (o : NumericOptions) : NumericOptions :=
  { o with suppressOutput := true }

/-- Whether a number is singular for no other reason than that it is printed as an ordinal. -/
def singularAsOrdinal (o : NumericOptions) (n : Int) : Bool :=
  o.isOrdinal n && !o.printsNo n && !o.countsSingular n

variable {o : NumericOptions} {n : Int}

/-- A number that is no article is singular by its value or as an ordinal. -/
theorem isSingular_printed (h : o.useArticle = false) :
    o.printed.isSingular n = (o.countsSingular n || o.singularAsOrdinal n) := by
  have harticle : o.printed.opensArticle n = false := by
    show (o.useArticle && _) = false
    rw [h, Bool.false_and]
  rw [isSingular_eq, harticle]
  show (o.countsSingular n || (!false && !false && !o.printsNo n && o.isOrdinal n)) = _
  unfold singularAsOrdinal
  cases o.countsSingular n <;> cases o.printsNo n <;> cases o.isOrdinal n <;> rfl

/-- A number that is not printed is singular by its value only. -/
theorem isSingular_silenced : o.silenced.isSingular n = o.countsSingular n := by
  rw [isSingular_eq]
  show (o.countsSingular n || (!true && _ && _ && _)) = _
  rw [Bool.not_true, Bool.false_and, Bool.false_and, Bool.false_and, Bool.or_false]

end NumericOptions

section Contexts

variable {inflect : Inflector} {bindings : Bindings} {before before' mid ds : List Directive}
  {d d' : Directive}

/-- Behind a number it does not matter what came before it. -/
theorem singularBehind_of_numeric (h : ¬ ∀ d ∈ mid, d.numeric? = none)
    (before before' : List Directive) :
    singularBehind bindings (before ++ mid) = singularBehind bindings (before' ++ mid) := by
  have hnonempty : mid.filterMap Directive.numeric? ≠ [] := by
    rwa [ne_eq, List.filterMap_eq_nil_iff]
  have hlast (before : List Directive) :
      ((before ++ mid).filterMap Directive.numeric?).getLast? =
        some ((mid.filterMap Directive.numeric?).getLast hnonempty) := by
    rw [List.filterMap_append, List.getLast?_append, List.getLast?_eq_some_getLast hnonempty]
    rfl
  unfold singularBehind
  rw [hlast before, hlast before']

/-- Directives that are no numbers do not decide whether nouns are singular. -/
theorem singularBehind_of_no_numeric (h : ∀ d ∈ mid, d.numeric? = none)
    (before : List Directive) :
    singularBehind bindings (before ++ mid) = singularBehind bindings before := by
  unfold singularBehind
  rw [List.filterMap_append, List.filterMap_eq_nil_iff.2 h, List.append_nil]

/-- Two lists give the nouns of a third one, which comes behind them, the same numbers. -/
def AgreeBehind (bindings : Bindings) (before before' ds : List Directive) : Prop :=
  ∀ mid noun after, ds = mid ++ noun :: after → noun.isNoun = true →
    singularBehind bindings (before ++ mid) = singularBehind bindings (before' ++ mid)

/-- Two lists that give nouns the same numbers do so behind one of the directives. -/
theorem AgreeBehind.tail (h : AgreeBehind bindings before before' (d :: ds)) :
    AgreeBehind bindings (before ++ [d]) (before' ++ [d]) ds := by
  intro mid noun after heq hnoun
  rw [List.append_assoc, List.append_assoc]
  exact h (d :: mid) noun after (congrArg (d :: ·) heq) hnoun

/-- A noun is read alike behind lists that give it the same number. -/
theorem readNoun_congr {source : Source Text} {o : NounOptions}
    (h : AgreeBehind bindings before before' (.noun source o :: ds)) :
    readNoun inflect bindings before source o = readNoun inflect bindings before' source o := by
  have hsingular := h [] _ ds rfl rfl
  rw [List.append_nil, List.append_nil] at hsingular
  unfold readNoun
  rw [hsingular]

/-- The article ahead is the same behind lists that give nouns the same numbers. -/
theorem articleAhead_congr (inflect : Inflector) (h : AgreeBehind bindings before before' ds) :
    articleAhead inflect bindings before ds = articleAhead inflect bindings before' ds := by
  induction ds generalizing before before' with
  | nil => rw [articleAhead, articleAhead]
  | cons d ds ih =>
      have hrest := ih h.tail
      cases d with
      | noun source o => rw [articleAhead, articleAhead, readNoun_congr h]
      | _ => simpa only [articleAhead] using hrest

/-- A directive is read alike behind lists that give nouns the same numbers. -/
theorem reading_congr (h : AgreeBehind bindings before before' (d :: ds)) :
    reading inflect bindings before d ds = reading inflect bindings before' d ds := by
  cases d with
  | literal t => rfl
  | «variable» name => rfl
  | numeric source o => rw [reading, reading, articleAhead_congr inflect h.tail]
  | noun source o => exact readNoun_congr h

/-- Directives have the same texts behind lists that give nouns the same numbers. -/
theorem ReadAs.congr {texts texts' : List Text} (hagree : AgreeBehind bindings before before' ds)
    (h : ReadAs inflect bindings before ds texts)
    (h' : ReadAs inflect bindings before' ds texts') : texts = texts' := by
  induction ds generalizing before before' texts texts' with
  | nil => rw [List.eq_nil_of_length_eq_zero h.length_eq,
      List.eq_nil_of_length_eq_zero h'.length_eq]
  | cons d ds ih =>
      obtain ⟨t, rest, rfl, ht, hrest⟩ := h.exists_cons
      obtain ⟨t', rest', rfl, ht', hrest'⟩ := h'.exists_cons
      rw [reading_congr hagree] at ht
      rw [Option.some.inj (ht.symm.trans ht'), ih hagree.tail hrest hrest']

/-- The article ahead is the same in front of one directive as in front of another, if neither is a
noun and the nouns behind them get the same numbers. -/
theorem articleAhead_exchange (hd : d.isNoun = false) (hd' : d'.isNoun = false)
    (h : AgreeBehind bindings (before ++ mid ++ [d]) (before ++ mid ++ [d']) ds) :
    articleAhead inflect bindings before (mid ++ d :: ds) =
      articleAhead inflect bindings before (mid ++ d' :: ds) := by
  induction mid generalizing before with
  | nil =>
      rw [List.append_nil] at h
      have hahead := articleAhead_congr inflect h
      cases d with
      | noun source o => cases hd
      | _ => cases d' with
        | noun source o => cases hd'
        | _ => simpa only [List.nil_append, articleAhead] using hahead
  | cons first mid ih =>
      have hrest := @ih (before ++ [first]) (by simpa using h)
      cases first with
      | noun source o => rw [List.cons_append, List.cons_append, articleAhead, articleAhead]
      | _ => simpa only [List.cons_append, articleAhead] using hrest

/-- A directive reads alike in front of one directive as in front of another, if neither is a noun
and the nouns behind them get the same numbers. -/
theorem reading_exchange {first : Directive} (hd : d.isNoun = false) (hd' : d'.isNoun = false)
    (h : AgreeBehind bindings (before ++ [first] ++ mid ++ [d]) (before ++ [first] ++ mid ++ [d'])
      ds) :
    reading inflect bindings before first (mid ++ d :: ds) =
      reading inflect bindings before first (mid ++ d' :: ds) := by
  cases first with
  | numeric source o => rw [reading, reading, articleAhead_exchange hd hd' h]
  | _ => rfl

/-- If one directive takes the place of another, neither is a noun and the nouns behind them get the
same numbers, then only the texts of the two are different. -/
theorem ReadAs.exchange {texts texts' : List Text} (hd : d.isNoun = false)
    (hd' : d'.isNoun = false)
    (hagree : AgreeBehind bindings (before ++ mid ++ [d]) (before ++ mid ++ [d']) ds)
    (h : ReadAs inflect bindings before (mid ++ d :: ds) texts)
    (h' : ReadAs inflect bindings before (mid ++ d' :: ds) texts') :
    ∃ front t t' rest, texts = front ++ t :: rest ∧ texts' = front ++ t' :: rest ∧
      front.length = mid.length ∧ reading inflect bindings (before ++ mid) d ds = some t ∧
        reading inflect bindings (before ++ mid) d' ds = some t' := by
  induction mid generalizing before texts texts' with
  | nil =>
      obtain ⟨t, rest, rfl, ht, hrest⟩ := h.exists_cons
      obtain ⟨t', rest', rfl, ht', hrest'⟩ := h'.exists_cons
      rw [List.append_nil] at hagree
      obtain rfl := hrest.congr hagree hrest'
      rw [List.append_nil]
      exact ⟨[], t, t', rest, rfl, rfl, rfl, ht, ht'⟩
  | cons first mid ih =>
      rw [List.cons_append] at h h'
      simp only [List.append_cons before first mid] at hagree ⊢
      obtain ⟨t, rest, rfl, ht, hrest⟩ := h.exists_cons
      obtain ⟨t', rest', rfl, ht', hrest'⟩ := h'.exists_cons
      rw [reading_exchange hd hd' hagree] at ht
      obtain rfl : t = t' := Option.some.inj (ht.symm.trans ht')
      obtain ⟨front, u, u', rest, rfl, rfl, hlength, hu, hu'⟩ := ih hagree hrest hrest'
      exact ⟨t :: front, u, u', rest, rfl, rfl, congrArg Nat.succ hlength, hu, hu'⟩

end Contexts

section Silencing

variable {inflect : Inflector} {bindings : Bindings} {before after : List Directive}
  {source : Source Int} {o : NumericOptions}

/-- A noun comes before the next number. -/
def NounNext (ds : List Directive) : Prop :=
  ∃ mid noun after, ds = mid ++ noun :: after ∧ noun.isNoun = true ∧
    ∀ d ∈ mid, d.numeric? = none

/-- A number that is no article is read as its own text. -/
theorem reading_numeric (h : o.useArticle = false) {t : Text}
    (ht : reading inflect bindings before (.numeric source o) after = some t) :
    ∃ n, integerOf bindings source = .ok n ∧ o.ownText (o.counted n) = some t := by
  rw [reading, Option.bind_eq_bind, Option.bind_eq_some_iff] at ht
  obtain ⟨n, hn, ht⟩ := ht
  have harticle : o.opensArticle (o.counted n) = false := by
    show (o.useArticle && _) = false
    rw [h, Bool.false_and]
  rw [harticle, Bool.and_false, if_neg Bool.false_ne_true] at ht
  exact ⟨n, Except.toOption_eq_some_iff.1 hn, ht⟩

/-- Up to the next number, nouns are singular behind a printed number if its value or its form as an
ordinal says so, and behind the silenced number if its value does. Behind the next number they are
the same. -/
theorem singularBehind_silenced (harticle : o.useArticle = false) {n : Int}
    (hn : integerOf bindings source = .ok n) (before mid : List Directive) :
    let behind := singularBehind bindings (before ++ .numeric source o.printed :: mid)
    let behind' := singularBehind bindings (before ++ .numeric source o.silenced :: mid)
    let differs := o.singularAsOrdinal (o.counted n) = true ∧ ∀ d ∈ mid, d.numeric? = none
    (differs ∧ behind = some true ∧ behind' = some false) ∨ (¬ differs ∧ behind = behind') := by
  intro behind behind' differs
  by_cases hmid : ∀ d ∈ mid, d.numeric? = none
  · have hbehind : behind = some (o.countsSingular (o.counted n) ||
        o.singularAsOrdinal (o.counted n)) := by
      show singularBehind bindings (before ++ _ :: mid) = _
      rw [List.append_cons, singularBehind_of_no_numeric hmid, singularBehind_numeric hn]
      exact congrArg some (NumericOptions.isSingular_printed harticle)
    have hbehind' : behind' = some (o.countsSingular (o.counted n)) := by
      show singularBehind bindings (before ++ _ :: mid) = _
      rw [List.append_cons, singularBehind_of_no_numeric hmid, singularBehind_numeric hn]
      exact congrArg some NumericOptions.isSingular_silenced
    cases hordinal : o.singularAsOrdinal (o.counted n) with
    | false =>
        refine .inr ⟨fun h => Bool.false_ne_true (hordinal.symm.trans h.1), ?_⟩
        rw [hbehind, hbehind', hordinal, Bool.or_false]
    | true =>
        have hvalue : o.countsSingular (o.counted n) = false := by
          have hboth := hordinal
          simp only [NumericOptions.singularAsOrdinal, Bool.and_eq_true, Bool.not_eq_true'] at hboth
          exact hboth.2
        refine .inl ⟨⟨hordinal, hmid⟩, ?_, ?_⟩
        · rw [hbehind, hordinal, Bool.or_true]
        · rw [hbehind', hvalue]
  · refine .inr ⟨fun h => hmid h.2, ?_⟩
    show singularBehind bindings (before ++ _ :: mid) = singularBehind bindings (before ++ _ :: mid)
    rw [List.append_cons, singularBehind_of_numeric hmid _ (before ++ [.numeric source o.silenced]),
      ← List.append_cons]

/-- If a number that is singular only as an ordinal has no noun before the next number, it gives the
nouns behind it the same numbers when it is printed and when it is silenced. -/
theorem agreeBehind_silenced (harticle : o.useArticle = false) {n : Int}
    (hn : integerOf bindings source = .ok n) (before : List Directive)
    (hnone : ¬ (o.singularAsOrdinal (o.counted n) = true ∧ NounNext after)) :
    AgreeBehind bindings (before ++ [.numeric source o.printed])
      (before ++ [.numeric source o.silenced]) after := by
  intro mid noun rest heq hnoun
  rw [← List.append_cons, ← List.append_cons]
  rcases singularBehind_silenced harticle hn before mid with
    ⟨⟨hordinal, hmid⟩, -⟩ | ⟨-, hsame⟩
  · exact absurd ⟨hordinal, mid, noun, rest, heq, hnoun, hmid⟩ hnone
  · exact hsame

end Silencing

/-- A numeric directive without an article is executed as it is printed and as it is silenced. If
both executions succeed, the nouns get the same numbers and the texts of the directives differ by
the directive's own text and by nothing else, unless the number is singular only as an ordinal and a
noun comes before the next number. The nouns up to the next number are then singular behind the
printed number, and plural behind the silenced one. -/
theorem execute_silenced {inflect : Inflector} {bindings : Bindings}
    {before after : List Directive} {source : Source Int} {o : NumericOptions} {out out' : Text}
    (harticle : o.useArticle = false)
    (hout : execute inflect bindings (before ++ .numeric source o.printed :: after) = .ok out)
    (hout' : execute inflect bindings (before ++ .numeric source o.silenced :: after) = .ok out') :
    ∃ n t texts texts',
      integerOf bindings source = .ok n ∧ o.printed.ownText (o.counted n) = some t ∧
        ReadAs inflect bindings [] (before ++ .numeric source o.printed :: after) texts ∧
        ReadAs inflect bindings [] (before ++ .numeric source o.silenced :: after) texts' ∧
        out = texts.flatten ∧ out' = texts'.flatten ∧
        (∀ mid,
          let behind := singularBehind bindings (before ++ .numeric source o.printed :: mid)
          let behind' := singularBehind bindings (before ++ .numeric source o.silenced :: mid)
          let differs := o.singularAsOrdinal (o.counted n) = true ∧ ∀ d ∈ mid, d.numeric? = none
          (differs ∧ behind = some true ∧ behind' = some false) ∨
            (¬ differs ∧ behind = behind')) ∧
        (¬ (o.singularAsOrdinal (o.counted n) = true ∧ NounNext after) →
          ∃ front rest, front.length = before.length ∧ texts = front ++ t :: rest ∧
            texts' = front ++ [] :: rest) := by
  obtain ⟨texts, htexts, rfl⟩ := exists_readAs_of_execute hout
  obtain ⟨texts', htexts', rfl⟩ := exists_readAs_of_execute hout'
  obtain ⟨t, ht⟩ := htexts.exists_reading
  rw [List.nil_append] at ht
  obtain ⟨n, hn, hown⟩ := reading_numeric (o := o.printed) harticle ht
  refine ⟨n, t, texts, texts', hn, hown, htexts, htexts', rfl, rfl,
    singularBehind_silenced harticle hn before, fun hnone => ?_⟩
  have hagree := agreeBehind_silenced harticle hn before hnone
  obtain ⟨front, u, u', rest, rfl, rfl, hlength, hu, hu'⟩ :=
    htexts.exchange rfl rfl (by simpa using hagree) htexts'
  rw [List.nil_append] at hu hu'
  obtain rfl : t = u := Option.some.inj (ht.symm.trans hu)
  obtain ⟨n', -, hsilent⟩ := reading_numeric (o := o.silenced) harticle hu'
  obtain rfl : [] = u' := Option.some.inj hsilent
  exact ⟨front, rest, hlength, rfl, rfl⟩

/-- Nouns before and behind a number, and behind the next one. -/
def spelledOwls (o : NumericOptions) : List Directive :=
  [.noun (.constant "owl") {}, .literal ": "] ++ .numeric (.variable "number") o ::
    [.literal " ", .noun (.constant "owl") {}, .literal ", ", .numeric (.constant 1) {},
      .literal " ", .noun (.constant "owl") {}]

/-- Adds an s to a word unless it is to be singular. -/
def addS : Inflector :=
  fun form w => .ok (if form = .singular then w else w ++ ['s'])

/-- A number in words leaves a gap where it is silenced. -/
theorem execute_silenced_owls :
    execute addS [("number", .int 3)] (spelledOwls { cardinalForm := true }) =
        .ok ("owls: three owls, 1 owl" : Text) ∧
      execute addS [("number", .int 3)]
          (spelledOwls { cardinalForm := true, suppressOutput := true }) =
        .ok ("owls:  owls, 1 owl" : Text) ∧
      ∃ front rest : List Text, front.length = 2 ∧
        ("owls: three owls, 1 owl" : Text) = (front ++ ("three" : Text) :: rest).flatten ∧
          ("owls:  owls, 1 owl" : Text) = (front ++ [] :: rest).flatten := by
  have hout : execute addS [("number", .int 3)] (spelledOwls { cardinalForm := true }) =
      .ok ("owls: three owls, 1 owl" : Text) := by decide +kernel
  have hout' : execute addS [("number", .int 3)]
      (spelledOwls { cardinalForm := true, suppressOutput := true }) =
        .ok ("owls:  owls, 1 owl" : Text) := by decide +kernel
  refine ⟨hout, hout', ?_⟩
  obtain ⟨n, t, _, _, hn, ht, -, -, htexts, htexts', -, hsame⟩ :=
    execute_silenced (o := { cardinalForm := true }) rfl hout hout'
  obtain rfl : 3 = n := Except.ok.inj hn
  have hthree : NumericOptions.ownText { cardinalForm := true } 3 = some ("three" : Text) := by
    decide +kernel
  obtain rfl : ("three" : Text) = t := Option.some.inj (hthree.symm.trans ht)
  obtain ⟨front, rest, hlength, rfl, rfl⟩ := hsame fun h => Bool.false_ne_true h.1
  exact ⟨front, rest, hlength, htexts, htexts'⟩

/-- An ordinal that is printed makes its noun singular, and one that is silenced does not. -/
theorem execute_silenced_ordinal :
    execute addS [] [.numeric (.constant 3) { ordinalForm := true }, .literal " ",
        .noun (.constant "owl") {}] = .ok ("3rd owl" : Text) ∧
      execute addS [] [.numeric (.constant 3) { ordinalForm := true, suppressOutput := true },
        .literal " ", .noun (.constant "owl") {}] = .ok (" owls" : Text) := by
  decide +kernel

end Agreement
