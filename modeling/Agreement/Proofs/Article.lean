import Agreement.Article
import Agreement.Proofs.Noun.Spelling
import Agreement.Proofs.Text.Case

/-!
# What the article depends on

The article of a phrase is that of its first word, whatever stands behind it, and a capital at the
start of a sentence does not change it: `Article.ofPhrase_respelled`. Most rules look at a word in
lowercase, where the capital is gone. Three look at the word as it is spelled, because a word in
capitals is read letter by letter, and a small letter in second place is enough for none of them to
apply (`Article.notSpelledOut_of_isLower`). Two words to which they do not apply have the same
article if they have the same lowercase form (`Article.NotSpelledOut.ofWord_congr`).
-/

namespace Agreement

/-- ASCII letters belong to words. -/
theorem isWord_of_isAlpha {c : Char} (hc : c.toNat < 128) (hletter : c.isAlpha = true) :
    isWord c = true := by
  rw [isWord, if_pos hc]
  show (c.isAlpha || c.isDigit || c == '_') = true
  rw [hletter]
  rfl

/-- Small letters belong to words. -/
theorem isWord_of_isLower {c : Char} (hc : c.isLower = true) : isWord c = true :=
  isWord_of_isAlpha (toNat_lt_of_isLower hc) (isAlpha_of_isLower hc)

namespace Article

/-- The capitals of a word have no part in its article: it is no abbreviation, does not start like
"UNO" in capitals, and is not in capitals throughout. -/
structure NotSpelledOut (w : Text) : Prop where
  not_abbreviation : isAbbreviation w = false
  not_united : startsUnitedCapitals w = false
  not_upper : w ≠ w.upper

/-- Words whose capitals have no part in it have the article of their lowercase form. -/
theorem NotSpelledOut.ofWord_congr {w w' : Text} (h : NotSpelledOut w) (h' : NotSpelledOut w')
    (hlower : w.lower = w'.lower) : ofWord w = ofWord w' := by
  unfold ofWord
  simp only [hlower, h.not_abbreviation, h'.not_abbreviation, h.not_united, h'.not_united,
    if_neg h.not_upper, if_neg h'.not_upper]

/-- Only two capitals are an abbreviation. -/
theorem not_isAbbreviation {c d : Char} (hd : d.isUpper = false) (rest : Text) :
    isAbbreviation (c :: d :: rest) = false := by
  cases rest with
  | nil => rw [isAbbreviation, hd, Bool.and_false, Bool.false_and]
  | cons e rest => rfl

/-- The capitals of a word have no part in its article if a small letter comes second. -/
theorem notSpelledOut_of_isLower {c d : Char} (hc : c.toNat < 128) (hd : d.isLower = true)
    (rest : Text) : NotSpelledOut (c :: d :: rest) where
  not_abbreviation := by
    have hupper : d.isUpper = false :=
      forall_ascii (p := fun d => d.isLower = true → d.isUpper = false) (by decide)
        (toNat_lt_of_isLower hd) hd
    exact not_isAbbreviation hupper rest
  not_united := by
    have hcapital : ("NK" : Text).contains d = false :=
      forall_ascii (p := fun d => d.isLower = true → ("NK" : Text).contains d = false) (by decide)
        (toNat_lt_of_isLower hd) hd
    unfold startsUnitedCapitals
    split
    · next heq =>
        cases heq
        rw [hcapital, Bool.false_and]
    · rfl
  not_upper := Text.ne_upper hc hd rest

/-- A capital in place of the first of two small letters does not change the article of a word. -/
theorem ofWord_capitalized {c d : Char} (hc : c.isLower = true) (hd : d.isLower = true)
    (rest : Text) : ofWord (Text.capitalized (c :: d :: rest)) = ofWord (c :: d :: rest) := by
  have hsmall := notSpelledOut_of_isLower (toNat_lt_of_isLower hc) hd rest
  have hcapital := notSpelledOut_of_isLower (ascii_toUpper hc).1 hd rest
  exact hcapital.ofWord_congr hsmall (Text.lower_capitalized (c :: d :: rest))

/-- The article of a phrase that starts with a word character is that of its first word. -/
theorem ofPhrase_cons {c : Char} (hc : isWord c = true) (t : Text) :
    ofPhrase (c :: t) = ofWord (firstWord (c :: t)) := by
  rw [ofPhrase, if_pos hc]

/-- The article of a word in front of a character that belongs to no word is that of the word. -/
theorem ofPhrase_append {w rest : Text} (hw : w.OneWord)
    (hrest : ∀ c ∈ rest.head?, isWord c = false) : ofPhrase (w ++ rest) = ofWord w := by
  have hfirst : firstWord (w ++ rest) = w := by
    cases rest with
    | nil => rw [hw.firstWord_append, firstWord, List.takeWhile_nil, List.append_nil]
    | cons c rest => exact hw.firstWord_append_cons (hrest c rfl) rest
  obtain ⟨c, t, rfl⟩ := List.exists_cons_of_ne_nil hw.ne_nil
  have hc := hw.isWord_of_mem c List.mem_cons_self
  rw [List.cons_append, ofPhrase_cons hc, ← List.cons_append, hfirst]

/-- A capital in place of the first of two small letters does not change the article of a
phrase. -/
theorem ofPhrase_capitalized {c d : Char} (hc : c.isLower = true) (hd : d.isLower = true)
    (rest : Text) :
    ofPhrase (Text.capitalized (c :: d :: rest)) = ofPhrase (c :: d :: rest) := by
  have hletter := isWord_of_isLower hc
  have hcapital : isWord c.toUpper = true :=
    isWord_of_isAlpha (ascii_toUpper hc).1 (ascii_toUpper hc).2.1
  have hfirst {e : Char} (he : isWord e = true) :
      firstWord (e :: d :: rest) = e :: d :: firstWord rest := by
    rw [firstWord, List.takeWhile_cons_of_pos he,
      List.takeWhile_cons_of_pos (isWord_of_isLower hd), firstWord]
  rw [Text.capitalized, ofPhrase_cons hcapital, ofPhrase_cons hletter, hfirst hcapital,
    hfirst hletter]
  exact ofWord_capitalized hc hd (firstWord rest)

/-- What does not change the article of a phrase. What stands behind its first word does not, be it
a blank, a line break or any other character that belongs to no word, and neither does a capital at
the start of a word of two or more small letters. There is always an article, and it is one of
two. -/
theorem ofPhrase_respelled :
    (∀ w rest : Text, w.OneWord → (∀ c ∈ rest.head?, isWord c = false) →
        ofPhrase (w ++ rest) = ofPhrase w) ∧
      (∀ w rest : Text, 2 ≤ w.length → (∀ c ∈ w, c.isLower = true) →
        ofPhrase (w ++ rest).capitalized = ofPhrase (w ++ rest)) ∧
      ∀ phrase : Text, (ofPhrase phrase).word = "a" ∨ (ofPhrase phrase).word = "an" := by
  refine ⟨fun w rest hw hrest => ?_, fun w rest hlength hsmall => ?_, fun phrase => ?_⟩
  · have hend : ∀ c ∈ ([] : Text).head?, isWord c = false := fun c hc => by cases hc
    have hword := ofPhrase_append hw hend
    rw [List.append_nil] at hword
    rw [ofPhrase_append hw hrest, hword]
  · match w, hlength with
    | c :: d :: later, _ =>
        rw [List.forall_mem_cons, List.forall_mem_cons] at hsmall
        exact ofPhrase_capitalized hsmall.1 hsmall.2.1 (later ++ rest)
  · cases ofPhrase phrase with
    | a => exact .inl rfl
    | an => exact .inr rfl

/-- An hour takes "an" in front of a line break, and so it does at the start of a sentence. -/
theorem ofPhrase_respelled_hour :
    Text.OneWord "hour" ∧ (∀ c ∈ ("hour" : Text), c.isLower = true) ∧
      ofPhrase "hour\nof" = .an ∧ ofPhrase "Hour\nof" = .an := by
  have hword : Text.OneWord "hour" := by decide
  have hsmall : ∀ c ∈ ("hour" : Text), c.isLower = true := List.all_eq_true.1 (by decide)
  have hbreak : ∀ c ∈ ("\nof" : Text).head?, isWord c = false := by
    intro c hc
    cases hc
    decide
  have hbehind : ofPhrase "hour\nof" = ofPhrase "hour" :=
    ofPhrase_respelled.1 "hour" "\nof" hword hbreak
  have hcapital : ofPhrase "Hour\nof" = ofPhrase "hour\nof" :=
    ofPhrase_respelled.2.1 "hour" "\nof" (by decide) hsmall
  have hhour : ofPhrase "hour" = .an := by decide
  refine ⟨hword, hsmall, ?_, ?_⟩
  · rw [hbehind, hhour]
  · rw [hcapital, hbehind, hhour]

end Article

end Agreement
