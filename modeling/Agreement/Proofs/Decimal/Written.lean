import Agreement.Number.Words
import Agreement.Proofs.Success
import Agreement.Value

/-!
# What can be written

Integers with at most `digitLimit` digits can be written, and so can all that is made of them. A
value is shown if all the integers that it holds are short (`Value.exists_quoted`), an ordinal is
written of every short integer, and a cardinal unless it has no words and asks for words
(`exists_cardinal`, `cardinal_eq_error`).
-/

namespace Agreement

/-- An integer has few enough digits to be written. -/
def Integer.IsShort (n : Int) : Prop :=
  n.natAbs < Nat.pow 10 digitLimit

section Numbers

variable {n threshold : Int}

/-- A short integer is written. -/
theorem Integer.write_eq_ok (h : IsShort n) : write n = .ok (text n) :=
  if_pos h

/-- A short integer is written as a number. -/
theorem writeInteger_eq_ok (h : Integer.IsShort n) : writeInteger n = .ok (Integer.text n) := by
  rw [writeInteger, Integer.write_eq_ok h]
  rfl

/-- Digits that are written are those of the integer. -/
theorem eq_text_of_writeInteger {t : Text} (h : writeInteger n = .ok t) : t = Integer.text n := by
  rw [writeInteger, Except.mapError_eq_ok_iff, Integer.write] at h
  split at h
  · exact (Except.ok.inj h).symm
  · cases h

/-- A short integer is written as a cardinal, unless words are asked for that do not exist. -/
theorem exists_cardinal (h : Integer.IsShort n)
    (hwords : n < threshold → n.natAbs < Cardinal.limit) :
    ∃ t, cardinal n (some threshold) = .ok t := by
  unfold cardinal
  by_cases hbelow : n < threshold
  · have hdigits : ¬ (some threshold).any (· ≤ n) = true := by simpa using hbelow
    have hlimit : ¬ Cardinal.limit ≤ n.natAbs := Nat.not_le.2 (hwords hbelow)
    rw [if_neg hdigits, if_neg hlimit]
    split
    · exact ⟨_, rfl⟩
    · exact ⟨_, rfl⟩
  · have hdigits : (some threshold).any (· ≤ n) = true := by simpa using hbelow
    rw [if_pos hdigits]
    exact ⟨_, writeInteger_eq_ok h⟩

/-- Words that do not exist are an error. -/
theorem cardinal_eq_error (hbelow : n < threshold) (hlimit : Cardinal.limit ≤ n.natAbs) :
    cardinal n (some threshold) = .error .unnamed := by
  have hdigits : ¬ (some threshold).any (· ≤ n) = true := by simpa using hbelow
  rw [cardinal, if_neg hdigits, if_pos hlimit]

/-- A short number is written as an ordinal. -/
theorem Ordinal.exists_ofNat {m : Nat} (h : Integer.IsShort m) (inWords : Bool) :
    ∃ t, ofNat m threshold inWords = .ok t := by
  unfold ofNat
  split
  · exact ⟨_, writeInteger_eq_ok h⟩
  · split
    · exact ⟨_, rfl⟩
    · rw [writeInteger_eq_ok h]
      exact ⟨_, rfl⟩

/-- A short integer is written as an ordinal. -/
theorem exists_ordinal (h : Integer.IsShort n) (inWords : Bool) :
    ∃ t, ordinal n threshold inWords = .ok t := by
  unfold ordinal
  split
  · exact ⟨_, writeInteger_eq_ok h⟩
  · split
    · obtain ⟨t, ht⟩ := Ordinal.exists_ofNat (m := n.natAbs) h inWords
      rw [ht]
      exact ⟨_, rfl⟩
    · exact Ordinal.exists_ofNat (m := n.natAbs) h inWords

end Numbers

namespace Value

mutual

/-- The integers that a value holds. -/
def integers : Value → List Int
  | .int n => [n]
  | .list items => itemIntegers items
  | .record fields => fieldIntegers fields
  | _ => []

/-- The integers that the items of a list hold. -/
def itemIntegers : List Value → List Int
  | [] => []
  | v :: vs => integers v ++ itemIntegers vs

/-- The integers that the fields of a record hold. -/
def fieldIntegers : List (Text × Value) → List Int
  | [] => []
  | (_, v) :: fields => integers v ++ fieldIntegers fields

end

mutual

/-- A value with short integers is shown. -/
theorem exists_quotedWith (quote : Text → Text) {v : Value}
    (h : ∀ n ∈ v.integers, Integer.IsShort n) : ∃ t, v.quotedWith quote = .ok t := by
  cases v with
  | null => exact ⟨_, rfl⟩
  | bool b => exact ⟨_, rfl⟩
  | int n => exact ⟨_, Integer.write_eq_ok (h n (List.mem_singleton_self n))⟩
  | float x => exact ⟨_, rfl⟩
  | text t => exact ⟨_, rfl⟩
  | list items =>
      obtain ⟨shown, hshown⟩ := exists_quotedItems quote h
      exact ⟨_, by rw [quotedWith, hshown]; rfl⟩
  | record fields =>
      obtain ⟨shown, hshown⟩ := exists_quotedFields quote h
      exact ⟨_, by rw [quotedWith, hshown]; rfl⟩

/-- Items with short integers are shown. -/
theorem exists_quotedItems (quote : Text → Text) {items : List Value}
    (h : ∀ n ∈ itemIntegers items, Integer.IsShort n) :
    ∃ shown, quotedItems quote items = .ok shown := by
  cases items with
  | nil => exact ⟨[], rfl⟩
  | cons v items =>
      obtain ⟨hfirst, hrest⟩ := List.forall_mem_append.1 h
      obtain ⟨first, hfirst⟩ := exists_quotedWith quote hfirst
      obtain ⟨rest, hrest⟩ := exists_quotedItems quote hrest
      exact ⟨_, by rw [quotedItems, hfirst, hrest]; rfl⟩

/-- Fields with short integers are shown. -/
theorem exists_quotedFields (quote : Text → Text) {fields : List (Text × Value)}
    (h : ∀ n ∈ fieldIntegers fields, Integer.IsShort n) :
    ∃ shown, quotedFields quote fields = .ok shown := by
  cases fields with
  | nil => exact ⟨[], rfl⟩
  | cons field fields =>
      obtain ⟨name, v⟩ := field
      obtain ⟨hfirst, hrest⟩ := List.forall_mem_append.1 h
      obtain ⟨first, hfirst⟩ := exists_quotedWith quote hfirst
      obtain ⟨rest, hrest⟩ := exists_quotedFields quote hrest
      exact ⟨_, by rw [quotedFields, hfirst, hrest]; rfl⟩

end

variable {v : Value}

/-- A value with short integers is shown by messages. -/
theorem exists_quoted (h : ∀ n ∈ v.integers, Integer.IsShort n) : ∃ t, v.quoted = .ok t :=
  exists_quotedWith Text.quoted h

/-- A value with short integers is shown by references. -/
theorem exists_shown (h : ∀ n ∈ v.integers, Integer.IsShort n) : ∃ t, v.shown = .ok t := by
  cases v with
  | text t => exact ⟨t, rfl⟩
  | _ => exact exists_quoted h

end Value

end Agreement
