import Mathlib.Data.List.Induction
import Mathlib.Data.Nat.Digits.Defs
import OpcodeTrace.Proofs.Text.Decimal

/-! What is read as a number. -/

namespace OpcodeTrace.Decimal

/-- The digits have this number by their places, the last one being that of the units. -/
structure Spelled (digits : List Char) (number : Nat) : Prop where
  nonempty : digits ≠ []
  ascii : ∀ digit ∈ digits, '0' ≤ digit ∧ digit ≤ '9'
  value : Nat.ofDigits 10 (digits.reverse.map digitValue) = number

def Numeral (word : String) (number : Nat) : Prop :=
  ∃ digits, Spelled digits number ∧ (word.toList = digits ∨ word.toList = '+' :: digits)

/-! ## Digits and their places -/

theorem isDigit_iff {character : Char} :
    isDigit character ↔ '0' ≤ character ∧ character ≤ '9' := by
  simp [isDigit]

theorem value_eq_ofDigits (digits : List Char) :
    value digits = Nat.ofDigits 10 (digits.reverse.map digitValue) := by
  induction digits using List.reverseRecOn with
  | nil => rfl
  | append_singleton leading last induction =>
      have appended : value (leading ++ [last]) = 10 * value leading + digitValue last :=
        base.value_append_singleton digitValue leading last
      rw [appended, induction, List.reverse_append, List.reverse_singleton, List.singleton_append,
        List.map_cons, Nat.ofDigits_cons, Nat.add_comm]

theorem ofDigits?_eq_some_iff {characters : List Char} {number : UInt64} :
    ofDigits? characters = some number ↔
      ∃ value, Spelled characters value ∧ value < UInt64.size ∧ UInt64.ofNat value = number := by
  rw [ofDigits?, Option.ite_none_right_eq_some, Option.some_inj, List.all_eq_true]
  constructor
  · rintro ⟨⟨nonempty, numeric, fits⟩, equal⟩
    have ascii := fun digit member => isDigit_iff.mp (numeric digit member)
    exact ⟨value characters, ⟨nonempty, ascii, (value_eq_ofDigits _).symm⟩, fits, equal⟩
  · rintro ⟨number, ⟨nonempty, ascii, rfl⟩, fits, equal⟩
    rw [value_eq_ofDigits]
    exact ⟨⟨nonempty, fun digit member => isDigit_iff.mpr (ascii digit member), fits⟩, equal⟩

theorem spelled_digits (number : Nat) : Spelled (digits number) number where
  nonempty := digits_ne_nil number
  ascii := fun _ member => isDigit_iff.mp (isDigit_of_mem_digits member)
  value := by rw [← value_eq_ofDigits, value_digits]

/-! ## Numerals -/

theorem Spelled.ne_plus {digits : List Char} {number : Nat} (spelled : Spelled digits number)
    (rest : List Char) : digits ≠ '+' :: rest := by
  rintro rfl
  exact absurd (spelled.ascii '+' List.mem_cons_self) (by decide)

theorem Numeral.unique {word : String} {left right : Nat} (one : Numeral word left)
    (other : Numeral word right) : left = right := by
  rcases one with ⟨digits, spelled, plain | signed⟩ <;>
    rcases other with ⟨others, otherSpelled, otherPlain | otherSigned⟩
  · rw [← spelled.value, ← otherSpelled.value, ← plain, otherPlain]
  · exact absurd (plain.symm.trans otherSigned) (spelled.ne_plus others)
  · exact absurd (otherPlain.symm.trans signed) (otherSpelled.ne_plus digits)
  · have same := signed.symm.trans otherSigned
    rw [List.cons_inj_right] at same
    rw [← spelled.value, ← otherSpelled.value, same]

theorem read?_eq_some_iff {word : String} {number : UInt64} :
    read? word = some number ↔
      ∃ value, Numeral word value ∧ value < UInt64.size ∧ UInt64.ofNat value = number := by
  rw [read?]
  split
  · next digits signed =>
    rw [ofDigits?_eq_some_iff]
    constructor
    · rintro ⟨value, spelled, fits⟩
      exact ⟨value, ⟨digits, spelled, .inr signed⟩, fits⟩
    · rintro ⟨value, ⟨others, spelled, plain | same⟩, fits⟩
      · exact absurd (plain.symm.trans signed) (spelled.ne_plus digits)
      · rw [signed, List.cons_inj_right] at same
        exact ⟨value, same ▸ spelled, fits⟩
  · next unsigned =>
    rw [ofDigits?_eq_some_iff]
    constructor
    · rintro ⟨value, spelled, fits⟩
      exact ⟨value, ⟨word.toList, spelled, .inl rfl⟩, fits⟩
    · rintro ⟨value, ⟨digits, spelled, plain | signed⟩, fits⟩
      · exact ⟨value, plain ▸ spelled, fits⟩
      · exact absurd signed (unsigned digits)

theorem Spelled.leadingZeros {digits : List Char} {number : Nat} (spelled : Spelled digits number)
    (zeros : Nat) : Spelled (List.replicate zeros '0' ++ digits) number where
  nonempty := List.append_ne_nil_of_right_ne_nil _ spelled.nonempty
  ascii := by
    intro digit member
    rcases List.mem_append.mp member with zero | later
    · rw [List.eq_of_mem_replicate zero]
      decide
    · exact spelled.ascii digit later
  value := by
    have zero : digitValue '0' = 0 := rfl
    rw [List.reverse_append, List.reverse_replicate, List.map_append, List.map_replicate, zero,
      Nat.ofDigits_append_replicate_zero, spelled.value]

theorem Spelled.numeral {digits : List Char} {number : Nat} (spelled : Spelled digits number)
    (zeros : Nat) :
    Numeral (String.ofList (List.replicate zeros '0' ++ digits)) number ∧
      Numeral (String.ofList ('+' :: List.replicate zeros '0' ++ digits)) number := by
  have padded := spelled.leadingZeros zeros
  exact ⟨⟨_, padded, .inl String.toList_ofList⟩, ⟨_, padded, .inr String.toList_ofList⟩⟩

end OpcodeTrace.Decimal
