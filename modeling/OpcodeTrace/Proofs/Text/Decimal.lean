import OpcodeTrace.Proofs.Text.Positional
import OpcodeTrace.Text.Decimal

namespace OpcodeTrace.Decimal

/-! ## Digits -/

theorem isDigit_digit : ∀ value < 10, isDigit (digit value) := by decide

theorem digitValue_digit : ∀ value < 10, digitValue (digit value) = value := by decide

theorem digits_ne_nil (number : Nat) : digits number ≠ [] :=
  base.digits_ne_nil number

theorem isDigit_of_mem_digits {number : Nat} {character : Char}
    (member : character ∈ digits number) : isDigit character := by
  obtain ⟨value, small, rfl⟩ := Base.exists_of_mem_digits member
  exact isDigit_digit value small

theorem value_digits (number : Nat) : value (digits number) = number :=
  Base.value_digits digitValue_digit number

theorem exists_digits_eq_cons (number : Nat) :
    ∃ first later, digits number = first :: later ∧ isDigit first := by
  cases found : digits number with
  | nil => exact absurd found (digits_ne_nil number)
  | cons first later =>
      have member : first ∈ digits number := found ▸ List.mem_cons_self
      exact ⟨first, later, rfl, isDigit_of_mem_digits member⟩

/-- No zero leads a number of several digits. -/
theorem digits_eq_of_head? {number : Nat} (leads : (digits number).head? = some '0') :
    digits number = ['0'] := by
  rw [Base.eq_zero_of_head? digitValue_digit leads]
  exact Base.digits_of_lt (by decide)

/-! ## Numerals -/

theorem ofDigits?_digits {number : Nat} (fits : number < UInt64.size) :
    ofDigits? (digits number) = some number.toUInt64 := by
  rw [ofDigits?, value_digits]
  refine if_pos ⟨digits_ne_nil number, ?_, fits⟩
  exact List.all_eq_true.mpr fun character member => isDigit_of_mem_digits member

theorem read?_of_digits {characters : List Char}
    (numeral : ∀ character ∈ characters, isDigit character) :
    read? (String.ofList characters) = ofDigits? characters := by
  rw [read?, String.toList_ofList]
  split
  · exact absurd (numeral '+' (List.mem_cons_self ..)) (by decide)
  · rfl

theorem read?_render (number : UInt64) : read? (render number.toNat) = some number := by
  rw [render, read?_of_digits fun character member => isDigit_of_mem_digits member,
    ofDigits?_digits number.toNat_lt]
  simp

end OpcodeTrace.Decimal
