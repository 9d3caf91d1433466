import OpcodeTrace.Text.Positional

/-! Numbers and the digits that spell them. -/

namespace OpcodeTrace.Base

variable {base : Base} {number : Nat}

theorem digits_of_lt (small : number < base.size) : base.digits number = [base.digit number] := by
  rw [digits, if_pos small]

theorem digits_of_le (large : base.size ≤ number) :
    base.digits number = base.digits (number / base.size) ++ [base.digit (number % base.size)] := by
  rw [digits, if_neg (Nat.not_lt.mpr large)]

theorem digits_ne_nil (base : Base) (number : Nat) : base.digits number ≠ [] := by
  rw [digits]
  split <;> simp

theorem exists_of_mem_digits {character : Char} (member : character ∈ base.digits number) :
    ∃ value < base.size, base.digit value = character := by
  fun_induction digits base number with
  | case1 number small => exact ⟨number, small, (List.mem_singleton.mp member).symm⟩
  | case2 number large induction =>
      rcases List.mem_append.mp member with leading | last
      · exact induction leading
      · have small := Nat.mod_lt number (Nat.zero_lt_of_lt base.large)
        exact ⟨_, small, (List.mem_singleton.mp last).symm⟩

theorem length_digits_le {width : Nat} (positive : 0 < width)
    (fits : number < Nat.pow base.size width) : (base.digits number).length ≤ width := by
  fun_induction digits base number generalizing width with
  | case1 number small => exact positive
  | case2 number large induction =>
      cases width with
      | zero => cases positive
      | succ width =>
          have more : 0 < width := by
            rw [Nat.pos_iff_ne_zero]
            rintro rfl
            exact large (by simpa using fits)
          have shorter := induction more
            ((Nat.div_lt_iff_lt_mul (Nat.zero_lt_of_lt base.large)).mpr fits)
          rw [List.length_append]
          exact Nat.succ_le_succ shorter

/-! ## Reading -/

variable {digitValue : Char → Nat}

theorem value_append_singleton (base : Base) (digitValue : Char → Nat) (leading : List Char)
    (last : Char) :
    base.value digitValue (leading ++ [last]) =
      base.size * base.value digitValue leading + digitValue last := by
  rw [value, List.foldl_append]
  rfl

theorem value_digits (reads : ∀ value < base.size, digitValue (base.digit value) = value)
    (number : Nat) : base.value digitValue (base.digits number) = number := by
  fun_induction digits base number with
  | case1 number small => exact (Nat.zero_add _).trans (reads number small)
  | case2 number large induction =>
      have small := Nat.mod_lt number (Nat.zero_lt_of_lt base.large)
      rw [value_append_singleton, induction, reads _ small]
      exact Nat.div_add_mod number base.size

theorem eq_zero_of_head? (reads : ∀ value < base.size, digitValue (base.digit value) = value)
    (leads : (base.digits number).head? = some (base.digit 0)) : number = 0 := by
  fun_induction digits base number with
  | case1 number small =>
      have same : base.digit number = base.digit 0 := Option.some.inj leads
      rw [← reads number small, same, reads 0 (Nat.zero_lt_of_lt base.large)]
  | case2 number large induction =>
      have filled : (base.digits (number / base.size)).head?.isSome := by
        simpa [List.isSome_head?] using base.digits_ne_nil (number / base.size)
      rw [List.head?_append, Option.or_of_isSome filled] at leads
      have part := induction leads
      exact absurd ((Nat.div_eq_zero_iff_lt (Nat.zero_lt_of_lt base.large)).mp part) large

end OpcodeTrace.Base
