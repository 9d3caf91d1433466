import OpcodeTrace.Opcode

/-! The bytes that decode by the format of a trace, and the one byte that decodes all the same:
the value of the terminator itself. -/

namespace OpcodeTrace.Opcode

/-- By the format of a trace, the byte is neither an instruction of one byte nor the sentinel. -/
def StandsForNothing (raw : UInt8) : Prop :=
  tableSize - 1 ≤ raw.toNat ∧ raw ≠ sentinel

instance : DecidablePred StandsForNothing :=
  fun raw => inferInstanceAs (Decidable (tableSize - 1 ≤ raw.toNat ∧ raw ≠ sentinel))

theorem isTerminator_decode_iff (raw : UInt8) :
    (decode raw).isTerminator ↔ raw = sentinel ∨ raw = terminator.value := by
  unfold decode isTerminator
  split
  · next equal => simp [equal]
  · next different =>
      simp only [decide_eq_true_eq, different, false_or]
      constructor
      · exact fun equal => congrArg value equal
      · exact fun equal => congrArg mk equal

theorem value_decode_ne_sentinel (raw : UInt8) : (decode raw).value ≠ sentinel := by
  unfold decode
  split
  · decide
  · assumption

theorem span?_decode_of_isTerminator {raw : UInt8} (ends : (decode raw).isTerminator) :
    (decode raw).span? = some 2 := by
  rw [of_decide_eq_true ends]
  rfl

theorem span?_decode_of_standsForNothing {raw : UInt8} (nothing : StandsForNothing raw)
    (different : raw ≠ terminator.value) : (decode raw).span? = none := by
  have notTerminator : (decode raw).isTerminator = false := by
    rw [← Bool.not_eq_true, isTerminator_decode_iff]
    exact not_or.mpr ⟨nothing.2, different⟩
  have notOrdinary : (decode raw).isOrdinary = false := by
    rw [decode, if_neg nothing.2, isOrdinary, decide_eq_false_iff_not, UInt8.lt_iff_toNat_lt]
    exact Nat.not_lt.mpr nothing.1
  rw [span?, notOrdinary, notTerminator]
  rfl

end OpcodeTrace.Opcode
