import Mathlib.Data.List.Nodup
import OpcodeTrace.Opcode

namespace OpcodeTrace.Opcode

/-- The bytes of a text as the digits of one number. Numbers are compared faster than texts. -/
def serial (text : String) : Nat :=
  text.toUTF8.data.toList.foldl (fun number byte => 256 * number + byte.toNat) 0

theorem nodup_labels : (missingName :: names.toList).Nodup :=
  List.Nodup.of_map serial (by decide +kernel)

theorem plain_labels :
    ∀ label ∈ missingName :: names.toList, '\n' ∉ label.toList ∧ ':' ∉ label.toList := by
  decide +kernel

theorem isNamed_iff {opcode : Opcode} : opcode.isNamed ↔ opcode.value.toNat < names.size := by
  rw [size_names, isNamed, decide_eq_true_eq]

theorem label_of_named {opcode : Opcode} (named : opcode.value.toNat < names.size) :
    opcode.label = names.toList[opcode.value.toNat] := by
  rw [label, name?, Array.getElem?_eq_getElem named]
  rfl

theorem label_of_unnamed {opcode : Opcode} (unnamed : opcode.isNamed = false) :
    opcode.label = missingName := by
  have beyond : ¬ opcode.value.toNat < names.size := by
    rw [← isNamed_iff, unnamed]
    exact Bool.false_ne_true
  rw [label, name?, Array.getElem?_eq_none (Nat.not_lt.mp beyond)]
  rfl

theorem label_mem (opcode : Opcode) : opcode.label ∈ missingName :: names.toList := by
  by_cases named : opcode.value.toNat < names.size
  · rw [label_of_named named]
    exact List.mem_cons_of_mem _ (List.getElem_mem _)
  · rw [label_of_unnamed (Bool.eq_false_iff.mpr (mt isNamed_iff.mp named))]
    exact List.mem_cons_self

theorem label_ne_missingName {opcode : Opcode} (named : opcode.isNamed) :
    opcode.label ≠ missingName := by
  rw [label_of_named (isNamed_iff.mp named)]
  rintro missing
  exact (List.nodup_cons.mp nodup_labels).1 (missing ▸ List.getElem_mem _)

theorem eq_of_label {one other : Opcode} (named : one.isNamed) (otherNamed : other.isNamed)
    (same : one.label = other.label) : one = other := by
  rw [label_of_named (isNamed_iff.mp named), label_of_named (isNamed_iff.mp otherNamed),
    (List.nodup_cons.mp nodup_labels).2.getElem_inj_iff, UInt8.toNat_inj] at same
  cases one
  cases other
  exact congrArg Opcode.mk same

end OpcodeTrace.Opcode
