import Mathlib.Data.Finset.Basic
import OpcodeTrace.Proofs.Reader.Operation

/-! The flags of a reader as a finite set of offsets, read off the list of its operations. -/

namespace OpcodeTrace.Reader

variable {Answer : Type}

def Operation.mark (size : Nat) (marked : Finset UInt64) : Operation Answer → Finset UInt64
  | .setBreakpoint offset => if offset.toNat < size then insert offset marked else marked
  | .clearBreakpoint offset => if offset.toNat < size then marked.erase offset else marked
  | .clearBreakpoints | .reset => ∅
  | .step | .resume | .runToReturn | .jump _ | .resetCounts | .disassemble _ _ | .inspect _ =>
      marked

/-- The offsets that are marked after operations one after another, none being marked before. -/
def markedBy (size : Nat) (operations : List (Operation Answer)) : Finset UInt64 :=
  operations.foldl (fun marked operation => operation.mark size marked) ∅

structure Marks (reader : Reader) (marked : Finset UInt64) : Prop where
  flags : reader.flags.toList =
    (List.range reader.trace.bytes.size).map fun offset => decide (offset.toUInt64 ∈ marked)
  isBreakpoint : ∀ offset, reader.isBreakpoint offset ↔ offset ∈ marked
  listed : ∀ offset, offset ∈ reader.breakpoints ↔ offset ∈ marked
  ascending : reader.breakpoints.Pairwise (· < ·)

/-- Outside the trace an operation on an offset is refused and changes nothing; inside it is not
refused. -/
structure RefusedOutside (reader : Reader) (operation : UInt64 → Operation Answer) : Prop where
  inside : ∀ offset : UInt64, offset.toNat < reader.trace.bytes.size →
    (reader.operate (operation offset)).refusal = none
  outside : ∀ offset : UInt64, reader.trace.bytes.size ≤ offset.toNat →
    reader.operate (operation offset) =
      { reader, refusal := some { offset, size := reader.trace.size } }

/-! ## Flags and offsets -/

theorem toNat_toUInt64_of_flagged {reader : Reader} {index : Nat}
    (inside : index < reader.flags.size) : index.toUInt64.toNat = index := by
  have bound := reader.trace.size_lt
  rw [reader.size_flags] at inside
  rw [Nat.toUInt64_eq, UInt64.toNat_ofNat']
  omega

theorem mem_breakpoints_iff (reader : Reader) (offset : UInt64) :
    offset ∈ reader.breakpoints ↔ reader.isBreakpoint offset := by
  simp only [breakpoints, List.mem_filterMap, List.mem_range, Option.ite_none_right_eq_some,
    Option.some.injEq]
  constructor
  · rintro ⟨index, inside, flagged, rfl⟩
    rw [isBreakpoint, toNat_toUInt64_of_flagged inside]
    exact flagged
  · intro flagged
    have inside : offset.toNat < reader.flags.size := by
      by_contra outside
      rw [isBreakpoint, Array.getElem?_eq_none (Nat.le_of_not_lt outside)] at flagged
      cases flagged
    exact ⟨offset.toNat, inside, flagged, UInt64.ofNat_toNat⟩

theorem pairwise_breakpoints (reader : Reader) : reader.breakpoints.Pairwise (· < ·) := by
  apply List.pairwise_filterMap.mpr
  apply List.pairwise_lt_range.imp_of_mem
  intro low high lowInside highInside ordered first firstListed second secondListed
  rw [Option.ite_none_right_eq_some] at firstListed secondListed
  cases firstListed.2
  cases secondListed.2
  rw [UInt64.lt_iff_toNat_lt, toNat_toUInt64_of_flagged (List.mem_range.mp lowInside),
    toNat_toUInt64_of_flagged (List.mem_range.mp highInside)]
  exact ordered

theorem marks_of_isBreakpoint {reader : Reader} {marked : Finset UInt64}
    (marks : ∀ offset, reader.isBreakpoint offset ↔ offset ∈ marked) : reader.Marks marked := by
  refine ⟨?_, marks, ?_, reader.pairwise_breakpoints⟩
  · apply List.ext_getElem
    · simp [reader.size_flags]
    · intro index inside _
      rw [Array.length_toList] at inside
      have flagged := marks index.toUInt64
      rw [isBreakpoint, toNat_toUInt64_of_flagged inside, Array.getElem?_eq_getElem inside,
        Option.getD_some] at flagged
      simp [← flagged]
  · intro offset
    rw [mem_breakpoints_iff, marks]

/-! ## Editing breakpoints -/

theorem flag_of_outside (reader : Reader) {offset : UInt64} (value : Bool)
    (outside : reader.trace.bytes.size ≤ offset.toNat) :
    reader.flag offset value = .error { offset, size := reader.trace.size } := by
  rw [flag, dif_neg (by rw [reader.size_flags]; omega)]
  rfl

theorem exists_flag_of_inside (reader : Reader) {offset : UInt64} (value : Bool)
    (inside : offset.toNat < reader.trace.bytes.size) :
    ∃ flagged, reader.flag offset value = .ok flagged ∧
      ∀ other, flagged.isBreakpoint other =
        if other = offset then value else reader.isBreakpoint other := by
  have flagged : offset.toNat < reader.flags.size := reader.size_flags.symm ▸ inside
  rw [flag, dif_pos flagged]
  refine ⟨_, rfl, ?_⟩
  intro other
  simp only [isBreakpoint, Array.getElem?_set, ← UInt64.toNat_inj, eq_comm (a := other.toNat)]
  split <;> rfl

theorem refusedOutside_of_flag {reader : Reader} {operation : UInt64 → Operation Answer}
    (value : Bool)
    (edits : ∀ offset, reader.operate (operation offset) =
      reader.changed (reader.flag offset value)) : reader.RefusedOutside operation := by
  constructor
  · intro offset inside
    rcases reader.exists_flag_of_inside value inside with ⟨flagged, equal, _⟩
    rw [edits, equal]
    rfl
  · intro offset outside
    rw [edits, reader.flag_of_outside value outside]
    rfl

theorem isBreakpoint_changed_flag (reader : Reader) (offset : UInt64) (value : Bool)
    (other : UInt64) :
    (reader.changed (reader.flag offset value)).reader.isBreakpoint other =
      if offset.toNat < reader.trace.bytes.size ∧ other = offset then value
      else reader.isBreakpoint other := by
  by_cases inside : offset.toNat < reader.trace.bytes.size
  · rcases reader.exists_flag_of_inside value inside with ⟨flagged, equal, marks⟩
    simp [equal, changed, marks, inside]
  · simp [reader.flag_of_outside value (Nat.le_of_not_lt inside), changed, inside]

/-! ## Other operations -/

theorem StepsThrough.flags_eq {first last : Reader} {stepped : List Reader}
    (steps : StepsThrough first stepped last) : last.flags = first.flags := by
  rw [steps.eq_iterate_advance, iterate_advance_flags]

theorem isBreakpoint_operate {reader : Reader} {marked : Finset UInt64}
    (marks : ∀ offset, reader.isBreakpoint offset ↔ offset ∈ marked)
    (operation : Operation Answer) (offset : UInt64) :
    (reader.operate operation).reader.isBreakpoint offset ↔
      offset ∈ operation.mark reader.trace.bytes.size marked := by
  have unmarked (same : (reader.operate operation).reader.flags = reader.flags)
      (still : operation.mark reader.trace.bytes.size marked = marked) :
      (reader.operate operation).reader.isBreakpoint offset ↔
        offset ∈ operation.mark reader.trace.bytes.size marked := by
    rw [isBreakpoint_congr same, still]
    exact marks offset
  have cleared : reader.clearBreakpoints.isBreakpoint offset ↔ offset ∈ (∅ : Finset UInt64) := by
    simp only [isBreakpoint, clearBreakpoints, Array.getElem?_replicate]
    split <;> simp
  cases operation with
  | setBreakpoint edited =>
      have edit := reader.isBreakpoint_changed_flag edited true offset
      by_cases inside : edited.toNat < reader.trace.bytes.size
      · simp [operate, setBreakpoint, edit, Operation.mark, inside, marks, or_iff_not_imp_left]
      · simp [operate, setBreakpoint, edit, Operation.mark, inside, marks]
  | clearBreakpoint edited =>
      have edit := reader.isBreakpoint_changed_flag edited false offset
      by_cases inside : edited.toNat < reader.trace.bytes.size
      · simp [operate, clearBreakpoint, edit, Operation.mark, inside, marks]
      · simp [operate, clearBreakpoint, edit, Operation.mark, inside, marks]
  | clearBreakpoints => exact cleared
  | reset => exact cleared
  | step => exact unmarked reader.step_flags rfl
  | resume => exact unmarked reader.stepsThrough_runOn.flags_eq rfl
  | runToReturn => exact unmarked reader.stepsThrough_runToReturn.flags_eq rfl
  | jump target => exact unmarked rfl rfl
  | resetCounts => exact unmarked rfl rfl
  | disassemble start count => exact unmarked (congrArg flags (reader.changed_map_self _)) rfl
  | inspect inspections => exact unmarked (congrArg flags (reader.inspect_reader inspections)) rfl

theorem isBreakpoint_after {reader : Reader} {marked : Finset UInt64}
    (marks : ∀ offset, reader.isBreakpoint offset ↔ offset ∈ marked)
    (operations : List (Operation Answer)) (offset : UInt64) :
    (reader.after operations).isBreakpoint offset ↔
      offset ∈ operations.foldl
        (fun marked operation => operation.mark reader.trace.bytes.size marked) marked := by
  induction operations generalizing reader marked with
  | nil => exact marks offset
  | cons operation later induction =>
      have marksNext := isBreakpoint_operate marks operation
      rw [after_cons, List.foldl_cons, ← reader.operate_trace operation]
      rw [← reader.operate_trace operation] at marksNext
      exact induction marksNext

theorem isBreakpoint_new (trace : Trace) (offset : UInt64) :
    (new trace).isBreakpoint offset = false := by
  simp only [isBreakpoint, new, Array.getElem?_replicate]
  split <;> rfl

/-! ## All operations -/

/-- After any operations the flags stand for the offsets that the operations have marked. An edit
outside the trace changes nothing, the trace stays what it was, and to reset the reader makes it a
new one. -/
theorem marks_after (trace : Trace) (operations : List (Operation Answer)) :
    let reader := (new trace).after operations
    reader.Marks (markedBy trace.bytes.size operations) ∧
      reader.RefusedOutside (.setBreakpoint : UInt64 → Operation Answer) ∧
      reader.RefusedOutside (.clearBreakpoint : UInt64 → Operation Answer) ∧
      reader.trace = trace ∧
      reader.reset = new trace := by
  intro reader
  have same : reader.trace = trace := (new trace).after_trace operations
  refine ⟨marks_of_isBreakpoint ?_, refusedOutside_of_flag true fun _ => rfl,
    refusedOutside_of_flag false fun _ => rfl, same, ?_⟩
  · exact isBreakpoint_after (by simp [isBreakpoint_new]) operations
  · generalize reader = current at same
    subst same
    rfl

end OpcodeTrace.Reader
