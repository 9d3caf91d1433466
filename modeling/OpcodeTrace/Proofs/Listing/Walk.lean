import OpcodeTrace.Listing

/-! One rule reads off a listing: the instruction at the offset, and then the listing from its
end. -/

namespace OpcodeTrace

namespace Instruction

def decodes (instruction : Instruction) : Bool :=
  instruction.opcode.span?.isSome

/-- The entry shows the byte that the trace holds at its offset. -/
def Shows (instruction : Instruction) (trace : Trace) : Prop :=
  ∃ inside : instruction.offset.toNat < trace.bytes.size,
    trace.bytes[instruction.offset.toNat] = instruction.raw

theorem next_of_span {instruction : Instruction} {span : UInt64}
    (spans : instruction.opcode.span? = some span) :
    instruction.next = instruction.offset + span := by
  rw [next, spans, Option.getD_some]

end Instruction

namespace Trace

def TerminatesAt (trace : Trace) (offset : UInt64) : Prop :=
  ∃ opcode, trace.opcodeAt offset = .ok opcode ∧ opcode.isTerminator

theorem opcodeAt_of_shows {trace : Trace} {entry : Instruction} (shows : entry.Shows trace) :
    trace.opcodeAt entry.offset = .ok entry.opcode := by
  rcases shows with ⟨inside, shown⟩
  rw [opcodeAt, byte, dif_pos inside, shown]
  rfl

theorem TerminatesAt.inside {trace : Trace} {offset : UInt64} (ends : trace.TerminatesAt offset) :
    offset.toNat < trace.bytes.size := by
  rcases ends with ⟨opcode, stands, _⟩
  refine Nat.lt_of_not_le fun outside => ?_
  rw [opcodeAt, byte, dif_neg (Nat.not_lt.mpr outside)] at stands
  cases stands

theorem instructionsFrom_of_outside (trace : Trace) (count : Nat) {offset : UInt64}
    (outside : trace.bytes.size ≤ offset.toNat) : trace.instructionsFrom count offset = [] := by
  cases count with
  | zero => rfl
  | succ count => rw [instructionsFrom, dif_neg (Nat.not_lt.mpr outside)]

theorem instructionsFrom_of_inside (trace : Trace) (count : Nat) {offset : UInt64}
    (inside : offset.toNat < trace.bytes.size) :
    trace.instructionsFrom (count + 1) offset =
      { offset, raw := trace.bytes[offset.toNat] } ::
        trace.instructionsFrom count
          (Instruction.next { offset, raw := trace.bytes[offset.toNat] }) := by
  rw [instructionsFrom, dif_pos inside]

theorem of_instructionsFrom_eq_cons {trace : Trace} {count : Nat} {offset : UInt64}
    {first : Instruction} {rest : List Instruction}
    (listing : trace.instructionsFrom count offset = first :: rest) :
    first.offset = offset ∧ first.Shows trace ∧
      ∃ fewer, count = fewer + 1 ∧ trace.instructionsFrom fewer first.next = rest := by
  by_cases inside : offset.toNat < trace.bytes.size
  · cases count with
    | zero => cases listing
    | succ count =>
        rw [instructionsFrom_of_inside trace count inside] at listing
        injection listing with firstEqual restEqual
        rw [← firstEqual]
        exact ⟨rfl, ⟨inside, rfl⟩, count, rfl, restEqual⟩
  · rw [instructionsFrom_of_outside trace count (Nat.le_of_not_lt inside)] at listing
    cases listing

theorem shows_of_mem_instructionsFrom {trace : Trace} {count : Nat} {offset : UInt64}
    {entry : Instruction} (member : entry ∈ trace.instructionsFrom count offset) :
    entry.Shows trace := by
  induction count generalizing offset with
  | zero => cases member
  | succ count induction =>
      cases listing : trace.instructionsFrom (count + 1) offset with
      | nil =>
          rw [listing] at member
          cases member
      | cons first rest =>
          rcases of_instructionsFrom_eq_cons listing with ⟨_, shows, fewer, countEqual, later⟩
          cases countEqual
          rw [listing, ← later] at member
          rcases List.mem_cons.mp member with equal | memberLater
          · exact equal ▸ shows
          · exact induction memberLater

theorem outside_of_instructionsFrom_eq_nil {trace : Trace} {count : Nat} {offset : UInt64}
    (wanted : 0 < count) (listing : trace.instructionsFrom count offset = []) :
    trace.bytes.size ≤ offset.toNat := by
  cases count with
  | zero => exact absurd wanted (Nat.lt_irrefl 0)
  | succ count =>
      refine Nat.le_of_not_lt fun inside => ?_
      rw [instructionsFrom_of_inside trace count inside] at listing
      cases listing

theorem outside_of_length_instructionsFrom_lt {trace : Trace} {count : Nat} {offset : UInt64}
    (short : (trace.instructionsFrom count offset).length < count) {last : Instruction}
    (ends : (trace.instructionsFrom count offset).getLast? = some last) :
    trace.bytes.size ≤ last.next.toNat := by
  induction count generalizing offset with
  | zero => cases short
  | succ count induction =>
      cases listing : trace.instructionsFrom (count + 1) offset with
      | nil =>
          rw [listing] at ends
          cases ends
      | cons first rest =>
          rw [listing, List.length_cons] at short
          rcases of_instructionsFrom_eq_cons listing with ⟨_, _, fewer, countEqual, later⟩
          cases countEqual
          cases rest with
          | nil =>
              rw [listing, List.getLast?_singleton, Option.some_inj] at ends
              subst ends
              exact outside_of_instructionsFrom_eq_nil (Nat.lt_of_succ_lt_succ short) later
          | cons second rest =>
              rw [listing, List.getLast?_cons_cons, ← later] at ends
              exact induction (later.symm ▸ Nat.lt_of_succ_lt_succ short) ends

end Trace

end OpcodeTrace
