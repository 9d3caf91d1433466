import OpcodeTrace.Proofs.Listing.Following
import OpcodeTrace.Proofs.Listing.Tiling
import OpcodeTrace.Proofs.Reader.Operation

/-! The listing of a whole trace draws a grid of offsets, on which a reader stays that nobody
moves by hand. -/

namespace OpcodeTrace

namespace Trace

/-- The listing of a whole trace. An empty trace has none, and nothing is listed for it. -/
def instructions (trace : Trace) : List Instruction :=
  match trace.disassemble 0 0xffffffffffffffff with
  | .ok listing => listing
  | .error _ => []

/-- The places to which steps can lead from the start of a trace. -/
inductive OnGrid (trace : Trace) (offset : UInt64) : Prop
  | entry {before later : List Instruction} {entry : Instruction}
      (listed : trace.instructions = before ++ entry :: later)
      (decode : ∀ earlier ∈ before, earlier.decodes)
      (stands : offset = entry.offset)
  | atEnd (ends : offset.toNat = trace.bytes.size)
  /-- The last entry is a terminator without an operand. -/
  | pastEnd {before : List Instruction} {last : Instruction}
      (listed : trace.instructions = before ++ [last])
      (decode : ∀ earlier ∈ before, earlier.decodes)
      (terminates : last.opcode.isTerminator)
      (cut : last.offset.toNat + 1 = trace.bytes.size)
      (passed : offset.toNat = trace.bytes.size + 1)

/-! ## The listing of a whole trace -/

theorem instructions_eq (trace : Trace) :
    trace.instructions = trace.instructionsFrom (UInt64.size - 1) 0 := by
  rw [instructions, disassemble]
  by_cases inside : (0 : UInt64).toNat < trace.bytes.size
  · rw [if_pos inside]
    rfl
  · rw [if_neg inside, instructionsFrom_of_outside trace _ (Nat.le_of_not_lt inside)]

theorem shows_of_mem_instructions {trace : Trace} {entry : Instruction}
    (member : entry ∈ trace.instructions) : entry.Shows trace := by
  rw [instructions_eq] at member
  exact shows_of_mem_instructionsFrom member

theorem outside_of_instructions_last {trace : Trace} {before : List Instruction}
    {last : Instruction} (listed : trace.instructions = before ++ [last]) :
    trace.bytes.size ≤ last.next.toNat := by
  have bound := trace.size_lt
  have length := trace.length_instructionsFrom_le (UInt64.size - 1) 0
  have short : (trace.instructionsFrom (UInt64.size - 1) 0).length < UInt64.size - 1 := by
    simp only [UInt64.size] at length ⊢
    omega
  apply outside_of_length_instructionsFrom_lt short
  rw [← instructions_eq, listed, List.getLast?_concat]

/-! ## Steps stay on the grid -/

theorem onGrid_zero (trace : Trace) : trace.OnGrid 0 := by
  by_cases inside : (0 : UInt64).toNat < trace.bytes.size
  · have listed : trace.instructions = [] ++ _ :: _ :=
      trace.instructions_eq.trans (trace.instructionsFrom_of_inside (UInt64.size - 2) inside)
    apply OnGrid.entry listed
    · simp
    · rfl
  · apply OnGrid.atEnd
    rw [UInt64.toNat_zero] at inside ⊢
    omega

theorem onGrid_next {trace : Trace} {before later : List Instruction} {entry : Instruction}
    (listed : trace.instructions = before ++ entry :: later)
    (decode : ∀ earlier ∈ before, earlier.decodes) (decodes : entry.decodes) :
    trace.OnGrid entry.next := by
  cases later with
  | nil =>
      have shows : entry.Shows trace := shows_of_mem_instructions (by simp [listed])
      have outside := outside_of_instructions_last listed
      have ends := Instruction.toNat_next shows
      rcases shows with ⟨inside, _⟩
      -- The last entry can only reach beyond the end with an operand that is not there.
      by_cases atEnd : entry.next.toNat = trace.bytes.size
      · exact .atEnd atEnd
      · have terminates : entry.opcode.isTerminator := by
          by_contra ordinary
          rw [if_neg ordinary] at ends
          omega
        rw [if_pos terminates] at ends
        apply OnGrid.pastEnd listed decode terminates
        · omega
        · omega
  | cons second later =>
      have follows := trace.instructions_eq ▸ listed
      have split : trace.instructions = (before ++ [entry]) ++ second :: later := by
        rw [listed, List.append_assoc, List.singleton_append]
      apply OnGrid.entry split
      · intro earlier member
        rcases List.mem_append.mp member with memberBefore | memberLast
        · exact decode earlier memberBefore
        · exact List.mem_singleton.mp memberLast ▸ decodes
      · exact (offset_eq_next_of_append follows).symm

theorem OnGrid.ne_operand {trace : Trace} {offset : UInt64} (grid : trace.OnGrid offset)
    {terminator : Instruction} (listed : terminator ∈ trace.instructions)
    (terminates : terminator.opcode.isTerminator)
    (operand : terminator.offset.toNat + 1 < trace.bytes.size) :
    offset.toNat ≠ terminator.offset.toNat + 1 := by
  have ends := Instruction.toNat_next (shows_of_mem_instructions listed)
  rw [if_pos terminates] at ends
  intro onOperand
  cases grid with
  | atEnd => omega
  | pastEnd => omega
  | @entry before later entry split decode stands =>
      have apart := trace.pairwise_instructionsFrom (UInt64.size - 1) 0
      rw [← instructions_eq, split, List.pairwise_append] at apart
      rw [split] at listed
      subst stands
      -- An entry can't start within the one before it, nor within itself or a later one.
      rcases List.mem_append.mp listed with isBefore | isFrom
      · have overlap := apart.2.2 terminator isBefore entry (List.mem_cons_self ..)
        omega
      · rcases List.mem_cons.mp isFrom with isEntry | isLater
        · subst isEntry
          omega
        · have overlap := (List.pairwise_cons.mp apart.2.1).1 terminator isLater
          have forward := Instruction.offset_lt_next
            (shows_of_mem_instructions (split ▸ List.mem_append_right before (List.mem_cons_self ..)))
          omega

end Trace

namespace Reader

variable {Answer : Type}

theorem onGrid_advance {reader : Reader} (grid : reader.trace.OnGrid reader.ip) :
    reader.trace.OnGrid reader.advance.ip := by
  cases grid with
  | atEnd ends =>
      rw [reader.advance_of_outside (Nat.le_of_eq ends.symm)]
      exact .atEnd ends
  | pastEnd listed decode terminates cut passed =>
      rw [reader.advance_of_outside (by omega)]
      exact .pastEnd listed decode terminates cut passed
  | @entry before later entry listed decode stands =>
      have shows : entry.Shows reader.trace :=
        Trace.shows_of_mem_instructions (by simp [listed])
      rw [advance]
      by_cases decodes : entry.decodes
      · rw [step_of_entry stands.symm shows decodes, land_ip]
        exact Trace.onGrid_next listed decode decodes
      · exact .atEnd (finishesAt_of_entry stands.symm shows decodes).ip

theorem onGrid_iterate_advance {reader : Reader} (grid : reader.trace.OnGrid reader.ip)
    (count : Nat) : reader.trace.OnGrid (advance^[count] reader).ip := by
  induction count with
  | zero => exact grid
  | succ count induction =>
      rw [← reader.iterate_advance_trace count] at induction
      rw [Function.iterate_succ_apply', ← reader.iterate_advance_trace count]
      exact onGrid_advance induction

def Operation.jumps : Operation Answer → Bool
  | .jump _ => true
  | .step | .resume | .runToReturn | .setBreakpoint _ | .clearBreakpoint _ | .clearBreakpoints
  | .resetCounts | .reset | .disassemble _ _ | .inspect _ => false

theorem onGrid_operate {reader : Reader} {operation : Operation Answer}
    (walks : ¬ operation.jumps) (grid : reader.trace.OnGrid reader.ip) :
    reader.trace.OnGrid (reader.operate operation).reader.ip := by
  cases operation with
  | step => exact onGrid_advance grid
  | resume =>
      rcases reader.exists_runOn_eq_advance with ⟨count, equal⟩
      exact congrArg ip equal ▸ onGrid_iterate_advance grid count
  | runToReturn =>
      rcases reader.exists_runToReturn_eq_advance with ⟨count, equal⟩
      exact congrArg ip equal ▸ onGrid_iterate_advance grid count
  | jump target => exact absurd rfl walks
  | setBreakpoint offset =>
      exact congrArg ip (reader.clearBreakpoints_changed_flag offset true) ▸ grid
  | clearBreakpoint offset =>
      exact congrArg ip (reader.clearBreakpoints_changed_flag offset false) ▸ grid
  | clearBreakpoints => exact grid
  | resetCounts => exact grid
  | reset => exact reader.trace.onGrid_zero
  | disassemble offset count =>
      exact congrArg ip (reader.changed_map_self (reader.disassemble offset count)) ▸ grid
  | inspect inspections => exact congrArg ip (reader.inspect_reader inspections) ▸ grid

theorem onGrid_after {reader : Reader} {operations : List (Operation Answer)}
    (walk : ∀ operation ∈ operations, ¬ operation.jumps)
    (grid : reader.trace.OnGrid reader.ip) :
    reader.trace.OnGrid (reader.after operations).ip := by
  induction operations generalizing reader with
  | nil => exact grid
  | cons operation later induction =>
      have moved := onGrid_operate (walk operation (List.mem_cons_self ..)) grid
      rw [← reader.operate_trace operation] at moved ⊢
      exact induction (fun item member => walk item (List.mem_cons_of_mem _ member)) moved

/-- Without jumps a reader stays on the grid of its trace, and so off the operands. -/
theorem onGrid_of_walk (trace : Trace) {operations : List (Operation Answer)}
    (walk : ∀ operation ∈ operations, ¬ operation.jumps) :
    trace.OnGrid ((new trace).after operations).ip ∧
      ∀ terminator ∈ trace.instructions, terminator.opcode.isTerminator →
        terminator.offset.toNat + 1 < trace.bytes.size →
          ((new trace).after operations).ip.toNat ≠ terminator.offset.toNat + 1 := by
  have begins : (new trace).trace.OnGrid (new trace).ip := trace.onGrid_zero
  have grid : trace.OnGrid ((new trace).after operations).ip := onGrid_after walk begins
  exact ⟨grid, fun _ => grid.ne_operand⟩

/-- Sentinels stand on both sides of the grid here: the first is a terminator, the second its
operand, and the third a terminator without an operand, which the last step leaves. -/
theorem onGrid_of_walk_past_cut_terminator :
    let trace := Trace.ofBytes #[0, 254, 254, 254]
    let operations : List (Operation UInt64) :=
      [.disassemble 2 5, .setBreakpoint 3, .resume, .inspect [.within 2 [.ask ip]],
        .runToReturn, .step]
    (∀ operation ∈ operations, ¬ operation.jumps) ∧
      ((new trace).after operations).ip = 5 ∧
      trace.OnGrid ((new trace).after operations).ip ∧
      ∀ terminator ∈ trace.instructions, terminator.opcode.isTerminator →
        terminator.offset.toNat + 1 < trace.bytes.size →
          ((new trace).after operations).ip.toNat ≠ terminator.offset.toNat + 1 := by
  intro trace operations
  have walk : ∀ operation ∈ operations, ¬ operation.jumps := by decide
  have ends : ((new trace).after operations).ip = 5 := by
    simp only [operations, after_cons, after_nil, operate, inspect_reader]
    decide +kernel
  exact ⟨walk, ends, onGrid_of_walk trace walk⟩

end Reader

end OpcodeTrace
