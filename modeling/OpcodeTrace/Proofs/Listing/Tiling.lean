import OpcodeTrace.Proofs.Listing.Walk

/-! The entries of a listing lie one behind the other. -/

namespace OpcodeTrace

theorem Opcode.span?_getD_one (opcode : Opcode) :
    opcode.span?.getD 1 = if opcode.isTerminator then 2 else 1 := by
  by_cases terminates : opcode = Opcode.terminator
  · subst terminates
    rfl
  · simp only [Opcode.span?, Opcode.isTerminator, terminates, decide_false, Bool.false_eq_true,
      if_false]
    split <;> rfl

namespace Instruction

theorem toNat_next {instruction : Instruction} {trace : Trace} (shows : instruction.Shows trace) :
    instruction.next.toNat =
      instruction.offset.toNat + if instruction.opcode.isTerminator then 2 else 1 := by
  rcases shows with ⟨inside, _⟩
  have bound := trace.size_lt
  rw [next, Opcode.span?_getD_one, UInt64.toNat_add]
  split
  · rw [show (2 : UInt64).toNat = 2 from rfl]
    omega
  · rw [UInt64.toNat_one]
    omega

theorem offset_lt_next {instruction : Instruction} {trace : Trace}
    (shows : instruction.Shows trace) : instruction.offset.toNat < instruction.next.toNat := by
  rw [toNat_next shows]
  split <;> omega

end Instruction

namespace Trace

theorem instructionsFrom_eq_of_append {trace : Trace} {count : Nat} {offset : UInt64}
    {before : List Instruction} {entry : Instruction} {later : List Instruction}
    (listing : trace.instructionsFrom count offset = before ++ entry :: later) :
    ∃ fewer, count = before.length + fewer ∧
      trace.instructionsFrom fewer entry.offset = entry :: later := by
  induction before generalizing count offset with
  | nil =>
      have stands := (of_instructionsFrom_eq_cons listing).1
      refine ⟨count, by simp, ?_⟩
      rw [stands]
      exact listing
  | cons first before induction =>
      rcases of_instructionsFrom_eq_cons listing with ⟨_, _, fewer, countEqual, rest⟩
      rcases induction rest with ⟨fewest, fewerEqual, suffix⟩
      refine ⟨fewest, ?_, suffix⟩
      rw [List.length_cons]
      omega

theorem offset_eq_next_of_append {trace : Trace} {count : Nat} {offset : UInt64}
    {before : List Instruction} {entry second : Instruction} {later : List Instruction}
    (listing : trace.instructionsFrom count offset = before ++ entry :: second :: later) :
    second.offset = entry.next := by
  rcases instructionsFrom_eq_of_append listing with ⟨fewer, _, suffix⟩
  rcases of_instructionsFrom_eq_cons suffix with ⟨_, _, _, _, rest⟩
  exact (of_instructionsFrom_eq_cons rest).1

theorem offset_le_of_mem_instructionsFrom {trace : Trace} {count : Nat} {offset : UInt64}
    {entry : Instruction} (member : entry ∈ trace.instructionsFrom count offset) :
    offset.toNat ≤ entry.offset.toNat := by
  induction count generalizing offset with
  | zero => cases member
  | succ count induction =>
      cases listing : trace.instructionsFrom (count + 1) offset with
      | nil =>
          rw [listing] at member
          cases member
      | cons first rest =>
          rcases of_instructionsFrom_eq_cons listing with ⟨stands, shows, fewer, countEqual, later⟩
          cases countEqual
          subst stands
          rw [listing, ← later] at member
          rcases List.mem_cons.mp member with equal | memberLater
          · exact Nat.le_of_eq (congrArg (fun shown => shown.offset.toNat) equal.symm)
          · have ends := Instruction.offset_lt_next shows
            have beyond := induction memberLater
            omega

theorem pairwise_instructionsFrom (trace : Trace) (count : Nat) (offset : UInt64) :
    (trace.instructionsFrom count offset).Pairwise fun earlier later =>
      earlier.next.toNat ≤ later.offset.toNat := by
  induction count generalizing offset with
  | zero => exact List.Pairwise.nil
  | succ count induction =>
      by_cases inside : offset.toNat < trace.bytes.size
      · rw [instructionsFrom_of_inside trace count inside]
        apply List.Pairwise.cons _ (induction _)
        intro later member
        exact offset_le_of_mem_instructionsFrom member
      · rw [instructionsFrom_of_outside trace _ (Nat.le_of_not_lt inside)]
        exact List.Pairwise.nil

theorem length_instructionsFrom_le (trace : Trace) (count : Nat) (offset : UInt64) :
    (trace.instructionsFrom count offset).length ≤ trace.bytes.size - offset.toNat := by
  induction count generalizing offset with
  | zero => exact Nat.zero_le _
  | succ count induction =>
      by_cases inside : offset.toNat < trace.bytes.size
      · let first : Instruction := { offset, raw := trace.bytes[offset.toNat] }
        have rest := induction first.next
        have shows : first.Shows trace := ⟨inside, rfl⟩
        have forward : offset.toNat < first.next.toNat := Instruction.offset_lt_next shows
        rw [instructionsFrom_of_inside trace count inside]
        change (trace.instructionsFrom count first.next).length + 1 ≤ _
        omega
      · rw [instructionsFrom_of_outside trace _ (Nat.le_of_not_lt inside)]
        exact Nat.zero_le _

theorem instructionsFrom_eq_of_enough {trace : Trace} {fewer more : Nat} {offset : UInt64}
    (fewerEnough : trace.bytes.size - offset.toNat ≤ fewer)
    (moreEnough : trace.bytes.size - offset.toNat ≤ more) :
    trace.instructionsFrom fewer offset = trace.instructionsFrom more offset := by
  induction fewer generalizing more offset with
  | zero =>
      have outside : trace.bytes.size ≤ offset.toNat := by omega
      rw [instructionsFrom_of_outside trace _ outside, instructionsFrom_of_outside trace _ outside]
  | succ fewer induction =>
      by_cases inside : offset.toNat < trace.bytes.size
      · let first : Instruction := { offset, raw := trace.bytes[offset.toNat] }
        have shows : first.Shows trace := ⟨inside, rfl⟩
        have forward : offset.toNat < first.next.toNat := Instruction.offset_lt_next shows
        cases more with
        | zero => omega
        | succ more =>
            have rest : trace.instructionsFrom fewer first.next =
                trace.instructionsFrom more first.next := induction (by omega) (by omega)
            rw [instructionsFrom_of_inside trace _ inside, instructionsFrom_of_inside trace _ inside,
              rest]
      · have outside := Nat.le_of_not_lt inside
        rw [instructionsFrom_of_outside trace _ outside, instructionsFrom_of_outside trace _ outside]

end Trace

end OpcodeTrace
