import OpcodeTrace.Proofs.Listing.Walk
import OpcodeTrace.Proofs.Opcode.Decoding
import OpcodeTrace.Proofs.Reader.Operation

/-! Which bytes end a procedure by the format of a trace, and which ones do. -/

namespace OpcodeTrace.Reader

variable {Answer : Type}

def StopsOnSentinelOnly (reader : Reader) : Prop :=
  reader.runToReturn.status = .stopped →
    reader.trace.byte reader.runToReturn.reader.ip = .ok Opcode.sentinel

/-- A step off a byte that stands for nothing goes right behind the last byte and counts nothing. -/
def GivesUpOffNothing (reader : Reader) : Prop :=
  ∀ raw, reader.trace.byte reader.ip = .ok raw → Opcode.StandsForNothing raw →
    reader.FinishesAt reader.trace.bytes.size

/-! ## Bytes and opcodes -/

theorem inside_of_byte_eq_ok {trace : Trace} {offset : UInt64} {raw : UInt8}
    (read : trace.byte offset = .ok raw) :
    ∃ inside : offset.toNat < trace.bytes.size, trace.bytes[offset.toNat] = raw := by
  unfold Trace.byte at read
  split at read
  · next inside => exact ⟨inside, Except.ok.inj read⟩
  · cases read

theorem mem_bytes_iff {trace : Trace} {raw : UInt8} :
    raw ∈ trace.bytes ↔ ∃ offset, trace.byte offset = .ok raw := by
  constructor
  · intro held
    rcases Array.getElem_of_mem held with ⟨offset, inside, same⟩
    have bound := trace.size_lt
    have fits : offset.toUInt64.toNat = offset := by
      rw [Nat.toUInt64_eq, UInt64.toNat_ofNat']
      omega
    refine ⟨offset.toUInt64, ?_⟩
    simp only [Trace.byte, fits, dif_pos inside, same]
  · rintro ⟨offset, read⟩
    rcases inside_of_byte_eq_ok read with ⟨inside, rfl⟩
    exact Array.getElem_mem inside

theorem byte_of_current_eq_ok {reader : Reader} {opcode : Opcode}
    (stands : reader.current = .ok opcode) :
    ∃ raw, reader.trace.byte reader.ip = .ok raw ∧ Opcode.decode raw = opcode := by
  rw [current, Trace.opcodeAt] at stands
  cases read : reader.trace.byte reader.ip with
  | ok raw =>
      rw [read] at stands
      exact ⟨raw, rfl, Except.ok.inj stands⟩
  | error error =>
      rw [read] at stands
      cases stands

theorem current_eq_ok_of_byte {reader : Reader} {raw : UInt8}
    (read : reader.trace.byte reader.ip = .ok raw) :
    reader.current = .ok (Opcode.decode raw) := by
  rw [current, Trace.opcodeAt, read]
  rfl

/-! ## Runs to a terminator -/

theorem byte_of_runToReturn_stopped {reader : Reader}
    (stopped : reader.runToReturn.status = .stopped) :
    ∃ raw, reader.trace.byte reader.runToReturn.reader.ip = .ok raw ∧
      (raw = Opcode.sentinel ∨ raw = Opcode.terminator.value) := by
  fun_induction runToReturn reader with
  | case1 reader error _ => cases stopped
  | case2 reader opcode stands ends =>
      rcases byte_of_current_eq_ok stands with ⟨raw, read, decoded⟩
      exact ⟨raw, read, (Opcode.isTerminator_decode_iff raw).mp (decoded ▸ ends)⟩
  | case3 reader opcode _ _ _ induction =>
      have later := induction stopped
      rwa [step_trace] at later
  | case4 reader opcode _ _ goesOn => exact absurd stopped goesOn

theorem runToReturn_of_terminates {reader : Reader}
    (ends : reader.trace.TerminatesAt reader.ip) :
    reader.runToReturn = { reader, status := .stopped } := by
  rcases ends with ⟨opcode, stands, terminates⟩
  have current : reader.current = .ok opcode := stands
  rw [runToReturn, current]
  exact if_pos terminates

theorem runToReturn_of_byte_terminator (reader : Reader)
    (read : reader.trace.byte reader.ip = .ok Opcode.terminator.value) :
    reader.runToReturn = { reader, status := .stopped } :=
  runToReturn_of_terminates ⟨_, current_eq_ok_of_byte read, by decide⟩

theorem stopsOnSentinelOnly_iff (reader : Reader) :
    reader.StopsOnSentinelOnly ↔
      ¬ (reader.runToReturn.status = .stopped ∧
        reader.trace.byte reader.runToReturn.reader.ip = .ok Opcode.terminator.value) := by
  constructor
  · rintro sentinelOnly ⟨stopped, read⟩
    have clash := (sentinelOnly stopped).symm.trans read
    exact absurd (Except.ok.inj clash) (by decide)
  · intro neverValue stopped
    rcases byte_of_runToReturn_stopped stopped with ⟨raw, read, rfl | rfl⟩
    · exact read
    · exact absurd ⟨stopped, read⟩ neverValue

/-! ## Steps off a byte that stands for nothing -/

/-- A byte with the value of the terminator is left like the sentinel, so that the step gives up
only where the trace ends anyway. -/
theorem givesUpOffNothing_iff (reader : Reader) :
    reader.GivesUpOffNothing ↔
      (reader.trace.byte reader.ip = .ok Opcode.terminator.value →
        reader.ip.toNat + 2 = reader.trace.bytes.size) := by
  have spansTwo (raw : UInt8) (same : raw = Opcode.terminator.value) :
      (Opcode.decode raw).span? = some 2 :=
    Opcode.span?_decode_of_isTerminator ((Opcode.isTerminator_decode_iff raw).mpr (.inr same))
  constructor
  · intro givesUp read
    have finishes := givesUp _ read (by decide)
    rcases inside_of_byte_eq_ok read with ⟨inside, same⟩
    have spans := spansTwo _ same
    have ends := finishes.ip
    rw [reader.step_of_span inside spans, land_ip] at ends
    exact (toNat_ip_add_span inside spans).symm.trans ends
  · intro ends raw read nothing
    rcases inside_of_byte_eq_ok read with ⟨inside, same⟩
    by_cases value : raw = Opcode.terminator.value
    · have atEnd := ends (value ▸ read)
      have finishes := finishesAt_of_span inside (spansTwo _ (same.trans value))
        (Nat.le_of_eq atEnd.symm)
      exact atEnd ▸ finishes
    · exact finishesAt_of_undecodable inside
        (same ▸ Opcode.span?_decode_of_standsForNothing nothing value)

/-! ## Traces of the documented format -/

/-- A reader breaks the format where its run stops on a byte with the value of the terminator, and
where it steps off such a byte. All readers on a trace keep the format exactly if the trace does not
hold that byte. -/
theorem sentinel_alone_iff (trace : Trace) :
    (∀ reader : Reader, reader.trace = trace →
      (reader.StopsOnSentinelOnly ↔
        ¬ (reader.runToReturn.status = .stopped ∧
          trace.byte reader.runToReturn.reader.ip = .ok Opcode.terminator.value)) ∧
      (reader.GivesUpOffNothing ↔
        (trace.byte reader.ip = .ok Opcode.terminator.value →
          reader.ip.toNat + 2 = trace.bytes.size))) ∧
    ((∀ operations : List (Operation Answer),
      ((new trace).after operations).StopsOnSentinelOnly ∧
        ((new trace).after operations).GivesUpOffNothing) ↔
      Opcode.terminator.value ∉ trace.bytes) := by
  refine ⟨?_, ?_, ?_⟩
  · rintro reader rfl
    exact ⟨reader.stopsOnSentinelOnly_iff, reader.givesUpOffNothing_iff⟩
  · intro keeps held
    rcases mem_bytes_iff.mp held with ⟨offset, read⟩
    -- A jump leads to any byte of the trace, and a run from there is over at once.
    have run := ((new trace).jump offset).runToReturn_of_byte_terminator read
    have neverValue := (stopsOnSentinelOnly_iff _).mp (keeps [.jump offset]).1
    change ¬ (((new trace).jump offset).runToReturn.status = .stopped ∧
      trace.byte ((new trace).jump offset).runToReturn.reader.ip = _) at neverValue
    rw [run] at neverValue
    exact neverValue ⟨rfl, read⟩
  · intro absent operations
    constructor
    · rw [stopsOnSentinelOnly_iff, after_trace]
      rintro ⟨_, read⟩
      exact absent (mem_bytes_iff.mpr ⟨_, read⟩)
    · rw [givesUpOffNothing_iff, after_trace]
      intro read
      exact absurd (mem_bytes_iff.mpr ⟨_, read⟩) absent

theorem terminator_value_is_no_sentinel :
    let reader := (new (Trace.ofBytes #[180, 0, 0])).after ([] : List (Operation Unit))
    ¬ reader.StopsOnSentinelOnly ∧ ¬ reader.GivesUpOffNothing := by
  intro reader
  constructor
  · intro sentinelOnly
    have read := sentinelOnly (by decide +kernel)
    rw [reader.runToReturn_of_byte_terminator rfl] at read
    exact absurd (Except.ok.inj read) (by decide)
  · intro givesUp
    have finishes := givesUp 180 rfl (by decide)
    exact absurd finishes.status (by decide +kernel)

end OpcodeTrace.Reader
