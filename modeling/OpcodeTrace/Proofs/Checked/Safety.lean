import OpcodeTrace.Proofs.Checked.Reader
import OpcodeTrace.Proofs.Reader.Breakpoints
import OpcodeTrace.Session.Perform

/-! No operation on a reader that can be reached looks outside an array or leaves the 64 bits. -/

namespace OpcodeTrace.Checked

open Reader (Operation)

variable {Answer : Type}

/-! ## Hexadecimal dumps -/

def hexRow (offset : UInt64) (bytes : List UInt8) : String :=
  String.ofList
    (Hexadecimal.paddedDigits 8 offset.toNat ++ [':', ' '] ++ Hexadecimal.ofBytes bytes ++ ['\n'])

/-- The rows of a dump from a row on. The offset of a row is computed from its number. -/
def hexRows (start row : UInt64) (bytes : List UInt8) : Except Halt (List String) :=
  if bytes.isEmpty then .ok []
  else do
    let distance ← product row Session.rowLength.toUInt64
    let offset ← sum start distance
    let next ← sum row 1
    let later ← hexRows start next (bytes.drop Session.rowLength)
    .ok (hexRow offset (bytes.take Session.rowLength) :: later)
termination_by bytes.length
decreasing_by
  rename_i full
  have positive : 0 < bytes.length := by simpa [List.length_pos_iff] using full
  simp only [List.length_drop, Session.rowLength]
  omega

def hex (session : Session) (window : Window) : Except Halt Session.Reply := do
  let (start, count) := session.resolve window
  let bytes ← slice session.reader.trace start count
  let rows ← hexRows start 0 bytes
  .ok (.texts rows)

theorem hexRows_cons (offset : UInt64) {bytes : List UInt8} (full : ¬ bytes.isEmpty) :
    Session.hexRows offset bytes =
      hexRow offset (bytes.take Session.rowLength) ::
        Session.hexRows (offset + Session.rowLength.toUInt64) (bytes.drop Session.rowLength) := by
  rw [Session.hexRows, if_neg full]
  rfl

theorem hexRows_eq (start row : UInt64) (bytes : List UInt8)
    (fits : 0 < bytes.length → start.toNat + row.toNat * 16 + bytes.length < UInt64.size) :
    hexRows start row bytes = .ok (Session.hexRows (start + row * 16) bytes) := by
  induction length : bytes.length using Nat.strongRecOn generalizing row bytes with
  | ind length induction =>
      by_cases full : bytes.isEmpty
      · rw [hexRows, if_pos full, Session.hexRows, if_pos full]
      · have positive : 0 < bytes.length := by simpa [List.length_pos_iff] using full
        have bound := fits positive
        have small : row.toNat * 16 < UInt64.size := by omega
        have notLast : row.toNat + 1 < UInt64.size := by omega
        have shorter : (bytes.drop 16).length = bytes.length - 16 := List.length_drop
        have next : (row + 1).toNat = row.toNat + 1 := by
          rw [UInt64.toNat_add]
          exact Nat.mod_eq_of_lt notLast
        have distance : (row * 16).toNat = row.toNat * 16 := by
          rw [UInt64.toNat_mul]
          exact Nat.mod_eq_of_lt small
        -- The last row may be shorter than sixteen bytes. Behind it nothing has to fit.
        have later := induction (bytes.drop 16).length (by omega) (row + 1) (bytes.drop 16)
          (by omega) rfl
        have moved : start + row * 16 + 16 = start + (row + 1) * 16 := by
          rw [UInt64.add_mul, UInt64.one_mul, UInt64.add_assoc]
        rw [hexRows, if_neg full, hexRows_cons _ full]
        change (product row 16 >>= _) = _
        rw [product_of_lt small, ok_bind, sum_of_lt (by rw [distance]; omega), ok_bind,
          sum_of_lt notLast, ok_bind]
        change (hexRows start (row + 1) (bytes.drop 16) >>= _) = _
        rw [later, ok_bind, ← moved]
        rfl

theorem length_le_of_slice {trace : Trace} {start count : UInt64} {bytes : List UInt8}
    (sliced : trace.slice start count = .ok bytes) :
    start.toNat + bytes.length ≤ trace.bytes.size := by
  rw [Trace.slice] at sliced
  split at sliced
  · cases sliced
    simp only [Array.length_toList, Array.size_extract]
    omega
  · cases sliced

theorem hex_eq (session : Session) (window : Window) :
    hex session window = answer (session.perform (.hex window)).reply := by
  rcases resolved : session.resolve window with ⟨start, count⟩
  have bound := session.reader.trace.size_lt
  rw [hex, Session.perform, resolved]
  dsimp only
  rw [slice_eq]
  cases sliced : session.reader.trace.slice start count with
  | error refusal => rfl
  | ok bytes =>
      have inside := length_le_of_slice sliced
      have first : start + 0 * 16 = start := by simp
      dsimp only [answer]
      rw [ok_bind, hexRows_eq start 0 bytes (by simp [UInt64.size]; omega), first]
      rfl

/-! ## Outside the trace -/

/-- There is nothing to be found, listed or marked at the offset. What is refused names the offset
and the size of the trace. -/
structure RefusesAt (reader : Reader) (offset : UInt64) : Prop where
  byte : reader.trace.byte offset = .error { offset, size := reader.trace.size }
  slice : ∀ count, reader.trace.slice offset count = .error { offset, size := reader.trace.size }
  opcodeAt : reader.trace.opcodeAt offset = .error { offset, size := reader.trace.size }
  spanAt : reader.trace.spanAt offset = .error { offset, size := reader.trace.size }
  disassemble : ∀ count,
    reader.disassemble offset count = .error { offset, size := reader.trace.size }
  setBreakpoint : reader.setBreakpoint offset = .error { offset, size := reader.trace.size }
  clearBreakpoint : reader.clearBreakpoint offset = .error { offset, size := reader.trace.size }
  isBreakpoint : reader.isBreakpoint offset = false

/-- Stepping finishes where it starts. -/
structure Rests (reader : Reader) : Prop where
  current : reader.current = .error { offset := reader.ip, size := reader.trace.size }
  step : reader.step = { reader, status := .finished }
  resume : reader.resume =
    { reader, status := .finished, events := [.continued reader.ip .finished] }
  runToReturn : reader.runToReturn = { reader, status := .finished }

theorem refusesAt_of_outside {reader : Reader} {offset : UInt64}
    (outside : reader.trace.bytes.size ≤ offset.toNat) : RefusesAt reader offset := by
  have notInside := Nat.not_lt.mpr outside
  have byte : reader.trace.byte offset = .error { offset, size := reader.trace.size } :=
    dif_neg notInside
  have opcodeAt : reader.trace.opcodeAt offset = .error { offset, size := reader.trace.size } := by
    rw [Trace.opcodeAt, byte]
    rfl
  refine ⟨byte, fun count => if_neg notInside, opcodeAt, ?_, ?_, ?_, ?_, ?_⟩
  · rw [Trace.spanAt, opcodeAt]
    rfl
  · intro count
    rw [Reader.disassemble, Trace.disassemble, if_neg notInside]
    rfl
  · exact reader.flag_of_outside true outside
  · exact reader.flag_of_outside false outside
  · rw [Reader.isBreakpoint, Array.getElem?_eq_none (by rwa [reader.size_flags])]
    rfl

theorem rests_of_outside {reader : Reader} (outside : reader.trace.bytes.size ≤ reader.ip.toNat) :
    Rests reader := by
  have current : reader.current = .error { offset := reader.ip, size := reader.trace.size } :=
    (refusesAt_of_outside outside).opcodeAt
  have step := reader.step_of_outside outside
  refine ⟨current, step, ?_, ?_⟩
  · rw [Reader.resume, Reader.runOn, step]
    rfl
  · rw [Reader.runToReturn, current]

/-! ## Everywhere -/

/-- Nothing halts that looks at the reader or at its trace, whatever it is asked for. -/
structure Answers (reader : Reader) : Prop where
  byte : ∀ offset, byte reader.trace offset = answer (reader.trace.byte offset)
  slice : ∀ offset count, slice reader.trace offset count = answer (reader.trace.slice offset count)
  opcodeAt : ∀ offset, opcodeAt reader.trace offset = answer (reader.trace.opcodeAt offset)
  spanAt : ∀ offset, spanAt reader.trace offset = answer (reader.trace.spanAt offset)
  current : Checked.opcodeAt reader.trace reader.ip = answer reader.current
  disassemble : ∀ offset count,
    disassemble reader.trace offset count = answer (reader.trace.disassemble offset count)
  hex : ∀ session : Session, session.reader = reader → ∀ window,
    hex session window = answer (session.perform (.hex window)).reply
  countOf : ∀ opcode, countOf reader opcode = .ok (reader.countOf opcode)

theorem answers (reader : Reader) : Answers reader where
  byte := byte_eq reader.trace
  slice := slice_eq reader.trace
  opcodeAt := opcodeAt_eq reader.trace
  spanAt := spanAt_eq reader.trace
  current := opcodeAt_ip_eq reader
  disassemble := disassemble_eq reader.trace
  hex session _ := hex_eq session
  countOf := countOf_eq reader

/-- No operation halts, and nothing halts that looks at the reader between the operations, also from
within frames. -/
theorem after_new (trace : Trace) (operations : List (Operation Answer))
    (few : ((Reader.new trace).allLandings operations).length < UInt64.size) :
    let reader := (Reader.new trace).after operations
    after (.new trace) operations = .ok reader ∧
      (∀ target, Answers (reader.jump target)) ∧
      (∀ offset : UInt64, trace.bytes.size ≤ offset.toNat → RefusesAt reader offset) ∧
      (trace.bytes.size ≤ reader.ip.toNat → Rests reader) := by
  intro reader
  have same : reader.trace = trace := (Reader.new trace).after_trace operations
  refine ⟨after_eq (room_new few), fun target => answers (reader.jump target), ?_, ?_⟩
  · intro offset outside
    exact refusesAt_of_outside (same.symm ▸ outside)
  · intro outside
    exact rests_of_outside (same.symm ▸ outside)

/-- The second step reports the undecodable byte and gives up the rest of the trace. The last offset
of all is refused everywhere. -/
theorem after_new_at_last_offset :
    let trace := Trace.ofBytes #[254, 7, 200]
    let operations : List (Operation Unit) :=
      [.step, .step, .disassemble 2 0xffffffffffffffff, .jump 0xffffffffffffffff, .step,
        .setBreakpoint 0xffffffffffffffff, .inspect [.within 1 []]]
    ((Reader.new trace).allLandings operations).length < UInt64.size ∧
      (Reader.new trace).allLandings operations = [⟨200⟩] ∧
      ∃ reader, after (.new trace) operations = .ok reader ∧ reader.ip = 0xffffffffffffffff ∧
        RefusesAt reader reader.ip ∧ Rests reader := by
  intro trace operations
  have landed : (Reader.new trace).allLandings operations = [⟨200⟩] := by
    simp only [operations, Reader.allLandings, Reader.operate]
    decide +kernel
  have few : ((Reader.new trace).allLandings operations).length < UInt64.size := by
    rw [landed]
    decide
  have stands : ((Reader.new trace).after operations).ip = 0xffffffffffffffff := by
    simp only [operations, Reader.after_cons, Reader.after_nil, Reader.operate,
      Reader.inspect_reader]
    decide +kernel
  have outside : trace.bytes.size ≤ ((Reader.new trace).after operations).ip.toNat := by
    rw [stands]
    decide
  rcases after_new trace operations few with ⟨runs, _, refuses, rests⟩
  exact ⟨few, landed, _, runs, stands, refuses _ outside, rests outside⟩

end OpcodeTrace.Checked
