import OpcodeTrace.Proofs.Listing.Tiling

/-! A checked computation halts instead of looking outside an array or computing a number that is
no word of 64 bits. Here the reads of a trace and the walk of a listing are carried out in this
way. -/

namespace OpcodeTrace.Checked

/-- What ends a checked computation early. A refusal is an answer, the others are faults. -/
inductive Halt where
  | refused (error : OutOfBounds)
  | missing (index : Nat)
  | overflow
deriving DecidableEq, Repr

def answer : Except OutOfBounds α → Except Halt α
  | .ok value => .ok value
  | .error error => .error (.refused error)

def entry (values : Array α) (index : Nat) : Except Halt α :=
  match values[index]? with
  | some value => .ok value
  | none => .error (.missing index)

def sum (left right : UInt64) : Except Halt UInt64 :=
  if left.toNat + right.toNat < UInt64.size then .ok (left + right) else .error .overflow

def difference (left right : UInt64) : Except Halt UInt64 :=
  if right.toNat ≤ left.toNat then .ok (left - right) else .error .overflow

def product (left right : UInt64) : Except Halt UInt64 :=
  if left.toNat * right.toNat < UInt64.size then .ok (left * right) else .error .overflow

def range (values : Array α) (start stop : UInt64) : Except Halt (List α) :=
  if start.toNat ≤ stop.toNat ∧ stop.toNat ≤ values.size then
    .ok (values.extract start.toNat stop.toNat).toList
  else
    .error (.missing stop.toNat)

@[simp] theorem ok_bind (value : α) (next : α → Except Halt β) :
    (Except.ok value >>= next) = next value := rfl

@[simp] theorem answer_map (result : Except OutOfBounds α) (change : α → β) :
    (answer result).map change = answer (result.map change) := by
  cases result <;> rfl

theorem entry_of_lt {values : Array α} {index : Nat} (inside : index < values.size) :
    entry values index = .ok values[index] := by
  rw [entry, Array.getElem?_eq_getElem inside]

theorem sum_of_lt {left right : UInt64} (fits : left.toNat + right.toNat < UInt64.size) :
    sum left right = .ok (left + right) :=
  if_pos fits

theorem difference_of_le {left right : UInt64} (ordered : right.toNat ≤ left.toNat) :
    difference left right = .ok (left - right) :=
  if_pos ordered

theorem product_of_lt {left right : UInt64} (fits : left.toNat * right.toNat < UInt64.size) :
    product left right = .ok (left * right) :=
  if_pos fits

/-! ## Bytes -/

def index (trace : Trace) (offset : UInt64) : Except Halt Nat :=
  if offset < trace.size then .ok offset.toNat
  else .error (.refused { offset, size := trace.size })

def byte (trace : Trace) (offset : UInt64) : Except Halt UInt8 := do
  let place ← index trace offset
  entry trace.bytes place

def opcodeAt (trace : Trace) (offset : UInt64) : Except Halt Opcode :=
  (byte trace offset).map Opcode.decode

def spanAt (trace : Trace) (offset : UInt64) : Except Halt (Option UInt64) :=
  (opcodeAt trace offset).map Opcode.span?

def slice (trace : Trace) (offset count : UInt64) : Except Halt (List UInt8) := do
  let _ ← index trace offset
  let available ← difference trace.size offset
  let stop ← sum offset (if count ≤ available then count else available)
  range trace.bytes offset stop

theorem lt_size_iff (trace : Trace) (offset : UInt64) :
    offset < trace.size ↔ offset.toNat < trace.bytes.size := by
  rw [UInt64.lt_iff_toNat_lt, Trace.toNat_size]

theorem index_of_inside {trace : Trace} {offset : UInt64}
    (inside : offset.toNat < trace.bytes.size) : index trace offset = .ok offset.toNat := by
  rw [index, if_pos ((lt_size_iff trace offset).mpr inside)]

theorem index_of_outside {trace : Trace} {offset : UInt64}
    (outside : trace.bytes.size ≤ offset.toNat) :
    index trace offset = .error (.refused { offset, size := trace.size }) := by
  rw [index, if_neg (mt (lt_size_iff trace offset).mp (Nat.not_lt.mpr outside))]

theorem byte_of_inside {trace : Trace} {offset : UInt64}
    (inside : offset.toNat < trace.bytes.size) :
    byte trace offset = .ok trace.bytes[offset.toNat] := by
  rw [byte, index_of_inside inside, ok_bind, entry_of_lt inside]

theorem byte_of_outside {trace : Trace} {offset : UInt64}
    (outside : trace.bytes.size ≤ offset.toNat) :
    byte trace offset = .error (.refused { offset, size := trace.size }) := by
  rw [byte, index_of_outside outside]
  rfl

theorem opcodeAt_of_inside {trace : Trace} {offset : UInt64}
    (inside : offset.toNat < trace.bytes.size) :
    opcodeAt trace offset = .ok (Opcode.decode trace.bytes[offset.toNat]) := by
  rw [opcodeAt, byte_of_inside inside]
  rfl

theorem opcodeAt_of_outside {trace : Trace} {offset : UInt64}
    (outside : trace.bytes.size ≤ offset.toNat) :
    opcodeAt trace offset = .error (.refused { offset, size := trace.size }) := by
  rw [opcodeAt, byte_of_outside outside]
  rfl

theorem spanAt_of_inside {trace : Trace} {offset : UInt64}
    (inside : offset.toNat < trace.bytes.size) :
    spanAt trace offset = .ok (Opcode.decode trace.bytes[offset.toNat]).span? := by
  rw [spanAt, opcodeAt_of_inside inside]
  rfl

theorem spanAt_of_outside {trace : Trace} {offset : UInt64}
    (outside : trace.bytes.size ≤ offset.toNat) :
    spanAt trace offset = .error (.refused { offset, size := trace.size }) := by
  rw [spanAt, opcodeAt_of_outside outside]
  rfl

theorem byte_eq (trace : Trace) (offset : UInt64) :
    byte trace offset = answer (trace.byte offset) := by
  rw [Trace.byte]
  split
  · next inside => exact byte_of_inside inside
  · next outside => exact byte_of_outside (Nat.le_of_not_lt outside)

theorem opcodeAt_eq (trace : Trace) (offset : UInt64) :
    opcodeAt trace offset = answer (trace.opcodeAt offset) := by
  rw [opcodeAt, byte_eq, answer_map]
  rfl

theorem spanAt_eq (trace : Trace) (offset : UInt64) :
    spanAt trace offset = answer (trace.spanAt offset) := by
  rw [spanAt, opcodeAt_eq, answer_map]
  rfl

theorem range_of_le {values : Array α} {start stop : UInt64} (ordered : start.toNat ≤ stop.toNat)
    (inside : stop.toNat ≤ values.size) :
    range values start stop = .ok (values.extract start.toNat stop.toNat).toList :=
  if_pos ⟨ordered, inside⟩

theorem slice_eq (trace : Trace) (offset count : UInt64) :
    slice trace offset count = answer (trace.slice offset count) := by
  by_cases inside : offset.toNat < trace.bytes.size
  · have bound := trace.size_lt
    have ordered : offset.toNat ≤ trace.size.toNat := by
      rw [Trace.toNat_size]
      exact Nat.le_of_lt inside
    have available : (trace.size - offset).toNat = trace.bytes.size - offset.toNat := by
      rw [UInt64.toNat_sub_of_le trace.size offset (UInt64.le_iff_toNat_le.mpr ordered),
        Trace.toNat_size]
    let taken := if count ≤ trace.size - offset then count else trace.size - offset
    have takenEqual : taken.toNat = min count.toNat (trace.bytes.size - offset.toNat) := by
      simp only [taken, UInt64.le_iff_toNat_le, available]
      split <;> omega
    have fits : offset.toNat + taken.toNat < UInt64.size := by
      rw [takenEqual, UInt64.size]
      omega
    have stop : (offset + taken).toNat = offset.toNat + taken.toNat := by
      rw [UInt64.toNat_add, Nat.mod_eq_of_lt fits]
    have bytes : trace.bytes.extract offset.toNat (offset + taken).toNat =
        trace.bytes.extract offset.toNat (offset.toNat + count.toNat) := by
      rw [stop, takenEqual]
      apply Array.ext
      · simp only [Array.size_extract]
        omega
      · simp
    rw [slice, index_of_inside inside, ok_bind, difference_of_le ordered, ok_bind,
      sum_of_lt fits, ok_bind, range_of_le (by omega) (by omega), bytes, Trace.slice, if_pos inside]
    rfl
  · rw [slice, index_of_outside (Nat.le_of_not_lt inside), Trace.slice, if_neg inside]
    rfl

/-! ## Listings -/

/-- The walk of a listing. The offset behind an instruction is computed even if nothing more is
asked for. -/
def instructionsFrom (trace : Trace) :
    (count : Nat) → (offset : UInt64) → Except Halt (List Instruction)
  | 0, _ => .ok []
  | count + 1, offset =>
      if offset < trace.size then do
        let raw ← byte trace offset
        let opcode ← opcodeAt trace offset
        let next ← sum offset (opcode.span?.getD 1)
        let later ← instructionsFrom trace count next
        .ok ({ offset, raw } :: later)
      else
        .ok []

def disassemble (trace : Trace) (offset count : UInt64) : Except Halt (List Instruction) := do
  let _ ← byte trace offset
  instructionsFrom trace count.toNat offset

theorem sum_next {trace : Trace} {entry : Instruction} (shows : entry.Shows trace) :
    sum entry.offset (entry.opcode.span?.getD 1) = .ok entry.next := by
  rcases shows with ⟨inside, _⟩
  have bound := trace.size_lt
  have small : (entry.opcode.span?.getD 1).toNat ≤ 2 := by
    rw [Opcode.span?_getD_one]
    split <;> decide
  apply sum_of_lt
  rw [UInt64.size]
  omega

theorem instructionsFrom_eq (trace : Trace) (count : Nat) (offset : UInt64) :
    instructionsFrom trace count offset = .ok (trace.instructionsFrom count offset) := by
  induction count generalizing offset with
  | zero => rfl
  | succ count induction =>
      simp only [instructionsFrom, lt_size_iff]
      by_cases inside : offset.toNat < trace.bytes.size
      · let first : Instruction := { offset, raw := trace.bytes[offset.toNat] }
        have shows : first.Shows trace := ⟨inside, rfl⟩
        have next : sum offset ((Opcode.decode trace.bytes[offset.toNat]).span?.getD 1) =
            .ok first.next := sum_next shows
        rw [if_pos inside, byte_of_inside inside, ok_bind, opcodeAt_of_inside inside, ok_bind,
          next, ok_bind, induction, ok_bind, Trace.instructionsFrom_of_inside trace count inside]
      · rw [if_neg inside, Trace.instructionsFrom_of_outside _ _ (Nat.le_of_not_lt inside)]

theorem disassemble_eq (trace : Trace) (offset count : UInt64) :
    disassemble trace offset count = answer (trace.disassemble offset count) := by
  rw [disassemble, byte_eq, Trace.byte, Trace.disassemble]
  split
  · exact instructionsFrom_eq trace count.toNat offset
  · rfl

end OpcodeTrace.Checked
