import OpcodeTrace.Proofs.Listing.Tiling
import OpcodeTrace.Proofs.Reader.Landings

/-! The walk of a reader: a sequence of places, each at the end of the instruction before it, up
to a byte that is no instruction or the end of the trace. -/

namespace OpcodeTrace

namespace Trace

/-- Where the instruction at an offset ends. There is none outside the trace, and none at a byte that
stands for nothing. -/
def after? (trace : Trace) (offset : UInt64) : Option UInt64 :=
  match trace.spanAt offset with
  | .ok (some span) => some (offset + span)
  | .ok none | .error _ => none

def place? (trace : Trace) (start : UInt64) : Nat → Option UInt64
  | 0 => some start
  | index + 1 => (trace.place? start index).bind trace.after?

def landed (trace : Trace) (start : UInt64) (index : Nat) : List Opcode :=
  (List.range index).filterMap fun earlier =>
    (trace.place? start (earlier + 1)).bind fun place => (trace.opcodeAt place).toOption

/-- Where a walk comes to rest that can't go on from its last place. It gives up the rest of the trace
at a byte that stands for nothing, and outside the trace it stays. -/
def restAt (trace : Trace) (last : UInt64) : UInt64 :=
  if last.toNat < trace.bytes.size then trace.size else last

/-! ## From one place to the next -/

theorem after?_of_inside (trace : Trace) {offset : UInt64}
    (inside : offset.toNat < trace.bytes.size) :
    trace.after? offset =
      (Opcode.decode trace.bytes[offset.toNat]).span?.map fun span => offset + span := by
  rw [after?, spanAt, opcodeAt, byte, dif_pos inside]
  cases spans : (Opcode.decode trace.bytes[offset.toNat]).span? <;> simp [Except.map, spans]

theorem after?_of_outside (trace : Trace) {offset : UInt64}
    (outside : trace.bytes.size ≤ offset.toNat) : trace.after? offset = none := by
  rw [after?, spanAt, opcodeAt, byte, dif_neg (Nat.not_lt.mpr outside)]
  rfl

theorem exists_entry_of_after {trace : Trace} {offset next : UInt64}
    (leads : trace.after? offset = some next) :
    ∃ entry : Instruction, entry.offset = offset ∧ entry.Shows trace ∧ entry.decodes ∧
      entry.next = next := by
  by_cases inside : offset.toNat < trace.bytes.size
  · rw [trace.after?_of_inside inside] at leads
    rcases Option.map_eq_some_iff.mp leads with ⟨span, spans, ends⟩
    let entry : Instruction := { offset, raw := trace.bytes[offset.toNat] }
    have entrySpans : entry.opcode.span? = some span := spans
    refine ⟨entry, rfl, ⟨inside, rfl⟩, ?_, ?_⟩
    · rw [Instruction.decodes, entrySpans]
      rfl
    · exact (Instruction.next_of_span entrySpans).trans ends
  · rw [trace.after?_of_outside (Nat.le_of_not_lt inside)] at leads
    cases leads

theorem lt_of_after {trace : Trace} {offset next : UInt64}
    (leads : trace.after? offset = some next) : offset.toNat < next.toNat := by
  rcases exists_entry_of_after leads with ⟨entry, rfl, shows, _, rfl⟩
  exact Instruction.offset_lt_next shows

theorem toNat_after_of_terminator {trace : Trace} {offset next : UInt64} {opcode : Opcode}
    (leads : trace.after? offset = some next) (stands : trace.opcodeAt offset = .ok opcode)
    (terminates : opcode.isTerminator) : next.toNat = offset.toNat + 2 := by
  rcases exists_entry_of_after leads with ⟨entry, rfl, shows, _, rfl⟩
  have same : opcode = entry.opcode :=
    Except.ok.inj (stands.symm.trans (opcodeAt_of_shows shows))
  rw [Instruction.toNat_next shows, if_pos (same ▸ terminates)]

theorem after?_of_terminator {trace : Trace} {offset : UInt64} {opcode : Opcode}
    (stands : trace.opcodeAt offset = .ok opcode) (terminates : opcode.isTerminator) :
    trace.after? offset = some (offset + 2) := by
  rw [after?, spanAt, stands, of_decide_eq_true terminates]
  rfl

/-! ## Along the places -/

theorem place?_succ (trace : Trace) (start : UInt64) (index : Nat) :
    trace.place? start (index + 1) = (trace.place? start index).bind trace.after? := rfl

theorem landed_succ (trace : Trace) (start : UInt64) (index : Nat) :
    trace.landed start (index + 1) = trace.landed start index ++
      ((trace.place? start (index + 1)).bind fun place =>
        (trace.opcodeAt place).toOption).toList := by
  rw [landed, List.range_succ, List.filterMap_append]
  rfl

theorem place?_lt {trace : Trace} {start earlier later : UInt64} {index beyond : Nat}
    (ordered : index < beyond) (here : trace.place? start index = some earlier)
    (there : trace.place? start beyond = some later) : earlier.toNat < later.toNat := by
  induction ordered generalizing later with
  | refl =>
      rw [Nat.succ_eq_add_one, place?_succ, here] at there
      exact lt_of_after there
  | step _ induction =>
      rw [place?_succ] at there
      rcases Option.bind_eq_some_iff.mp there with ⟨middle, before, leads⟩
      exact Nat.lt_trans (induction before) (lt_of_after leads)

theorem index_le_of_last {trace : Trace} {start last place : UInt64} {index other : Nat}
    (ends : trace.place? start index = some last) (stuck : trace.after? last = none)
    (there : trace.place? start other = some place) : other ≤ index := by
  by_contra beyond
  induction other generalizing place with
  | zero => exact beyond (Nat.zero_le index)
  | succ other induction =>
      rw [place?_succ] at there
      rcases Option.bind_eq_some_iff.mp there with ⟨before, reached, leads⟩
      rcases Nat.lt_or_ge index other with further | near
      · exact induction reached (Nat.not_le.mpr further)
      · have same : other = index := by omega
        rw [same, ends, Option.some_inj] at reached
        rw [← reached, stuck] at leads
        cases leads

theorem place?_ne_start {trace : Trace} {start place : UInt64} {index : Nat} (behind : 0 < index)
    (reached : trace.place? start index = some place) : place ≠ start := by
  rintro rfl
  exact Nat.lt_irrefl _ (place?_lt behind rfl reached)

theorem place?_ne_operand {trace : Trace} {start place terminator : UInt64} {index other : Nat}
    {opcode : Opcode} (reached : trace.place? start index = some place)
    (comes : trace.place? start other = some terminator)
    (stands : trace.opcodeAt terminator = .ok opcode) (terminates : opcode.isTerminator) :
    place.toNat ≠ terminator.toNat + 1 := by
  have leads := after?_of_terminator stands terminates
  have leaps := toNat_after_of_terminator leads stands terminates
  have next : trace.place? start (other + 1) = some (terminator + 2) := by
    rw [place?_succ, comes]
    exact leads
  rcases Nat.lt_trichotomy index (other + 1) with before | same | behind
  · rcases Nat.lt_succ_iff_lt_or_eq.mp before with earlier | isThere
    · have further := place?_lt earlier reached comes
      omega
    · rw [isThere, comes, Option.some_inj] at reached
      subst reached
      omega
  · rw [same, next, Option.some_inj] at reached
    subst reached
    omega
  · have further := place?_lt behind next reached
    omega

end Trace

namespace Reader

/-! ## A step along the walk -/

theorem step_of_after {reader : Reader} {next : UInt64}
    (leads : reader.trace.after? reader.ip = some next) : reader.step = (reader.jump next).land := by
  by_cases inside : reader.ip.toNat < reader.trace.bytes.size
  · rw [reader.trace.after?_of_inside inside] at leads
    rcases Option.map_eq_some_iff.mp leads with ⟨span, spans, rfl⟩
    exact reader.step_of_span inside spans
  · rw [reader.trace.after?_of_outside (Nat.le_of_not_lt inside)] at leads
    cases leads

theorem step_of_after_none {reader : Reader} (ends : reader.trace.after? reader.ip = none) :
    reader.step.status = .finished ∧
      reader.step.reader = reader.jump (reader.trace.restAt reader.ip) := by
  by_cases inside : reader.ip.toNat < reader.trace.bytes.size
  · rw [reader.trace.after?_of_inside inside] at ends
    rw [reader.step_of_undecodable inside (Option.map_eq_none_iff.mp ends), Trace.restAt,
      if_pos inside]
    exact ⟨rfl, rfl⟩
  · rw [reader.step_of_outside (Nat.le_of_not_lt inside), Trace.restAt, if_neg inside]
    exact ⟨rfl, rfl⟩

theorem step_status_of_after {reader : Reader} {next : UInt64}
    (leads : reader.trace.after? reader.ip = some next) :
    reader.step.status =
      if next.toNat < reader.trace.bytes.size then
        if reader.isBreakpoint next then .atBreakpoint else .stopped
      else .finished := by
  rw [step_of_after leads]
  by_cases inside : next.toNat < reader.trace.bytes.size
  · rw [if_pos inside, (reader.jump next).land_of_inside inside]
    rfl
  · rw [if_neg inside, (reader.jump next).land_of_outside (Nat.le_of_not_lt inside)]

theorem after?_of_goesOn {reader : Reader} (goesOn : reader.step.status ≠ .finished) :
    reader.trace.after? reader.ip = some reader.advance.ip := by
  cases leads : reader.trace.after? reader.ip with
  | none => exact absurd (step_of_after_none leads).1 goesOn
  | some next =>
      rw [advance, step_of_after leads, land_ip]
      rfl

theorem landing_eq (reader : Reader) :
    reader.landing? =
      (reader.trace.after? reader.ip).bind fun place => (reader.trace.opcodeAt place).toOption := by
  cases leads : reader.trace.after? reader.ip with
  | none => rw [landing?, if_pos (step_of_after_none leads).1, Option.bind_none]
  | some next =>
      rw [landing?, step_status_of_after leads, step_of_after leads, Option.bind_some]
      by_cases inside : next.toNat < reader.trace.bytes.size
      · have goesOn : (if reader.isBreakpoint next then Status.atBreakpoint else .stopped) ≠
            .finished := by split <;> simp
        rw [if_pos inside, if_neg goesOn, current, land_trace, land_ip]
        rfl
      · rw [if_neg inside, if_pos rfl, Trace.opcodeAt, Trace.byte, dif_neg inside]
        rfl

/-! ## Steps along the walk -/

theorem place?_of_goesOn {reader : Reader} {count : Nat}
    (goesOn : ∀ earlier < count, (advance^[earlier] reader).step.status ≠ .finished) :
    reader.trace.place? reader.ip count = some (advance^[count] reader).ip := by
  induction count with
  | zero => rfl
  | succ count induction =>
      have here := induction fun earlier bound => goesOn earlier (Nat.lt_succ_of_lt bound)
      have leads := after?_of_goesOn (goesOn count (Nat.lt_succ_self count))
      rw [iterate_advance_trace] at leads
      rw [Trace.place?_succ, here, Option.bind_some, leads, Function.iterate_succ_apply']

theorem countOf_iterate_advance {reader : Reader} {count : Nat}
    (goesOn : ∀ earlier, earlier + 1 < count →
      (advance^[earlier] reader).step.status ≠ .finished) (opcode : Opcode) :
    (advance^[count] reader).countOf opcode =
      reader.countOf opcode + .ofNat ((reader.trace.landed reader.ip count).count opcode) := by
  induction count with
  | zero => simp [Trace.landed]
  | succ count induction =>
      have here := place?_of_goesOn fun earlier bound => goesOn earlier (Nat.succ_lt_succ bound)
      have landing := (advance^[count] reader).landing_eq
      rw [iterate_advance_trace] at landing
      rw [Function.iterate_succ_apply', countOf_advance,
        induction fun earlier bound => goesOn earlier (Nat.lt_succ_of_lt bound),
        Trace.landed_succ, Trace.place?_succ, here, Option.bind_some, ← landing, List.count_append,
        UInt64.ofNat_add, UInt64.add_assoc]

end Reader

end OpcodeTrace
