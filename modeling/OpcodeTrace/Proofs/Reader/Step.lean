import Mathlib.Logic.Function.Iterate
import OpcodeTrace.Reader.Stepping

/-! What a step can do, told once. -/

namespace OpcodeTrace.Reader

/-! ## Looking at the opcode under the reader -/

theorem current_of_inside (reader : Reader) (inside : reader.ip.toNat < reader.trace.bytes.size) :
    reader.current = .ok (Opcode.decode reader.trace.bytes[reader.ip.toNat]) := by
  rw [current, Trace.opcodeAt, Trace.byte, dif_pos inside]
  rfl

theorem outside_of_current_eq_error {reader : Reader} {error : OutOfBounds}
    (missing : reader.current = .error error) :
    reader.trace.bytes.size ≤ reader.ip.toNat := by
  by_contra notOutside
  rw [reader.current_of_inside (Nat.lt_of_not_le notOutside)] at missing
  cases missing

/-! ## Arriving -/

theorem land_of_outside (reader : Reader)
    (outside : reader.trace.bytes.size ≤ reader.ip.toNat) :
    reader.land = { reader, status := .finished } := by
  rw [land, dif_neg (Nat.not_lt.mpr outside)]

theorem land_of_inside (reader : Reader) (inside : reader.ip.toNat < reader.trace.bytes.size) :
    reader.land =
      { reader := reader.countLanding (Opcode.decode reader.trace.bytes[reader.ip.toNat])
        status := if reader.isBreakpoint reader.ip then .atBreakpoint else .stopped } := by
  have flagged : reader.ip.toNat < reader.flags.size := reader.size_flags ▸ inside
  rw [land, dif_pos inside, isBreakpoint, Array.getElem?_eq_getElem flagged, Option.getD_some]

theorem outside_of_land_finished {reader : Reader} (finished : reader.land.status = .finished) :
    reader.trace.bytes.size ≤ reader.ip.toNat := by
  by_contra notOutside
  rw [reader.land_of_inside (Nat.lt_of_not_le notOutside)] at finished
  dsimp only at finished
  split at finished <;> cases finished

theorem isBreakpoint_congr {left right : Reader} (same : left.flags = right.flags)
    (offset : UInt64) : left.isBreakpoint offset = right.isBreakpoint offset := by
  simp only [isBreakpoint, same]

@[simp] theorem land_flags (reader : Reader) : reader.land.reader.flags = reader.flags := by
  unfold land
  split <;> rfl

@[simp] theorem land_events (reader : Reader) : reader.land.events = [] := by
  unfold land
  split <;> rfl

theorem countOf_countLanding (reader : Reader) (landed opcode : Opcode) :
    (reader.countLanding landed).countOf opcode =
      if landed = opcode then reader.countOf opcode + 1 else reader.countOf opcode := by
  have same : landed = opcode ↔ landed.value.toNat = opcode.value.toNat := by
    constructor
    · exact fun equal => congrArg (fun opcode => opcode.value.toNat) equal
    · intro equal
      cases landed
      cases opcode
      exact congrArg Opcode.mk (UInt8.toNat_inj.mp equal)
  simp only [countOf, countLanding, Vector.getElem_set, same]
  split
  · next equal => simp only [equal]
  · rfl

/-! ## Stepping -/

theorem step_of_outside (reader : Reader)
    (outside : reader.trace.bytes.size ≤ reader.ip.toNat) :
    reader.step = { reader, status := .finished } := by
  rw [step, dif_neg (Nat.not_lt.mpr outside)]

theorem step_of_undecodable (reader : Reader)
    (inside : reader.ip.toNat < reader.trace.bytes.size)
    (undecodable : (Opcode.decode reader.trace.bytes[reader.ip.toNat]).span? = none) :
    reader.step =
      { reader := reader.jump reader.size
        status := .finished
        events := [.undecodable reader.trace.bytes[reader.ip.toNat] reader.ip] } := by
  rw [step, dif_pos inside]
  dsimp only
  rw [undecodable]

theorem step_of_span (reader : Reader) {span : UInt64}
    (inside : reader.ip.toNat < reader.trace.bytes.size)
    (spans : (Opcode.decode reader.trace.bytes[reader.ip.toNat]).span? = some span) :
    reader.step = (reader.jump (reader.ip + span)).land := by
  rw [step, dif_pos inside]
  dsimp only
  rw [spans]

/-- Everything that a step can do. -/
theorem step_cases (reader : Reader) :
    (reader.trace.bytes.size ≤ reader.ip.toNat ∧
      reader.step = { reader, status := .finished }) ∨
    (∃ inside : reader.ip.toNat < reader.trace.bytes.size,
      (Opcode.decode reader.trace.bytes[reader.ip.toNat]).span? = none ∧
      reader.step =
        { reader := reader.jump reader.size
          status := .finished
          events := [.undecodable reader.trace.bytes[reader.ip.toNat] reader.ip] }) ∨
    (∃ (inside : reader.ip.toNat < reader.trace.bytes.size) (span : UInt64),
      (Opcode.decode reader.trace.bytes[reader.ip.toNat]).span? = some span ∧
      reader.step = (reader.jump (reader.ip + span)).land) := by
  by_cases inside : reader.ip.toNat < reader.trace.bytes.size
  · cases spans : (Opcode.decode reader.trace.bytes[reader.ip.toNat]).span? with
    | none => exact .inr (.inl ⟨inside, spans, reader.step_of_undecodable inside spans⟩)
    | some span => exact .inr (.inr ⟨inside, span, spans, reader.step_of_span inside spans⟩)
  · have outside := Nat.le_of_not_lt inside
    exact .inl ⟨outside, reader.step_of_outside outside⟩

@[simp] theorem step_flags (reader : Reader) : reader.step.reader.flags = reader.flags := by
  rcases reader.step_cases with ⟨_, step⟩ | ⟨_, _, step⟩ | ⟨_, span, _, step⟩
  · rw [step]
  · rw [step]
    rfl
  · rw [step, land_flags]
    rfl

theorem outside_of_step_finished {reader : Reader} (finished : reader.step.status = .finished) :
    reader.trace.bytes.size ≤ reader.step.reader.ip.toNat := by
  rcases reader.step_cases with ⟨outside, step⟩ | ⟨_, _, step⟩ | ⟨_, span, _, step⟩
  · rw [step]
    exact outside
  · rw [step]
    exact Nat.le_of_eq (Trace.toNat_size reader.trace).symm
  · rw [step] at finished ⊢
    rw [land_ip]
    exact outside_of_land_finished finished

/-! ## Finishing -/

/-- The next step leaves the trace for an offset and counts nothing. -/
structure FinishesAt (reader : Reader) (offset : Nat) : Prop where
  status : reader.step.status = .finished
  ip : reader.step.reader.ip.toNat = offset
  counts : reader.step.reader.counts = reader.counts

theorem finishesAt_of_undecodable {reader : Reader}
    (inside : reader.ip.toNat < reader.trace.bytes.size)
    (undecodable : (Opcode.decode reader.trace.bytes[reader.ip.toNat]).span? = none) :
    reader.FinishesAt reader.trace.bytes.size := by
  have step := reader.step_of_undecodable inside undecodable
  constructor
  · rw [step]
  · rw [step]
    exact Trace.toNat_size reader.trace
  · rw [step]
    rfl

theorem finishesAt_of_span {reader : Reader} {span : UInt64}
    (inside : reader.ip.toNat < reader.trace.bytes.size)
    (spans : (Opcode.decode reader.trace.bytes[reader.ip.toNat]).span? = some span)
    (outside : reader.trace.bytes.size ≤ reader.ip.toNat + span.toNat) :
    reader.FinishesAt (reader.ip.toNat + span.toNat) := by
  have moved := toNat_ip_add_span inside spans
  have step := reader.step_of_span inside spans
  rw [← moved] at outside
  rw [(reader.jump (reader.ip + span)).land_of_outside outside] at step
  constructor
  · rw [step]
  · rw [step]
    exact moved
  · rw [step]
    rfl

/-! ## Many steps -/

def advance (reader : Reader) : Reader :=
  reader.step.reader

@[simp] theorem advance_trace (reader : Reader) : reader.advance.trace = reader.trace :=
  reader.step_trace

@[simp] theorem advance_flags (reader : Reader) : reader.advance.flags = reader.flags :=
  reader.step_flags

theorem advance_of_outside (reader : Reader)
    (outside : reader.trace.bytes.size ≤ reader.ip.toNat) : reader.advance = reader := by
  rw [advance, reader.step_of_outside outside]

theorem exists_land_eq (reader : Reader) : ∃ counts, reader.land.reader = { reader with counts } := by
  by_cases inside : reader.ip.toNat < reader.trace.bytes.size
  · rw [reader.land_of_inside inside]
    exact ⟨_, rfl⟩
  · rw [reader.land_of_outside (Nat.le_of_not_lt inside)]
    exact ⟨_, rfl⟩

theorem exists_advance_eq (reader : Reader) :
    ∃ ip counts, reader.advance = { reader with ip, counts } ∧ reader.ip.toNat ≤ ip.toNat := by
  rcases reader.step_cases with ⟨_, step⟩ | ⟨inside, _, step⟩ | ⟨inside, span, spans, step⟩
  · rw [advance, step]
    exact ⟨_, _, rfl, Nat.le_refl _⟩
  · rw [advance, step]
    refine ⟨_, _, rfl, ?_⟩
    rw [size, Trace.toNat_size]
    exact Nat.le_of_lt inside
  · rcases (reader.jump (reader.ip + span)).exists_land_eq with ⟨counts, landed⟩
    rw [advance, step, landed]
    refine ⟨reader.ip + span, counts, rfl, ?_⟩
    rw [toNat_ip_add_span inside spans]
    exact Nat.le_add_right ..

@[simp] theorem iterate_advance_trace (reader : Reader) (count : Nat) :
    (advance^[count] reader).trace = reader.trace := by
  induction count with
  | zero => rfl
  | succ count induction => rw [Function.iterate_succ_apply', advance_trace, induction]

@[simp] theorem iterate_advance_flags (reader : Reader) (count : Nat) :
    (advance^[count] reader).flags = reader.flags := by
  induction count with
  | zero => rfl
  | succ count induction => rw [Function.iterate_succ_apply', advance_flags, induction]

/-- Steps lead from one reader to another. They are taken from the readers of the list, one after
another. -/
inductive StepsThrough : Reader → List Reader → Reader → Prop
  | rest (reader : Reader) : StepsThrough reader [] reader
  | step {reader last : Reader} {later : List Reader}
      (steps : StepsThrough reader.advance later last) : StepsThrough reader (reader :: later) last

theorem StepsThrough.eq_iterate_advance {first last : Reader} {stepped : List Reader}
    (steps : StepsThrough first stepped last) : last = advance^[stepped.length] first := by
  induction steps with
  | rest reader => rfl
  | step _ induction => exact induction

theorem StepsThrough.exists_eq {first last : Reader} {stepped : List Reader}
    (steps : StepsThrough first stepped last) :
    ∃ ip counts, last = { first with ip, counts } ∧ first.ip.toNat ≤ ip.toNat := by
  induction steps with
  | rest reader => exact ⟨_, _, rfl, Nat.le_refl _⟩
  | @step reader last later _ induction =>
      rcases reader.exists_advance_eq with ⟨ip, counts, advanced, forward⟩
      rcases induction with ⟨lastIp, lastCounts, rfl, further⟩
      rw [advanced] at further ⊢
      exact ⟨_, _, rfl, Nat.le_trans forward further⟩

/-! ## The steps of a run -/

def runOnSteps (reader : Reader) : List Reader :=
  reader :: if _ : reader.step.status = .stopped then reader.step.reader.runOnSteps else []
termination_by reader.remaining
decreasing_by exact remaining_step_lt (by assumption)

def runToReturnSteps (reader : Reader) : List Reader :=
  match reader.current with
  | .error _ => []
  | .ok opcode =>
      if opcode.isTerminator then []
      else
        reader ::
          if _ : reader.step.status = .stopped then reader.step.reader.runToReturnSteps else []
termination_by reader.remaining
decreasing_by exact remaining_step_lt (by assumption)

theorem stepsThrough_runOn (reader : Reader) :
    StepsThrough reader reader.runOnSteps reader.runOn.reader := by
  fun_induction runOn reader with
  | case1 reader stopped induction =>
      rw [runOnSteps, dif_pos stopped]
      exact .step induction
  | case2 reader goesOn =>
      rw [runOnSteps, dif_neg goesOn]
      exact .step (.rest _)

theorem stepsThrough_runToReturn (reader : Reader) :
    StepsThrough reader reader.runToReturnSteps reader.runToReturn.reader := by
  fun_induction runToReturn reader with
  | case1 reader error missing =>
      rw [runToReturnSteps, missing]
      exact .rest reader
  | case2 reader opcode stands ends =>
      rw [runToReturnSteps, stands]
      dsimp only
      rw [if_pos ends]
      exact .rest reader
  | case3 reader opcode stands goesOn stopped induction =>
      rw [runToReturnSteps, stands]
      dsimp only
      rw [if_neg goesOn, dif_pos stopped]
      exact .step induction
  | case4 reader opcode stands goesOn stopped =>
      rw [runToReturnSteps, stands]
      dsimp only
      rw [if_neg goesOn, dif_neg stopped]
      exact .step (.rest _)

theorem exists_runOn_eq_advance (reader : Reader) :
    ∃ count, reader.runOn.reader = advance^[count] reader :=
  ⟨_, reader.stepsThrough_runOn.eq_iterate_advance⟩

theorem exists_runToReturn_eq_advance (reader : Reader) :
    ∃ count, reader.runToReturn.reader = advance^[count] reader :=
  ⟨_, reader.stepsThrough_runToReturn.eq_iterate_advance⟩

end OpcodeTrace.Reader
