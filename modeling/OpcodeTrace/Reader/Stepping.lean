import OpcodeTrace.Reader.Basic
import OpcodeTrace.Reader.Event

/-! A step leaves the instruction under the reader and lands on the next one. The landing is
counted, so an instruction is counted when the reader comes to it and not when it starts there. -/

namespace OpcodeTrace.Reader

structure Run where
  reader : Reader
  status : Status
  events : List Event := []

def land (reader : Reader) : Run :=
  if inside : reader.ip.toNat < reader.trace.bytes.size then
    have flagged : reader.ip.toNat < reader.flags.size := by rw [reader.size_flags]; exact inside
    { reader := reader.countLanding (Opcode.decode reader.trace.bytes[reader.ip.toNat])
      status := if reader.flags[reader.ip.toNat] then .atBreakpoint else .stopped }
  else
    { reader, status := .finished }

def step (reader : Reader) : Run :=
  if inside : reader.ip.toNat < reader.trace.bytes.size then
    let raw := reader.trace.bytes[reader.ip.toNat]
    match (Opcode.decode raw).span? with
    | some span => (reader.jump (reader.ip + span)).land
    | none =>
        { reader := reader.jump reader.size
          status := .finished
          events := [.undecodable raw reader.ip] }
  else
    { reader, status := .finished }

/-! ## A step moves forward -/

@[simp] theorem countLanding_trace (reader : Reader) (opcode : Opcode) :
    (reader.countLanding opcode).trace = reader.trace := rfl

@[simp] theorem countLanding_ip (reader : Reader) (opcode : Opcode) :
    (reader.countLanding opcode).ip = reader.ip := rfl

@[simp] theorem land_trace (reader : Reader) : reader.land.reader.trace = reader.trace := by
  unfold land
  split <;> rfl

@[simp] theorem land_ip (reader : Reader) : reader.land.reader.ip = reader.ip := by
  unfold land
  split <;> rfl

@[simp] theorem step_trace (reader : Reader) : reader.step.reader.trace = reader.trace := by
  unfold step
  split
  · dsimp only
    split
    · exact land_trace _
    · rfl
  · rfl

theorem inside_of_land_ne_finished {reader : Reader} (lands : reader.land.status ≠ .finished) :
    reader.ip.toNat < reader.trace.bytes.size := by
  unfold land at lands
  split at lands
  · assumption
  · exact absurd rfl lands

theorem toNat_ip_add_span {reader : Reader} {opcode : Opcode} {span : UInt64}
    (inside : reader.ip.toNat < reader.trace.bytes.size) (spans : opcode.span? = some span) :
    (reader.ip + span).toNat = reader.ip.toNat + span.toNat := by
  have bound := reader.trace.size_lt
  rcases Opcode.span?_eq_one_or_two spans with equal | equal
  · subst equal
    rw [UInt64.toNat_add, UInt64.toNat_one]
    omega
  · subst equal
    rw [UInt64.toNat_add, show (2 : UInt64).toNat = 2 from rfl]
    omega

theorem step_advances {reader : Reader} (lands : reader.step.status ≠ .finished) :
    reader.ip.toNat < reader.step.reader.ip.toNat ∧
      reader.step.reader.ip.toNat < reader.trace.bytes.size := by
  unfold step at lands ⊢
  split at lands
  · next inside =>
    dsimp only at lands ⊢
    split at lands
    · next span spans =>
      have landed := inside_of_land_ne_finished lands
      rw [dif_pos inside, spans]
      dsimp only
      rw [land_ip]
      refine ⟨?_, landed⟩
      change reader.ip.toNat < (reader.ip + span).toNat
      rw [toNat_ip_add_span inside spans]
      rcases Opcode.span?_eq_one_or_two spans with equal | equal <;> subst equal
      · exact Nat.lt_succ_self _
      · exact Nat.lt_add_of_pos_right (by decide)
    · exact absurd rfl lands
  · exact absurd rfl lands

/-- The bytes from the reader to the end of its trace. Every step that does not finish leaves
fewer. -/
def remaining (reader : Reader) : Nat :=
  reader.trace.bytes.size - reader.ip.toNat

theorem remaining_step_lt {reader : Reader} (stopped : reader.step.status = .stopped) :
    reader.step.reader.remaining < reader.remaining := by
  have notFinished : reader.step.status ≠ .finished := by rw [stopped]; decide
  have advances := step_advances notFinished
  simp only [remaining, step_trace]
  omega

/-! ## Runs of steps -/

/-- Steps until something else than an ordinary landing happens. Steps before the last one report
nothing. -/
def runOn (reader : Reader) : Run :=
  if _ : reader.step.status = .stopped then
    reader.step.reader.runOn
  else
    reader.step
termination_by reader.remaining
decreasing_by exact remaining_step_lt (by assumption)

def resume (reader : Reader) : Run :=
  let run := reader.runOn
  { run with events := run.events ++ [.continued run.reader.ip run.status] }

/-- Steps until the reader stands on a terminator; it may stand on one already. A breakpoint or the
end of the trace ends the run early. -/
def runToReturn (reader : Reader) : Run :=
  match reader.current with
  | .error _ => { reader, status := .finished }
  | .ok opcode =>
      if opcode.isTerminator then { reader, status := .stopped }
      else if _ : reader.step.status = .stopped then
        reader.step.reader.runToReturn
      else
        { reader.step with
          events := reader.step.events ++
            [.interrupted reader.step.reader.ip reader.step.status] }
termination_by reader.remaining
decreasing_by exact remaining_step_lt (by assumption)

end OpcodeTrace.Reader
