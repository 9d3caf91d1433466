import OpcodeTrace.Proofs.Checked.Trace
import OpcodeTrace.Proofs.Reader.Landings

/-! Operations on a reader, carried out with checks. Only a count that is to be raised and has no
room left can halt one. -/

namespace OpcodeTrace.Checked

open Reader (Operation Operated Run)

variable {Answer : Type}

/-! ## Breakpoints and counts -/

def flagIndex (reader : Reader) (offset : UInt64) : Except Halt Nat :=
  if offset.toNat < reader.flags.size then .ok offset.toNat
  else .error (.refused { offset, size := reader.size })

def flag (reader : Reader) (offset : UInt64) (value : Bool) : Except Halt Reader := do
  let place ← flagIndex reader offset
  let _ ← entry reader.flags place
  .ok { reader with
    flags := reader.flags.setIfInBounds place value
    size_flags := by simp [reader.size_flags] }

def countOf (reader : Reader) (opcode : Opcode) : Except Halt UInt64 :=
  entry reader.counts.toArray opcode.value.toNat

def countLanding (reader : Reader) (opcode : Opcode) : Except Halt Reader := do
  let count ← countOf reader opcode
  let raised ← sum count 1
  .ok { reader with counts := reader.counts.setIfInBounds opcode.value.toNat raised }

theorem flag_eq (reader : Reader) (offset : UInt64) (value : Bool) :
    flag reader offset value = answer (reader.flag offset value) := by
  by_cases inside : offset.toNat < reader.flags.size
  · have place : flagIndex reader offset = .ok offset.toNat := if_pos inside
    simp only [flag, place, ok_bind, entry_of_lt inside, Reader.flag, dif_pos inside,
      Array.setIfInBounds]
    rfl
  · have place : flagIndex reader offset = .error (.refused { offset, size := reader.size }) :=
      if_neg inside
    rw [flag, place, Reader.flag, dif_neg inside]
    rfl

theorem countOf_eq (reader : Reader) (opcode : Opcode) :
    countOf reader opcode = .ok (reader.countOf opcode) := by
  have inside : opcode.value.toNat < reader.counts.toArray.size := by
    rw [Vector.size_toArray]
    exact opcode.value.toNat_lt
  rw [countOf, entry_of_lt inside]
  rfl

theorem countLanding_eq (reader : Reader) (opcode : Opcode) :
    countLanding reader opcode =
      if (reader.countOf opcode).toNat + 1 < UInt64.size then .ok (reader.countLanding opcode)
      else .error .overflow := by
  have inside : opcode.value.toNat < 256 := opcode.value.toNat_lt
  rw [countLanding, countOf_eq, ok_bind, sum, UInt64.toNat_one]
  split
  · have same : reader.counts.setIfInBounds opcode.value.toNat (reader.countOf opcode + 1) =
        reader.counts.set opcode.value.toNat (reader.countOf opcode + 1) := by
      apply Vector.ext
      simp [Vector.getElem_setIfInBounds, Vector.getElem_set]
    rw [ok_bind, same]
    rfl
  · rfl

/-! ## Steps -/

def land (reader : Reader) : Except Halt Run :=
  match opcodeAt reader.trace reader.ip with
  | .error (.refused _) => .ok { reader, status := .finished }
  | .error fault => .error fault
  | .ok opcode => do
      let counted ← countLanding reader opcode
      let flagged ← entry reader.flags reader.ip.toNat
      .ok { reader := counted, status := if flagged then .atBreakpoint else .stopped }

/-- The end of the instruction is computed exactly. The byte in the report of a step off a byte that
is no instruction is read once more. -/
def step (reader : Reader) : Except Halt Run :=
  match spanAt reader.trace reader.ip with
  | .error (.refused _) => .ok { reader, status := .finished }
  | .error fault => .error fault
  | .ok (some span) => do
      let target ← sum reader.ip span
      land (reader.jump target)
  | .ok none => do
      let raw ← entry reader.trace.bytes reader.ip.toNat
      .ok
        { reader := reader.jump reader.size
          status := .finished
          events := [.undecodable raw reader.ip] }

theorem land_of_outside (reader : Reader) (outside : reader.trace.bytes.size ≤ reader.ip.toNat) :
    land reader = .ok reader.land := by
  rw [land, opcodeAt_of_outside outside, reader.land_of_outside outside]

theorem land_of_inside (reader : Reader) (inside : reader.ip.toNat < reader.trace.bytes.size) :
    land reader =
      let opcode := Opcode.decode reader.trace.bytes[reader.ip.toNat]
      if (reader.countOf opcode).toNat + 1 < UInt64.size then .ok reader.land
      else .error .overflow := by
  have flagged : reader.ip.toNat < reader.flags.size := reader.size_flags.symm ▸ inside
  rw [land, opcodeAt_of_inside inside]
  dsimp only
  rw [countLanding_eq]
  split
  · rw [ok_bind, entry_of_lt flagged, ok_bind, Reader.land, dif_pos inside]
  · rfl

theorem step_cases (reader : Reader) :
    step reader = .ok reader.step ∨
      ∃ opcode, reader.landing? = some opcode ∧
        UInt64.size ≤ (reader.countOf opcode).toNat + 1 ∧ step reader = .error .overflow := by
  rcases reader.step_cases with ⟨outside, plain⟩ | ⟨inside, spans, plain⟩ |
    ⟨inside, span, spans, plain⟩
  · left
    rw [step, spanAt_of_outside outside, plain]
  · left
    rw [step, spanAt_of_inside inside, spans, plain]
    dsimp only
    rw [entry_of_lt inside, ok_bind]
  · have fits : reader.ip.toNat + span.toNat < UInt64.size := by
      rw [← Reader.toNat_ip_add_span inside spans]
      exact UInt64.toNat_lt_size _
    have walked : step reader = land (reader.jump (reader.ip + span)) := by
      rw [step, spanAt_of_inside inside, spans]
      dsimp only
      rw [sum_of_lt fits, ok_bind]
    rw [walked, plain]
    by_cases lands : (reader.ip + span).toNat < reader.trace.bytes.size
    · rw [land_of_inside (reader.jump (reader.ip + span)) lands]
      dsimp only
      split
      · exact .inl rfl
      · next full => exact .inr ⟨_, Reader.landing_of_span plain lands, Nat.le_of_not_lt full, rfl⟩
    · exact .inl (land_of_outside _ (Nat.le_of_not_lt lands))

theorem eq_step_of_ok {reader : Reader} {run : Run} (stepped : step reader = .ok run) :
    run = reader.step := by
  rcases step_cases reader with plain | ⟨_, _, _, halts⟩
  · rw [plain] at stepped
    exact (Except.ok.inj stepped).symm
  · rw [halts] at stepped
    cases stepped

/-! ## Runs -/

theorem remaining_lt {reader : Reader} {run : Run} (stepped : step reader = .ok run)
    (stopped : run.status = .stopped) : run.reader.remaining < reader.remaining := by
  cases eq_step_of_ok stepped
  exact Reader.remaining_step_lt stopped

def runOn (reader : Reader) : Except Halt Run :=
  match _ : step reader with
  | .error fault => .error fault
  | .ok run => if _ : run.status = .stopped then runOn run.reader else .ok run
termination_by reader.remaining
decreasing_by exact remaining_lt (by assumption) (by assumption)

def resume (reader : Reader) : Except Halt Run :=
  (runOn reader).map fun run =>
    { run with events := run.events ++ [.continued run.reader.ip run.status] }

def runToReturn (reader : Reader) : Except Halt Run :=
  match opcodeAt reader.trace reader.ip with
  | .error (.refused _) => .ok { reader, status := .finished }
  | .error fault => .error fault
  | .ok opcode =>
      if opcode.isTerminator then .ok { reader, status := .stopped }
      else
        match _ : step reader with
        | .error fault => .error fault
        | .ok run =>
            if _ : run.status = .stopped then runToReturn run.reader
            else
              .ok { run with events := run.events ++ [.interrupted run.reader.ip run.status] }
termination_by reader.remaining
decreasing_by exact remaining_lt (by assumption) (by assumption)

theorem runOn_of_step {reader : Reader} (stepped : step reader = .ok reader.step) :
    runOn reader =
      if reader.step.status = .stopped then runOn reader.step.reader else .ok reader.step := by
  rw [runOn]
  split
  · next halts =>
    rw [stepped] at halts
    cases halts
  · next run same =>
    cases eq_step_of_ok same
    rw [dite_eq_ite]

theorem opcodeAt_ip_eq (reader : Reader) :
    opcodeAt reader.trace reader.ip = answer reader.current :=
  opcodeAt_eq reader.trace reader.ip

theorem runToReturn_of_step {reader : Reader} {opcode : Opcode}
    (stands : reader.current = .ok opcode) (goesOn : ¬ opcode.isTerminator)
    (stepped : step reader = .ok reader.step) :
    runToReturn reader =
      if reader.step.status = .stopped then runToReturn reader.step.reader
      else
        .ok { reader.step with
          events := reader.step.events ++
            [.interrupted reader.step.reader.ip reader.step.status] } := by
  rw [runToReturn, opcodeAt_ip_eq, stands]
  dsimp only [answer]
  rw [if_neg goesOn]
  split
  · next halts =>
    rw [stepped] at halts
    cases halts
  · next run same =>
    cases eq_step_of_ok same
    rw [dite_eq_ite]

theorem runOn_eq {reader : Reader}
    (steps : ∀ stepped ∈ reader.runOnSteps, step stepped = .ok stepped.step) :
    runOn reader = .ok reader.runOn := by
  fun_induction Reader.runOn reader with
  | case1 reader stopped induction =>
      rw [Reader.runOnSteps, dif_pos stopped] at steps
      rcases List.forall_mem_cons.mp steps with ⟨first, later⟩
      rw [runOn_of_step first, if_pos stopped]
      exact induction later
  | case2 reader goesOn =>
      rw [Reader.runOnSteps, dif_neg goesOn] at steps
      rw [runOn_of_step (steps reader List.mem_cons_self), if_neg goesOn]

theorem runToReturn_eq {reader : Reader}
    (steps : ∀ stepped ∈ reader.runToReturnSteps, step stepped = .ok stepped.step) :
    runToReturn reader = .ok reader.runToReturn := by
  fun_induction Reader.runToReturn reader with
  | case1 reader error missing =>
      rw [runToReturn, opcodeAt_ip_eq, missing]
      rfl
  | case2 reader opcode stands ends =>
      rw [runToReturn, opcodeAt_ip_eq, stands]
      dsimp only [answer]
      rw [if_pos ends]
  | case3 reader opcode stands goesOn stopped induction =>
      rw [Reader.runToReturnSteps, stands] at steps
      dsimp only at steps
      rw [if_neg goesOn, dif_pos stopped] at steps
      rcases List.forall_mem_cons.mp steps with ⟨first, later⟩
      rw [runToReturn_of_step stands goesOn first, if_pos stopped]
      exact induction later
  | case4 reader opcode stands goesOn stopped =>
      rw [Reader.runToReturnSteps, stands] at steps
      dsimp only at steps
      rw [if_neg goesOn, dif_neg stopped] at steps
      rw [runToReturn_of_step stands goesOn (steps reader List.mem_cons_self), if_neg stopped]

/-! ## Operations -/

def settled (reader : Reader) : Except Halt Reader → Except Halt Operated
  | .ok changed => .ok { reader := changed }
  | .error (.refused refusal) => .ok { reader, refusal := some refusal }
  | .error fault => .error fault

/-- The operations that are not named neither touch an entry of an array nor compute an offset.
What is asked of the reader inside frames is not theirs. -/
def operate (reader : Reader) : Operation Answer → Except Halt Operated
  | .step => (step reader).map Run.operated
  | .resume => (resume reader).map Run.operated
  | .runToReturn => (runToReturn reader).map Run.operated
  | .setBreakpoint offset => settled reader (flag reader offset true)
  | .clearBreakpoint offset => settled reader (flag reader offset false)
  | .disassemble offset count =>
      settled reader ((disassemble reader.trace offset count).map fun _ => reader)
  | operation => .ok (reader.operate operation)

def after (reader : Reader) : List (Operation Answer) → Except Halt Reader
  | [] => .ok reader
  | operation :: later => do
      let operated ← operate reader operation
      after operated.reader later

theorem settled_answer (reader : Reader) (result : Except OutOfBounds Reader) :
    settled reader (answer result) = .ok (reader.changed result) := by
  cases result <;> rfl

/-! ## Room -/

def Room (reader : Reader) (amount : Nat) : Prop :=
  ∀ opcode, (reader.countOf opcode).toNat + amount < UInt64.size

theorem Room.mono {reader : Reader} {less more : Nat} (room : Room reader more)
    (fewer : less ≤ more) : Room reader less := by
  intro opcode
  have bound := room opcode
  omega

theorem Room.of_landings {before later : Reader} {landed : List Opcode} {amount : Nat}
    (room : Room before (landed.length + amount))
    (raised : ∀ opcode, later.countOf opcode =
      before.countOf opcode + .ofNat (landed.count opcode)) : Room later amount := by
  intro opcode
  have bound := room opcode
  have few : landed.count opcode ≤ landed.length := List.count_le_length
  have countFits : landed.count opcode < UInt64.size := by omega
  have sumFits : (before.countOf opcode).toNat + landed.count opcode < UInt64.size := by omega
  have exact : (later.countOf opcode).toNat =
      (before.countOf opcode).toNat + landed.count opcode := by
    rw [raised, UInt64.toNat_add, UInt64.toNat_ofNat_of_lt' countFits]
    exact Nat.mod_eq_of_lt sumFits
  omega

theorem step_eq {reader : Reader} (room : Room reader reader.landing?.toList.length) :
    step reader = .ok reader.step := by
  rcases step_cases reader with plain | ⟨opcode, lands, full, _⟩
  · exact plain
  · have bound := room opcode
    rw [lands] at bound
    exact absurd bound (Nat.not_lt.mpr full)

theorem step_eq_of_stepsThrough {first last : Reader} {steps : List Reader}
    (through : Reader.StepsThrough first steps last)
    (room : Room first (steps.filterMap Reader.landing?).length) :
    ∀ stepped ∈ steps, step stepped = .ok stepped.step := by
  induction through with
  | rest reader => simp
  | @step reader last later _ induction =>
      -- The first step takes the room that its own landing needs and leaves the rest to the others.
      rw [Reader.landings_of_cons, List.length_append] at room
      intro stepped member
      rcases List.mem_cons.mp member with same | isLater
      · subst same
        exact step_eq (room.mono (Nat.le_add_right _ _))
      · exact induction (room.of_landings reader.countOf_advance) stepped isLater

theorem operate_eq {reader : Reader} {operation : Operation Answer}
    (room : Room reader (reader.landings operation).length) :
    operate reader operation = .ok (reader.operate operation) := by
  cases operation with
  | step =>
      have steps := step_eq_of_stepsThrough (.step (.rest reader.advance)) room
      rw [operate, steps reader List.mem_cons_self]
      rfl
  | resume =>
      rw [operate, resume, runOn_eq (step_eq_of_stepsThrough reader.stepsThrough_runOn room)]
      rfl
  | runToReturn =>
      rw [operate,
        runToReturn_eq (step_eq_of_stepsThrough reader.stepsThrough_runToReturn room)]
      rfl
  | setBreakpoint offset =>
      rw [operate, flag_eq, settled_answer]
      rfl
  | clearBreakpoint offset =>
      rw [operate, flag_eq, settled_answer]
      rfl
  | disassemble offset count =>
      rw [operate, disassemble_eq, answer_map, settled_answer, Reader.operate, Reader.disassemble]
      cases reader.trace.disassemble offset count <;> rfl
  | jump | clearBreakpoints | resetCounts | reset | inspect => rfl

theorem Room.operate {reader : Reader} {operation : Operation Answer} {amount : Nat}
    (room : Room reader ((reader.landings operation).length + amount)) :
    Room (reader.operate operation).reader amount := by
  by_cases forgets : operation.forgets
  · intro opcode
    have bound := room opcode
    rw [Reader.countOf_of_noCounts (reader.counts_of_forgets forgets), UInt64.toNat_zero]
    omega
  · exact room.of_landings (reader.countOf_operate forgets)

theorem after_eq {reader : Reader} {operations : List (Operation Answer)}
    (room : Room reader (reader.allLandings operations).length) :
    after reader operations = .ok (reader.after operations) := by
  induction operations generalizing reader with
  | nil => rfl
  | cons operation later induction =>
      rw [Reader.allLandings, List.length_append] at room
      rw [after, operate_eq (room.mono (Nat.le_add_right _ _)), ok_bind, induction room.operate,
        Reader.after_cons]

theorem room_new {trace : Trace} {amount : Nat} (few : amount < UInt64.size) :
    Room (.new trace) amount := by
  intro opcode
  rw [Reader.countOf_of_noCounts rfl, UInt64.toNat_zero, Nat.zero_add]
  exact few

end OpcodeTrace.Checked
