import OpcodeTrace.Proofs.Reader.Grid
import OpcodeTrace.Proofs.Reader.Resume
import OpcodeTrace.Proofs.Reader.Terminator

/-! Where a reader stops. A step may land on a byte that stands for nothing; only the step off it
gives up the rest of the trace. -/

namespace OpcodeTrace

namespace Trace

def Starts (trace : Trace) (offset : UInt64) : Prop :=
  ∃ span, trace.spanAt offset = .ok (some span)

/-- Steps from the start of the trace can come to the entry of its listing: all entries before it
decode. -/
def Reachable (trace : Trace) (entry : Instruction) : Prop :=
  ∃ before later, trace.instructions = before ++ entry :: later ∧
    ∀ earlier ∈ before, earlier.decodes

theorem Reachable.shows {trace : Trace} {entry : Instruction} (reachable : trace.Reachable entry) :
    entry.Shows trace := by
  rcases reachable with ⟨before, later, listed, _⟩
  exact shows_of_mem_instructions (by simp [listed])

theorem starts_iff_decodes {trace : Trace} {entry : Instruction} (shows : entry.Shows trace) :
    trace.Starts entry.offset ↔ entry.decodes := by
  have spans : trace.spanAt entry.offset = .ok entry.opcode.span? := by
    rw [spanAt, opcodeAt_of_shows shows]
    rfl
  simp only [Starts, spans, Except.ok.injEq, Instruction.decodes, Option.isSome_iff_exists]

theorem starts_of_terminator {trace : Trace} {offset : UInt64} {raw : UInt8}
    (read : trace.byte offset = .ok raw) (ends : (Opcode.decode raw).isTerminator) :
    trace.Starts offset := by
  refine ⟨2, ?_⟩
  rw [spanAt, opcodeAt, read]
  exact congrArg Except.ok (Opcode.span?_decode_of_isTerminator ends)

theorem offset_of_instructions {trace : Trace} {entry : Instruction} {later : List Instruction}
    (listed : trace.instructions = entry :: later) : entry.offset = 0 := by
  rw [instructions_eq] at listed
  exact (of_instructionsFrom_eq_cons listed).1

end Trace

namespace Reader

variable {Answer : Type}

/-- A stepping operation has ended, and the reader has not left the trace. -/
def Operated.Stops (operated : Operated) : Prop :=
  operated.status = some .stopped ∨ operated.status = some .atBreakpoint

def StopsOnInstructions (Answer : Type) (trace : Trace) : Prop :=
  ∀ (operations : List (Operation Answer)) (operation : Operation Answer),
    (∀ earlier ∈ operations, ¬ earlier.jumps) → ¬ operation.jumps →
      let operated := ((new trace).after operations).operate operation
      operated.Stops →
        operated.reader.ip.toNat < trace.bytes.size ∧ trace.Starts operated.reader.ip

structure StopsOn (operation : Operation Answer) (operated : Operated) (entry : Instruction) :
    Prop where
  reachable : operated.reader.trace.Reachable entry
  stands : operated.reader.ip = entry.offset
  inside : operated.reader.ip.toNat < operated.reader.trace.bytes.size
  /-- The next step gives up if no instruction starts here. -/
  startsOrGivesUp : operated.reader.trace.Starts operated.reader.ip ∨
    ¬ entry.decodes ∧ operated.reader.ip ≠ 0 ∧
      operated.reader.FinishesAt operated.reader.trace.bytes.size
  returns : operation = .runToReturn → operated.status = some .stopped →
    operated.reader.trace.Starts operated.reader.ip

/-! ## Moving ahead -/

theorem stops_operated_iff {run : Run} : run.operated.Stops ↔ run.status ≠ .finished := by
  rw [Operated.Stops, Run.operated]
  cases run.status <;> simp

theorem runToReturn_ahead {reader : Reader} (stays : reader.runToReturn.status ≠ .finished) :
    reader.runToReturn.reader.ip.toNat < reader.trace.bytes.size ∧
      (reader.runToReturn.status = .stopped ∨
        reader.ip.toNat < reader.runToReturn.reader.ip.toNat) := by
  fun_induction runToReturn reader with
  | case1 reader error missing => exact absurd rfl stays
  | case2 reader opcode stands ends =>
      rcases byte_of_current_eq_ok stands with ⟨raw, read, _⟩
      exact ⟨(inside_of_byte_eq_ok read).1, .inl rfl⟩
  | case3 reader opcode stands goesOn stopped induction =>
      have moves : reader.step.status ≠ .finished := by
        rw [stopped]
        decide
      have advances := step_advances moves
      rcases induction stays with ⟨inside, ahead⟩
      rw [step_trace] at inside
      exact ⟨inside, ahead.imp_right (Nat.lt_trans advances.1)⟩
  | case4 reader opcode stands goesOn ends =>
      have moves : reader.step.status ≠ .finished := stays
      have advances := step_advances moves
      exact ⟨advances.2, .inr advances.1⟩

theorem ahead_of_stops {reader : Reader} {operation : Operation Answer}
    (stops : (reader.operate operation).Stops) :
    (reader.operate operation).reader.ip.toNat < reader.trace.bytes.size ∧
      ((operation = .runToReturn ∧ (reader.operate operation).status = some .stopped) ∨
        (reader.operate operation).reader.ip ≠ 0) := by
  have ahead {first last : UInt64} (further : first.toNat < last.toNat) : last ≠ 0 := by
    rintro rfl
    exact absurd further (Nat.not_lt_zero _)
  cases operation with
  | step =>
      have advances := step_advances (stops_operated_iff.mp stops)
      exact ⟨advances.2, .inr (ahead advances.1)⟩
  | resume =>
      rcases reader.exists_turns_runOn with ⟨turns, _, _, _, equal⟩
      have goesOn : (advance^[turns] reader).step.status ≠ .finished :=
        equal ▸ stops_operated_iff.mp stops
      have advances := step_advances goesOn
      rw [iterate_advance_trace, ← equal] at advances
      exact ⟨advances.2, .inr (ahead advances.1)⟩
  | runToReturn =>
      have run := runToReturn_ahead (stops_operated_iff.mp stops)
      refine ⟨run.1, ?_⟩
      rcases run.2 with stopped | further
      · exact .inl ⟨rfl, congrArg some stopped⟩
      · exact .inr (ahead further)
  | setBreakpoint | clearBreakpoint | disassemble =>
      rw [operate, Operated.Stops, changed_status] at stops
      rcases stops with stopped | breaks
      · cases stopped
      · cases breaks
  | jump | clearBreakpoints | resetCounts | reset | inspect =>
      rcases stops with stopped | breaks
      · cases stopped
      · cases breaks

theorem starts_of_runToReturn_stopped {reader : Reader}
    (stopped : reader.runToReturn.status = .stopped) :
    reader.trace.Starts reader.runToReturn.reader.ip := by
  rcases byte_of_runToReturn_stopped stopped with ⟨raw, read, terminates⟩
  exact Trace.starts_of_terminator read ((Opcode.isTerminator_decode_iff raw).mpr terminates)

/-! ## On the grid -/

theorem exists_reachable_of_onGrid {trace : Trace} {offset : UInt64} (grid : trace.OnGrid offset)
    (inside : offset.toNat < trace.bytes.size) :
    ∃ entry, trace.Reachable entry ∧ offset = entry.offset := by
  cases grid with
  | @entry before later entry listed decode stands =>
      exact ⟨entry, ⟨before, later, listed, decode⟩, stands⟩
  | atEnd => omega
  | pastEnd => omega

theorem exists_stopsOn {reader : Reader} {operation : Operation Answer}
    (grid : reader.trace.OnGrid reader.ip) (walks : ¬ operation.jumps)
    (stops : (reader.operate operation).Stops) :
    ∃ entry, StopsOn operation (reader.operate operation) entry := by
  have ahead := ahead_of_stops stops
  have onGrid := onGrid_operate walks grid
  have returns : operation = .runToReturn →
      (reader.operate operation).status = some .stopped →
        reader.trace.Starts (reader.operate operation).reader.ip := by
    rintro rfl stopped
    exact starts_of_runToReturn_stopped (Option.some.inj stopped)
  rcases exists_reachable_of_onGrid onGrid ahead.1 with ⟨entry, reachable, stands⟩
  rw [← reader.operate_trace operation] at ahead reachable returns
  refine ⟨entry, reachable, stands, ahead.1, ?_, returns⟩
  by_cases decodes : entry.decodes
  · left
    rw [stands]
    exact (Trace.starts_iff_decodes reachable.shows).mpr decodes
  · rcases ahead.2 with ⟨run, stopped⟩ | further
    · exact .inl (returns run stopped)
    · exact .inr ⟨decodes, further, finishesAt_of_entry stands.symm reachable.shows decodes⟩

/-! ## Steps to an entry -/

theorem after_replicate_step (reader : Reader) (count : Nat) :
    reader.after (List.replicate count (.step : Operation Answer)) = advance^[count] reader := by
  induction count generalizing reader with
  | zero => rfl
  | succ count induction => exact induction reader.advance

theorem exists_steps_of_reachable {trace : Trace} {entry : Instruction}
    (reachable : trace.Reachable entry) (further : entry.offset ≠ 0) :
    ∃ count, (advance^[count] (new trace)).step.status ≠ .finished ∧
      (advance^[count] (new trace)).step.reader.ip = entry.offset := by
  rcases reachable with ⟨before, later, listed, decode⟩
  have listing : (new trace).trace.instructionsFrom (UInt64.size - 1) (new trace).ip =
      before ++ entry :: later := trace.instructions_eq.symm.trans listed
  have listedHere : before.length < (before ++ entry :: later).length := by simp
  have reached := reaches_of_listing listing listedHere (by rwa [List.take_left])
  have there : (advance^[before.length] (new trace)).ip = entry.offset := by
    rw [reached.ip]
    simp
  cases length : before.length with
  | zero =>
      rw [List.eq_nil_of_length_eq_zero length] at listed
      exact absurd (Trace.offset_of_instructions listed) further
  | succ count =>
      rw [length, Function.iterate_succ_apply'] at there
      exact ⟨count, reached.goesOn count (by omega), there⟩

/-! ## The documented invariant -/

/-- Without jumps, an operation that stops does so on an entry to which steps can come. No instruction
starts there only if a step has landed on a byte that stands for nothing. So all stops are on
instructions exactly if such a byte can only be the first one of the trace. -/
theorem stops_on_entries (trace : Trace) :
    (∀ (operations : List (Operation Answer)) (operation : Operation Answer),
      (∀ earlier ∈ operations, ¬ earlier.jumps) → ¬ operation.jumps →
        let operated := ((new trace).after operations).operate operation
        operated.Stops →
          operated.reader.trace = trace ∧ ∃ entry, StopsOn operation operated entry) ∧
    (StopsOnInstructions Answer trace ↔
      ∀ entry, trace.Reachable entry → ¬ entry.decodes → entry.offset = 0) := by
  have onEntry (operations : List (Operation Answer)) (operation : Operation Answer)
      (walk : ∀ earlier ∈ operations, ¬ earlier.jumps) (walks : ¬ operation.jumps)
      (stops : (((new trace).after operations).operate operation).Stops) :
      (((new trace).after operations).operate operation).reader.trace = trace ∧
        ∃ entry, StopsOn operation (((new trace).after operations).operate operation) entry := by
    have begins : (new trace).trace.OnGrid (new trace).ip := trace.onGrid_zero
    have grid := onGrid_after walk begins
    rw [← (new trace).after_trace operations] at grid
    refine ⟨?_, exists_stopsOn grid walks stops⟩
    rw [operate_trace, after_trace]
    rfl
  refine ⟨onEntry, ?_, ?_⟩
  · intro keeps entry reachable undecodable
    by_contra further
    rcases exists_steps_of_reachable reachable further with ⟨count, goesOn, there⟩
    have walk : ∀ earlier ∈ List.replicate count (.step : Operation Answer), ¬ earlier.jumps := by
      intro earlier member
      rw [List.eq_of_mem_replicate member]
      exact Bool.false_ne_true
    have starts := keeps (List.replicate count .step) .step walk Bool.false_ne_true
    rw [after_replicate_step] at starts
    have stands := (starts (stops_operated_iff.mpr goesOn)).2
    change trace.Starts (advance^[count] (new trace)).step.reader.ip at stands
    rw [there] at stands
    exact undecodable ((Trace.starts_iff_decodes reachable.shows).mp stands)
  · intro onlyFirst operations operation walk walks operated stops
    rcases onEntry operations operation walk walks stops with ⟨same, entry, stopsOn⟩
    have inside := stopsOn.inside
    have starts := stopsOn.startsOrGivesUp
    have reachable := stopsOn.reachable
    rw [same] at inside starts reachable
    refine ⟨inside, starts.resolve_right ?_⟩
    rintro ⟨undecodable, further, _⟩
    exact further (stopsOn.stands.trans (onlyFirst entry reachable undecodable))

/-- The step lands on a byte that stands for nothing, and stops there. -/
theorem stops_on_nothing :
    let trace := Trace.ofBytes #[0, 255]
    let operated := (new trace).operate (.step : Operation Unit)
    operated.status = some .stopped ∧ operated.reader.ip = 1 ∧ ¬ trace.Starts 1 ∧
      ¬ StopsOnInstructions Unit trace := by
  intro trace operated
  have stopped : operated.status = some .stopped := by decide +kernel
  have stands : operated.reader.ip = 1 := by decide +kernel
  have nothing : ¬ trace.Starts 1 := by
    rintro ⟨span, spans⟩
    have none : trace.spanAt 1 = .ok none := rfl
    rw [none] at spans
    cases spans
  refine ⟨stopped, stands, nothing, ?_⟩
  intro keeps
  have starts := (keeps [] .step (by simp) Bool.false_ne_true (.inl stopped)).2
  exact nothing (stands ▸ starts)

end Reader

end OpcodeTrace
