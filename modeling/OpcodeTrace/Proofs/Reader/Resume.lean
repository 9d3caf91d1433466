import OpcodeTrace.Proofs.Reader.Walk

/-! Runs to the next breakpoint, along the walk of the reader. -/

namespace OpcodeTrace.Reader

/-- The walk of the reader comes to a breakpoint, behind its start. -/
structure Meets (reader : Reader) (index : Nat) (place : UInt64) : Prop where
  behind : 0 < index
  reached : reader.trace.place? reader.ip index = some place
  inside : place.toNat < reader.trace.bytes.size
  flagged : reader.isBreakpoint place

structure MeetsFirst (reader : Reader) (index : Nat) (place : UInt64) : Prop
    extends reader.Meets index place where
  first : ∀ earlier < index, ∀ other, ¬ reader.Meets earlier other

structure WalkEnds (reader : Reader) (index : Nat) (last : UInt64) : Prop where
  reached : reader.trace.place? reader.ip index = some last
  stuck : reader.trace.after? last = none

/-- The counts of a reader are those of another one and the landings on its walk, up to the place with
this index. -/
def CountsWalk (reached reader : Reader) (index : Nat) : Prop :=
  ∀ opcode, reached.countOf opcode =
    reader.countOf opcode + .ofNat ((reader.trace.landed reader.ip index).count opcode)

/-- So many steps from the reader stop, one after another. -/
def StopsFor (reader : Reader) (turns : Nat) : Prop :=
  ∀ turn < turns, (advance^[turn] reader).step.status = .stopped

structure ResumesAsWalked (reader : Reader) (run : Run) : Prop where
  /-- The run takes so many steps that stop, and then one that does not. -/
  terminates : ∃ turns ≤ reader.remaining, reader.StopsFor turns ∧
    run.status = (advance^[turns] reader).step.status ∧
    run.reader = (advance^[turns] reader).step.reader
  neverStops : run.status ≠ .stopped
  trace : run.reader.trace = reader.trace
  flags : run.reader.flags = reader.flags
  outside : reader.trace.bytes.size ≤ reader.ip.toNat →
    run.status = .finished ∧ run.reader = reader
  atBreakpoint : (∃ index place, reader.Meets index place) →
    ∃ index place, reader.MeetsFirst index place ∧ run.status = .atBreakpoint ∧
      run.reader.ip = place ∧ run.reader.CountsWalk reader index
  finished : (¬ ∃ index place, reader.Meets index place) →
    ∃ index last, reader.WalkEnds index last ∧ run.status = .finished ∧
      run.reader.ip = reader.trace.restAt last ∧ run.reader.CountsWalk reader index
  /-- Neither the start nor an operand on the walk is a place to stop at. -/
  neverAside : run.status = .atBreakpoint →
    run.reader.ip ≠ reader.ip ∧
      ∀ index place opcode, reader.trace.place? reader.ip index = some place →
        reader.trace.opcodeAt place = .ok opcode → opcode.isTerminator →
          run.reader.ip.toNat ≠ place.toNat + 1

/-! ## Steps that stop -/

theorem StopsFor.goesOn {reader : Reader} {turns : Nat} (stops : reader.StopsFor turns) :
    ∀ turn < turns, (advance^[turn] reader).step.status ≠ .finished := by
  intro turn bound
  rw [stops turn bound]
  decide

theorem StopsFor.place? {reader : Reader} {turns : Nat} (stops : reader.StopsFor turns) :
    reader.trace.place? reader.ip turns = some (advance^[turns] reader).ip :=
  place?_of_goesOn stops.goesOn

theorem StopsFor.after? {reader : Reader} {turns : Nat} (stops : reader.StopsFor turns) :
    (advance^[turns] reader).trace.after? (advance^[turns] reader).ip =
      reader.trace.place? reader.ip (turns + 1) := by
  rw [Trace.place?_succ, stops.place?, iterate_advance_trace]
  rfl

theorem StopsFor.countsWalk {reader : Reader} {turns : Nat} (stops : reader.StopsFor turns) :
    (advance^[turns] reader).step.reader.CountsWalk reader (turns + 1) := by
  have goesOn : ∀ turn, turn + 1 < turns + 1 → (advance^[turn] reader).step.status ≠ .finished :=
    fun turn bound => stops.goesOn turn (Nat.lt_of_succ_lt_succ bound)
  have counts := countOf_iterate_advance goesOn
  rwa [Function.iterate_succ_apply'] at counts

theorem StopsFor.not_meets {reader : Reader} {turns index : Nat} (stops : reader.StopsFor turns)
    (passed : index ≤ turns) (place : UInt64) : ¬ reader.Meets index place := by
  rintro ⟨behind, reached, inside, flagged⟩
  cases index with
  | zero => exact absurd behind (Nat.lt_irrefl 0)
  | succ earlier =>
      have before : reader.StopsFor earlier :=
        fun turn bound => stops turn (Nat.lt_trans bound passed)
      have status := step_status_of_after (before.after?.trans reached)
      rw [stops earlier passed, iterate_advance_trace, if_pos inside,
        isBreakpoint_congr (reader.iterate_advance_flags earlier), if_pos flagged] at status
      cases status

/-! ## The step that does not stop -/

theorem StopsFor.meetsFirst {reader : Reader} {turns : Nat} (stops : reader.StopsFor turns)
    (breaks : (advance^[turns] reader).step.status = .atBreakpoint) :
    reader.MeetsFirst (turns + 1) (advance^[turns] reader).step.reader.ip := by
  have goesOn : (advance^[turns] reader).step.status ≠ .finished := by
    rw [breaks]
    decide
  have leads := after?_of_goesOn goesOn
  have status := step_status_of_after leads
  rw [breaks, iterate_advance_trace, isBreakpoint_congr (reader.iterate_advance_flags turns)]
    at status
  split at status
  · next inside =>
    split at status
    · next flagged =>
      refine ⟨⟨Nat.succ_pos turns, stops.after?.symm.trans leads, inside, flagged⟩, ?_⟩
      exact fun earlier before => stops.not_meets (Nat.le_of_lt_succ before)
    · cases status
  · cases status

theorem StopsFor.index_le_of_finishes {reader : Reader} {turns index : Nat} {place : UInt64}
    (stops : reader.StopsFor turns)
    (finishes : (advance^[turns] reader).step.status = .finished)
    (reached : reader.trace.place? reader.ip index = some place)
    (inside : place.toNat < reader.trace.bytes.size) : index ≤ turns := by
  have onward := stops.after?
  cases leads : reader.trace.place? reader.ip (turns + 1) with
  | none =>
      rw [leads, iterate_advance_trace] at onward
      exact Trace.index_le_of_last stops.place? onward reached
  | some next =>
      rw [leads] at onward
      have status := step_status_of_after onward
      rw [finishes, iterate_advance_trace] at status
      have outside : reader.trace.bytes.size ≤ next.toNat := by
        by_contra nextInside
        rw [if_pos (Nat.lt_of_not_le nextInside)] at status
        split at status <;> cases status
      have upTo := Trace.index_le_of_last leads (reader.trace.after?_of_outside outside) reached
      rcases Nat.le_succ_iff.mp upTo with before | isLast
      · exact before
      · rw [isLast, leads, Option.some_inj] at reached
        exact absurd (reached ▸ inside) (Nat.not_lt.mpr outside)

theorem StopsFor.walkEnds {reader : Reader} {turns : Nat} (stops : reader.StopsFor turns)
    (finishes : (advance^[turns] reader).step.status = .finished) :
    (¬ ∃ index place, reader.Meets index place) ∧
      ∃ index last, reader.WalkEnds index last ∧
        (advance^[turns] reader).step.reader.ip = reader.trace.restAt last ∧
        (advance^[turns] reader).step.reader.CountsWalk reader index := by
  constructor
  · rintro ⟨index, place, meets⟩
    have passed := stops.index_le_of_finishes finishes meets.reached meets.inside
    exact stops.not_meets passed place meets
  have onward := stops.after?
  have counts := stops.countsWalk
  cases leads : reader.trace.place? reader.ip (turns + 1) with
  | none =>
      -- The step gives up, or has nowhere to go: no place behind the last one is landed on.
      rw [leads] at onward
      have stuck := onward
      rw [iterate_advance_trace] at stuck
      refine ⟨turns, _, ⟨stops.place?, stuck⟩, ?_, ?_⟩
      · rw [(step_of_after_none onward).2, iterate_advance_trace]
        rfl
      · intro opcode
        rw [counts opcode, Trace.landed_succ, leads, Option.bind_none, Option.toList_none,
          List.append_nil]
  | some next =>
      -- The step leads to a place outside the trace.
      rw [leads] at onward
      have outside : reader.trace.bytes.size ≤ next.toNat := by
        by_contra inside
        have passed := stops.index_le_of_finishes finishes leads (Nat.lt_of_not_le inside)
        exact absurd passed (Nat.not_succ_le_self turns)
      have stuck := reader.trace.after?_of_outside outside
      refine ⟨turns + 1, next, ⟨leads, stuck⟩, ?_, counts⟩
      rw [step_of_after onward, land_ip, Trace.restAt, if_neg (Nat.not_lt.mpr outside)]
      rfl

/-! ## Runs -/

theorem exists_turns_runOn (reader : Reader) :
    ∃ turns ≤ reader.remaining, reader.StopsFor turns ∧
      (advance^[turns] reader).step.status ≠ .stopped ∧
      reader.runOn = (advance^[turns] reader).step := by
  fun_induction runOn reader with
  | case1 reader stopped induction =>
      rcases induction with ⟨turns, few, stops, ends, equal⟩
      have shorter := remaining_step_lt stopped
      refine ⟨turns + 1, by omega, ?_, ends, equal⟩
      intro turn bound
      cases turn with
      | zero => exact stopped
      | succ turn => exact stops turn (Nat.lt_of_succ_lt_succ bound)
  | case2 reader ends =>
      exact ⟨0, Nat.zero_le _, fun turn bound => absurd bound (Nat.not_lt_zero turn), ends, rfl⟩

theorem runOn_of_outside (reader : Reader) (outside : reader.trace.bytes.size ≤ reader.ip.toNat) :
    reader.runOn = { reader, status := .finished } := by
  have step := reader.step_of_outside outside
  have ends : ¬ reader.step.status = .stopped := by
    rw [step]
    simp
  rw [runOn, dif_neg ends, step]

/-- A run to the next breakpoint ends, wherever its reader stands, and it ends as the walk says. -/
theorem resumes_asWalked (reader : Reader) : reader.ResumesAsWalked reader.resume := by
  rcases reader.exists_turns_runOn with ⟨turns, few, stops, ends, equal⟩
  have status : reader.resume.status = (advance^[turns] reader).step.status :=
    (congrArg Run.status equal :)
  have stepped : reader.resume.reader = (advance^[turns] reader).step.reader :=
    (congrArg Run.reader equal :)
  have breaksOrFinishes : (advance^[turns] reader).step.status = .atBreakpoint ∨
      (advance^[turns] reader).step.status = .finished := by
    cases ended : (advance^[turns] reader).step.status with
    | stopped => exact absurd ended ends
    | atBreakpoint => exact .inl rfl
    | finished => exact .inr rfl
  constructor
  · exact ⟨turns, few, stops, status, stepped⟩
  · exact status.trans_ne ends
  · rw [stepped, step_trace, iterate_advance_trace]
  · rw [stepped, step_flags, iterate_advance_flags]
  · intro outside
    have rests := reader.runOn_of_outside outside
    exact ⟨(congrArg Run.status rests :), (congrArg Run.reader rests :)⟩
  · intro meets
    rw [status, stepped]
    rcases breaksOrFinishes with breaks | finishes
    · exact ⟨turns + 1, _, stops.meetsFirst breaks, breaks, rfl, stops.countsWalk⟩
    · exact absurd meets (stops.walkEnds finishes).1
  · intro none
    rw [status, stepped]
    rcases breaksOrFinishes with breaks | finishes
    · exact absurd ⟨_, _, (stops.meetsFirst breaks).toMeets⟩ none
    · rcases (stops.walkEnds finishes).2 with ⟨index, last, walkEnds, ip, counts⟩
      exact ⟨index, last, walkEnds, finishes, ip, counts⟩
  · rw [status, stepped]
    intro breaks
    have meets := stops.meetsFirst breaks
    constructor
    · exact Trace.place?_ne_start meets.behind meets.reached
    · intro other terminator opcode comes stands terminates
      exact Trace.place?_ne_operand meets.reached comes stands terminates

end OpcodeTrace.Reader
