import OpcodeTrace.Proofs.Reader.Resume
import OpcodeTrace.Proofs.Reader.Terminator

/-! Runs to the next terminator, along the walk of the reader. A terminator that is a breakpoint
is reported as a breakpoint if the run has come to it, and as a terminator if the run starts
there. -/

namespace OpcodeTrace.Reader

/-- The walk of the reader comes to a terminator, which may be its start. -/
structure Returns (reader : Reader) (index : Nat) (place : UInt64) : Prop where
  reached : reader.trace.place? reader.ip index = some place
  onTerminator : reader.trace.TerminatesAt place

/-- It has come neither to a terminator before, nor to a breakpoint up to there. -/
structure ReturnsFirst (reader : Reader) (index : Nat) (place : UInt64) : Prop
    extends reader.Returns index place where
  first : ∀ earlier < index, ∀ other, ¬ reader.Returns earlier other
  unbroken : ∀ earlier ≤ index, ∀ other, ¬ reader.Meets earlier other

/-- The walk of the reader comes to its first breakpoint, and not to a terminator before. The breakpoint
may be on a terminator. -/
structure BreaksFirst (reader : Reader) (index : Nat) (place : UInt64) : Prop
    extends reader.MeetsFirst index place where
  unreturned : ∀ earlier < index, ∀ other, ¬ reader.Returns earlier other

/-- The run takes so many steps that stop, none of them off a terminator. Then it has come to a
terminator and is over, or it takes a step that does not stop. -/
structure TakesTurns (reader : Reader) (run : Run) (turns : Nat) : Prop where
  stops : reader.StopsFor turns
  unreturned : ∀ turn < turns, ¬ reader.trace.TerminatesAt (advance^[turn] reader).ip
  ends :
    (reader.trace.TerminatesAt (advance^[turns] reader).ip ∧
      run.status = .stopped ∧ run.reader = advance^[turns] reader) ∨
    (¬ reader.trace.TerminatesAt (advance^[turns] reader).ip ∧
      (advance^[turns] reader).step.status ≠ .stopped ∧
      run.status = (advance^[turns] reader).step.status ∧
      run.reader = (advance^[turns] reader).step.reader)

/-- The run ends like this at the place, and has counted the walk up to its place with this index. -/
structure EndsWith (reader : Reader) (run : Run) (status : Status) (index : Nat) (place : UInt64) :
    Prop where
  status : run.status = status
  ip : run.reader.ip = place
  counts : run.reader.CountsWalk reader index

structure ReturnsAsWalked (reader : Reader) (run : Run) : Prop where
  terminates : ∃ turns ≤ reader.remaining, reader.TakesTurns run turns
  trace : run.reader.trace = reader.trace
  flags : run.reader.flags = reader.flags
  stopped : ∀ index place, reader.ReturnsFirst index place →
    reader.EndsWith run .stopped index place
  atBreakpoint : ∀ index place, reader.BreaksFirst index place →
    reader.EndsWith run .atBreakpoint index place
  finished : (¬ ∃ index place, reader.ReturnsFirst index place) →
    (¬ ∃ index place, reader.BreaksFirst index place) →
      ∃ index last, reader.WalkEnds index last ∧
        reader.EndsWith run .finished index (reader.trace.restAt last)
  outside : reader.trace.bytes.size ≤ reader.ip.toNat →
    run.status = .finished ∧ run.reader = reader
  /-- Whether there is a breakpoint at the start or not. -/
  standing : reader.trace.TerminatesAt reader.ip → run.status = .stopped ∧ run.reader = reader
  /-- On a terminator, however the run has come there, the next one is over at once. -/
  again : reader.trace.TerminatesAt run.reader.ip →
    run.reader.runToReturn = { reader := run.reader, status := .stopped }

/-! ## The places where a run can end -/

theorem unique_of_first {reader : Reader} {Comes : Nat → UInt64 → Prop}
    (reached : ∀ {index place}, Comes index place → reader.trace.place? reader.ip index = some place)
    {left right : Nat} {leftPlace rightPlace : UInt64}
    (one : Comes left leftPlace) (oneFirst : ∀ earlier < left, ∀ place, ¬ Comes earlier place)
    (other : Comes right rightPlace) (otherFirst : ∀ earlier < right, ∀ place, ¬ Comes earlier place) :
    left = right ∧ leftPlace = rightPlace := by
  rcases Nat.lt_trichotomy left right with before | same | behind
  · exact absurd one (otherFirst left before leftPlace)
  · subst same
    exact ⟨rfl, Option.some.inj ((reached one).symm.trans (reached other))⟩
  · exact absurd other (oneFirst right behind rightPlace)

theorem ReturnsFirst.unique {reader : Reader} {left right : Nat} {leftPlace rightPlace : UInt64}
    (one : reader.ReturnsFirst left leftPlace) (other : reader.ReturnsFirst right rightPlace) :
    left = right ∧ leftPlace = rightPlace :=
  unique_of_first Returns.reached one.toReturns one.first other.toReturns other.first

theorem MeetsFirst.unique {reader : Reader} {left right : Nat} {leftPlace rightPlace : UInt64}
    (one : reader.MeetsFirst left leftPlace) (other : reader.MeetsFirst right rightPlace) :
    left = right ∧ leftPlace = rightPlace :=
  unique_of_first Meets.reached one.toMeets one.first other.toMeets other.first

theorem ReturnsFirst.not_breaksFirst {reader : Reader} {index other : Nat}
    {place otherPlace : UInt64} (returns : reader.ReturnsFirst index place) :
    ¬ reader.BreaksFirst other otherPlace := by
  intro breaks
  rcases Nat.lt_or_ge index other with before | upTo
  · exact breaks.unreturned index before place returns.toReturns
  · exact returns.unbroken other upTo otherPlace breaks.toMeets

/-! ## What the turns of a run have met -/

theorem StopsFor.of_le {reader : Reader} {turns fewer : Nat} (stops : reader.StopsFor turns)
    (before : fewer ≤ turns) : reader.StopsFor fewer :=
  fun turn bound => stops turn (Nat.lt_of_lt_of_le bound before)

theorem StopsFor.countsWalk_iterate {reader : Reader} {turns : Nat} (stops : reader.StopsFor turns) :
    (advance^[turns] reader).CountsWalk reader turns :=
  countOf_iterate_advance fun turn bound => stops.goesOn turn (Nat.lt_of_succ_lt bound)

theorem StopsFor.terminates_of_returns {reader : Reader} {turns index : Nat} {place : UInt64}
    (stops : reader.StopsFor turns) (passed : index ≤ turns) (returns : reader.Returns index place) :
    reader.trace.TerminatesAt (advance^[index] reader).ip := by
  have here := (stops.of_le passed).place?
  rw [returns.reached, Option.some_inj] at here
  exact here ▸ returns.onTerminator

namespace TakesTurns

variable {reader : Reader} {run : Run} {turns : Nat}

theorem not_returns (takes : reader.TakesTurns run turns) {earlier : Nat} (passed : earlier < turns)
    (place : UInt64) : ¬ reader.Returns earlier place := by
  intro returns
  have stood := takes.stops.terminates_of_returns (Nat.le_of_lt passed) returns
  exact takes.unreturned earlier passed stood

theorem returnsFirst (takes : reader.TakesTurns run turns)
    (stands : reader.trace.TerminatesAt (advance^[turns] reader).ip) :
    reader.ReturnsFirst turns (advance^[turns] reader).ip where
  reached := takes.stops.place?
  onTerminator := stands
  first _ passed := takes.not_returns passed
  unbroken _ passed := takes.stops.not_meets passed

theorem not_returns_of_leaves (takes : reader.TakesTurns run turns)
    (leaves : ¬ reader.trace.TerminatesAt (advance^[turns] reader).ip) {earlier : Nat}
    (passed : earlier ≤ turns) (place : UInt64) : ¬ reader.Returns earlier place := by
  intro returns
  rcases Nat.lt_or_eq_of_le passed with before | same
  · exact takes.not_returns before place returns
  · subst same
    exact leaves (takes.stops.terminates_of_returns passed returns)

theorem breaksFirst (takes : reader.TakesTurns run turns)
    (leaves : ¬ reader.trace.TerminatesAt (advance^[turns] reader).ip)
    (breaks : (advance^[turns] reader).step.status = .atBreakpoint) :
    reader.BreaksFirst (turns + 1) (advance^[turns] reader).step.reader.ip where
  toMeetsFirst := takes.stops.meetsFirst breaks
  unreturned _ passed := takes.not_returns_of_leaves leaves (Nat.le_of_lt_succ passed)

theorem not_returns_of_finishes (takes : reader.TakesTurns run turns)
    (leaves : ¬ reader.trace.TerminatesAt (advance^[turns] reader).ip)
    (finishes : (advance^[turns] reader).step.status = .finished) (index : Nat) (place : UInt64) :
    ¬ reader.Returns index place := by
  intro returns
  have passed := takes.stops.index_le_of_finishes finishes returns.reached returns.onTerminator.inside
  exact takes.not_returns_of_leaves leaves passed place returns

theorem outcome (takes : reader.TakesTurns run turns) :
    (∃ index place, reader.ReturnsFirst index place ∧ reader.EndsWith run .stopped index place) ∨
    (∃ index place, reader.BreaksFirst index place ∧
      reader.EndsWith run .atBreakpoint index place) ∨
    ((∀ index place, ¬ reader.Returns index place) ∧ (∀ index place, ¬ reader.Meets index place) ∧
      ∃ index last, reader.WalkEnds index last ∧
        reader.EndsWith run .finished index (reader.trace.restAt last)) := by
  rcases takes.ends with ⟨stands, status, stepped⟩ | ⟨leaves, goesOn, status, stepped⟩
  · have counts := takes.stops.countsWalk_iterate
    rw [← stepped] at counts
    exact .inl ⟨turns, _, takes.returnsFirst stands, status, congrArg ip stepped, counts⟩
  · have counts := takes.stops.countsWalk
    rw [← stepped] at counts
    cases ended : (advance^[turns] reader).step.status with
    | stopped => exact absurd ended goesOn
    | atBreakpoint =>
        right; left
        exact ⟨turns + 1, _, takes.breaksFirst leaves ended, status.trans ended,
          congrArg ip stepped, counts⟩
    | finished =>
        rcases takes.stops.walkEnds ended with ⟨unbroken, index, last, walkEnds, rests, counts⟩
        rw [← stepped] at rests counts
        right; right
        refine ⟨takes.not_returns_of_finishes leaves ended, ?_, index, last, walkEnds,
          status.trans ended, rests, counts⟩
        exact fun index place meets => unbroken ⟨index, place, meets⟩

end TakesTurns

/-! ## Runs -/

theorem terminatesAt_iff_of_current {reader : Reader} {opcode : Opcode}
    (stands : reader.current = .ok opcode) :
    reader.trace.TerminatesAt reader.ip ↔ opcode.isTerminator := by
  constructor
  · rintro ⟨other, standsToo, terminates⟩
    rw [← Except.ok.inj (standsToo.symm.trans stands)]
    exact terminates
  · exact fun terminates => ⟨opcode, stands, terminates⟩

theorem runToReturn_of_outside {reader : Reader}
    (outside : reader.trace.bytes.size ≤ reader.ip.toNat) :
    reader.runToReturn = { reader, status := .finished } := by
  have current : reader.current = .error { offset := reader.ip, size := reader.size } := by
    rw [Reader.current, Trace.opcodeAt, Trace.byte, dif_neg (Nat.not_lt.mpr outside)]
    rfl
  rw [runToReturn, current]

theorem TakesTurns.zero {reader : Reader} {run : Run}
    (ends :
      (reader.trace.TerminatesAt reader.ip ∧ run.status = .stopped ∧ run.reader = reader) ∨
      (¬ reader.trace.TerminatesAt reader.ip ∧ reader.step.status ≠ .stopped ∧
        run.status = reader.step.status ∧ run.reader = reader.step.reader)) :
    reader.TakesTurns run 0 where
  stops turn bound := absurd bound (Nat.not_lt_zero turn)
  unreturned turn bound := absurd bound (Nat.not_lt_zero turn)
  ends := ends

theorem TakesTurns.turn {reader : Reader} {run : Run} {turns : Nat}
    (leaves : ¬ reader.trace.TerminatesAt reader.ip) (stopped : reader.step.status = .stopped)
    (takes : reader.advance.TakesTurns run turns) : reader.TakesTurns run (turns + 1) where
  stops
    | 0, _ => stopped
    | turn + 1, bound => takes.stops turn (Nat.lt_of_succ_lt_succ bound)
  unreturned
    | 0, _ => leaves
    | turn + 1, bound => by
        have later := takes.unreturned turn (Nat.lt_of_succ_lt_succ bound)
        rwa [advance_trace] at later
  ends := by
    have later := takes.ends
    rwa [advance_trace] at later

theorem exists_takesTurns (reader : Reader) :
    ∃ turns ≤ reader.remaining, reader.TakesTurns reader.runToReturn turns := by
  fun_induction runToReturn reader with
  | case1 reader error missing =>
      -- The run does not try the step that would finish here, but it ends like this step.
      have outside := outside_of_current_eq_error missing
      have step := reader.step_of_outside outside
      refine ⟨0, Nat.zero_le _, .zero (.inr ⟨?_, ?_⟩)⟩
      · exact fun ends => absurd ends.inside (Nat.not_lt.mpr outside)
      · simp [step]
  | case2 reader opcode stands terminates =>
      have ends := (terminatesAt_iff_of_current stands).mpr terminates
      exact ⟨0, Nat.zero_le _, .zero (.inl ⟨ends, rfl, rfl⟩)⟩
  | case3 reader opcode stands goesOn stopped induction =>
      rcases induction with ⟨turns, few, takes⟩
      have leaves := (terminatesAt_iff_of_current stands).not.mpr goesOn
      have shorter := remaining_step_lt stopped
      exact ⟨turns + 1, by omega, takes.turn leaves stopped⟩
  | case4 reader opcode stands goesOn ends =>
      have leaves := (terminatesAt_iff_of_current stands).not.mpr goesOn
      exact ⟨0, Nat.zero_le _, .zero (.inr ⟨leaves, ends, rfl, rfl⟩)⟩

theorem returns_asWalked (reader : Reader) : reader.ReturnsAsWalked reader.runToReturn := by
  rcases reader.exists_takesTurns with ⟨turns, few, takes⟩
  rcases reader.exists_runToReturn_eq_advance with ⟨steps, stepped⟩
  have trace : reader.runToReturn.reader.trace = reader.trace := by
    rw [stepped, iterate_advance_trace]
  constructor
  · exact ⟨turns, few, takes⟩
  · exact trace
  · rw [stepped, iterate_advance_flags]
  · intro index place returns
    rcases takes.outcome with ⟨_, _, first, ends⟩ | ⟨_, _, breaks, _⟩ | ⟨none, _⟩
    · rcases returns.unique first with ⟨rfl, rfl⟩
      exact ends
    · exact absurd breaks returns.not_breaksFirst
    · exact absurd returns.toReturns (none index place)
  · intro index place breaks
    rcases takes.outcome with ⟨_, _, returns, _⟩ | ⟨_, _, first, ends⟩ | ⟨_, none, _⟩
    · exact absurd breaks returns.not_breaksFirst
    · rcases breaks.toMeetsFirst.unique first.toMeetsFirst with ⟨rfl, rfl⟩
      exact ends
    · exact absurd breaks.toMeets (none index place)
  · intro noReturn noBreak
    rcases takes.outcome with ⟨index, place, returns, _⟩ | ⟨index, place, breaks, _⟩ | ⟨_, _, ends⟩
    · exact absurd ⟨index, place, returns⟩ noReturn
    · exact absurd ⟨index, place, breaks⟩ noBreak
    · exact ends
  · intro outside
    rw [runToReturn_of_outside outside]
    exact ⟨rfl, rfl⟩
  · intro stands
    rw [runToReturn_of_terminates stands]
    exact ⟨rfl, rfl⟩
  · intro stands
    rw [← trace] at stands
    exact runToReturn_of_terminates stands

/-- A breakpoint on a terminator is seen by a run that comes to it, and not by one that starts there. -/
example :
    let trace := Trace.ofBytes #[0, 254, 0]
    let reader := ((new trace).operate (.setBreakpoint 1 : Operation Unit)).reader
    reader.runToReturn.status = .atBreakpoint ∧ reader.runToReturn.reader.ip = 1 ∧
      (reader.jump 1).runToReturn.status = .stopped := by
  decide +kernel

end OpcodeTrace.Reader
