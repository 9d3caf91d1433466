import OpcodeTrace.Proofs.Reader.Operation

/-! However a reader is driven, it takes the same steps in the same order: a run is a number of
steps, and breakpoints decide only where a run is cut. -/

namespace OpcodeTrace.Reader

variable {Answer : Type}

/-- The operation steps the reader or edits its breakpoints. The others move it by hand, forget its
counts, or only look at it. -/
def Operation.drives : Operation Answer → Bool
  | .step | .resume | .runToReturn => true
  | .setBreakpoint _ | .clearBreakpoint _ | .clearBreakpoints => true
  | .jump _ | .resetCounts | .reset | .disassemble _ _ | .inspect _ => false

/-! ## Steps do not see breakpoints -/

theorem clearBreakpoints_land (reader : Reader) :
    reader.land.reader.clearBreakpoints = reader.clearBreakpoints.land.reader := by
  by_cases inside : reader.ip.toNat < reader.trace.bytes.size
  · rw [reader.land_of_inside inside, reader.clearBreakpoints.land_of_inside inside]
    rfl
  · have outside := Nat.le_of_not_lt inside
    rw [reader.land_of_outside outside, reader.clearBreakpoints.land_of_outside outside]

theorem clearBreakpoints_commute_advance : Function.Commute clearBreakpoints advance := by
  intro reader
  unfold advance
  rcases reader.step_cases with ⟨outside, step⟩ | ⟨inside, spans, step⟩ | ⟨inside, span, spans, step⟩
  · rw [step, reader.clearBreakpoints.step_of_outside outside]
  · rw [step, reader.clearBreakpoints.step_of_undecodable inside spans]
    rfl
  · rw [step, reader.clearBreakpoints.step_of_span inside spans]
    exact clearBreakpoints_land _

theorem exists_operate_eq_advance (reader : Reader) {operation : Operation Answer}
    (drives : operation.drives) :
    ∃ count, (reader.operate operation).reader.clearBreakpoints =
      advance^[count] reader.clearBreakpoints := by
  have commute := clearBreakpoints_commute_advance.iterate_right
  cases operation with
  | step => exact ⟨1, commute 1 reader⟩
  | resume =>
      rcases reader.exists_runOn_eq_advance with ⟨count, equal⟩
      exact ⟨count, (congrArg clearBreakpoints equal).trans (commute count reader)⟩
  | runToReturn =>
      rcases reader.exists_runToReturn_eq_advance with ⟨count, equal⟩
      exact ⟨count, (congrArg clearBreakpoints equal).trans (commute count reader)⟩
  | setBreakpoint offset => exact ⟨0, reader.clearBreakpoints_changed_flag offset true⟩
  | clearBreakpoint offset => exact ⟨0, reader.clearBreakpoints_changed_flag offset false⟩
  | clearBreakpoints => exact ⟨0, rfl⟩
  | jump | resetCounts | reset | disassemble | inspect => cases drives

theorem exists_after_eq_advance (reader : Reader) {operations : List (Operation Answer)}
    (drive : ∀ operation ∈ operations, operation.drives) :
    ∃ count, (reader.after operations).clearBreakpoints =
      advance^[count] reader.clearBreakpoints := by
  induction operations generalizing reader with
  | nil => exact ⟨0, rfl⟩
  | cons operation later induction =>
      rcases reader.exists_operate_eq_advance (drive operation (List.mem_cons_self ..)) with
        ⟨first, firstEqual⟩
      rcases induction (reader.operate operation).reader
          (fun item member => drive item (List.mem_cons_of_mem _ member)) with ⟨rest, restEqual⟩
      refine ⟨rest + first, ?_⟩
      rw [after_cons, restEqual, firstEqual, Function.iterate_add_apply]

/-! ## Finishing is final -/

theorem outside_of_runOn_finished {reader : Reader} (finished : reader.runOn.status = .finished) :
    reader.trace.bytes.size ≤ reader.runOn.reader.ip.toNat := by
  fun_induction runOn reader with
  | case1 reader _ induction =>
      have outside := induction finished
      rwa [step_trace] at outside
  | case2 reader _ => exact reader.step_trace ▸ outside_of_step_finished finished

theorem outside_of_runToReturn_finished {reader : Reader}
    (finished : reader.runToReturn.status = .finished) :
    reader.trace.bytes.size ≤ reader.runToReturn.reader.ip.toNat := by
  fun_induction runToReturn reader with
  | case1 reader error missing => exact outside_of_current_eq_error missing
  | case2 reader opcode _ _ => cases finished
  | case3 reader opcode _ _ _ induction =>
      have outside := induction finished
      rwa [step_trace] at outside
  | case4 reader opcode _ _ _ => exact reader.step_trace ▸ outside_of_step_finished finished

theorem outside_of_operate_finished {reader : Reader} {operation : Operation Answer}
    (finished : (reader.operate operation).status = some .finished) :
    reader.trace.bytes.size ≤ (reader.operate operation).reader.ip.toNat := by
  cases operation with
  | step => exact outside_of_step_finished (Option.some.inj finished)
  | resume => exact outside_of_runOn_finished (Option.some.inj finished)
  | runToReturn => exact outside_of_runToReturn_finished (Option.some.inj finished)
  | setBreakpoint | clearBreakpoint | disassemble =>
      rw [operate, changed_status] at finished
      cases finished
  | jump | clearBreakpoints | resetCounts | reset | inspect => cases finished

theorem after_of_outside (reader : Reader) {operations : List (Operation Answer)}
    (drive : ∀ operation ∈ operations, operation.drives)
    (outside : reader.trace.bytes.size ≤ reader.ip.toNat) :
    (reader.after operations).clearBreakpoints = reader.clearBreakpoints := by
  rcases reader.exists_after_eq_advance drive with ⟨count, equal⟩
  rw [equal]
  exact Function.iterate_fixed (reader.clearBreakpoints.advance_of_outside outside) count

theorem outside_of_lastStatus_finished {reader : Reader} {operations : List (Operation Answer)}
    (drive : ∀ operation ∈ operations, operation.drives)
    (finished : reader.lastStatus operations = some .finished) :
    reader.trace.bytes.size ≤ (reader.after operations).ip.toNat := by
  induction operations generalizing reader with
  | nil => cases finished
  | cons operation later induction =>
      have driveLater : ∀ item ∈ later, item.drives :=
        fun item member => drive item (List.mem_cons_of_mem _ member)
      rw [lastStatus] at finished
      cases laterStatus : (reader.operate operation).reader.lastStatus later with
      | some status =>
          rw [laterStatus, Option.some_or] at finished
          rw [after_cons, ← reader.operate_trace operation]
          exact induction driveLater (laterStatus.trans finished)
      | none =>
          -- The operation itself is the last one that steps, and the later ones edit breakpoints.
          rw [laterStatus, Option.none_or] at finished
          have outside := outside_of_operate_finished finished
          have still := (reader.operate operation).reader.after_of_outside driveLater
            ((reader.operate_trace operation).symm ▸ outside)
          have stillIp := congrArg ip still
          change ((reader.operate operation).reader.after later).ip = _ at stillIp
          rw [after_cons, stillIp]
          exact outside

/-! ## One end for all ways -/

private theorem iterate_eq_of_fixed {α : Type} {f : α → α} {start : α} {left right : Nat}
    (leftFixed : f (f^[left] start) = f^[left] start)
    (rightFixed : f (f^[right] start) = f^[right] start) :
    f^[left] start = f^[right] start := by
  calc
    f^[left] start = f^[right] (f^[left] start) := (Function.iterate_fixed leftFixed right).symm
    _ = f^[left] (f^[right] start) := Function.Commute.iterate_iterate_self f right left start
    _ = f^[right] start := Function.iterate_fixed rightFixed left

/-- Two ways to drive the same reader until it has finished lead to the same offset and to the same
counts. -/
theorem end_eq_of_finished (reader : Reader) {left right : List (Operation Answer)}
    (leftDrives : ∀ operation ∈ left, operation.drives)
    (rightDrives : ∀ operation ∈ right, operation.drives)
    (leftFinished : reader.lastStatus left = some .finished)
    (rightFinished : reader.lastStatus right = some .finished) :
    (reader.after left).ip = (reader.after right).ip ∧
      (reader.after left).counts = (reader.after right).counts := by
  rcases reader.exists_after_eq_advance leftDrives with ⟨leftCount, leftEqual⟩
  rcases reader.exists_after_eq_advance rightDrives with ⟨rightCount, rightEqual⟩
  have leftOutside := outside_of_lastStatus_finished leftDrives leftFinished
  have rightOutside := outside_of_lastStatus_finished rightDrives rightFinished
  rw [← reader.after_trace left] at leftOutside
  rw [← reader.after_trace right] at rightOutside
  have leftFixed := (reader.after left).clearBreakpoints.advance_of_outside leftOutside
  have rightFixed := (reader.after right).clearBreakpoints.advance_of_outside rightOutside
  rw [leftEqual] at leftFixed
  rw [rightEqual] at rightFixed
  have same : (reader.after left).clearBreakpoints = (reader.after right).clearBreakpoints := by
    rw [leftEqual, rightEqual]
    exact iterate_eq_of_fixed leftFixed rightFixed
  have sameIp := congrArg ip same
  have sameCounts := congrArg counts same
  exact ⟨sameIp, sameCounts⟩

/-- A run cut by a breakpoint and by a terminator, and one that goes straight to the undecodable
byte in which both give up. -/
theorem end_eq_of_finished_cut_and_straight :
    let reader := new (Trace.ofBytes #[0, 65, 254, 0, 72, 200, 1])
    let cut : List (Operation Unit) :=
      [.setBreakpoint 1, .resume, .clearBreakpoints, .runToReturn, .step, .resume]
    let straight : List (Operation Unit) := [.resume]
    (∀ operation ∈ cut, operation.drives) ∧ (∀ operation ∈ straight, operation.drives) ∧
      reader.lastStatus cut = some .finished ∧ reader.lastStatus straight = some .finished ∧
      (reader.after cut).ip = (reader.after straight).ip ∧
      (reader.after cut).counts = (reader.after straight).counts := by
  intro reader cut straight
  have cutDrives : ∀ operation ∈ cut, operation.drives := by decide
  have straightDrives : ∀ operation ∈ straight, operation.drives := by decide
  have cutFinished : reader.lastStatus cut = some .finished := by decide +kernel
  have straightFinished : reader.lastStatus straight = some .finished := by decide +kernel
  exact ⟨cutDrives, straightDrives, cutFinished, straightFinished,
    reader.end_eq_of_finished cutDrives straightDrives cutFinished straightFinished⟩

end OpcodeTrace.Reader
