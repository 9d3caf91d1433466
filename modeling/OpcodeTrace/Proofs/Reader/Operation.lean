import OpcodeTrace.Listing
import OpcodeTrace.Proofs.Reader.Step

/-! Everything that can be asked of a reader, as data. -/

namespace OpcodeTrace.Reader

variable {Answer : Type}

/-! ## Inspections -/

@[simp] theorem inspect_reader (reader : Reader) (inspections : List (Inspection Answer)) :
    (reader.inspect inspections).reader = reader := by
  fun_induction inspect reader inspections with
  | case1 => rfl
  | case2 reader question later rest induction => exact induction
  | case3 reader target inner later frame inside left rest innerInduction _ induction =>
      have popped : left.pop = reader := by
        change inside.reader.jump frame.saved = reader
        rw [innerInduction]
        rfl
      exact induction.trans popped

/-! ## Operations -/

inductive Operation (Answer : Type) where
  | step
  | resume
  | runToReturn
  | jump (target : UInt64)
  | setBreakpoint (offset : UInt64)
  | clearBreakpoint (offset : UInt64)
  | clearBreakpoints
  | resetCounts
  | reset
  | disassemble (offset count : UInt64)
  | inspect (inspections : List (Inspection Answer))

/-- The reader after an operation, how it ended if it was a stepping one, and the refusal if it
asked for a place outside the trace. -/
structure Operated where
  reader : Reader
  status : Option Status := none
  refusal : Option OutOfBounds := none

def Run.operated (run : Run) : Operated where
  reader := run.reader
  status := some run.status

def changed (reader : Reader) : Except OutOfBounds Reader → Operated
  | .ok reader => { reader }
  | .error refusal => { reader, refusal := some refusal }

def operate (reader : Reader) : Operation Answer → Operated
  | .step => reader.step.operated
  | .resume => reader.resume.operated
  | .runToReturn => reader.runToReturn.operated
  | .jump target => { reader := reader.jump target }
  | .setBreakpoint offset => reader.changed (reader.setBreakpoint offset)
  | .clearBreakpoint offset => reader.changed (reader.clearBreakpoint offset)
  | .clearBreakpoints => { reader := reader.clearBreakpoints }
  | .resetCounts => { reader := reader.resetCounts }
  | .reset => { reader := reader.reset }
  | .disassemble offset count => reader.changed ((reader.disassemble offset count).map fun _ => reader)
  | .inspect inspections => { reader := (reader.inspect inspections).reader }

def after (reader : Reader) (operations : List (Operation Answer)) : Reader :=
  operations.foldl (fun current operation => (current.operate operation).reader) reader

def lastStatus (reader : Reader) : List (Operation Answer) → Option Status
  | [] => none
  | operation :: later =>
      let operated := reader.operate operation
      (operated.reader.lastStatus later).or operated.status

@[simp] theorem after_nil (reader : Reader) :
    reader.after ([] : List (Operation Answer)) = reader := rfl

@[simp] theorem after_cons (reader : Reader) (operation : Operation Answer)
    (later : List (Operation Answer)) :
    reader.after (operation :: later) = (reader.operate operation).reader.after later := rfl

/-! ## What never changes -/

theorem clearBreakpoints_changed_flag (reader : Reader) (offset : UInt64) (value : Bool) :
    (reader.changed (reader.flag offset value)).reader.clearBreakpoints =
      reader.clearBreakpoints := by
  unfold flag
  split <;> rfl

@[simp] theorem changed_status (reader : Reader) (result : Except OutOfBounds Reader) :
    (reader.changed result).status = none := by
  cases result <;> rfl

theorem changed_map_self (reader : Reader) (result : Except OutOfBounds α) :
    (reader.changed (result.map fun _ => reader)).reader = reader := by
  cases result <;> rfl

@[simp] theorem operate_trace (reader : Reader) (operation : Operation Answer) :
    (reader.operate operation).reader.trace = reader.trace := by
  cases operation with
  | step => exact reader.step_trace
  | resume =>
      rcases reader.exists_runOn_eq_advance with ⟨count, equal⟩
      exact (congrArg trace equal).trans (reader.iterate_advance_trace count)
  | runToReturn =>
      rcases reader.exists_runToReturn_eq_advance with ⟨count, equal⟩
      exact (congrArg trace equal).trans (reader.iterate_advance_trace count)
  | setBreakpoint offset =>
      have same := congrArg trace (reader.clearBreakpoints_changed_flag offset true)
      exact same
  | clearBreakpoint offset =>
      have same := congrArg trace (reader.clearBreakpoints_changed_flag offset false)
      exact same
  | disassemble offset count =>
      exact congrArg trace (reader.changed_map_self (reader.disassemble offset count))
  | inspect inspections => exact congrArg trace (reader.inspect_reader inspections)
  | jump | clearBreakpoints | resetCounts | reset => rfl

@[simp] theorem after_trace (reader : Reader) (operations : List (Operation Answer)) :
    (reader.after operations).trace = reader.trace := by
  induction operations generalizing reader with
  | nil => rfl
  | cons operation later induction => rw [after_cons, induction, operate_trace]

end OpcodeTrace.Reader
