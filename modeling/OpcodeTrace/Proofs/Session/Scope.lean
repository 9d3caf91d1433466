import OpcodeTrace.Proofs.Reader.Landings
import OpcodeTrace.Proofs.Session.Line

/-! What each command may change, and what it leaves alone. -/

namespace OpcodeTrace

namespace Command

def lists : Command → Bool
  | counts _ | breakpoints | disassemble _ | raw _ | hex _ | info none | help => true
  | step | resume | finish | setBreakpoint _ | clearBreakpoint _ | jump _ | reset | info (some _)
  | prompt _ | quit => false

def stepped (reader : Reader) : Command → List Reader
  | step => [reader]
  | resume => reader.runOnSteps
  | finish => reader.runToReturnSteps
  | counts _ | breakpoints | setBreakpoint _ | clearBreakpoint _ | jump _ | reset | disassemble _
  | raw _ | hex _ | info _ | prompt _ | help | quit => []

/-- Neither the position nor a count is lower than before, as long as the count fits into its 64 bits
through all landings of the steps. -/
structure Forward (command : Command) (before after : Reader) : Prop where
  ip : before.ip ≤ after.ip
  counts : ∀ opcode,
    (before.countOf opcode).toNat +
      ((command.stepped before).filterMap Reader.landing?).count opcode < UInt64.size →
    before.countOf opcode ≤ after.countOf opcode

/-- The sessions differ in the part of the command at most. -/
def Alters (before after : Session) (command : Command) : Prop :=
  match command with
  | step | resume | finish =>
      command.Forward before.reader after.reader ∧
        ∃ ip counts, after = { before with reader := { before.reader with ip, counts } }
  | setBreakpoint offset | clearBreakpoint offset =>
      ∃ flags size_flags,
        after = { before with reader := { before.reader with flags, size_flags } } ∧
          ∀ index ≠ offset.toNat, flags[index]? = before.reader.flags[index]?
  | jump _ => ∃ ip, after = { before with reader := { before.reader with ip } }
  | reset =>
      ∃ ip flags counts size_flags,
        after = { before with reader := { before.reader with ip, flags, counts, size_flags } }
  | info (some _) => ∃ info, after = { before with info }
  | prompt _ => ∃ prompt, after = { before with prompt }
  | quit => ∃ running, after = { before with running }
  | counts _ | breakpoints | disassemble _ | raw _ | hex _ | info none | help => after = before

end Command

namespace Session

structure Keeps (before after : Session) : Prop where
  trace : after.reader.trace = before.reader.trace
  defaultCount : after.defaultCount = before.defaultCount
  lastLine : after.lastLine = before.lastLine

theorem keeps_of_alters {before after : Session} {command : Command}
    (alters : command.Alters before after) : before.Keeps after := by
  cases command with
  | step | resume | finish =>
      rcases alters with ⟨_, ip, counts, rfl⟩
      exact ⟨rfl, rfl, rfl⟩
  | setBreakpoint offset | clearBreakpoint offset =>
      rcases alters with ⟨flags, size_flags, rfl, _⟩
      exact ⟨rfl, rfl, rfl⟩
  | reset =>
      rcases alters with ⟨ip, flags, counts, size_flags, rfl⟩
      exact ⟨rfl, rfl, rfl⟩
  | jump | prompt | quit =>
      rcases alters with ⟨_, rfl⟩
      exact ⟨rfl, rfl, rfl⟩
  | info template =>
      cases template with
      | none =>
          cases alters
          exact ⟨rfl, rfl, rfl⟩
      | some template =>
          rcases alters with ⟨_, rfl⟩
          exact ⟨rfl, rfl, rfl⟩
  | counts | breakpoints | disassemble | raw | hex | help =>
      cases alters
      exact ⟨rfl, rfl, rfl⟩

/-! ## Stepping -/

theorem forward_of_stepsThrough {command : Command} {before after : Reader}
    (steps : Reader.StepsThrough before (command.stepped before) after) :
    command.Forward before after := by
  constructor
  · rcases steps.exists_eq with ⟨ip, counts, rfl, forward⟩
    exact forward
  · intro opcode fits
    rw [Reader.countOf_of_stepsThrough steps, UInt64.le_iff_toNat_le, UInt64.toNat_add,
      UInt64.toNat_ofNat']
    change _ < 2 ^ 64 at fits
    omega

theorem alters_performRun {session : Session} (command : Command) {run : Reader.Run}
    (steps : Reader.StepsThrough session.reader (command.stepped session.reader) run.reader) :
    command.Forward session.reader (session.performRun run).session.reader ∧
      ∃ ip counts, (session.performRun run).session =
        { session with reader := { session.reader with ip, counts } } := by
  refine ⟨forward_of_stepsThrough steps, ?_⟩
  rcases steps.exists_eq with ⟨ip, counts, equal, _⟩
  refine ⟨ip, counts, ?_⟩
  rw [performRun, equal]

/-! ## Editing breakpoints -/

theorem alters_flag (session : Session) (offset : UInt64) (value : Bool) :
    ∃ flags size_flags,
      (session.performChange (session.reader.flag offset value)).session =
        { session with reader := { session.reader with flags, size_flags } } ∧
      ∀ index ≠ offset.toNat, flags[index]? = session.reader.flags[index]? := by
  rw [Reader.flag]
  split
  · next inside =>
    let flags := session.reader.flags.set offset.toNat value
    have size_flags : flags.size = session.reader.trace.bytes.size :=
      (Array.size_set inside).trans session.reader.size_flags
    refine ⟨flags, size_flags, rfl, ?_⟩
    intro index other
    exact Array.getElem?_set_ne _ (Ne.symm other)
  · exact ⟨session.reader.flags, session.reader.size_flags, rfl, fun _ _ => rfl⟩

/-! ## All commands -/

theorem perform_alters (session : Session) (command : Command) :
    command.Alters session (session.perform command).session := by
  cases command with
  | step => exact alters_performRun .step (.step (.rest _))
  | resume => exact alters_performRun .resume session.reader.stepsThrough_runOn
  | finish => exact alters_performRun .finish session.reader.stepsThrough_runToReturn
  | counts json => cases json <;> rfl
  | setBreakpoint offset => exact session.alters_flag offset true
  | clearBreakpoint offset => exact session.alters_flag offset false
  | disassemble window => exact session.perform_disassemble_session window
  | info template =>
      cases template with
      | none => rfl
      | some template => exact ⟨template, rfl⟩
  | jump target => exact ⟨target, rfl⟩
  | reset => exact ⟨_, _, _, _, rfl⟩
  | prompt template => exact ⟨template, rfl⟩
  | quit => exact ⟨false, rfl⟩
  | breakpoints | raw | hex | help => rfl

theorem perform_session_of_lists {session : Session} {command : Command} (lists : command.lists) :
    (session.perform command).session = session := by
  have alters := session.perform_alters command
  cases command with
  | info template =>
      cases template with
      | none => exact alters
      | some template => cases lists
  | counts | breakpoints | disassemble | raw | hex | help => exact alters
  | step | resume | finish | setBreakpoint | clearBreakpoint | jump | reset | prompt | quit =>
      cases lists

end Session

end OpcodeTrace
