import OpcodeTrace.Proofs.Listing.Pages
import OpcodeTrace.Proofs.Reader.Terminator
import OpcodeTrace.Proofs.Reader.Walk

/-! The bytes that a run leaves without decoding them, and the warning about them. -/

namespace OpcodeTrace

/-- The entries are instructions that lie one behind the other, from one place up to another one. -/
inductive Trace.Filled (trace : Trace) : Nat → List Instruction → Nat → Prop
  | nil (place : Nat) : Filled trace place [] place
  | cons {place stop : Nat} {entry : Instruction} {later : List Instruction}
      (stands : entry.offset.toNat = place) (shows : entry.Shows trace) (decodes : entry.decodes)
      (rest : Filled trace (place + entry.width) later stop) :
      Filled trace place (entry :: later) stop

namespace Trace

/-- All bytes of the entries lie inside the trace, but for the operand of a terminator on the last
byte. An entry before the last one ends where the next one starts. -/
def Holds (trace : Trace) (entries : List Instruction) (stop : Nat) : Prop :=
  ∀ last ∈ entries.getLast?, stop ≤ trace.bytes.size ∨
    (last.opcode.isTerminator ∧ last.offset.toNat + 1 = trace.bytes.size ∧
      stop = trace.bytes.size + 1)

theorem Filled.holds {trace : Trace} {place stop : Nat} {entries : List Instruction}
    (filled : trace.Filled place entries stop) : trace.Holds entries stop := by
  induction filled with
  | nil => simp [Holds]
  | @cons place stop entry later stands shows decodes rest induction =>
      cases later with
      | cons second later =>
          intro last ends
          exact induction last (List.getLast?_cons_cons ▸ ends)
      | nil =>
          intro last ends
          have same : entry = last := Option.some.inj ends
          subst same
          cases rest
          rcases shows with ⟨inside, _⟩
          rw [Instruction.width]
          split
          · next terminates =>
            by_cases fits : place + 2 ≤ trace.bytes.size
            · exact .inl fits
            · exact .inr ⟨terminates, by omega, by omega⟩
          · exact .inl (by omega)

end Trace

namespace Reader

def Run.warnings (run : Run) : List Log.Entry :=
  (run.events.map Event.entry).filter fun entry => entry.level = .warn

def OnUndecodable (reader : Reader) : Prop :=
  ∃ raw, reader.trace.byte reader.ip = .ok raw ∧ (Opcode.decode raw).span? = none

/-- The warning is about a byte off which the run has stepped to finish. Instructions lead to it. -/
structure WarnsRightly (reader : Reader) (run : Run) (warning : Log.Entry) (raw : UInt8)
    (offset : UInt64) : Prop where
  names : warning = (Event.undecodable raw offset).entry
  holds : reader.trace.byte offset = .ok raw
  undecodable : (Opcode.decode raw).span? = none
  reached : ∃ entries, reader.trace.Filled reader.ip.toNat entries offset.toNat
  status : run.status = .finished
  ip : run.reader.ip.toNat = reader.trace.bytes.size

/-- A run with steps from these readers warns of what it skips, and only then. If it does not warn,
instructions fill the trace from where it has started to where it has come. -/
structure SkipsOpenly (reader : Reader) (run : Run) (stepped : List Reader) : Prop where
  steps : StepsThrough reader stepped run.reader
  once : run.warnings.length ≤ 1
  warns_iff : run.warnings.length = 1 ↔ ∃ left ∈ stepped, left.OnUndecodable
  rightly : ∀ warning ∈ run.warnings, ∃ raw offset, reader.WarnsRightly run warning raw offset
  filled : run.warnings = [] → ∃ entries,
    reader.trace.Filled reader.ip.toNat entries run.reader.ip.toNat ∧
      reader.trace.Holds entries run.reader.ip.toNat

/-! ## Off a byte -/

theorem SkipsOpenly.append {reader : Reader} {run : Run} {stepped : List Reader}
    (skips : reader.SkipsOpenly run stepped) {event : Event} (quiet : event.entry.level ≠ .warn) :
    reader.SkipsOpenly { run with events := run.events ++ [event] } stepped := by
  have same : { run with events := run.events ++ [event] }.warnings = run.warnings := by
    simp [Run.warnings, quiet]
  constructor
  · exact skips.steps
  · rw [same]
    exact skips.once
  · rw [same]
    exact skips.warns_iff
  · intro warning member
    rw [same] at member
    rcases skips.rightly warning member with ⟨raw, offset, rightly⟩
    exact ⟨raw, offset, rightly.names, rightly.holds, rightly.undecodable, rightly.reached,
      rightly.status, rightly.ip⟩
  · rw [same]
    exact skips.filled

/-- The second byte is no instruction. Coming to it is told by no event, leaving it is. -/
example : ((new (Trace.ofBytes #[0, 200, 0])).step.events,
    (new (Trace.ofBytes #[0, 200, 0])).advance.step.events) = ([], [.undecodable 200 1]) := by
  decide

end Reader

end OpcodeTrace
