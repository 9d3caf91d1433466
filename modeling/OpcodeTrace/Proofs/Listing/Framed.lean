import OpcodeTrace.Proofs.Listing.Walk
import OpcodeTrace.Proofs.Reader.Step

/-! Listings as a reader makes them, by looking at each instruction in a frame of its own. -/

namespace OpcodeTrace

/-- An entry as it is seen in a frame. The opcode is the one under the reader. -/
structure Sight where
  offset : UInt64
  raw : UInt8
  opcode : Opcode

def Instruction.sight (entry : Instruction) : Sight where
  offset := entry.offset
  raw := entry.raw
  opcode := entry.opcode

namespace Reader

structure Survey where
  sights : Except OutOfBounds (List Sight)
  reader : Reader
  events : List Event

def Frame.look (frame : Frame) (offset : UInt64) : Except OutOfBounds Sight := do
  let raw ← frame.reader.trace.byte offset
  let opcode ← frame.reader.current
  return { offset, raw, opcode }

def surveyFrom (reader : Reader) : (count : Nat) → (offset : UInt64) → Survey
  | 0, _ => { sights := .ok [], reader, events := [] }
  | count + 1, offset =>
      if offset.toNat < reader.trace.bytes.size then
        let frame := reader.pushFrame offset
        match frame.look offset with
        | .error refusal =>
            { sights := .error refusal
              reader := frame.pop
              events := [frame.pushed, frame.popped] }
        | .ok sight =>
            let rest := frame.pop.surveyFrom count (offset + sight.opcode.span?.getD 1)
            { rest with
              sights := rest.sights.map (sight :: ·)
              events := frame.pushed :: frame.popped :: rest.events }
      else
        { sights := .ok [], reader, events := [] }

def survey (reader : Reader) (offset count : UInt64) : Survey :=
  match reader.trace.byte offset with
  | .error refusal => { sights := .error refusal, reader, events := [] }
  | .ok _ => reader.surveyFrom count.toNat offset

/-- The listing of these entries, with the frames in which they were looked at. -/
def listing (reader : Reader) (entries : List Instruction) : Listing where
  instructions := entries
  events := entries.flatMap fun entry =>
    let frame := reader.pushFrame entry.offset
    [frame.pushed, frame.popped]

/-- What a survey comes to if it finds what the listing tells, and leaves nothing behind. -/
def surveyed (reader : Reader) : Except OutOfBounds Listing → Survey
  | .error refusal => { sights := .error refusal, reader, events := [] }
  | .ok listing =>
      { sights := .ok (listing.instructions.map Instruction.sight)
        reader
        events := listing.events }

theorem disassemble_of_inside (reader : Reader) {offset : UInt64}
    (inside : offset.toNat < reader.trace.bytes.size) (count : UInt64) :
    reader.disassemble offset count =
      .ok (reader.listing (reader.trace.instructionsFrom count.toNat offset)) := by
  rw [disassemble, Trace.disassemble, if_pos inside]
  rfl

theorem look_of_inside (reader : Reader) {offset : UInt64}
    (inside : offset.toNat < reader.trace.bytes.size) :
    (reader.pushFrame offset).look offset =
      .ok (Instruction.sight { offset, raw := reader.trace.bytes[offset.toNat] }) := by
  have stands : (reader.jump offset).current =
      .ok (Opcode.decode reader.trace.bytes[offset.toNat]) :=
    (reader.jump offset).current_of_inside inside
  have read : (reader.jump offset).trace.byte offset = .ok reader.trace.bytes[offset.toNat] :=
    dif_pos inside
  rw [Frame.look, pushFrame, read, stands]
  rfl

theorem surveyFrom_eq (reader : Reader) (count : Nat) (offset : UInt64) :
    reader.surveyFrom count offset =
      reader.surveyed (.ok (reader.listing (reader.trace.instructionsFrom count offset))) := by
  induction count generalizing offset with
  | zero => rfl
  | succ count induction =>
      by_cases inside : offset.toNat < reader.trace.bytes.size
      · have popped : (reader.pushFrame offset).pop = reader := rfl
        rw [surveyFrom, if_pos inside, Trace.instructionsFrom_of_inside _ _ inside]
        dsimp only
        rw [reader.look_of_inside inside, popped]
        dsimp only
        rw [induction]
        rfl
      · rw [surveyFrom, if_neg inside,
          Trace.instructionsFrom_of_outside _ _ (Nat.le_of_not_lt inside)]
        rfl

theorem survey_eq (reader : Reader) (offset count : UInt64) :
    reader.survey offset count = reader.surveyed (reader.disassemble offset count) := by
  rw [survey, Trace.byte]
  by_cases inside : offset.toNat < reader.trace.bytes.size
  · rw [dif_pos inside, reader.disassemble_of_inside inside]
    exact reader.surveyFrom_eq count.toNat offset
  · rw [dif_neg inside, disassemble, Trace.disassemble, if_neg inside]
    rfl

end Reader

end OpcodeTrace
