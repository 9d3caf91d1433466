import OpcodeTrace.Reader.Frame
import OpcodeTrace.Text.Decimal

/-! Instruction listings. Unlike a step, a listing goes on behind a byte that is no instruction:
the byte is listed, and the walk resumes at the next one. -/

namespace OpcodeTrace

structure Instruction where
  offset : UInt64
  raw : UInt8
deriving DecidableEq, Repr

namespace Instruction

def opcode (instruction : Instruction) : Opcode :=
  Opcode.decode instruction.raw

def next (instruction : Instruction) : UInt64 :=
  instruction.offset + instruction.opcode.span?.getD 1

def render (instruction : Instruction) : String :=
  Decimal.render instruction.offset.toNat ++ ": " ++ instruction.opcode.label

end Instruction

namespace Trace

def instructionsFrom (trace : Trace) : (count : Nat) → (offset : UInt64) → List Instruction
  | 0, _ => []
  | count + 1, offset =>
      if inside : offset.toNat < trace.bytes.size then
        let instruction : Instruction := { offset, raw := trace.bytes[offset.toNat] }
        instruction :: trace.instructionsFrom count instruction.next
      else
        []

def disassemble (trace : Trace) (offset count : UInt64) :
    Except OutOfBounds (List Instruction) :=
  if offset.toNat < trace.bytes.size then
    .ok (trace.instructionsFrom count.toNat offset)
  else
    .error { offset, size := trace.size }

end Trace

namespace Reader

structure Listing where
  instructions : List Instruction
  events : List Event

def disassemble (reader : Reader) (offset count : UInt64) : Except OutOfBounds Listing :=
  (reader.trace.disassemble offset count).map fun instructions =>
    { instructions
      events := instructions.flatMap fun instruction =>
        let frame := reader.pushFrame instruction.offset
        [frame.pushed, frame.popped] }

end Reader

end OpcodeTrace
