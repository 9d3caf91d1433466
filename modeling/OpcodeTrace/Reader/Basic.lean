import OpcodeTrace.Trace

/-! A reader walks a trace. The offset at which it stands may lie anywhere, also past the end of
the trace; breakpoints lie inside the trace. -/

namespace OpcodeTrace

/-- A trace with a position in it, one flag for each of its bytes and one counter for each opcode
value. -/
structure Reader where
  trace : Trace
  ip : UInt64
  flags : Array Bool
  counts : Vector UInt64 256
  size_flags : flags.size = trace.bytes.size

namespace Reader

def noCounts : Vector UInt64 256 :=
  Vector.replicate 256 0

def new (trace : Trace) : Reader where
  trace := trace
  ip := 0
  flags := Array.replicate trace.bytes.size false
  counts := noCounts
  size_flags := by simp

def size (reader : Reader) : UInt64 :=
  reader.trace.size

def current (reader : Reader) : Except OutOfBounds Opcode :=
  reader.trace.opcodeAt reader.ip

def currentLabel (reader : Reader) : String :=
  match reader.current with
  | .ok opcode => opcode.label
  | .error _ => Opcode.missingName

def jump (reader : Reader) (target : UInt64) : Reader :=
  { reader with ip := target }

/-! ## Breakpoints -/

def flag (reader : Reader) (offset : UInt64) (value : Bool) : Except OutOfBounds Reader :=
  if inside : offset.toNat < reader.flags.size then
    .ok { reader with
      flags := reader.flags.set offset.toNat value
      size_flags := by rw [Array.size_set, reader.size_flags] }
  else
    .error { offset, size := reader.size }

def setBreakpoint (reader : Reader) (offset : UInt64) : Except OutOfBounds Reader :=
  reader.flag offset true

def clearBreakpoint (reader : Reader) (offset : UInt64) : Except OutOfBounds Reader :=
  reader.flag offset false

def clearBreakpoints (reader : Reader) : Reader :=
  { reader with
    flags := Array.replicate reader.trace.bytes.size false
    size_flags := by simp }

def isBreakpoint (reader : Reader) (offset : UInt64) : Bool :=
  reader.flags[offset.toNat]?.getD false

def breakpoints (reader : Reader) : List UInt64 :=
  (List.range reader.flags.size).filterMap fun offset =>
    if reader.flags[offset]?.getD false then some offset.toUInt64 else none

/-! ## Counts -/

/-- How often the reader has landed on an opcode. -/
structure Count where
  opcode : Opcode
  count : UInt64
deriving DecidableEq, Repr

def countOf (reader : Reader) (opcode : Opcode) : UInt64 :=
  have bound : opcode.value.toNat < 256 := opcode.value.toNat_lt
  reader.counts[opcode.value.toNat]

def countLanding (reader : Reader) (opcode : Opcode) : Reader :=
  have bound : opcode.value.toNat < 256 := opcode.value.toNat_lt
  { reader with counts := reader.counts.set opcode.value.toNat (reader.countOf opcode + 1) }

/-- The counts that are not zero, by ascending opcode value. -/
def counted (reader : Reader) : List Count :=
  (List.range 256).filterMap fun value =>
    let opcode : Opcode := ⟨value.toUInt8⟩
    let count := reader.countOf opcode
    if count = 0 then none else some { opcode, count }

def resetCounts (reader : Reader) : Reader :=
  { reader with counts := noCounts }

def reset (reader : Reader) : Reader :=
  ((reader.jump 0).clearBreakpoints).resetCounts

end Reader

end OpcodeTrace
