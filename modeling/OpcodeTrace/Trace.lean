import OpcodeTrace.Opcode

/-! A trace is a recorded run of the interpreter. An offset outside it is answered with
`OutOfBounds`. -/

namespace OpcodeTrace

/-- The recorded bytes. A trace fits in memory, so that an offset inside it stays inside 64 bits
after a few more bytes. -/
structure Trace where
  bytes : Array UInt8
  size_lt : bytes.size < 0x8000000000000000

structure OutOfBounds where
  offset : UInt64
  size : UInt64
deriving DecidableEq, Repr

def OutOfBounds.message (error : OutOfBounds) : String :=
  s!"offset {error.offset} is outside the trace ({error.size} bytes)"

namespace Trace

/-- The trace with these bytes. Bytes past the largest size, which no memory holds, are dropped. -/
def ofBytes (bytes : Array UInt8) : Trace :=
  if fits : bytes.size < 0x8000000000000000 then
    { bytes, size_lt := fits }
  else
    { bytes := bytes.extract 0 0x7fffffffffffffff, size_lt := by rw [Array.size_extract]; omega }

def size (trace : Trace) : UInt64 :=
  trace.bytes.size.toUInt64

@[simp] theorem toNat_size (trace : Trace) : trace.size.toNat = trace.bytes.size := by
  have bound := trace.size_lt
  simp only [size, Nat.toUInt64_eq, UInt64.toNat_ofNat']
  omega

def isEmpty (trace : Trace) : Bool :=
  trace.bytes.isEmpty

def byte (trace : Trace) (offset : UInt64) : Except OutOfBounds UInt8 :=
  if inside : offset.toNat < trace.bytes.size then
    .ok trace.bytes[offset.toNat]
  else
    .error { offset, size := trace.size }

/-- Up to `count` bytes from an offset on, fewer at the end of the trace. The offset has to lie
inside the trace even if no byte is asked for. -/
def slice (trace : Trace) (offset count : UInt64) : Except OutOfBounds (List UInt8) :=
  if offset.toNat < trace.bytes.size then
    .ok (trace.bytes.extract offset.toNat (offset.toNat + count.toNat)).toList
  else
    .error { offset, size := trace.size }

def opcodeAt (trace : Trace) (offset : UInt64) : Except OutOfBounds Opcode :=
  (trace.byte offset).map Opcode.decode

def spanAt (trace : Trace) (offset : UInt64) : Except OutOfBounds (Option UInt64) :=
  (trace.opcodeAt offset).map Opcode.span?

end Trace

end OpcodeTrace
