import OpcodeTrace.Log

/-! How a stepping operation ends, and what a reader tells the log about. -/

namespace OpcodeTrace.Reader

inductive Status where
  | stopped
  /-- The reader has just landed on a breakpoint. -/
  | atBreakpoint
  | finished
deriving DecidableEq, Repr

def Status.name : Status → String
  | .stopped => "Stopped"
  | .atBreakpoint => "AtBreakpoint"
  | .finished => "Finished"

inductive Event where
  /-- A step off a byte that is no instruction gave up the rest of the trace. -/
  | undecodable (raw : UInt8) (offset : UInt64)
  | continued (ip : UInt64) (status : Status)
  /-- A run to the next terminator ended before one. -/
  | interrupted (ip : UInt64) (status : Status)
  | framePushed (saved target : UInt64)
  | framePopped (saved : UInt64)
deriving DecidableEq, Repr

def Event.entry : Event → Log.Entry
  | .undecodable raw offset =>
      { level := .warn
        source := "trace_reader::reader"
        message := s!"Undecodable opcode {raw} at offset {offset}, " ++
          "treating rest of trace as unreadable" }
  | .continued ip status =>
      { level := .debug
        source := "trace_reader::reader"
        message := s!"Continue stopped at {ip} ({status.name})" }
  | .interrupted ip status =>
      { level := .debug
        source := "trace_reader::reader"
        message := s!"Run to return interrupted at {ip} ({status.name})" }
  | .framePushed saved target =>
      { level := .trace
        source := "trace_reader::frame"
        message := s!"Pushed IP frame {saved} -> {target}" }
  | .framePopped saved =>
      { level := .trace
        source := "trace_reader::frame"
        message := s!"Popped IP frame, restoring {saved}" }

end OpcodeTrace.Reader
