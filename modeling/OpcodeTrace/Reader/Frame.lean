import OpcodeTrace.Reader.Basic
import OpcodeTrace.Reader.Event

/-! A frame shows the trace from another offset for a while. Inside a frame the reader can only be
looked at, so nothing but the position changes while it is open. -/

namespace OpcodeTrace.Reader

/-- An open frame: the reader as it is seen inside, and the offset to go back to. -/
structure Frame where
  reader : Reader
  saved : UInt64

def pushFrame (reader : Reader) (target : UInt64) : Frame where
  reader := reader.jump target
  saved := reader.ip

def Frame.pop (frame : Frame) : Reader :=
  frame.reader.jump frame.saved

def Frame.pushed (frame : Frame) : Event :=
  .framePushed frame.saved frame.reader.ip

def Frame.popped (frame : Frame) : Event :=
  .framePopped frame.saved

inductive Inspection (Answer : Type) where
  | ask (question : Reader → Answer)
  | within (target : UInt64) (inner : List (Inspection Answer))

inductive Finding (Answer : Type) where
  | answer (ip : UInt64) (answer : Answer)
  | within (ip saved : UInt64) (inner : List (Finding Answer))

structure Inspected (Answer : Type) where
  findings : List (Finding Answer)
  reader : Reader
  events : List Event

def inspect (reader : Reader) : List (Inspection Answer) → Inspected Answer
  | [] => { findings := [], reader, events := [] }
  | .ask question :: later =>
      let rest := reader.inspect later
      { rest with findings := .answer reader.ip (question reader) :: rest.findings }
  | .within target inner :: later =>
      let frame := reader.pushFrame target
      let inside := frame.reader.inspect inner
      let left := { frame with reader := inside.reader }
      let rest := left.pop.inspect later
      { findings := .within left.pop.ip frame.saved inside.findings :: rest.findings
        reader := rest.reader
        events := [frame.pushed] ++ inside.events ++ [left.popped] ++ rest.events }

end OpcodeTrace.Reader
