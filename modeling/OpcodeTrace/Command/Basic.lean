import OpcodeTrace.Text.Decimal
import OpcodeTrace.Text.Quoted

/-! What a user can ask of a session. -/

namespace OpcodeTrace

/-- The part of a trace to list. Without a start it begins under the reader, and without a count it
has the length that the session is set to. -/
structure Window where
  start : Option UInt64 := none
  count : Option UInt64 := none
deriving DecidableEq, Repr

inductive Command where
  | step
  /-- Steps to the next breakpoint. -/
  | resume
  /-- Steps to the next terminator. -/
  | finish
  | counts (json : Bool)
  | breakpoints
  | setBreakpoint (offset : UInt64)
  | clearBreakpoint (offset : UInt64)
  | jump (target : UInt64)
  | reset
  | disassemble (window : Window)
  | raw (window : Window)
  | hex (window : Window)
  /-- Shows the template that is filled after each run, or sets it. -/
  | info (template : Option String)
  | prompt (template : String)
  | help
  | quit
deriving DecidableEq, Repr

namespace Command

def usages : List (String × String) := [
  ("s, step", "step one instruction"),
  ("c, continue", "run to the next breakpoint or the end of the trace"),
  ("f, finish", "run to the next RET"),
  ("b, break <ip>", "set a breakpoint"),
  ("d, delete <ip>", "clear a breakpoint"),
  ("bps", "list breakpoints"),
  ("j, jump <ip>", "move the instruction pointer"),
  ("reset", "back to offset 0, clearing breakpoints and counts"),
  ("counts [json]", "show per-opcode hit counts"),
  ("dis [[ip] count]", "disassemble instructions"),
  ("raw [[ip] count]", "dump raw bytes in decimal"),
  ("hex [[ip] count]", "dump raw bytes in hexadecimal"),
  ("info [template]", "show or set the info template"),
  ("prompt <template>", "set the prompt template"),
  ("help", "show this list"),
  ("q, quit", "leave the reader")]

/-! ## Commands in the log -/

private def describeOption (describe : α → String) : Option α → String
  | none => "None"
  | some value => "Some(" ++ describe value ++ ")"

private def describeNumber (number : UInt64) : String :=
  Decimal.render number.toNat

private def describeWindow (window : Window) : String :=
  "Window \x7b start: " ++ describeOption describeNumber window.start ++
    ", count: " ++ describeOption describeNumber window.count ++ " \x7d"

def describe : Command → String
  | step => "Step"
  | resume => "Continue"
  | finish => "Finish"
  | counts json => "Counts \x7b json: " ++ (if json then "true" else "false") ++ " \x7d"
  | breakpoints => "Breakpoints"
  | setBreakpoint offset => "Break(" ++ describeNumber offset ++ ")"
  | clearBreakpoint offset => "Delete(" ++ describeNumber offset ++ ")"
  | jump target => "Jump(" ++ describeNumber target ++ ")"
  | reset => "Reset"
  | disassemble window => "Disassemble(" ++ describeWindow window ++ ")"
  | raw window => "Raw(" ++ describeWindow window ++ ")"
  | hex window => "Hex(" ++ describeWindow window ++ ")"
  | info template => "Info(" ++ describeOption Quoted.quote template ++ ")"
  | prompt template => "Prompt(" ++ Quoted.quote template ++ ")"
  | help => "Help"
  | quit => "Quit"

end Command

end OpcodeTrace
