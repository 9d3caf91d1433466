import OpcodeTrace.Command.Basic
import OpcodeTrace.Listing
import OpcodeTrace.Reader.CountsDocument
import OpcodeTrace.Reader.Stepping
import OpcodeTrace.Session.Basic
import OpcodeTrace.Template

/-! What a command does. What it changes does not depend on whether the answer reaches anyone, so
both are found here without any stream. -/

namespace OpcodeTrace.Session

inductive Reply where
  | texts (texts : List String)
  /-- A JSON document to print on lines of its own. -/
  | document (text : String)
deriving DecidableEq, Repr

/-- The session after a command, what the reader reports, and the answer, if the command does not
ask for a place outside the trace. -/
structure Performance where
  session : Session
  events : List Reader.Event := []
  reply : Except OutOfBounds Reply := .ok (.texts [])

/-- How the end of a run is told. Standing on an instruction is not told at all. -/
def statusTexts (reader : Reader) : Reader.Status → List String
  | .stopped => []
  | .atBreakpoint => ["Breakpoint at " ++ Decimal.render reader.ip.toNat ++ "\n"]
  | .finished => ["End of trace\n"]

def performRun (session : Session) (run : Reader.Run) : Performance where
  session := { session with reader := run.reader }
  events := run.events
  reply := .ok (.texts (statusTexts run.reader run.status ++ [run.reader.format session.info]))

def performChange (session : Session) : Except OutOfBounds Reader → Performance
  | .ok reader => { session := { session with reader } }
  | .error error => { session, reply := .error error }

def resolve (session : Session) (window : Window) : UInt64 × UInt64 :=
  (window.start.getD session.reader.ip, window.count.getD session.defaultCount)

def decimalLine (number : Nat) : String :=
  Decimal.render number ++ "\n"

def countLine (count : Reader.Count) : String :=
  count.opcode.label ++ ": " ++ Decimal.render count.count.toNat ++ "\n"

def rowLength : Nat := 16

def hexRows (offset : UInt64) (bytes : List UInt8) : List String :=
  if bytes.isEmpty then []
  else
    let row := Hexadecimal.paddedDigits 8 offset.toNat ++ [':', ' '] ++
      Hexadecimal.ofBytes (bytes.take rowLength) ++ ['\n']
    String.ofList row :: hexRows (offset + rowLength.toUInt64) (bytes.drop rowLength)
termination_by bytes.length
decreasing_by
  rename_i full
  rw [List.length_drop]
  have positive : 0 < bytes.length := by
    cases bytes with
    | nil => exact absurd rfl full
    | cons => exact Nat.succ_pos _
  exact Nat.sub_lt positive (by decide)

/-- A line of the help: the usage, filled up to twenty characters, and the description. -/
def helpLine (usage : String × String) : String :=
  "  " ++ usage.1 ++ String.ofList (List.replicate (20 - usage.1.length) ' ') ++ " " ++
    usage.2 ++ "\n"

def perform (session : Session) : Command → Performance
  | .step => session.performRun session.reader.step
  | .resume => session.performRun session.reader.resume
  | .finish => session.performRun session.reader.runToReturn
  | .counts false =>
      { session
        reply := .ok (.texts ("Counts:\n" :: session.reader.counted.map countLine)) }
  | .counts true =>
      { session
        reply := .ok (.document (Reader.countsDocument session.reader.counted)) }
  | .breakpoints =>
      { session
        reply := .ok (.texts ("Breakpoints:\n" ::
          session.reader.breakpoints.map fun offset => decimalLine offset.toNat)) }
  | .setBreakpoint offset => session.performChange (session.reader.setBreakpoint offset)
  | .clearBreakpoint offset => session.performChange (session.reader.clearBreakpoint offset)
  | .jump target => session.performChange (.ok (session.reader.jump target))
  | .reset => session.performChange (.ok session.reader.reset)
  | .disassemble window =>
      let (start, count) := session.resolve window
      match session.reader.disassemble start count with
      | .ok listing =>
          { session
            events := listing.events
            reply := .ok (.texts (listing.instructions.map fun entry => entry.render ++ "\n")) }
      | .error error => { session, reply := .error error }
  | .raw window =>
      let (start, count) := session.resolve window
      { session
        reply := (session.reader.trace.slice start count).map fun bytes =>
          .texts (bytes.map fun byte => decimalLine byte.toNat) }
  | .hex window =>
      let (start, count) := session.resolve window
      { session
        reply := (session.reader.trace.slice start count).map fun bytes =>
          .texts (hexRows start bytes) }
  | .info none => { session, reply := .ok (.texts [Quoted.quote session.info ++ "\n"]) }
  | .info (some template) =>
      { session := { session with info := template }
        reply := .ok (.texts ["info string set to " ++ Quoted.quote template ++ "\n"]) }
  | .prompt template =>
      { session := { session with prompt := template }
        reply := .ok (.texts ["prompt set to " ++ Quoted.quote template ++ "\n"]) }
  | .help => { session, reply := .ok (.texts (Command.usages.map helpLine)) }
  | .quit => { session := { session with running := false } }

end OpcodeTrace.Session
