import OpcodeTrace.Command.Parse
import OpcodeTrace.Console.Basic
import OpcodeTrace.Session.Perform
import OpcodeTrace.Text.Blank

/-! What is wrong with a line or a command is complained about, and the session goes on. Only a
failure of a stream is passed on, with one exception: a JSON document that can't be written is
complained about too. -/

namespace OpcodeTrace

inductive CommandError where
  | rejected (rejection : Command.Rejection)
  | outOfBounds (error : OutOfBounds)
  /-- A JSON document could not be written. -/
  | document (failure : Failure)
  /-- A stream failed at anything else. -/
  | stream (failure : Failure)
deriving DecidableEq, Repr

namespace CommandError

def message : CommandError → String
  | rejected rejection => rejection.message
  | outOfBounds error => error.message
  | document failure => "can't serialize counts: " ++ failure.message
  | stream failure => "output error: " ++ failure.message

def complaint : CommandError → String
  | rejected (.unknown word) => (Command.Rejection.unknown word).message ++ "\n"
  | error => "Error: " ++ error.message ++ "\n"

end CommandError

namespace Session

structure Executed (State : Type) where
  session : Session
  console : State
  error : Option CommandError

structure Outcome (State : Type) where
  session : Session
  console : State
  failure : Option Failure

variable {State : Type} [Console State]

def deliver (console : State) : Reply → State × Option CommandError
  | .texts texts =>
      let (console, failure) := Console.printAndFlush console texts
      (console, failure.map .stream)
  | .document text =>
      match Console.print console text with
      | (console, some failure) => (console, some (.document failure))
      | (console, none) =>
          let (console, failure) := Console.printAndFlush console ["\n"]
          (console, failure.map .stream)

def commandEntry (session : Session) (command : Command) : Log.Entry where
  level := .debug
  source := "reader_cli::session"
  message := "Executing " ++ command.describe ++ " at " ++
    Decimal.render session.reader.ip.toNat

def execute (session : Session) (command : Command) (console : State) : Executed State :=
  let performance := session.perform command
  let console := Console.recordAll console
    (session.commandEntry command :: performance.events.map Reader.Event.entry)
  match performance.reply with
  | .ok reply =>
      let (console, error) := deliver console reply
      { session := performance.session, console, error }
  | .error error =>
      { session := performance.session, console, error := some (.outOfBounds error) }

def settle (executed : Executed State) : Outcome State :=
  match executed.error with
  | none => { session := executed.session, console := executed.console, failure := none }
  | some (.stream failure) =>
      { session := executed.session, console := executed.console, failure := some failure }
  | some error =>
      let (console, failure) := Console.complain executed.console error.complaint
      { session := executed.session, console, failure }

def dispatch (session : Session) (line : String) (console : State) : Outcome State :=
  match Command.parse line with
  | .ok none => { session, console, failure := none }
  | .ok (some command) => settle (session.execute command console)
  | .error rejection => settle { session, console, error := some (.rejected rejection) }

/-- Executes a line. A blank line stands for the last one that was not blank. -/
def executeLine (session : Session) (line : String) (console : State) : Outcome State :=
  if Blank.isBlankText line then
    match session.lastLine with
    | none => { session, console, failure := none }
    | some last => session.dispatch last console
  else
    { session with lastLine := some line }.dispatch line console

end Session

end OpcodeTrace
