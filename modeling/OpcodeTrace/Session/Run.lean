import OpcodeTrace.Session.Execute
import OpcodeTrace.Text.Lines

/-! A run ends with the input or with a command to quit. A failure ends it too, and then the
session is left as if it were still running. -/

namespace OpcodeTrace.Session

variable {State : Type} [Console State]

def showPrompt (session : Session) (console : State) : State × Option Failure :=
  Console.printAndFlush console [session.reader.format session.prompt]

def runLine (session : Session) (console : State) (line : List UInt8) : Outcome State :=
  match Lines.text? line with
  | none => { session, console, failure := some .invalidText }
  | some text =>
      match session.executeLine text console with
      | { session, console, failure := some failure } =>
          { session, console, failure := some failure }
      | { session, console, failure := none } =>
          if session.running then
            let (console, failure) := session.showPrompt console
            { session, console, failure }
          else
            { session, console, failure := none }

/-- Executes lines, the prompt before the first one being shown already. -/
def runLines (session : Session) (console : State) : List (List UInt8) → Outcome State
  | [] => { session := { session with running := false }, console, failure := none }
  | line :: lines =>
      let outcome := session.runLine console line
      if outcome.failure.isNone && outcome.session.running then
        outcome.session.runLines outcome.console lines
      else
        outcome

def start (session : Session) (console : State) : Outcome State :=
  let session := { session with running := true }
  let (console, failure) := session.showPrompt console
  { session, console, failure }

def run (session : Session) (input : List UInt8) (console : State) : Outcome State :=
  let started := session.start console
  if started.failure.isNone then
    started.session.runLines started.console (Lines.split input)
  else
    started

end OpcodeTrace.Session
