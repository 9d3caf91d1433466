import OpcodeTrace.Arguments.Basic
import OpcodeTrace.Console.Terminal
import OpcodeTrace.Launch.Report
import OpcodeTrace.Session.Basic

/-! Preparing a session. Files are read by an operation that is given, so that they may lie
anywhere. -/

namespace OpcodeTrace.Launch

structure Prepared (Value : Type) where
  terminal : Terminal
  result : Except Report Value

variable {m : Type → Type} [Monad m]

def findConfig (readFile : String → m File.Contents) (arguments : Arguments)
    (terminal : Terminal) : m (Prepared Config) := do
  match arguments.configPath with
  | none => return { terminal, result := .ok (arguments.config none) }
  | some path =>
      match Config.ofFile path (← readFile path) with
      | .error error => return { terminal, result := .error (.ofConfig error) }
      | .ok config =>
          return {
            terminal := terminal.show (config.loadedEntry path)
            result := .ok (arguments.config (some config)) }

def sizeEntry (trace : Trace) : Log.Entry where
  level := .info
  source := "trace_reader"
  message := "Trace has " ++ Decimal.render trace.bytes.size ++ " bytes"

def openSession (readFile : String → m File.Contents) (config : Config) (terminal : Terminal) :
    m (Prepared Session) := do
  match Trace.ofFile config.tracePath (← readFile config.tracePath) with
  | .error error => return { terminal, result := .error (.ofTrace error) }
  | .ok trace =>
      return {
        terminal := (terminal.show (trace.loadedEntry config.tracePath)).show (sizeEntry trace)
        result := .ok (.new trace config) }

def prepare (readFile : String → m File.Contents) (arguments : Arguments) (terminal : Terminal) :
    m (Prepared Session) := do
  let { terminal, result } ← findConfig readFile arguments terminal
  match result with
  | .error report => return { terminal, result := .error report }
  | .ok config => openSession readFile config terminal

end OpcodeTrace.Launch
