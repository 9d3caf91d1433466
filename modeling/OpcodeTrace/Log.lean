import OpcodeTrace.Text.Defused

/-! What the program tells about its own work, apart from the answers it prints. -/

namespace OpcodeTrace.Log

inductive Level where
  | error
  | warn
  | info
  | debug
  | trace
deriving DecidableEq, Repr

namespace Level

def name : Level → String
  | .error => "ERROR"
  | .warn => "WARN"
  | .info => "INFO"
  | .debug => "DEBUG"
  | .trace => "TRACE"

def rank : Level → Nat
  | .error => 0
  | .warn => 1
  | .info => 2
  | .debug => 3
  | .trace => 4

end Level

structure Entry where
  level : Level
  source : String
  message : String
deriving DecidableEq, Repr

def Entry.render (entry : Entry) : String :=
  s!"{entry.level.name} {entry.source}: {entry.message}"

/-- An entry as a terminal gets it. The message may quote names that try to steer the terminal. -/
def Entry.line (entry : Entry) : String :=
  { entry with message := Defused.defuse entry.message }.render ++ "\n"

end OpcodeTrace.Log
