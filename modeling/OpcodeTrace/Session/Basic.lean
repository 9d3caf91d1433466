import OpcodeTrace.Config.Basic
import OpcodeTrace.Reader.Basic

/-! A reader, what its user has set, and the last line that was not blank. -/

namespace OpcodeTrace

structure Session where
  reader : Reader
  prompt : String
  info : String
  defaultCount : UInt64
  lastLine : Option String := none
  running : Bool := false

def Session.new (trace : Trace) (config : Config) : Session where
  reader := .new trace
  prompt := config.prompt
  info := config.info
  defaultCount := config.defaultCount

end OpcodeTrace
