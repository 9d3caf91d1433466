import OpcodeTrace.Text.Decimal
import OpcodeTrace.Text.Quoted

/-! Configurations. Several places may set fields; a later place overrides an earlier one field by
field. -/

namespace OpcodeTrace

structure Config where
  tracePath : String := "out_primary.log"
  /-- The template shown before each command. -/
  prompt : String := "> "
  /-- The template shown after each run. -/
  info : String := ""
  defaultCount : UInt64 := 10
deriving DecidableEq, Repr

structure Settings where
  tracePath : Option String := none
  prompt : Option String := none
  info : Option String := none
  defaultCount : Option UInt64 := none
deriving DecidableEq, Repr

namespace Config

def override (config : Config) (settings : Settings) : Config where
  tracePath := settings.tracePath.getD config.tracePath
  prompt := settings.prompt.getD config.prompt
  info := settings.info.getD config.info
  defaultCount := settings.defaultCount.getD config.defaultCount

def ofTracePath (path : String) : Config :=
  { tracePath := path }

def describe (config : Config) : String :=
  "ReaderConfig \x7b trace_path: " ++ Quoted.quote config.tracePath ++
    ", prompt: " ++ Quoted.quote config.prompt ++
    ", info: " ++ Quoted.quote config.info ++
    ", default_count: " ++ Decimal.render config.defaultCount.toNat ++ " \x7d"

end Config

end OpcodeTrace
