import OpcodeTrace.Config.Basic

/-! Arguments: a configuration file to start from, and settings that override it. -/

namespace OpcodeTrace

structure Arguments where
  configPath : Option String := none
  settings : Settings := {}
deriving DecidableEq, Repr

namespace Arguments

def config (arguments : Arguments) (file : Option Config) : Config :=
  (file.getD {}).override arguments.settings

inductive Key where
  | config
  | prompt
  | info
  | count
  | trace
deriving DecidableEq, Repr

def Key.name : Key → String
  | config => "config"
  | prompt => "prompt"
  | info => "info"
  | count => "count"
  | trace => "trace"

inductive Request where
  | help
  | version
  | start (arguments : Arguments)
deriving DecidableEq, Repr

inductive UsageError where
  | unknown (word : String)
  | missingValue (key : Key)
  | unneededValue (word : String)
  | repeated (key : Key)
  | malformed (key : Key) (value : String)
deriving DecidableEq, Repr

def UsageError.message : UsageError → String
  | unknown word => "unexpected argument '" ++ word ++ "' found"
  | missingValue key => "a value is required for '--" ++ key.name ++ "'"
  | unneededValue word => "unexpected value in '" ++ word ++ "'"
  | repeated key => "the argument '" ++ key.name ++ "' cannot be used multiple times"
  | malformed key value => "invalid value '" ++ value ++ "' for '" ++ key.name ++ "'"

def helpText : String :=
  "Step through a recorded opcode trace\n" ++
  "\n" ++
  "Usage: trace-reader [OPTIONS] [TRACE]\n" ++
  "\n" ++
  "Arguments:\n" ++
  "  [TRACE]  Trace file to load [default: out_primary.log]\n" ++
  "\n" ++
  "Options:\n" ++
  "  -c, --config <CONFIG>  JSON configuration file\n" ++
  "  -p, --prompt <PROMPT>  Prompt template (%i = IP, %o = opcode)\n" ++
  "  -i, --info <INFO>      Template printed after each step, continue or finish\n" ++
  "  -n, --count <COUNT>    Default count for dis, raw and hex\n" ++
  "  -h, --help             Print help\n" ++
  "  -V, --version          Print version\n"

def versionText : String :=
  "reader-cli 0.1.0\n"

end Arguments

end OpcodeTrace
