import OpcodeTrace.Command.Basic
import OpcodeTrace.Text.Words

/-! Reading commands. The first thing wrong with a line decides how it is rejected: an open quote,
then the keyword, then the number of arguments, then the arguments from left to right. -/

namespace OpcodeTrace.Command

inductive Keyword where
  | step
  | resume
  | finish
  | counts
  | breakpoints
  | setBreakpoint
  | clearBreakpoint
  | jump
  | reset
  | disassemble
  | raw
  | hex
  | info
  | prompt
  | help
  | quit
deriving DecidableEq, Repr

namespace Keyword

def ofWord? : String → Option Keyword
  | "s" | "step" => some step
  | "c" | "continue" => some resume
  | "f" | "finish" => some finish
  | "bps" => some breakpoints
  | "reset" => some reset
  | "help" => some help
  | "q" | "quit" => some quit
  | "counts" => some counts
  | "b" | "break" => some setBreakpoint
  | "d" | "delete" => some clearBreakpoint
  | "j" | "jump" => some jump
  | "dis" => some disassemble
  | "raw" => some raw
  | "hex" => some hex
  | "info" => some info
  | "prompt" => some prompt
  | _ => none

def longName : Keyword → String
  | step => "step"
  | resume => "continue"
  | finish => "finish"
  | counts => "counts"
  | breakpoints => "bps"
  | setBreakpoint => "break"
  | clearBreakpoint => "delete"
  | jump => "jump"
  | reset => "reset"
  | disassemble => "disassemble"
  | raw => "raw"
  | hex => "hex"
  | info => "info"
  | prompt => "prompt"
  | help => "help"
  | quit => "quit"

def arity : Keyword → String
  | step | resume | finish | breakpoints | reset | help | quit => "no"
  | setBreakpoint | clearBreakpoint | jump | prompt => "1"
  | counts | info => "0 or 1"
  | disassemble | raw | hex => "0, 1, or 2"

end Keyword

inductive Parameter where
  | ip
  | count
  | format
deriving DecidableEq, Repr

def Parameter.name : Parameter → String
  | .ip => "ip"
  | .count => "count"
  | .format => "format"

inductive Rejection where
  | unclosedQuote
  | unknown (word : String)
  | arity (keyword : Keyword) (given : Nat)
  | malformed (parameter : Parameter) (argument : String)
deriving DecidableEq, Repr

def Rejection.message : Rejection → String
  | .unclosedQuote => "can't split arguments: missing closing quote"
  | .unknown word => "Command " ++ word ++ " not found"
  | .arity keyword given =>
      s!"{keyword.longName} takes {keyword.arity} args, got {given}"
  | .malformed parameter argument => "invalid " ++ parameter.name ++ ": " ++ argument

def readNumber (parameter : Parameter) (argument : String) : Except Rejection UInt64 :=
  match Decimal.read? argument with
  | some number => .ok number
  | none => .error (.malformed parameter argument)

def withoutArguments (keyword : Keyword) (command : Command) :
    List String → Except Rejection Command
  | [] => .ok command
  | arguments => .error (.arity keyword arguments.length)

def withOffset (keyword : Keyword) (command : UInt64 → Command) :
    List String → Except Rejection Command
  | [offset] => (readNumber .ip offset).map command
  | arguments => .error (.arity keyword arguments.length)

/-- A single argument is the count; of two, the first is the start. -/
def withWindow (keyword : Keyword) (command : Window → Command) :
    List String → Except Rejection Command
  | [] => .ok (command {})
  | [count] => do
      let count ← readNumber .count count
      return command { count := some count }
  | [start, count] => do
      let start ← readNumber .ip start
      let count ← readNumber .count count
      return command { start := some start, count := some count }
  | arguments => .error (.arity keyword arguments.length)

def ofKeyword (keyword : Keyword) (arguments : List String) : Except Rejection Command :=
  match keyword with
  | .step => withoutArguments keyword step arguments
  | .resume => withoutArguments keyword resume arguments
  | .finish => withoutArguments keyword finish arguments
  | .breakpoints => withoutArguments keyword breakpoints arguments
  | .reset => withoutArguments keyword reset arguments
  | .help => withoutArguments keyword help arguments
  | .quit => withoutArguments keyword quit arguments
  | .setBreakpoint => withOffset keyword setBreakpoint arguments
  | .clearBreakpoint => withOffset keyword clearBreakpoint arguments
  | .jump => withOffset keyword jump arguments
  | .disassemble => withWindow keyword disassemble arguments
  | .raw => withWindow keyword raw arguments
  | .hex => withWindow keyword hex arguments
  | .counts =>
      match arguments with
      | [] => .ok (counts false)
      | [format] =>
          if format = "json" then .ok (counts true) else .error (.malformed .format format)
      | arguments => .error (.arity keyword arguments.length)
  | .info =>
      match arguments with
      | [] => .ok (info none)
      | [template] => .ok (info (some template))
      | arguments => .error (.arity keyword arguments.length)
  | .prompt =>
      match arguments with
      | [template] => .ok (prompt template)
      | arguments => .error (.arity keyword arguments.length)

def ofWords : List String → Except Rejection (Option Command)
  | [] => .ok none
  | word :: arguments =>
      match Keyword.ofWord? word with
      | some keyword => (ofKeyword keyword arguments).map some
      | none => .error (.unknown word)

def parse (line : String) : Except Rejection (Option Command) :=
  match Words.split line with
  | some words => ofWords words
  | none => .error .unclosedQuote

end OpcodeTrace.Command
