import OpcodeTrace.Console.Bounded
import OpcodeTrace.Log.Filter

/-! A terminal shows answers on one stream, and complaints on another, between the log entries
that pass a filter. -/

namespace OpcodeTrace

structure Terminal where
  filter : Log.Filter
  out : BoundedStream := {}
  err : BoundedStream := {}

/-- Nobody learns of a log entry that can't be shown. -/
def Terminal.show (terminal : Terminal) (entry : Log.Entry) : Terminal :=
  if terminal.filter.shows entry then
    { terminal with err := (terminal.err.write entry.line).1 }
  else
    terminal

def Terminal.emptied (terminal : Terminal) : Terminal :=
  { terminal with out := terminal.out.emptied, err := terminal.err.emptied }

instance : Console Terminal where
  print terminal text :=
    let (out, failure) := terminal.out.write text
    ({ terminal with out }, failure)
  flush terminal :=
    let (out, failure) := terminal.out.flush
    ({ terminal with out }, failure)
  complain terminal text :=
    let (err, failure) := terminal.err.write text
    ({ terminal with err }, failure)
  record := Terminal.show

end OpcodeTrace
