import OpcodeTrace.File.Basic
import OpcodeTrace.Log
import OpcodeTrace.Text.Decimal
import OpcodeTrace.Trace

namespace OpcodeTrace.Trace

structure LoadError where
  path : String
  error : File.ReadError
deriving DecidableEq, Repr

def LoadError.message (error : LoadError) : String :=
  match error.error with
  | .opening failure => "can't open trace file " ++ error.path ++ ": " ++ failure.message
  | .reading failure =>
      "can't read trace file " ++ error.path ++ " into buffer: " ++ failure.message

def ofFile (path : String) (contents : File.Contents) : Except LoadError Trace :=
  match contents with
  | .ok bytes => .ok (ofBytes bytes)
  | .error error => .error { path, error }

def loadedEntry (trace : Trace) (path : String) : Log.Entry where
  level := .info
  source := "trace_reader::buffer"
  message := "Loaded trace " ++ path ++ " (" ++ Decimal.render trace.bytes.size ++ " bytes)"

end OpcodeTrace.Trace
