import OpcodeTrace.Config.Load
import OpcodeTrace.Trace.Load

namespace OpcodeTrace.Launch

structure Report where
  context : String
  causes : List String
deriving DecidableEq, Repr

namespace Report

def indented (width : Nat) (text : String) : String :=
  String.ofList (text.toList.flatMap fun character =>
    if character = '\n' then '\n' :: List.replicate width ' ' else [character])

def causeLines : List String → List String
  | [cause] => ["    " ++ indented 4 cause ++ "\n"]
  | causes => causes.mapIdx fun index cause =>
      "    " ++ Decimal.render index ++ ": " ++ indented 7 cause ++ "\n"

def render (report : Report) : String :=
  "Error: " ++ report.context ++ "\n\nCaused by:\n" ++ String.join (causeLines report.causes)

def ofConfig (error : Config.LoadError) : Report where
  context := error.message
  causes := [error.cause]

def ofTrace (error : Trace.LoadError) : Report where
  context := "Can't load trace " ++ error.path
  causes := [error.message, error.error.failure.message]

def ofSession (failure : Failure) : Report where
  context := "Session I/O failed"
  causes := [failure.message]

end Report

end OpcodeTrace.Launch
