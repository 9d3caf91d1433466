import OpcodeTrace.Failure
import OpcodeTrace.Log

/-! A console is a stream for answers, a stream for complaints, and a log. The streams may fail at
any operation, and go on to their next state all the same. -/

namespace OpcodeTrace

/-- The operations of a console, each on its state. An operation on a stream tells the failure, if
there is one. -/
class Console (State : Type) where
  print : State → String → State × Option Failure
  flush : State → State × Option Failure
  complain : State → String → State × Option Failure
  record : State → Log.Entry → State

namespace Console

def printAll [Console State] (state : State) : List String → State × Option Failure
  | [] => (state, none)
  | text :: texts =>
      match print state text with
      | (state, none) => printAll state texts
      | (state, some failure) => (state, some failure)

def printAndFlush [Console State] (state : State) (texts : List String) : State × Option Failure :=
  match printAll state texts with
  | (state, none) => flush state
  | (state, some failure) => (state, some failure)

def recordAll [Console State] (state : State) (entries : List Log.Entry) : State :=
  entries.foldl record state

end Console

end OpcodeTrace
