import OpcodeTrace.Arguments.Parse
import OpcodeTrace.File.Tree
import OpcodeTrace.Launch.Prepare
import OpcodeTrace.Session.Run

/-! Launches, with the files in a tree and the whole input at hand. -/

namespace OpcodeTrace.Launch

inductive Code where
  | success
  | failure
  | usage
deriving DecidableEq, Repr

def Code.number : Code → UInt32
  | success => 0
  | failure => 1
  | usage => 2

structure Ending where
  code : Code
  out : Array UInt8 := #[]
  err : Array UInt8 := #[]

def Ending.ofTexts (code : Code) (out err : String) : Ending where
  code := code
  out := out.toUTF8.data
  err := err.toUTF8.data

def usageText (error : Arguments.UsageError) : String :=
  "error: " ++ error.message ++ "\n"

def Ending.ofTerminal (terminal : Terminal) (report : Option Report) : Ending :=
  match report with
  | none => { code := .success, out := terminal.out.taken, err := terminal.err.taken }
  | some report =>
      let err := (terminal.err.write report.render).1
      { code := .failure, out := terminal.out.taken, err := err.taken }

def start (words : List String) : Except Ending Arguments :=
  match Arguments.parse words with
  | .error error => .error (.ofTexts .usage "" (usageText error))
  | .ok .help => .error (.ofTexts .success Arguments.helpText "")
  | .ok .version => .error (.ofTexts .success Arguments.versionText "")
  | .ok (.start arguments) => .ok arguments

def run (files : File.Tree) (logSetting : Option String) (words : List String)
    (input : List UInt8) : Ending :=
  match start words with
  | .error ending => ending
  | .ok arguments =>
      let terminal : Terminal := { filter := .ofSetting logSetting }
      let prepared := Id.run (prepare (fun path => pure (files.read path)) arguments terminal)
      match prepared.result with
      | .error report => .ofTerminal prepared.terminal (some report)
      | .ok session =>
          let outcome := session.run input prepared.terminal
          .ofTerminal outcome.console (outcome.failure.map .ofSession)

end OpcodeTrace.Launch
