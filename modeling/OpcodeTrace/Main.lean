import OpcodeTrace.Launch.Run

/-! The command line, with the files, the environment and the streams of the process. -/

namespace OpcodeTrace

def Failure.ofSystem : IO.Error → Failure
  | .noFileOrDirectory _ 2 _ => .notFound
  | .inappropriateType _ 20 _ => .notDirectory
  | .inappropriateType _ 21 _ => .isDirectory
  | error => .other (toString error)

def readFile (path : String) : IO File.Contents := do
  if path.contains '\x00' then
    return .error (.opening .zeroInName)
  match ← (IO.FS.Handle.mk path .read).toBaseIO with
  | .error error => return .error (.opening (.ofSystem error))
  | .ok handle =>
      match ← handle.readBinToEnd.toBaseIO with
      | .error error => return .error (.reading (.ofSystem error))
      | .ok bytes => return .ok bytes.data

partial def readLine (input : IO.FS.Stream) (taken : Array UInt8) : IO (List UInt8) := do
  let bytes ← input.read 1
  match bytes.data.toList with
  | [] => return taken.toList
  | byte :: _ =>
      if byte = Lines.newline then return (taken.push byte).toList
      else readLine input (taken.push byte)

def Terminal.deliver (terminal : Terminal) : IO (Terminal × Option Failure) := do
  let written ← (do
    let err ← IO.getStderr
    err.write ⟨terminal.err.taken⟩
    let out ← IO.getStdout
    out.write ⟨terminal.out.taken⟩
    out.flush : IO Unit).toBaseIO
  match written with
  | .ok _ => return (terminal.emptied, none)
  | .error error => return (terminal.emptied, some (.ofSystem error))

partial def talk (input : IO.FS.Stream) (outcome : Session.Outcome Terminal) :
    IO (Terminal × Option Failure) := do
  let (terminal, failure) ← outcome.console.deliver
  match outcome.failure.or failure with
  | some failure => return (terminal, some failure)
  | none =>
      if outcome.session.running then
        match ← readLine input #[] with
        | [] => return (terminal, none)
        | line => talk input (outcome.session.runLine terminal line)
      else return (terminal, none)

def finish (terminal : Terminal) (report : Option Launch.Report) : IO UInt32 := do
  let ending := Launch.Ending.ofTerminal terminal report
  let _ ← ({ terminal with
    out := { taken := ending.out }
    err := { taken := ending.err } } : Terminal).deliver
  return ending.code.number

end OpcodeTrace

open OpcodeTrace in
def main (words : List String) : IO UInt32 := do
  match Launch.start words with
  | .error ending =>
      (← IO.getStdout).write ⟨ending.out⟩
      (← IO.getStderr).write ⟨ending.err⟩
      return ending.code.number
  | .ok arguments =>
      let terminal : Terminal := { filter := .ofSetting (← IO.getEnv "RUST_LOG") }
      let prepared ← Launch.prepare readFile arguments terminal
      match prepared.result with
      | .error report => finish prepared.terminal (some report)
      | .ok session =>
          let (terminal, failure) ← talk (← IO.getStdin) (session.start prepared.terminal)
          finish terminal (failure.map .ofSession)
