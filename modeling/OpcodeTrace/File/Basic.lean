import OpcodeTrace.Failure

/-! A file has to be opened before it is read, and each of the two stages may fail. -/

namespace OpcodeTrace.File

inductive ReadError where
  | opening (failure : Failure)
  | reading (failure : Failure)
deriving DecidableEq, Repr

def ReadError.failure : ReadError → Failure
  | opening failure => failure
  | reading failure => failure

abbrev Contents := Except ReadError (Array UInt8)

end OpcodeTrace.File
