/-! Failures of files and streams, in the words in which they are told. -/

namespace OpcodeTrace

inductive Failure where
  /-- The stream takes no more bytes. -/
  | full
  /-- The stream can't deliver what it has taken. -/
  | flushRefused
  | invalidText
  | notFound
  | isDirectory
  | notDirectory
  | nameTooLong
  | zeroInName
  | other (message : String)
deriving DecidableEq, Repr

def Failure.message : Failure → String
  | .full => "sink full"
  | .flushRefused => "flush failed"
  | .invalidText => "stream did not contain valid UTF-8"
  | .notFound => "No such file or directory (os error 2)"
  | .isDirectory => "Is a directory (os error 21)"
  | .notDirectory => "Not a directory (os error 20)"
  | .nameTooLong => "File name too long (os error 36)"
  | .zeroInName => "file name contained an unexpected NUL byte"
  | .other message => message

end OpcodeTrace
