import OpcodeTrace.Config.Document
import OpcodeTrace.File.Basic
import OpcodeTrace.Log

namespace OpcodeTrace.Config

inductive LoadError where
  | read (path : String) (failure : Failure)
  | parse (path : String) (problem : Json.Problem)
deriving DecidableEq, Repr

def LoadError.message : LoadError → String
  | read path _ => "Failed to read config: " ++ path
  | parse path _ => "Failed to parse config: " ++ path

def LoadError.cause : LoadError → String
  | read _ failure => failure.message
  | parse _ .malformed => "the document is not JSON"
  | parse _ .ended => "the document ends too early"
  | parse _ .mismatched => "the document holds something else than a configuration"

def ofFile (path : String) (contents : File.Contents) : Except LoadError Config :=
  match contents with
  | .error error => .error (.read path error.failure)
  | .ok bytes =>
      match String.fromUTF8? ⟨bytes⟩ with
      | none => .error (.read path .invalidText)
      | some document =>
          match Settings.read document with
          | .ok settings => .ok (Config.override {} settings)
          | .error problem => .error (.parse path problem)

def loadedEntry (config : Config) (path : String) : Log.Entry where
  level := .debug
  source := "reader_cli::config"
  message := "Loaded config from " ++ path ++ ": " ++ config.describe

end OpcodeTrace.Config
