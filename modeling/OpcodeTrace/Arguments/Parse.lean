import OpcodeTrace.Arguments.Basic

/-! The words of a command line are read from left to right. The first one that is wrong, or that
asks for the help or the version, decides. -/

namespace OpcodeTrace.Arguments

inductive Word where
  /-- Two dashes alone. -/
  | separator
  | long (name : String) (value : Option String)
  | short (letter : Char) (rest : List Char)
  /-- No option, like a dash alone. -/
  | plain
deriving DecidableEq, Repr

def Word.ofLong (characters : List Char) : Word :=
  let name := String.ofList (characters.takeWhile (· ≠ '='))
  match characters.dropWhile (· ≠ '=') with
  | [] => .long name none
  | _ :: value => .long name (some (String.ofList value))

def Word.ofString (word : String) : Word :=
  match word.toList with
  | [] => .plain
  | first :: rest =>
      if first ≠ '-' then .plain
      else
        match rest with
        | [] => .plain
        | second :: rest =>
            if second ≠ '-' then .short second rest
            else if rest = [] then .separator
            else .ofLong rest

def attached : List Char → Option String
  | [] => none
  | first :: rest => some (String.ofList (if first = '=' then rest else first :: rest))

inductive Flag where
  | help
  | version
  | valued (key : Key)
deriving DecidableEq, Repr

def Flag.ofLetter? (letter : Char) : Option Flag :=
  if letter = 'c' then some (.valued .config)
  else if letter = 'p' then some (.valued .prompt)
  else if letter = 'i' then some (.valued .info)
  else if letter = 'n' then some (.valued .count)
  else if letter = 'h' then some .help
  else if letter = 'V' then some .version
  else none

def Flag.ofName? (name : String) : Option Flag :=
  if name = "config" then some (.valued .config)
  else if name = "prompt" then some (.valued .prompt)
  else if name = "info" then some (.valued .info)
  else if name = "count" then some (.valued .count)
  else if name = "help" then some .help
  else if name = "version" then some .version
  else none

def once (key : Key) (former : Option Value) (value : Value) :
    Except UsageError (Option Value) :=
  if former.isSome then .error (.repeated key) else .ok (some value)

def readPath (key : Key) (value : String) : Except UsageError String :=
  if value = "" then .error (.malformed key value) else .ok value

def readCount (value : String) : Except UsageError UInt64 :=
  match Decimal.read? value with
  | some count => .ok count
  | none => .error (.malformed .count value)

def give (arguments : Arguments) (key : Key) (value : String) : Except UsageError Arguments :=
  match key with
  | .config => do
      let configPath ← once key arguments.configPath (← readPath key value)
      return { arguments with configPath }
  | .prompt => do
      let prompt ← once key arguments.settings.prompt value
      return { arguments with settings.prompt := prompt }
  | .info => do
      let info ← once key arguments.settings.info value
      return { arguments with settings.info := info }
  | .count => do
      let defaultCount ← once key arguments.settings.defaultCount (← readCount value)
      return { arguments with settings.defaultCount := defaultCount }
  | .trace => do
      let tracePath ← once key arguments.settings.tracePath (← readPath key value)
      return { arguments with settings.tracePath := tracePath }

def parsePlain (arguments : Arguments) : List String → Except UsageError Request
  | [] => .ok (.start arguments)
  | word :: words => do (← arguments.give .trace word).parsePlain words

def parseFrom (arguments : Arguments) : List String → Except UsageError Request
  | [] => .ok (.start arguments)
  | word :: words =>
      match Word.ofString word with
      | .separator => arguments.parsePlain words
      | .plain => do (← arguments.give .trace word).parseFrom words
      | .long name value =>
          match Flag.ofName? name with
          | none => .error (.unknown word)
          | some .help => if value.isSome then .error (.unneededValue word) else .ok .help
          | some .version => if value.isSome then .error (.unneededValue word) else .ok .version
          | some (.valued key) =>
              match value with
              | some value => do (← arguments.give key value).parseFrom words
              | none =>
                  match words with
                  | [] => .error (.missingValue key)
                  | value :: words =>
                      if Word.ofString value = .plain then
                        do (← arguments.give key value).parseFrom words
                      else .error (.missingValue key)
      | .short letter rest =>
          match Flag.ofLetter? letter with
          | none => .error (.unknown word)
          | some .help => .ok .help
          | some .version => .ok .version
          | some (.valued key) =>
              match attached rest with
              | some value => do (← arguments.give key value).parseFrom words
              | none =>
                  match words with
                  | [] => .error (.missingValue key)
                  | value :: words =>
                      if Word.ofString value = .plain then
                        do (← arguments.give key value).parseFrom words
                      else .error (.missingValue key)

def parse (words : List String) : Except UsageError Request :=
  parseFrom {} words

end OpcodeTrace.Arguments
