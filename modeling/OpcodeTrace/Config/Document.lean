import OpcodeTrace.Config.Basic
import OpcodeTrace.Json.Scalars
import OpcodeTrace.Json.Skip
import OpcodeTrace.Json.Text

/-! Configurations as JSON documents: an object, in which members with other names are skipped and
a field may stand only once, or an array of the first fields in order. -/

namespace OpcodeTrace

namespace Config

inductive Field where
  | tracePath
  | prompt
  | info
  | defaultCount
deriving DecidableEq, Repr

namespace Field

def key : Field → String
  | tracePath => "trace_path"
  | prompt => "prompt"
  | info => "info"
  | defaultCount => "default_count"

def all : List Field :=
  [tracePath, prompt, info, defaultCount]

def ofKey? (key : String) : Option Field :=
  all.find? (·.key = key)

end Field

def render (config : Config) : String :=
  "\x7b\"trace_path\":" ++ Json.quote config.tracePath ++
    ",\"prompt\":" ++ Json.quote config.prompt ++
    ",\"info\":" ++ Json.quote config.info ++
    ",\"default_count\":" ++ Decimal.render config.defaultCount.toNat ++ "\x7d"

end Config

namespace Settings

open Config (Field)
open Json (Problem Reading skipBlanks)

def isSet (settings : Settings) : Field → Bool
  | .tracePath => settings.tracePath.isSome
  | .prompt => settings.prompt.isSome
  | .info => settings.info.isSome
  | .defaultCount => settings.defaultCount.isSome

def readField (settings : Settings) (field : Field) (text : List Char) : Reading Settings :=
  match field with
  | .tracePath =>
      (Json.readText text).map fun (value, rest) =>
        ({ settings with tracePath := some value }, rest)
  | .prompt =>
      (Json.readText text).map fun (value, rest) => ({ settings with prompt := some value }, rest)
  | .info =>
      (Json.readText text).map fun (value, rest) => ({ settings with info := some value }, rest)
  | .defaultCount =>
      (Json.readNumber text).map fun (value, rest) =>
        ({ settings with defaultCount := some value }, rest)

/-! ## Objects -/

/-- Reads a member behind the opening quote of its name. A field that is set already is noticed
before its value. -/
def readMember (settings : Settings) (text : List Char) : Reading Settings :=
  match Json.readString text with
  | .error problem => .error problem
  | .ok (key, rest) =>
      match Field.ofKey? (String.ofList key) with
      | some field =>
          if settings.isSet field then .error .mismatched
          else
            match Json.skipMark ':' rest with
            | .error problem => .error problem
            | .ok rest => settings.readField field rest
      | none =>
          match Json.skipMark ':' rest with
          | .error problem => .error problem
          | .ok rest =>
              match Json.skipValue rest with
              | .error problem => .error problem
              | .ok rest => .ok (settings, rest)

theorem length_lt_of_readField {settings changed : Settings} {field : Field}
    {text rest : List Char} (reads : settings.readField field text = .ok (changed, rest)) :
    rest.length < text.length := by
  unfold readField at reads
  split at reads
  case h_4 =>
    cases number : Json.readNumber text with
    | error => rw [number] at reads; cases reads
    | ok pair =>
        rw [number] at reads
        cases reads
        exact Json.length_lt_of_readNumber number
  all_goals
    cases string : Json.readText text with
    | error => rw [string] at reads; cases reads
    | ok pair =>
        rw [string] at reads
        cases reads
        exact Json.length_lt_of_readText string

theorem length_lt_of_readMember {settings changed : Settings} {text rest : List Char}
    (reads : settings.readMember text = .ok (changed, rest)) : rest.length < text.length := by
  unfold readMember at reads
  split at reads
  · cases reads
  · next string =>
    have name := Json.length_lt_of_readString string
    split at reads
    · split at reads
      · cases reads
      · split at reads
        · cases reads
        · next colon =>
          have colon := Json.length_lt_of_skipMark colon
          have value := length_lt_of_readField reads
          omega
    · split at reads
      · cases reads
      · next colon =>
        have colon := Json.length_lt_of_skipMark colon
        split at reads
        · cases reads
        · next value =>
          have value := Json.length_le_of_skipValue value
          cases reads
          omega

def readMembers (settings : Settings) (text : List Char) : Reading Settings :=
  match _ : skipBlanks text with
  | [] => .error .ended
  | first :: rest =>
      if first = '\x7d' then .ok (settings, rest)
      else if first = ',' then
        match _ : Json.skipMark '"' rest with
        | .error problem => .error problem
        | .ok name =>
            match _ : settings.readMember name with
            | .error problem => .error problem
            | .ok (changed, later) => changed.readMembers later
      else .error .malformed
termination_by text.length
decreasing_by
  have blanks := Json.length_skipBlanks_le text
  have quote := Json.length_lt_of_skipMark ‹Json.skipMark '"' rest = .ok name›
  have member := length_lt_of_readMember ‹settings.readMember name = .ok (changed, later)›
  rw [‹skipBlanks text = first :: rest›, List.length_cons] at blanks
  omega

def readObject (text : List Char) : Reading Settings :=
  match skipBlanks text with
  | [] => .error .ended
  | first :: rest =>
      if first = '\x7d' then .ok ({}, rest)
      else if first = '"' then
        match readMember {} rest with
        | .error problem => .error problem
        | .ok (settings, later) => settings.readMembers later
      else .error .malformed

/-! ## Arrays -/

def readElements (settings : Settings) :
    (fields : List Field) → (text : List Char) → Reading Settings
  | [], text =>
      match skipBlanks text with
      | [] => .error .ended
      | first :: rest => if first = ']' then .ok (settings, rest) else .error .malformed
  | field :: fields, text =>
      match skipBlanks text with
      | [] => .error .ended
      | first :: rest =>
          if first = ']' then .ok (settings, rest)
          else if first = ',' then
            match settings.readField field rest with
            | .error problem => .error problem
            | .ok (changed, later) => changed.readElements fields later
          else .error .malformed

def readArray (text : List Char) : Reading Settings :=
  match skipBlanks text with
  | [] => .error .ended
  | first :: rest =>
      if first = ']' then .ok ({}, rest)
      else
        match readField {} .tracePath (first :: rest) with
        | .error problem => .error problem
        | .ok (settings, later) => settings.readElements [.prompt, .info, .defaultCount] later

/-! ## Documents -/

def readBody (text : List Char) : Reading Settings :=
  match skipBlanks text with
  | [] => .error .ended
  | first :: rest =>
      if first = '\x7b' then readObject rest
      else if first = '[' then readArray rest
      else .error (Json.wrongKind (first :: rest))

def read (document : String) : Except Problem Settings :=
  match readBody document.toList with
  | .error problem => .error problem
  | .ok (settings, rest) => if skipBlanks rest = [] then .ok settings else .error .malformed

end Settings

end OpcodeTrace
