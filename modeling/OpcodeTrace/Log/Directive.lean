import OpcodeTrace.Log
import OpcodeTrace.Text.Alphanumeric
import OpcodeTrace.Text.Blank
import OpcodeTrace.Text.Decimal
import OpcodeTrace.Text.Number
import OpcodeTrace.Text.Pattern

/-! A directive shows the entries of some sources up to a level. It is a level alone, or a source,
a scope in brackets and a level behind an equals sign, any of which may be missing. Entries belong
to no span of work and have a message only, so there are directives that hold for no entry. -/

namespace OpcodeTrace.Log

structure Field where
  name : String
  value : Option String
deriving DecidableEq, Repr

structure Directive where
  /-- Empty for all sources. -/
  source : String
  span : Option String
  field : Option Field
  level : Option Level
deriving DecidableEq, Repr

/-- Entries have the field, whatever it holds. -/
def Field.isMessage (field : Field) : Bool :=
  field.name = "message" && field.value.isNone

def Directive.holds (directive : Directive) (entry : Entry) : Bool :=
  entry.source.startsWith directive.source && directive.span.isNone
    && directive.field.all Field.isMessage

def limit? (word : String) : Option (Option Level) :=
  match Decimal.read? word with
  | some number =>
      [none, some .error, some .warn, some .info, some .debug, some .trace][number.toNat]?
  | none =>
      match word.toLower with
      | "off" => some none
      | "error" => some (some .error)
      | "warn" => some (some .warn)
      | "info" => some (some .info)
      | "debug" => some (some .debug)
      | "trace" => some (some .trace)
      | _ => none

/-! ## Reading

Blanks around a directive are passed over to find its parts. Each part is then taken from the whole
text, at the offset at which it was found, so that blanks before a directive move its parts. -/

def place : (offset : Nat) → List Char → List (Nat × Char)
  | _, [] => []
  | offset, character :: rest => (offset, character) :: place (offset + character.utf8Size) rest

def part (text : String) (start stop : Nat) : String :=
  String.ofList (((place 0 text.toList).filter fun (offset, _) =>
    start ≤ offset && offset < stop).map Prod.snd)

/-- A value is a pattern or a number. All numbers are patterns but for those with a plus sign. -/
def isValue (text : List Char) : Bool :=
  match text with
  | '+' :: rest => Number.isNumber rest
  | _ => Pattern.isPattern text

/-- A name, and between equals signs a value. What follows a second equals sign is left out. -/
def readField? (text : String) : Option Field :=
  match text.splitOn "=" with
  | name :: value :: _ => if isValue value.toList then some { name, value := some value } else none
  | _ => some { name := text, value := none }

namespace Directive

def ofSource (source : String) : Directive :=
  { source, span := none, field := none, level := some .trace }

/-- Reads the level from an offset on. An empty level is the lowest one. -/
def readLevel? (text : String) (directive : Directive) (start : Nat) : Option Directive :=
  let word := part text start text.utf8ByteSize
  if word = "" then some directive
  else (limit? word).map fun level => { directive with level }

def readAfterScope? (text : String) (directive : Directive) :
    (rest : List (Nat × Char)) → Option Directive
  | [] => some directive
  | (stop, character) :: _ =>
      if character = '=' then readLevel? text directive (stop + 1) else none

def readFieldFrom? (text : String) (directive : Directive) (start : Nat)
    (rest : List (Nat × Char)) : Option Directive :=
  match rest.dropWhile (·.2 ≠ '\x7d') with
  | (stop, _) :: (_, ']') :: rest =>
      if stop = start then none
      else
        (readField? (part text start stop)).bind fun field =>
          readAfterScope? text { directive with field := some field } rest
  | _ => none

/-- Reads a scope from an offset on, and what follows it. A span may have no name, unless a field
comes with it. -/
def readScope? (text : String) (directive : Directive) (start : Nat)
    (rest : List (Nat × Char)) : Option Directive :=
  match rest.dropWhile fun (_, character) => character ≠ ']' && character ≠ '\x7b' with
  | [] => none
  | (stop, character) :: rest =>
      let name := part text start stop
      if character = ']' then readAfterScope? text { directive with span := some name } rest
      else
        readFieldFrom? text { directive with span := if stop = start then none else some name }
          (stop + 1) rest

def startsSource (character : Char) : Bool :=
  character = '-' || character = ':' || character = '_' || Alphanumeric.isAlphanumeric character

def ofWord (word : String) : Directive :=
  match limit? word with
  | some level => { ofSource "" with level }
  | none => ofSource word

def read? (text : String) : Option Directive :=
  match place 0 (Blank.trim text.toList) with
  | [] => none
  | (_, first) :: rest =>
      if first = '[' then readScope? text (ofSource "") 1 rest
      else if !startsSource first then none
      else
        match rest.dropWhile fun (_, character) => character ≠ '=' && character ≠ '[' with
        | [] => some (ofWord text)
        | (stop, character) :: rest =>
            let directive := ofSource (part text 0 stop)
            if character = '=' then readLevel? text directive (stop + 1)
            else readScope? text directive (stop + 1) rest

end Directive

end OpcodeTrace.Log
