import OpcodeTrace.Reader.Basic
import OpcodeTrace.Text.Decimal

/-! A template is a text with places for the state of a reader. After a percent sign, `i` stands
for the offset, `o` for the name of the opcode there, and a percent sign for itself. After a
backslash, `n` and `t` stand for a newline and a tab, and a backslash for itself. -/

namespace OpcodeTrace.Template

def directive (ip opcode : List Char) (character : Char) : List Char :=
  if character = 'i' then ip
  else if character = 'o' then opcode
  else if character = '%' then ['%']
  else []

def escape (character : Char) : List Char :=
  if character = 'n' then ['\n']
  else if character = 't' then ['\t']
  else if character = '\\' then ['\\']
  else []

def expand (ip opcode : List Char) : List Char → List Char
  | [] => []
  | character :: rest =>
      if character = '%' then
        match rest with
        | [] => []
        | marked :: later => directive ip opcode marked ++ expand ip opcode later
      else if character = '\\' then
        match rest with
        | [] => []
        | marked :: later => escape marked ++ expand ip opcode later
      else
        character :: expand ip opcode rest

end OpcodeTrace.Template

namespace OpcodeTrace

def Reader.format (reader : Reader) (template : String) : String :=
  String.ofList (Template.expand (Decimal.digits reader.ip.toNat) reader.currentLabel.toList
    template.toList)

end OpcodeTrace
