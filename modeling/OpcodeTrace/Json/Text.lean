import OpcodeTrace.Text.Hexadecimal

/-! Writing strings in JSON. -/

namespace OpcodeTrace.Json

def escape (character : Char) : List Char :=
  if character = '"' then ['\\', '"']
  else if character = '\\' then ['\\', '\\']
  else if character = '\x08' then ['\\', 'b']
  else if character = '\x0c' then ['\\', 'f']
  else if character = '\n' then ['\\', 'n']
  else if character = '\r' then ['\\', 'r']
  else if character = '\t' then ['\\', 't']
  else if character.toNat < 0x20 then
    ['\\', 'u'] ++ Hexadecimal.paddedDigits 4 character.toNat
  else [character]

def encode (characters : List Char) : List Char :=
  characters.flatMap escape

def quote (text : String) : String :=
  String.ofList (['"'] ++ encode text.toList ++ ['"'])

end OpcodeTrace.Json
