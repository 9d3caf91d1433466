import OpcodeTrace.Text.Hexadecimal
import OpcodeTrace.Text.Unprintable

/-! A text between double quotes in which every character can be told apart. Characters without a
visible form are written as their code points in braces. -/

namespace OpcodeTrace.Quoted

def escape (character : Char) : List Char :=
  if character = '\x00' then ['\\', '0']
  else if character = '\t' then ['\\', 't']
  else if character = '\n' then ['\\', 'n']
  else if character = '\r' then ['\\', 'r']
  else if character = '"' then ['\\', '"']
  else if character = '\\' then ['\\', '\\']
  else if Unprintable.isUnprintable character then
    ['\\', 'u', '{'] ++ Hexadecimal.digits character.toNat ++ ['}']
  else [character]

def encode (characters : List Char) : List Char :=
  characters.flatMap escape

def quote (text : String) : String :=
  String.ofList (['"'] ++ encode text.toList ++ ['"'])

end OpcodeTrace.Quoted
