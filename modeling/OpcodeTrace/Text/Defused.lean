import OpcodeTrace.Text.Hexadecimal

/-! Text that can't steer a terminal. The characters that would are spelled out by their codes. -/

namespace OpcodeTrace.Defused

def isAsciiCommand (character : Char) : Bool :=
  character = '\x07' || character = '\x08' || character = '\x0c' || character = '\x1b'
    || character = '\x7f'

def isCommand (character : Char) : Bool :=
  isAsciiCommand character || (0x80 ≤ character.toNat && character.toNat ≤ 0x9F)

def escape (character : Char) : List Char :=
  if isAsciiCommand character then
    ['\\', 'x'] ++ Hexadecimal.paddedDigits 2 character.toNat
  else if isCommand character then
    ['\\', 'u', '\x7b'] ++ Hexadecimal.digits character.toNat ++ ['\x7d']
  else [character]

def defuse (text : String) : String :=
  String.ofList (text.toList.flatMap escape)

end OpcodeTrace.Defused
