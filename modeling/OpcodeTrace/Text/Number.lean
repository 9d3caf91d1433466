import OpcodeTrace.Text.Decimal

/-! Numbers without a sign: digits with or without a decimal point, and perhaps a power of ten, or
words for infinity and the number that is none. -/

namespace OpcodeTrace.Number

def isWord (text : List Char) : Bool :=
  ["inf", "infinity", "nan"].contains (String.ofList text).toLower

def skipSign : List Char → List Char
  | [] => []
  | first :: rest => if first = '+' || first = '-' then rest else first :: rest

def isPower : List Char → Bool
  | [] => true
  | first :: rest =>
      (first = 'e' || first = 'E') && skipSign rest ≠ [] && (skipSign rest).all Decimal.isDigit

def splitFraction (text : List Char) : List Char × List Char :=
  match text with
  | [] => ([], [])
  | first :: rest => if first = '.' then rest.span Decimal.isDigit else ([], text)

def isNumber (text : List Char) : Bool :=
  let (whole, rest) := text.span Decimal.isDigit
  let (fraction, rest) := splitFraction rest
  isWord text || (!(whole ++ fraction).isEmpty && isPower rest)

end OpcodeTrace.Number
