import OpcodeTrace.Text.Positional

/-! Decimal numerals. A numeral to be read may start with one plus sign and may have leading
zeros. -/

namespace OpcodeTrace.Decimal

def isDigit (character : Char) : Bool :=
  '0' ≤ character && character ≤ '9'

def digitValue (digit : Char) : Nat :=
  digit.toNat - '0'.toNat

def digit (value : Nat) : Char :=
  Char.ofNat ('0'.toNat + value)

def base : Base where
  size := 10
  digit := digit
  large := by decide

def digits (number : Nat) : List Char :=
  base.digits number

def render (number : Nat) : String :=
  String.ofList (digits number)

def value (digits : List Char) : Nat :=
  base.value digitValue digits

def ofDigits? (characters : List Char) : Option UInt64 :=
  if characters ≠ [] ∧ characters.all isDigit ∧ value characters < UInt64.size then
    some (value characters).toUInt64
  else
    none

def read? (numeral : String) : Option UInt64 :=
  match numeral.toList with
  | '+' :: digits => ofDigits? digits
  | digits => ofDigits? digits

end OpcodeTrace.Decimal
