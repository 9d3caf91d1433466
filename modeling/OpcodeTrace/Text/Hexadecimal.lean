import OpcodeTrace.Text.Positional

/-! Hexadecimal numerals, with lower-case digits when written, and either case when read. -/

namespace OpcodeTrace.Hexadecimal

def digit (value : Nat) : Char :=
  if value < 10 then Char.ofNat ('0'.toNat + value) else Char.ofNat ('a'.toNat + (value - 10))

def digitValue? (character : Char) : Option Nat :=
  if '0' ≤ character ∧ character ≤ '9' then some (character.toNat - '0'.toNat)
  else if 'a' ≤ character ∧ character ≤ 'f' then some (character.toNat - 'a'.toNat + 10)
  else if 'A' ≤ character ∧ character ≤ 'F' then some (character.toNat - 'A'.toNat + 10)
  else none

def base : Base where
  size := 16
  digit := digit
  large := by decide

def digits (number : Nat) : List Char :=
  base.digits number

/-- The digits of a number with zeros before them up to a width, and all of them if there are
more. -/
def paddedDigits (width number : Nat) : List Char :=
  (digits number).leftpad width '0'

def ofBytes (bytes : List UInt8) : List Char :=
  bytes.flatMap fun byte => paddedDigits 2 byte.toNat

end OpcodeTrace.Hexadecimal
