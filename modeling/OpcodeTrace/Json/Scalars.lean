import OpcodeTrace.Json.Numerals
import OpcodeTrace.Json.Strings

/-! A value of another kind than asked for is a mismatch. If it is a scalar it is read first, so
that something wrong in it comes before the mismatch. -/

namespace OpcodeTrace.Json

def Numeral.problem (numeral : Numeral) : Problem :=
  if numeral.isTooLarge then .malformed else .mismatched

def mismatchAfter {Value : Type} : Except Problem Value → Problem
  | .error problem => problem
  | .ok _ => .mismatched

def wrongKind (text : List Char) : Problem :=
  match text with
  | [] => .ended
  | first :: rest =>
      if first = 'n' then mismatchAfter (skipWord ['u', 'l', 'l'] rest)
      else if first = 't' then mismatchAfter (skipWord ['r', 'u', 'e'] rest)
      else if first = 'f' then mismatchAfter (skipWord ['a', 'l', 's', 'e'] rest)
      else if first = '"' then mismatchAfter (readString rest)
      else if first = '-' ∨ Decimal.isDigit first then
        match readNumeral text with
        | .error problem => problem
        | .ok (numeral, _) => numeral.problem
      else if first = '[' ∨ first = '\x7b' then .mismatched
      else .malformed

def readText (text : List Char) : Reading String :=
  match skipBlanks text with
  | [] => .error .ended
  | first :: rest =>
      if first = '"' then (readString rest).map fun (characters, later) =>
        (String.ofList characters, later)
      else .error (wrongKind (first :: rest))

def readNumber (text : List Char) : Reading UInt64 :=
  match skipBlanks text with
  | [] => .error .ended
  | first :: rest =>
      if first = '-' ∨ Decimal.isDigit first then
        match readNumeral (first :: rest) with
        | .error problem => .error problem
        | .ok (numeral, later) =>
            match numeral.toWord? with
            | some number => .ok (number, later)
            | none => .error numeral.problem
      else .error (wrongKind (first :: rest))

theorem length_lt_of_readText {value : String} {text rest : List Char}
    (reads : readText text = .ok (value, rest)) : rest.length < text.length := by
  have blanks := length_skipBlanks_le text
  unfold readText at reads
  split at reads
  · cases reads
  · next found =>
    rw [found, List.length_cons] at blanks
    split at reads
    · cases string : readString _ with
      | error => rw [string] at reads; cases reads
      | ok pair =>
          rw [string] at reads
          cases reads
          have taken := length_lt_of_readString string
          omega
    · cases reads

theorem length_lt_of_readNumber {value : UInt64} {text rest : List Char}
    (reads : readNumber text = .ok (value, rest)) : rest.length < text.length := by
  have blanks := length_skipBlanks_le text
  unfold readNumber at reads
  split at reads
  · cases reads
  · next found =>
    rw [found] at blanks
    split at reads
    · split at reads
      · cases reads
      · next numeral =>
        have taken := length_lt_of_readNumeral numeral
        split at reads
        · cases reads
          exact Nat.lt_of_lt_of_le taken blanks
        · cases reads
    · cases reads

end OpcodeTrace.Json
