import OpcodeTrace.Json.Reading
import OpcodeTrace.Text.Decimal

/-! Numbers in JSON. Whole numbers of 64 bits are exact; the others can be rounded to a binary
fraction of double precision, and one that is too large for that is refused. -/

namespace OpcodeTrace.Json

structure Exponent where
  negative : Bool
  digits : List Char
deriving DecidableEq, Repr

structure Numeral where
  negative : Bool
  whole : List Char
  /-- No digits if there is no fraction. -/
  fraction : List Char
  exponent : Option Exponent
deriving DecidableEq, Repr

/-! ## Reading -/

def missingDigit (text : List Char) : Problem :=
  if text.isEmpty then .ended else .malformed

def readSomeDigits (text : List Char) : Reading (List Char) :=
  let digits := text.takeWhile Decimal.isDigit
  if digits.isEmpty then .error (missingDigit text)
  else .ok (digits, text.dropWhile Decimal.isDigit)

def readWhole (text : List Char) : Reading (List Char) :=
  match readSomeDigits text with
  | .error problem => .error problem
  | .ok (digits, rest) =>
      if digits.head? = some '0' ∧ digits ≠ ['0'] then .error .malformed else .ok (digits, rest)

def skipOptional (expected : Char) (text : List Char) : Bool × List Char :=
  if text.head? = some expected then (true, text.tail) else (false, text)

def readFraction (text : List Char) : Reading (List Char) :=
  match skipOptional '.' text with
  | (false, _) => .ok ([], text)
  | (true, rest) => readSomeDigits rest

def skipExponentLetter (text : List Char) : Bool × List Char :=
  match skipOptional 'e' text with
  | (true, rest) => (true, rest)
  | (false, _) => skipOptional 'E' text

def skipSign (text : List Char) : Bool × List Char :=
  match skipOptional '-' text with
  | (true, rest) => (true, rest)
  | (false, _) => (false, (skipOptional '+' text).2)

def readExponent (text : List Char) : Reading (Option Exponent) :=
  match skipExponentLetter text with
  | (false, _) => .ok (none, text)
  | (true, rest) =>
      let (negative, rest) := skipSign rest
      match readSomeDigits rest with
      | .error problem => .error problem
      | .ok (digits, rest) => .ok (some { negative, digits }, rest)

def readNumeral (text : List Char) : Reading Numeral :=
  let (negative, text) := skipOptional '-' text
  match readWhole text with
  | .error problem => .error problem
  | .ok (whole, text) =>
      match readFraction text with
      | .error problem => .error problem
      | .ok (fraction, text) =>
          match readExponent text with
          | .error problem => .error problem
          | .ok (exponent, rest) => .ok ({ negative, whole, fraction, exponent }, rest)

/-- Takes a number off a text. A number that is cut off is not told apart from other mistakes. -/
def skipNumeral (text : List Char) : Except Problem (List Char) :=
  match readNumeral text with
  | .ok (_, rest) => .ok rest
  | .error _ => .error .malformed

/-! ## Value -/

def keepDigits (number : Nat) : List Char → Nat × List Char
  | [] => (number, [])
  | digit :: digits =>
      let longer := 10 * number + Decimal.digitValue digit
      if longer < UInt64.size then keepDigits longer digits else (number, digit :: digits)

/-- A number rounded to 53 binary digits. A tie goes to the even neighbour. -/
def round53 (number : Nat) : Nat :=
  let unit := Nat.pow 2 (Nat.log2 number + 1 - 53)
  let quotient := number / unit
  let remainder := number % unit
  if unit < 2 * remainder ∨ (unit = 2 * remainder ∧ quotient % 2 = 1) then unit * (quotient + 1)
  else unit * quotient

def Exponent.value (exponent : Exponent) : Int :=
  if exponent.negative then -(Decimal.value exponent.digits : Int)
  else Decimal.value exponent.digits

namespace Numeral

/-- The number without its sign as a number of 64 bits and a power of ten. Digits for which there
is no room are taken for zeros in the whole part and left out in the fraction. -/
def parts (numeral : Numeral) : Nat × Int :=
  let (whole, dropped) := keepDigits 0 numeral.whole
  let (significand, left) := keepDigits whole numeral.fraction
  let power : Int := dropped.length - (numeral.fraction.length - left.length : Nat)
  (significand, power + (numeral.exponent.map Exponent.value).getD 0)

/-- The number is too large for double precision: its two parts, each rounded, have a product that
is rounded to infinity. -/
def isTooLarge (numeral : Numeral) : Bool :=
  let (significand, power) := numeral.parts
  if significand = 0 ∨ power < 0 then false
  else if 308 < power then true
  else Nat.pow 2 1024 - Nat.pow 2 970 ≤ round53 significand * round53 (Nat.pow 10 power.toNat)

def toWord? (numeral : Numeral) : Option UInt64 :=
  if numeral.negative ∨ numeral.fraction ≠ [] ∨ numeral.exponent.isSome then none
  else if Decimal.value numeral.whole < UInt64.size then some (Decimal.value numeral.whole).toUInt64
  else none

end Numeral

/-! ## What is read is taken off the text -/

theorem length_lt_of_readSomeDigits {digits text rest : List Char}
    (reads : readSomeDigits text = .ok (digits, rest)) : rest.length < text.length := by
  unfold readSomeDigits at reads
  dsimp only at reads
  split at reads
  · cases reads
  · next some =>
    cases reads
    have parted := congrArg List.length
      (List.takeWhile_append_dropWhile (p := Decimal.isDigit) (l := text))
    rw [List.length_append] at parted
    have positive : 0 < (text.takeWhile Decimal.isDigit).length := by
      rw [List.length_pos_iff]
      simpa using some
    omega

theorem length_skipOptional_le (expected : Char) (text : List Char) :
    (skipOptional expected text).2.length ≤ text.length := by
  unfold skipOptional
  split
  · simp
  · exact Nat.le_refl _

theorem length_le_of_skipOptional {expected : Char} {text rest : List Char} {found : Bool}
    (skipped : skipOptional expected text = (found, rest)) : rest.length ≤ text.length := by
  have shorter := length_skipOptional_le expected text
  rwa [skipped] at shorter

theorem length_lt_of_readWhole {digits text rest : List Char}
    (reads : readWhole text = .ok (digits, rest)) : rest.length < text.length := by
  unfold readWhole at reads
  split at reads
  · cases reads
  · next some =>
    split at reads
    · cases reads
    · cases reads
      exact length_lt_of_readSomeDigits some

theorem length_le_of_readFraction {digits text rest : List Char}
    (reads : readFraction text = .ok (digits, rest)) : rest.length ≤ text.length := by
  unfold readFraction at reads
  split at reads
  · cases reads
    exact Nat.le_refl _
  · next later skipped =>
    have shorter := length_le_of_skipOptional skipped
    exact Nat.le_of_lt (Nat.lt_of_lt_of_le (length_lt_of_readSomeDigits reads) shorter)

theorem length_skipExponentLetter_le (text : List Char) :
    (skipExponentLetter text).2.length ≤ text.length := by
  unfold skipExponentLetter
  split
  · next skipped => exact length_le_of_skipOptional skipped
  · exact length_skipOptional_le 'E' text

theorem length_skipSign_le (text : List Char) : (skipSign text).2.length ≤ text.length := by
  unfold skipSign
  split
  · next skipped => exact length_le_of_skipOptional skipped
  · exact length_skipOptional_le '+' text

theorem length_le_of_readExponent {exponent : Option Exponent} {text rest : List Char}
    (reads : readExponent text = .ok (exponent, rest)) : rest.length ≤ text.length := by
  unfold readExponent at reads
  split at reads
  · cases reads
    exact Nat.le_refl _
  · next later skipped =>
    have letter := length_skipExponentLetter_le text
    rw [skipped] at letter
    have sign := length_skipSign_le later
    dsimp only at reads
    split at reads
    · cases reads
    · next some =>
      cases reads
      have digits := length_lt_of_readSomeDigits some
      dsimp only at letter
      omega

theorem length_lt_of_readNumeral {numeral : Numeral} {text rest : List Char}
    (reads : readNumeral text = .ok (numeral, rest)) : rest.length < text.length := by
  unfold readNumeral at reads
  have sign := length_skipOptional_le '-' text
  dsimp only at reads
  split at reads
  · cases reads
  · next whole =>
    split at reads
    · cases reads
    · next fraction =>
      split at reads
      · cases reads
      · next exponent =>
        cases reads
        have first := length_lt_of_readWhole whole
        have second := length_le_of_readFraction fraction
        have third := length_le_of_readExponent exponent
        omega

theorem length_lt_of_skipNumeral {text rest : List Char} (skipped : skipNumeral text = .ok rest) :
    rest.length < text.length := by
  unfold skipNumeral at skipped
  split at skipped
  · next reads =>
    cases skipped
    exact length_lt_of_readNumeral reads
  · cases skipped

end OpcodeTrace.Json
