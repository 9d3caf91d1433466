/-! Numbers written in a base. -/

namespace OpcodeTrace

structure Base where
  size : Nat
  digit : Nat → Char
  large : 1 < size

namespace Base

/-- The digits of a number, the leading one first. -/
def digits (base : Base) (number : Nat) : List Char :=
  if number < base.size then [base.digit number]
  else base.digits (number / base.size) ++ [base.digit (number % base.size)]
termination_by number
decreasing_by
  have large := base.large
  exact Nat.div_lt_self (by omega) large

def value (base : Base) (digitValue : Char → Nat) (digits : List Char) : Nat :=
  digits.foldl (fun number digit => base.size * number + digitValue digit) 0

end Base

end OpcodeTrace
