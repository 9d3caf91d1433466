import OpcodeTrace.Proofs.Text.Positional
import OpcodeTrace.Text.Hexadecimal

namespace OpcodeTrace.Hexadecimal

/-! ## Spelling -/

/-- The number that the digits spell with one more digit behind them. -/
def append? (number : Nat) (digit : Char) : Option Nat :=
  (digitValue? digit).map (16 * number + ·)

def value? (digits : List Char) : Option Nat :=
  digits.foldlM append? 0

theorem digitValue?_digit : ∀ value < 16, digitValue? (digit value) = some value := by decide

theorem isSome_digitValue?_of_mem_digits {number : Nat} {character : Char}
    (member : character ∈ digits number) : (digitValue? character).isSome := by
  obtain ⟨value, small, rfl⟩ := Base.exists_of_mem_digits member
  exact Option.isSome_of_eq_some (digitValue?_digit value small)

def digitValue (character : Char) : Nat :=
  (digitValue? character).getD 0

theorem digitValue_digit (value : Nat) (small : value < 16) : digitValue (digit value) = value := by
  rw [digitValue, digitValue?_digit value small, Option.getD_some]

theorem value?_eq_value {characters : List Char}
    (spelled : ∀ character ∈ characters, (digitValue? character).isSome) :
    value? characters = some (base.value digitValue characters) := by
  rw [value?, Base.value]
  -- The digits read so far may spell any number.
  generalize 0 = number
  induction characters generalizing number with
  | nil => rfl
  | cons first later induction =>
      obtain ⟨value, digit⟩ := Option.isSome_iff_exists.mp (spelled first List.mem_cons_self)
      rw [List.foldlM_cons, List.foldl_cons, append?, digitValue, digit]
      exact induction (fun character member => spelled character (List.mem_cons_of_mem _ member)) _

theorem value?_digits (number : Nat) : value? (digits number) = some number := by
  rw [value?_eq_value fun _ member => isSome_digitValue?_of_mem_digits member]
  exact congrArg some (Base.value_digits digitValue_digit number)

/-! ## Padding -/

theorem value?_leadingZeros (zeros : Nat) (characters : List Char) :
    value? (List.replicate zeros '0' ++ characters) = value? characters := by
  have zero : append? 0 '0' = some 0 := by decide
  induction zeros with
  | zero => rfl
  | succ zeros induction =>
      rw [List.replicate_succ, List.cons_append, value?, List.foldlM_cons, zero]
      exact induction

theorem value?_paddedDigits (width number : Nat) :
    value? (paddedDigits width number) = some number := by
  rw [paddedDigits, List.leftpad, value?_leadingZeros, value?_digits]

theorem length_paddedDigits {width number : Nat} (positive : 0 < width)
    (fits : number < Nat.pow 16 width) : (paddedDigits width number).length = width := by
  rw [paddedDigits, List.length_leftpad]
  exact Nat.max_eq_left (Base.length_digits_le positive fits)

/-! ## Leading digits -/

theorem isSome_digitValue?_of_mem_paddedDigits {width number : Nat} {character : Char}
    (member : character ∈ paddedDigits width number) : (digitValue? character).isSome := by
  rw [paddedDigits, List.leftpad, List.mem_append] at member
  rcases member with zero | digit
  · rw [List.eq_of_mem_replicate zero]
    decide
  · exact isSome_digitValue?_of_mem_digits digit

/-- A padded number is as wide as asked for. If it is wider, none of its digits is to spare. -/
theorem head?_paddedDigits_ne {width number : Nat} (positive : 0 < width)
    (wider : width < (paddedDigits width number).length) :
    (paddedDigits width number).head? ≠ some '0' := by
  intro leads
  rw [paddedDigits, List.length_leftpad] at wider
  have longer : width < (digits number).length := by omega
  rw [paddedDigits, List.leftpad, Nat.sub_eq_zero_of_le (Nat.le_of_lt longer), List.replicate_zero,
    List.nil_append] at leads
  have zero : digits 0 = ['0'] := Base.digits_of_lt (by decide)
  rw [Base.eq_zero_of_head? digitValue_digit leads, zero, List.length_singleton] at longer
  omega

/-! ## Bytes -/

def bytes? : List Char → Option (List UInt8)
  | [] => some []
  | [_] => none
  | high :: low :: rest => do
      let high ← digitValue? high
      let low ← digitValue? low
      let later ← bytes? rest
      return .ofNat (16 * high + low) :: later

theorem paddedDigits_byte {number : Nat} (fits : number < 256) :
    paddedDigits 2 number = [digit (number / 16), digit (number % 16)] := by
  by_cases small : number < 16
  · have high : number / 16 = 0 := Nat.div_eq_of_lt small
    have single : digits number = [digit number] := Base.digits_of_lt small
    rw [paddedDigits, single, high, Nat.mod_eq_of_lt small]
    rfl
  · have high : digits (number / 16) = [digit (number / 16)] :=
      Base.digits_of_lt (Nat.div_lt_of_lt_mul fits)
    have pair : digits number = digits (number / 16) ++ [digit (number % 16)] :=
      Base.digits_of_le (Nat.le_of_not_lt small)
    rw [paddedDigits, pair, high]
    rfl

theorem bytes?_ofBytes_append (bytes : List UInt8) (rest : List Char) :
    bytes? (ofBytes bytes ++ rest) = (bytes? rest).map (bytes ++ ·) := by
  induction bytes with
  | nil => simp [ofBytes]
  | cons byte bytes induction =>
      have fits : byte.toNat < 256 := byte.toNat_lt
      have high : byte.toNat / 16 < 16 := by omega
      have low : byte.toNat % 16 < 16 := Nat.mod_lt _ (by decide)
      have whole : 16 * (byte.toNat / 16) + byte.toNat % 16 = byte.toNat := Nat.div_add_mod _ _
      rw [ofBytes, List.flatMap_cons, paddedDigits_byte fits, List.cons_append, List.cons_append,
        List.cons_append, List.cons_append, List.nil_append, bytes?, digitValue?_digit _ high,
        digitValue?_digit _ low]
      change (do let later ← bytes? (ofBytes bytes ++ rest); pure _) = _
      rw [induction]
      cases bytes? rest <;> simp [whole]

theorem bytes?_ofBytes (bytes : List UInt8) : bytes? (ofBytes bytes) = some bytes := by
  rw [← List.append_nil (ofBytes bytes), bytes?_ofBytes_append]
  simp [bytes?]

theorem isSome_digitValue?_of_mem_ofBytes {bytes : List UInt8} {character : Char}
    (member : character ∈ ofBytes bytes) : (digitValue? character).isSome := by
  rcases List.mem_flatMap.mp member with ⟨byte, _, digit⟩
  exact isSome_digitValue?_of_mem_paddedDigits digit

end OpcodeTrace.Hexadecimal
