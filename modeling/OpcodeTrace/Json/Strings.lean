import OpcodeTrace.Json.Reading
import OpcodeTrace.Text.Hexadecimal

/-! Strings in JSON, read behind the opening quote. In a string that is asked for, a surrogate is
read only as half of a pair; a string that is skipped may hold one alone. -/

namespace OpcodeTrace.Json

def escaped? (letter : Char) : Option Char :=
  if letter = '"' then some '"'
  else if letter = '\\' then some '\\'
  else if letter = '/' then some '/'
  else if letter = 'b' then some '\x08'
  else if letter = 'f' then some '\x0c'
  else if letter = 'n' then some '\n'
  else if letter = 'r' then some '\r'
  else if letter = 't' then some '\t'
  else none

def isControl (character : Char) : Bool :=
  character.toNat < 0x20

def byteCount : List Char → Nat
  | [] => 0
  | character :: text => character.utf8Size + byteCount text

/-- Reads so many hexadecimal digits behind those with the value `code`. A text with fewer bytes
than digits still to come ends too early, whatever its bytes are. -/
def readDigits : (count code : Nat) → List Char → Reading Nat
  | 0, code, text => .ok (code, text)
  | _ + 1, _, [] => .error .ended
  | count + 1, code, character :: text =>
      match Hexadecimal.digitValue? character with
      | some value => readDigits count (16 * code + value) text
      | none =>
          if byteCount ((character :: text).take (count + 1)) < count + 1 then .error .ended
          else .error .malformed

def readCode (text : List Char) : Reading Nat :=
  readDigits 4 0 text

def isHighSurrogate (code : Nat) : Bool :=
  0xD800 ≤ code && code < 0xDC00

def isLowSurrogate (code : Nat) : Bool :=
  0xDC00 ≤ code && code < 0xE000

def ofSurrogates (high low : Nat) : Char :=
  Char.ofNat (0x10000 + 0x400 * (high - 0xD800) + (low - 0xDC00))

def readLowSurrogate (high : Nat) : List Char → Reading Char
  | [] => .error .ended
  | first :: text =>
      if first ≠ '\\' then .error .malformed
      else
        match text with
        | [] => .error .ended
        | second :: text =>
            if second ≠ 'u' then .error .malformed
            else
              match readCode text with
              | .error problem => .error problem
              | .ok (low, rest) =>
                  if isLowSurrogate low then .ok (ofSurrogates high low, rest)
                  else .error .malformed

def readEscape : List Char → Reading Char
  | [] => .error .ended
  | letter :: text =>
      if letter = 'u' then
        match readCode text with
        | .error problem => .error problem
        | .ok (code, rest) =>
            if isLowSurrogate code then .error .malformed
            else if isHighSurrogate code then readLowSurrogate code rest
            else .ok (Char.ofNat code, rest)
      else
        match escaped? letter with
        | some character => .ok (character, text)
        | none => .error .malformed

/-! ## What is read is taken off the text -/

theorem length_le_of_readDigits {count code value : Nat} {text rest : List Char}
    (reads : readDigits count code text = .ok (value, rest)) : rest.length ≤ text.length := by
  induction count generalizing code text with
  | zero =>
      cases reads
      exact Nat.le_refl _
  | succ count induction =>
      cases text with
      | nil => cases reads
      | cons character text =>
          unfold readDigits at reads
          split at reads
          · exact Nat.le_succ_of_le (induction reads)
          · split at reads <;> cases reads

theorem length_le_of_readCode {value : Nat} {text rest : List Char}
    (reads : readCode text = .ok (value, rest)) : rest.length ≤ text.length := by
  unfold readCode at reads
  exact length_le_of_readDigits reads

theorem length_le_of_readLowSurrogate {high : Nat} {character : Char} {text rest : List Char}
    (reads : readLowSurrogate high text = .ok (character, rest)) : rest.length ≤ text.length := by
  unfold readLowSurrogate at reads
  split at reads
  · cases reads
  · split at reads
    · cases reads
    · split at reads
      · cases reads
      · split at reads
        · cases reads
        · split at reads
          · cases reads
          · next code =>
            split at reads
            · simp only [Except.ok.injEq, Prod.mk.injEq] at reads
              rw [← reads.2]
              exact Nat.le_succ_of_le (Nat.le_succ_of_le (length_le_of_readCode code))
            · cases reads

theorem length_lt_of_readEscape {character : Char} {text rest : List Char}
    (reads : readEscape text = .ok (character, rest)) : rest.length < text.length := by
  unfold readEscape at reads
  split at reads
  · cases reads
  · split at reads
    · split at reads
      · cases reads
      · next code =>
        have shorter := length_le_of_readCode code
        split at reads
        · cases reads
        · split at reads
          · exact Nat.lt_succ_of_le (Nat.le_trans (length_le_of_readLowSurrogate reads) shorter)
          · cases reads
            exact Nat.lt_succ_of_le shorter
    · split at reads
      · cases reads
        exact Nat.lt_succ_self _
      · cases reads

/-! ## Whole strings -/

/-- Reads the rest of a string behind the characters in `taken`, the last one of which comes
first. -/
def readStringFrom (taken : List Char) (text : List Char) : Reading (List Char) :=
  match text with
  | [] => .error .ended
  | character :: rest =>
      if character = '"' then .ok (taken.reverse, rest)
      else if character = '\\' then
        match _ : readEscape rest with
        | .error problem => .error problem
        | .ok (escaped, later) => readStringFrom (escaped :: taken) later
      else if isControl character then .error .malformed
      else readStringFrom (character :: taken) rest
termination_by text.length
decreasing_by
  · exact Nat.lt_succ_of_lt (length_lt_of_readEscape (by assumption))
  · exact Nat.lt_succ_self _

def readString (text : List Char) : Reading (List Char) :=
  readStringFrom [] text

def skipString (text : List Char) : Except Problem (List Char) :=
  match text with
  | [] => .error .ended
  | character :: rest =>
      if character = '"' then .ok rest
      else if character = '\\' then
        match rest with
        | [] => .error .ended
        | letter :: rest =>
            if letter = 'u' then
              match _ : readCode rest with
              | .error problem => .error problem
              | .ok (_, later) => skipString later
            else if (escaped? letter).isSome then skipString rest
            else .error .malformed
      else if isControl character then .error .malformed
      else skipString rest
termination_by text.length
decreasing_by
  · exact Nat.lt_succ_of_le (Nat.le_succ_of_le (length_le_of_readCode (by assumption)))
  · exact Nat.lt_succ_of_lt (Nat.lt_succ_self _)
  · exact Nat.lt_succ_self _

theorem length_lt_of_readStringFrom {taken characters text rest : List Char}
    (reads : readStringFrom taken text = .ok (characters, rest)) : rest.length < text.length := by
  fun_induction readStringFrom taken text with
  | case1 => cases reads
  | case2 => cases reads; exact Nat.lt_succ_self _
  | case3 => cases reads
  | case4 taken text escaped later escape _ induction =>
      exact Nat.lt_trans (induction reads) (Nat.lt_succ_of_lt (length_lt_of_readEscape escape))
  | case5 => cases reads
  | case6 taken character text _ _ _ induction => exact Nat.lt_succ_of_lt (induction reads)

theorem length_lt_of_readString {characters text rest : List Char}
    (reads : readString text = .ok (characters, rest)) : rest.length < text.length := by
  unfold readString at reads
  exact length_lt_of_readStringFrom reads

theorem length_lt_of_skipString {text rest : List Char} (skipped : skipString text = .ok rest) :
    rest.length < text.length := by
  fun_induction skipString text with
  | case1 => cases skipped
  | case2 => cases skipped; exact Nat.lt_succ_self _
  | case3 => cases skipped
  | case4 => cases skipped
  | case5 text code later reads _ induction =>
      exact Nat.lt_trans (induction skipped)
        (Nat.lt_succ_of_le (Nat.le_succ_of_le (length_le_of_readCode reads)))
  | case6 letter text _ _ _ induction =>
      exact Nat.lt_succ_of_lt (Nat.lt_succ_of_lt (induction skipped))
  | case7 => cases skipped
  | case8 => cases skipped
  | case9 character text _ _ _ induction => exact Nat.lt_succ_of_lt (induction skipped)

end OpcodeTrace.Json
