import OpcodeTrace.Json.Numerals
import OpcodeTrace.Json.Strings

/-! Values that nobody asks for. Only their form matters, not the size of numbers, the codes in
strings or the depth: what the text still has to hold stands in a list. -/

namespace OpcodeTrace.Json

inductive Bracket where
  | array
  | object
deriving DecidableEq, Repr

namespace Bracket

def opening? (character : Char) : Option Bracket :=
  if character = '[' then some array
  else if character = '\x7b' then some object
  else none

def closing : Bracket → Char
  | array => ']'
  | object => '\x7d'

end Bracket

def skipScalar (text : List Char) : Except Problem (List Char) :=
  match text with
  | [] => .error .ended
  | first :: rest =>
      if first = 'n' then skipWord ['u', 'l', 'l'] rest
      else if first = 't' then skipWord ['r', 'u', 'e'] rest
      else if first = 'f' then skipWord ['a', 'l', 's', 'e'] rest
      else if first = '"' then skipString rest
      else if first = '-' ∨ Decimal.isDigit first then skipNumeral text
      else .error .malformed

/-- Takes what stands before a value in brackets off a text: nothing in an array, a name and a
colon in an object. -/
def skipName (bracket : Bracket) (text : List Char) : Except Problem (List Char) :=
  match bracket with
  | .array => .ok text
  | .object =>
      match skipBlanks text with
      | [] => .error .ended
      | first :: rest =>
          if first = '"' then
            match skipString rest with
            | .error problem => .error problem
            | .ok rest => skipMark ':' rest
          else .error .malformed

theorem length_lt_of_skipScalar {text rest : List Char} (skipped : skipScalar text = .ok rest) :
    rest.length < text.length := by
  unfold skipScalar at skipped
  split at skipped
  · cases skipped
  · repeat' split at skipped
    · exact Nat.lt_succ_of_le (length_le_of_skipWord skipped)
    · exact Nat.lt_succ_of_le (length_le_of_skipWord skipped)
    · exact Nat.lt_succ_of_le (length_le_of_skipWord skipped)
    · exact Nat.lt_succ_of_lt (length_lt_of_skipString skipped)
    · exact length_lt_of_skipNumeral skipped
    · cases skipped

theorem length_le_of_skipName {bracket : Bracket} {text rest : List Char}
    (skipped : skipName bracket text = .ok rest) : rest.length ≤ text.length := by
  have blanks := length_skipBlanks_le text
  unfold skipName at skipped
  split at skipped
  · cases skipped
    exact Nat.le_refl _
  · split at skipped
    · cases skipped
    · next found =>
      rw [found] at blanks
      split at skipped
      · split at skipped
        · cases skipped
        · next string =>
          have name := length_lt_of_skipString string
          have colon := length_lt_of_skipMark skipped
          rw [List.length_cons] at blanks
          omega
      · cases skipped

inductive Expected where
  | value
  /-- What follows an opening bracket. -/
  | contents (bracket : Bracket)
  | remainder (bracket : Bracket)
deriving DecidableEq, Repr

def Expected.rank : Option Expected → Nat
  | some (.contents _) => 1
  | _ => 0

def skipExpected (expected : List Expected) (text : List Char) : Except Problem (List Char) :=
  match expected with
  | [] => .ok text
  | .value :: expected =>
      match _ : skipBlanks text with
      | [] => .error .ended
      | first :: rest =>
          match Bracket.opening? first with
          | some bracket => skipExpected (.contents bracket :: expected) rest
          | none =>
              match _ : skipScalar (first :: rest) with
              | .error problem => .error problem
              | .ok later => skipExpected expected later
  | .contents bracket :: expected =>
      match _ : skipBlanks text with
      | [] => .error .ended
      | first :: rest =>
          if first = bracket.closing then skipExpected expected rest
          else
            match _ : skipName bracket (first :: rest) with
            | .error problem => .error problem
            | .ok later => skipExpected (.value :: .remainder bracket :: expected) later
  | .remainder bracket :: expected =>
      match _ : skipBlanks text with
      | [] => .error .ended
      | first :: rest =>
          if first = bracket.closing then skipExpected expected rest
          else if first = ',' then
            match _ : skipName bracket rest with
            | .error problem => .error problem
            | .ok later => skipExpected (.value :: .remainder bracket :: expected) later
          else .error .malformed
termination_by (text.length, Expected.rank expected.head?)
decreasing_by
  all_goals
    have blanks := length_skipBlanks_le text
    rw [‹skipBlanks text = first :: rest›, List.length_cons] at blanks
  · exact Prod.Lex.left _ _ blanks
  · have taken := length_lt_of_skipScalar ‹skipScalar (first :: rest) = .ok later›
    exact Prod.Lex.left _ _ (Nat.lt_of_lt_of_le taken blanks)
  · exact Prod.Lex.left _ _ blanks
  · have named := length_le_of_skipName ‹skipName bracket (first :: rest) = .ok later›
    rcases Nat.lt_or_eq_of_le (Nat.le_trans named blanks) with shorter | equal
    · exact Prod.Lex.left _ _ shorter
    · rw [equal]
      exact Prod.Lex.right _ (Nat.lt_succ_self 0)
  · exact Prod.Lex.left _ _ blanks
  · have named := length_le_of_skipName ‹skipName bracket rest = .ok later›
    exact Prod.Lex.left _ _ (Nat.lt_of_le_of_lt named blanks)

def skipValue (text : List Char) : Except Problem (List Char) :=
  skipExpected [.value] text

theorem length_le_of_skipExpected {expected : List Expected} {text rest : List Char}
    (skipped : skipExpected expected text = .ok rest) : rest.length ≤ text.length := by
  fun_induction skipExpected expected text with
  | case1 => cases skipped; exact Nat.le_refl _
  | case2 => cases skipped
  | case3 text expected first later found bracket opens induction =>
      have blanks := length_skipBlanks_le text
      rw [found, List.length_cons] at blanks
      exact Nat.le_trans (induction skipped) (Nat.le_of_lt blanks)
  | case4 => cases skipped
  | case5 text expected first later found opens last scalar induction =>
      have blanks := length_skipBlanks_le text
      have taken := length_lt_of_skipScalar scalar
      rw [found] at blanks
      exact Nat.le_trans (induction skipped) (Nat.le_trans (Nat.le_of_lt taken) blanks)
  | case6 => cases skipped
  | case7 text bracket expected later found induction =>
      have blanks := length_skipBlanks_le text
      rw [found, List.length_cons] at blanks
      exact Nat.le_trans (induction skipped) (Nat.le_of_lt blanks)
  | case8 => cases skipped
  | case9 text bracket expected first later found open' last named induction =>
      have blanks := length_skipBlanks_le text
      have taken := length_le_of_skipName named
      rw [found] at blanks
      exact Nat.le_trans (induction skipped) (Nat.le_trans taken blanks)
  | case10 => cases skipped
  | case11 text bracket expected later found induction =>
      have blanks := length_skipBlanks_le text
      rw [found, List.length_cons] at blanks
      exact Nat.le_trans (induction skipped) (Nat.le_of_lt blanks)
  | case12 => cases skipped
  | case13 text bracket expected later last named found comma induction =>
      have blanks := length_skipBlanks_le text
      have taken := length_le_of_skipName named
      rw [found, List.length_cons] at blanks
      exact Nat.le_trans (induction skipped) (Nat.le_trans taken (Nat.le_of_lt blanks))
  | case14 => cases skipped

theorem length_le_of_skipValue {text rest : List Char} (skipped : skipValue text = .ok rest) :
    rest.length ≤ text.length := by
  unfold skipValue at skipped
  exact length_le_of_skipExpected skipped

end OpcodeTrace.Json
