/-! Readers take their part off the front of a text and give the rest of it. -/

namespace OpcodeTrace.Json

inductive Problem where
  | malformed
  | ended
  /-- The text is JSON so far, and holds something that is not asked for. -/
  | mismatched
deriving DecidableEq, Repr

abbrev Reading (Value : Type) := Except Problem (Value × List Char)

def isBlank (character : Char) : Bool :=
  character = ' ' || character = '\n' || character = '\t' || character = '\r'

def skipBlanks (text : List Char) : List Char :=
  text.dropWhile isBlank

theorem length_skipBlanks_le (text : List Char) : (skipBlanks text).length ≤ text.length :=
  (List.dropWhile_sublist isBlank).length_le

/-- Takes a character off a text, with the blanks in front of it. -/
def skipMark (mark : Char) (text : List Char) : Except Problem (List Char) :=
  match skipBlanks text with
  | [] => .error .ended
  | first :: rest => if first = mark then .ok rest else .error .malformed

theorem length_lt_of_skipMark {mark : Char} {text rest : List Char}
    (skipped : skipMark mark text = .ok rest) : rest.length < text.length := by
  have blanks := length_skipBlanks_le text
  unfold skipMark at skipped
  split at skipped
  · cases skipped
  · next found =>
    split at skipped
    · cases skipped
      rw [found] at blanks
      exact blanks
    · cases skipped

def skipWord : (word : List Char) → (text : List Char) → Except Problem (List Char)
  | [], text => .ok text
  | _ :: _, [] => .error .ended
  | expected :: word, character :: text =>
      if character = expected then skipWord word text else .error .malformed

theorem length_le_of_skipWord {word text rest : List Char}
    (skipped : skipWord word text = .ok rest) : rest.length ≤ text.length := by
  induction word generalizing text with
  | nil =>
      cases skipped
      exact Nat.le_refl _
  | cons expected word induction =>
      cases text with
      | nil => cases skipped
      | cons character text =>
          unfold skipWord at skipped
          split at skipped
          · exact Nat.le_succ_of_le (induction skipped)
          · cases skipped

end OpcodeTrace.Json
