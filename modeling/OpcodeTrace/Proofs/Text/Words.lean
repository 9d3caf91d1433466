import Mathlib.Data.List.Forall2
import OpcodeTrace.Text.Words

/-! Every word can be written so that it is read again: as it is, or between single quotes. -/

namespace OpcodeTrace.Words

/-- Where no word has begun, the text leaves the reader in this word, to go on with what follows. -/
def Spells (text word : String) : Prop :=
  ∀ rest, splitFrom .between [] (text.toList ++ rest) = splitFrom .bare word.toList.reverse rest

/-! ## Plain words -/

def isPlain (character : Char) : Bool :=
  !isSeparator character && character ≠ '\'' && character ≠ '"' && character ≠ '\\' &&
    character ≠ '#'

theorem isPlain_iff (character : Char) :
    isPlain character ↔ isSeparator character = false ∧ character ≠ '\'' ∧ character ≠ '"' ∧
      character ≠ '\\' ∧ character ≠ '#' := by
  simp [isPlain, and_assoc]

theorem splitFrom_between_of_plain {character : Char} (plain : isPlain character)
    (rest : List Char) :
    splitFrom .between [] (character :: rest) = splitFrom .bare [character] rest := by
  simp [splitFrom, (isPlain_iff character).mp plain]

theorem splitFrom_bare_of_plain {character : Char} (plain : isPlain character)
    (word rest : List Char) :
    splitFrom .bare word (character :: rest) = splitFrom .bare (character :: word) rest := by
  simp [splitFrom, (isPlain_iff character).mp plain]

theorem splitFrom_bare_append {text : List Char} (plain : text.all isPlain)
    (word rest : List Char) :
    splitFrom .bare word (text ++ rest) = splitFrom .bare (text.reverse ++ word) rest := by
  induction text generalizing word with
  | nil => rfl
  | cons character text induction =>
      rw [List.all_cons, Bool.and_eq_true] at plain
      rw [List.cons_append, splitFrom_bare_of_plain plain.1, induction plain.2, List.reverse_cons,
        List.append_assoc]
      rfl

theorem spells_plain {word : String} (filled : word ≠ "") (plain : word.toList.all isPlain) :
    Spells word word := by
  intro rest
  cases characters : word.toList with
  | nil => exact absurd (String.toList_eq_nil_iff.mp characters) filled
  | cons first text =>
      rw [characters, List.all_cons, Bool.and_eq_true] at plain
      rw [List.cons_append, splitFrom_between_of_plain plain.1, splitFrom_bare_append plain.2,
        List.reverse_cons]

/-! ## Quoted words -/

def escape (character : Char) : List Char :=
  if character = '\'' then ['\'', '\\', '\'', '\''] else [character]

def quoted (word : String) : String :=
  String.ofList ('\'' :: (word.toList.flatMap escape ++ ['\'']))

theorem splitFrom_single_escape (character : Char) (word rest : List Char) :
    splitFrom .single word (escape character ++ rest) =
      splitFrom .single (character :: word) rest := by
  rw [escape]
  split
  · next isQuote =>
      subst isQuote
      rfl
  · next other => simp [splitFrom, other]

theorem splitFrom_single_flatMap_escape (text word rest : List Char) :
    splitFrom .single word (text.flatMap escape ++ rest) =
      splitFrom .single (text.reverse ++ word) rest := by
  induction text generalizing word with
  | nil => rfl
  | cons character text induction =>
      rw [List.flatMap_cons, List.append_assoc, splitFrom_single_escape, induction]
      simp

theorem spells_quoted (word : String) : Spells (quoted word) word := by
  intro rest
  have opens : splitFrom .between [] ((quoted word).toList ++ rest) =
      splitFrom .single [] (word.toList.flatMap escape ++ '\'' :: rest) := by
    simp [quoted, splitFrom]
  have closes : splitFrom .single word.toList.reverse ('\'' :: rest) =
      splitFrom .bare word.toList.reverse rest := rfl
  rw [opens, splitFrom_single_flatMap_escape, List.append_nil, closes]

/-! ## Lines -/

theorem splitFrom_spelled {texts words : List String} (spelled : List.Forall₂ Spells texts words) :
    splitFrom .between [] (" ".intercalate texts).toList = some (words.map String.toList) := by
  induction spelled with
  | nil => rfl
  | @cons text word texts words spells later induction =>
      cases later with
      | nil =>
          have ends := spells []
          rw [List.append_nil] at ends
          rw [String.intercalate_singleton, ends, splitFrom, List.reverse_reverse]
          rfl
      | @cons next _ texts _ _ _ =>
          -- The separator ends the word, and the next one begins.
          have goesOn := spells (' ' :: (" ".intercalate (next :: texts)).toList)
          rw [String.intercalate_cons_cons, String.append_assoc, String.toList_append,
            String.toList_append]
          refine goesOn.trans ?_
          change (splitFrom .between [] _).map (word.toList.reverse.reverse :: ·) = _
          rw [induction, List.reverse_reverse]
          rfl

theorem split_spelled {texts words : List String} (spelled : List.Forall₂ Spells texts words) :
    split (" ".intercalate texts) = some words := by
  rw [split, splitFrom_spelled spelled]
  simp

end OpcodeTrace.Words
