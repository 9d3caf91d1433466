import Mathlib.Tactic.SplitIfs
import OpcodeTrace.Json.Scalars
import OpcodeTrace.Json.Text
import OpcodeTrace.Proofs.Text.Decimal
import OpcodeTrace.Proofs.Text.Hexadecimal

/-! Strings and numbers are read back in front of any text that does not go on with them. -/

namespace OpcodeTrace.Json

/-! ## What is no blank -/

theorem skipBlanks_of_not_blank {first : Char} (visible : isBlank first = false) (rest : List Char) :
    skipBlanks (first :: rest) = first :: rest :=
  List.dropWhile_cons_of_neg (by simp [visible])

theorem skipBlanks_quote (rest : List Char) : skipBlanks ('"' :: rest) = '"' :: rest := rfl

theorem skipBlanks_comma (rest : List Char) : skipBlanks (',' :: rest) = ',' :: rest := rfl

/-! ## Characters -/

/-- Four hexadecimal digits, in either case, and their value. -/
structure Code (digits : List Char) (code : Nat) : Prop where
  length : digits.length = 4
  value : Hexadecimal.value? digits = some code

/-- The text stands for the character within a string. A pair of codes stands for a character that has
no code of its own. -/
inductive Escapes : Char → List Char → Prop where
  | letter {letter character : Char} (names : escaped? letter = some character) :
      Escapes character ['\\', letter]
  | code {digits : List Char} {code : Nat} (spelled : Code digits code)
      (noLow : isLowSurrogate code = false) (noHigh : isHighSurrogate code = false) :
      Escapes (Char.ofNat code) ('\\' :: 'u' :: digits)
  | pair {digits lowDigits : List Char} {high low : Nat} (spelled : Code digits high)
      (isHigh : isHighSurrogate high) (lowSpelled : Code lowDigits low)
      (isLow : isLowSurrogate low) :
      Escapes (ofSurrogates high low) ('\\' :: 'u' :: (digits ++ '\\' :: 'u' :: lowDigits))
  | plain {character : Char} (noQuote : character ≠ '"') (noBackslash : character ≠ '\\')
      (noControl : isControl character = false) : Escapes character [character]

theorem code_paddedDigits {code : Nat} (fits : code < Nat.pow 16 4) :
    Code (Hexadecimal.paddedDigits 4 code) code :=
  ⟨Hexadecimal.length_paddedDigits (by decide) fits, Hexadecimal.value?_paddedDigits 4 code⟩

theorem escapes_control {character : Char} (control : character.toNat < 0x20) :
    Escapes character (['\\', 'u'] ++ Hexadecimal.paddedDigits 4 character.toNat) := by
  have fits : character.toNat < Nat.pow 16 4 := Nat.lt_trans control (by decide)
  have noLow : isLowSurrogate character.toNat = false := by
    rw [isLowSurrogate, decide_eq_false (by omega), Bool.false_and]
  have noHigh : isHighSurrogate character.toNat = false := by
    rw [isHighSurrogate, decide_eq_false (by omega), Bool.false_and]
  have escapes := Escapes.code (code_paddedDigits fits) noLow noHigh
  rwa [Char.ofNat_toNat] at escapes

theorem escapes_escape (character : Char) : Escapes character (escape character) := by
  unfold escape
  split_ifs with quote backslash backspace formFeed lineFeed carriageReturn tab control
  · subst quote; exact .letter rfl
  · subst backslash; exact .letter rfl
  · subst backspace; exact .letter rfl
  · subst formFeed; exact .letter rfl
  · subst lineFeed; exact .letter rfl
  · subst carriageReturn; exact .letter rfl
  · subst tab; exact .letter rfl
  · exact escapes_control control
  · exact .plain quote backslash (decide_eq_false control)

/-! ## Codes -/

theorem readDigits_append {digits : List Char} {start code : Nat}
    (spells : digits.foldlM Hexadecimal.append? start = some code) (rest : List Char) :
    readDigits digits.length start (digits ++ rest) = .ok (code, rest) := by
  induction digits generalizing start with
  | nil =>
      cases spells
      rfl
  | cons digit digits induction =>
      rw [List.foldlM_cons] at spells
      cases digitValue : Hexadecimal.digitValue? digit with
      | none => simp [Hexadecimal.append?, digitValue] at spells
      | some value =>
          rw [List.length_cons, List.cons_append, readDigits, digitValue]
          refine induction ?_
          simpa [Hexadecimal.append?, digitValue] using spells

theorem Code.readCode_append {digits : List Char} {code : Nat} (spelled : Code digits code)
    (rest : List Char) : readCode (digits ++ rest) = .ok (code, rest) := by
  have reads := readDigits_append spelled.value rest
  rwa [spelled.length] at reads

theorem readEscape_letter {letter character : Char} (escapes : escaped? letter = some character)
    (rest : List Char) : readEscape (letter :: rest) = .ok (character, rest) := by
  have other : letter ≠ 'u' := by
    rintro rfl
    cases escapes
  simp [readEscape, other, escapes]

theorem isLowSurrogate_eq_false {code : Nat} (high : isHighSurrogate code) :
    isLowSurrogate code = false := by
  simp only [isHighSurrogate, Bool.and_eq_true, decide_eq_true_eq] at high
  rw [isLowSurrogate, decide_eq_false (by omega), Bool.false_and]

theorem Escapes.plain_or_readEscape {character : Char} {text : List Char}
    (escapes : Escapes character text) :
    (text = [character] ∧ character ≠ '"' ∧ character ≠ '\\' ∧ isControl character = false) ∨
      ∃ later, text = '\\' :: later ∧
        ∀ rest, readEscape (later ++ rest) = .ok (character, rest) := by
  cases escapes with
  | letter names => exact .inr ⟨_, rfl, readEscape_letter names⟩
  | code spelled noLow noHigh =>
      refine .inr ⟨_, rfl, fun rest => ?_⟩
      simp [readEscape, spelled.readCode_append, noLow, noHigh]
  | pair spelled isHigh lowSpelled isLow =>
      refine .inr ⟨_, rfl, fun rest => ?_⟩
      simp [readEscape, readLowSurrogate, spelled.readCode_append, lowSpelled.readCode_append, isHigh,
        isLow, isLowSurrogate_eq_false isHigh]
  | plain noQuote noBackslash noControl => exact .inl ⟨rfl, noQuote, noBackslash, noControl⟩

/-! ## Strings -/

inductive Spells : List Char → List Char → Prop where
  | nil : Spells [] []
  | cons {character : Char} {characters text later : List Char} (first : Escapes character text)
      (rest : Spells characters later) : Spells (character :: characters) (text ++ later)

theorem spells_encode (characters : List Char) : Spells characters (encode characters) := by
  induction characters with
  | nil => exact .nil
  | cons character characters induction =>
      rw [encode, List.flatMap_cons]
      exact .cons (escapes_escape character) induction

theorem readStringFrom_of_readEscape {character : Char} {text rest : List Char}
    (escape : readEscape text = .ok (character, rest)) (taken : List Char) :
    readStringFrom taken ('\\' :: text) = readStringFrom (character :: taken) rest := by
  rw [readStringFrom, if_neg (by decide), if_pos rfl]
  split
  · next failed =>
      rw [escape] at failed
      cases failed
  · next read =>
      rw [escape] at read
      cases read
      rfl

theorem readStringFrom_of_plain {character : Char} (noQuote : character ≠ '"')
    (noBackslash : character ≠ '\\') (noControl : isControl character = false)
    (taken rest : List Char) :
    readStringFrom taken (character :: rest) = readStringFrom (character :: taken) rest := by
  rw [readStringFrom, if_neg noQuote, if_neg noBackslash, noControl]
  rfl

theorem Escapes.readStringFrom_eq {character : Char} {text : List Char}
    (escapes : Escapes character text) (taken rest : List Char) :
    readStringFrom taken (text ++ rest) = readStringFrom (character :: taken) rest := by
  obtain ⟨rfl, noQuote, noBackslash, noControl⟩ | ⟨later, rfl, escape⟩ := escapes.plain_or_readEscape
  · exact readStringFrom_of_plain noQuote noBackslash noControl taken rest
  · exact readStringFrom_of_readEscape (escape rest) taken

theorem Spells.readStringFrom_eq {characters text : List Char} (spells : Spells characters text)
    (taken rest : List Char) :
    readStringFrom taken (text ++ rest) = readStringFrom (characters.reverse ++ taken) rest := by
  induction spells generalizing taken with
  | nil => rfl
  | cons first later induction =>
      rw [List.append_assoc, first.readStringFrom_eq, induction]
      simp

theorem Spells.readString_eq {characters text : List Char} (spells : Spells characters text)
    (rest : List Char) : readString (text ++ '"' :: rest) = .ok (characters, rest) := by
  rw [readString, spells.readStringFrom_eq, readStringFrom, if_pos rfl]
  simp

theorem Spells.readText_eq {string : String} {text : List Char} (spells : Spells string.toList text)
    (rest : List Char) : readText ('"' :: (text ++ '"' :: rest)) = .ok (string, rest) := by
  rw [readText, skipBlanks_quote]
  dsimp only
  rw [if_pos rfl, spells.readString_eq]
  simp [Except.map]

theorem readString_encode (characters rest : List Char) :
    readString (encode characters ++ '"' :: rest) = .ok (characters, rest) :=
  (spells_encode characters).readString_eq rest

theorem readText_quote (text : String) (rest : List Char) :
    readText ((quote text).toList ++ rest) = .ok (text, rest) := by
  have opens : (quote text).toList ++ rest = '"' :: (encode text.toList ++ '"' :: rest) := by
    simp [quote]
  rw [opens]
  exact (spells_encode text.toList).readText_eq rest

/-! ## Numbers -/

def continuesNumber (character : Char) : Bool :=
  Decimal.isDigit character || character = '.' || character = 'e' || character = 'E'

def EndsNumber (rest : List Char) : Prop :=
  rest.head?.any continuesNumber = false

theorem endsNumber_comma (rest : List Char) : EndsNumber (',' :: rest) := rfl

theorem isBlank_eq_false_of_isDigit {character : Char} (digit : Decimal.isDigit character) :
    isBlank character = false := by
  rw [Bool.eq_false_iff, isBlank]
  intro blank
  simp only [Bool.or_eq_true, decide_eq_true_eq] at blank
  rcases blank with ((rfl | rfl) | rfl) | rfl <;> exact absurd digit (by decide)

structure Digits (text : List Char) : Prop where
  filled : text ≠ []
  numeric : ∀ character ∈ text, Decimal.isDigit character

/-- Digits that no zero leads, unless it is the only one. -/
structure Whole (text : List Char) : Prop extends Digits text where
  leading : text.head? = some '0' → text = ['0']

theorem whole_digits (number : Nat) : Whole (Decimal.digits number) where
  filled := Decimal.digits_ne_nil number
  numeric := fun _ member => Decimal.isDigit_of_mem_digits member
  leading := Decimal.digits_eq_of_head?

theorem Digits.exists_eq_cons {text : List Char} (digits : Digits text) :
    ∃ first later, text = first :: later ∧ Decimal.isDigit first := by
  cases text with
  | nil => exact absurd rfl digits.filled
  | cons first later => exact ⟨first, later, rfl, digits.numeric first List.mem_cons_self⟩

theorem Digits.readSomeDigits_append {text rest : List Char} (digits : Digits text)
    (ends : rest.head?.any Decimal.isDigit = false) :
    readSomeDigits (text ++ rest) = .ok (text, rest) := by
  have stops : rest.takeWhile Decimal.isDigit = [] ∧ rest.dropWhile Decimal.isDigit = rest := by
    cases rest with
    | nil => exact ⟨rfl, rfl⟩
    | cons next rest =>
        have other : Decimal.isDigit next = false := ends
        simp [other]
  rw [readSomeDigits, List.takeWhile_append_of_pos digits.numeric,
    List.dropWhile_append_of_pos digits.numeric, stops.1, stops.2, List.append_nil]
  exact if_neg (by simpa using digits.filled)

theorem Whole.readWhole_append {text rest : List Char} (whole : Whole text)
    (ends : rest.head?.any Decimal.isDigit = false) :
    readWhole (text ++ rest) = .ok (text, rest) := by
  rw [readWhole, whole.readSomeDigits_append ends]
  exact if_neg fun leads => leads.2 (whole.leading leads.1)

theorem Digits.skipOptional_append {text : List Char} (digits : Digits text) {expected : Char}
    (other : Decimal.isDigit expected = false) (rest : List Char) :
    skipOptional expected (text ++ rest) = (false, text ++ rest) := by
  obtain ⟨first, later, rfl, digit⟩ := digits.exists_eq_cons
  rw [skipOptional, if_neg]
  rintro ⟨⟩
  rw [digit] at other
  cases other

def Numeral.ofWhole (digits : List Char) : Numeral where
  negative := false
  whole := digits
  fraction := []
  exponent := none

theorem Numeral.toWord?_ofWhole {text : List Char} {number : UInt64}
    (value : Decimal.value text = number.toNat) : (ofWhole text).toWord? = some number := by
  have fits : number.toNat < UInt64.size := number.toNat_lt
  simp [toWord?, ofWhole, value, fits]

section

variable {rest : List Char} (ends : EndsNumber rest)
include ends

theorem EndsNumber.noDigit : rest.head?.any Decimal.isDigit = false := by
  cases rest with
  | nil => rfl
  | cons next rest =>
      simp only [EndsNumber, List.head?_cons, Option.any_some, continuesNumber,
        Bool.or_eq_false_iff] at ends
      exact ends.1.1.1

theorem EndsNumber.skipOptional_eq {expected : Char} (continues : continuesNumber expected) :
    skipOptional expected rest = (false, rest) := by
  rw [skipOptional, if_neg]
  intro found
  rw [EndsNumber, found, Option.any_some, continues] at ends
  cases ends

theorem EndsNumber.readFraction_eq : readFraction rest = .ok ([], rest) := by
  rw [readFraction, ends.skipOptional_eq rfl]

theorem EndsNumber.readExponent_eq : readExponent rest = .ok (none, rest) := by
  rw [readExponent, skipExponentLetter, ends.skipOptional_eq rfl]
  dsimp only
  rw [ends.skipOptional_eq rfl]

theorem EndsNumber.readNumeral_whole {text : List Char} (whole : Whole text) :
    readNumeral (text ++ rest) = .ok (.ofWhole text, rest) := by
  rw [readNumeral, whole.skipOptional_append rfl]
  dsimp only
  rw [whole.readWhole_append ends.noDigit]
  dsimp only
  rw [ends.readFraction_eq]
  dsimp only
  rw [ends.readExponent_eq]
  rfl

theorem EndsNumber.readNumber_whole {text : List Char} (whole : Whole text) {number : UInt64}
    (value : Decimal.value text = number.toNat) :
    readNumber (text ++ rest) = .ok (number, rest) := by
  have numeral := ends.readNumeral_whole whole
  obtain ⟨first, later, rfl, digit⟩ := whole.exists_eq_cons
  rw [List.cons_append] at numeral ⊢
  rw [readNumber, skipBlanks_of_not_blank (isBlank_eq_false_of_isDigit digit)]
  dsimp only
  rw [if_pos (Or.inr digit), numeral]
  dsimp only
  rw [Numeral.toWord?_ofWhole value]

theorem EndsNumber.readNumeral_digits (number : Nat) :
    readNumeral (Decimal.digits number ++ rest) =
      .ok (.ofWhole (Decimal.digits number), rest) :=
  ends.readNumeral_whole (whole_digits number)

theorem EndsNumber.readNumber_digits (number : UInt64) :
    readNumber (Decimal.digits number.toNat ++ rest) = .ok (number, rest) :=
  ends.readNumber_whole (whole_digits number.toNat) (Decimal.value_digits number.toNat)

end

end OpcodeTrace.Json
