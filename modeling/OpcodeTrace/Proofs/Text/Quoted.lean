import Mathlib.Tactic.SplitIfs
import OpcodeTrace.Proofs.Text.Hexadecimal
import OpcodeTrace.Text.Quoted

/-! A reader of quoted text that goes by the backslashes alone. Which characters have no visible
form does not matter to it. -/

namespace OpcodeTrace.Quoted

/-! ## Undoing the escapes -/

def named? (letter : Char) : Option Char :=
  if letter = '0' then some '\x00'
  else if letter = 't' then some '\t'
  else if letter = 'n' then some '\n'
  else if letter = 'r' then some '\r'
  else if letter = '"' then some '"'
  else if letter = '\\' then some '\\'
  else none

/-- Where a reader is: between two characters of the text, or within what stands for one. -/
inductive Place where
  | between
  | behindBackslash
  | beforeBrace
  /-- Within the braces, behind digits that spell the number. -/
  | within (number : Nat)

def unescapeFrom? : Place → List Char → Option (List Char)
  | .between, [] => some []
  | _, [] => none
  | .between, character :: rest =>
      if character = '\\' then unescapeFrom? .behindBackslash rest
      else (unescapeFrom? .between rest).map (character :: ·)
  | .behindBackslash, letter :: rest =>
      if letter = 'u' then unescapeFrom? .beforeBrace rest
      else do
        let character ← named? letter
        (unescapeFrom? .between rest).map (character :: ·)
  | .beforeBrace, brace :: rest =>
      if brace = '\x7b' then unescapeFrom? (.within 0) rest else none
  | .within number, digit :: rest =>
      if digit = '\x7d' then (unescapeFrom? .between rest).map (Char.ofNat number :: ·)
      else do
        let number ← Hexadecimal.append? number digit
        unescapeFrom? (.within number) rest

def unescape? (body : List Char) : Option (List Char) :=
  unescapeFrom? .between body

/-- The characters that no backslash takes along. The flag tells whether the first one is taken. -/
def free : (taken : Bool) → List Char → List Char
  | _, [] => []
  | true, _ :: rest => free false rest
  | false, character :: rest =>
      if character = '\\' then free true rest else character :: free false rest

def unseen : List Char :=
  ['\n', '\t', '\r', '\x00']

/-- The quotation is a text between double quotes. It has no double quote but escaped ones inside, keeps
to its line, and gives the text back once its escapes are undone. -/
def Shows (quotation text : String) : Prop :=
  ∃ body : List Char, quotation.toList = ['"'] ++ body ++ ['"'] ∧
    '"' ∉ free false body ∧ (∀ character ∈ unseen, character ∉ body) ∧
    unescape? body = some text.toList

theorem Shows.unique {quotation one other : String} (showsOne : Shows quotation one)
    (showsOther : Shows quotation other) : one = other := by
  obtain ⟨body, quoted, _, _, read⟩ := showsOne
  obtain ⟨otherBody, otherQuoted, _, _, otherRead⟩ := showsOther
  have same : body = otherBody :=
    List.append_cancel_left (List.append_cancel_right (quoted.symm.trans otherQuoted))
  rw [same, otherRead, Option.some_inj] at read
  exact (String.toList_inj.mp read).symm

/-! ## One character -/

inductive Form (character : Char) : List Char → Prop where
  | letter {letter : Char} (names : named? letter = some character) (seen : letter ∉ unseen) :
      Form character ['\\', letter]
  | code : Form character
      (['\\', 'u', '\x7b'] ++ Hexadecimal.digits character.toNat ++ ['\x7d'])
  | plain (noQuote : character ≠ '"') (noBackslash : character ≠ '\\')
      (seen : character ∉ unseen) : Form character [character]

theorem form_escape (character : Char) : Form character (escape character) := by
  unfold escape
  split_ifs with zero tab newline carriageReturn quote backslash invisible
  · subst zero; exact .letter rfl (by decide)
  · subst tab; exact .letter rfl (by decide)
  · subst newline; exact .letter rfl (by decide)
  · subst carriageReturn; exact .letter rfl (by decide)
  · subst quote; exact .letter rfl (by decide)
  · subst backslash; exact .letter rfl (by decide)
  · exact .code
  · exact .plain quote backslash (by simp [unseen, zero, tab, newline, carriageReturn])

/-! ## Codes in braces -/

theorem unescapeFrom?_within {digits : List Char} {start number : Nat}
    (spells : digits.foldlM Hexadecimal.append? start = some number)
    (closed : '\x7d' ∉ digits) (rest : List Char) :
    unescapeFrom? (.within start) (digits ++ '\x7d' :: rest) =
      (unescapeFrom? .between rest).map (Char.ofNat number :: ·) := by
  induction digits generalizing start with
  | nil =>
      cases spells
      rw [List.nil_append, unescapeFrom?, if_pos rfl]
  | cons digit digits induction =>
      obtain ⟨different, later⟩ := not_or.mp (mt List.mem_cons.mpr closed)
      rw [List.foldlM_cons] at spells
      cases longer : Hexadecimal.append? start digit with
      | none =>
          rw [longer] at spells
          cases spells
      | some next =>
          rw [longer] at spells
          rw [List.cons_append, unescapeFrom?, if_neg (Ne.symm different), longer]
          exact induction spells later

theorem not_mem_digits {character : Char} (noDigit : Hexadecimal.digitValue? character = none)
    (number : Nat) : character ∉ Hexadecimal.digits number := by
  intro member
  have digit := Hexadecimal.isSome_digitValue?_of_mem_digits member
  rw [noDigit] at digit
  cases digit

theorem free_append_of_plain {characters : List Char} (plain : '\\' ∉ characters)
    (rest : List Char) : free false (characters ++ rest) = characters ++ free false rest := by
  induction characters with
  | nil => rfl
  | cons character characters induction =>
      obtain ⟨different, later⟩ := not_or.mp (mt List.mem_cons.mpr plain)
      rw [List.cons_append, free, if_neg (Ne.symm different), induction later, List.cons_append]

/-! ## One character in front of others -/

section

variable {character : Char} {form : List Char} (stands : Form character form)
include stands

theorem Form.unescape?_append (rest : List Char) :
    unescape? (form ++ rest) = (unescape? rest).map (character :: ·) := by
  cases stands with
  | @letter letter names seen =>
      have noCode : letter ≠ 'u' := by
        rintro rfl
        cases names
      simp [unescape?, unescapeFrom?, noCode, names]
  | code =>
      have within := unescapeFrom?_within (Hexadecimal.value?_digits character.toNat)
        (not_mem_digits rfl _) rest
      rw [Char.ofNat_toNat] at within
      simpa [unescape?, unescapeFrom?] using within
  | plain noQuote noBackslash seen =>
      simp [unescape?, unescapeFrom?, noBackslash]

theorem Form.quote_mem_free_append (rest : List Char) :
    '"' ∈ free false (form ++ rest) ↔ '"' ∈ free false rest := by
  cases stands with
  | letter names seen => rfl
  | code =>
      have noBackslash : '\\' ∉ Hexadecimal.digits character.toNat ++ ['\x7d'] := by
        have noDigit : '\\' ∉ Hexadecimal.digits character.toNat := not_mem_digits rfl _
        simpa using noDigit
      have noQuote : '"' ∉ Hexadecimal.digits character.toNat := not_mem_digits rfl _
      have opens : free false (['\\', 'u', '\x7b'] ++ Hexadecimal.digits character.toNat ++
          ['\x7d'] ++ rest) =
            '\x7b' :: free false (Hexadecimal.digits character.toNat ++ ['\x7d'] ++ rest) := by
        simp [free]
      rw [opens, free_append_of_plain noBackslash]
      simp [noQuote]
  | plain noQuote noBackslash seen =>
      rw [List.singleton_append, free, if_neg noBackslash, List.mem_cons]
      exact or_iff_right (Ne.symm noQuote)

theorem Form.unseen_not_mem {other : Char} (hidden : other ∈ unseen) : other ∉ form := by
  have apart : ∀ other ∈ unseen, other ∉ ['\\', 'u', '\x7b', '\x7d'] ∧
      Hexadecimal.digitValue? other = none := by
    intro other hidden
    simp only [unseen, List.mem_cons, List.not_mem_nil, or_false] at hidden
    rcases hidden with rfl | rfl | rfl | rfl <;> decide
  cases stands with
  | letter names seen =>
      have noBackslash : other ≠ '\\' := fun same => (apart other hidden).1 (by simp [same])
      rw [List.mem_cons, List.mem_singleton]
      rintro (backslash | rfl)
      · exact noBackslash backslash
      · exact seen hidden
  | code =>
      have noDigit := not_mem_digits (apart other hidden).2 character.toNat
      have around := (apart other hidden).1
      simp only [List.mem_append, List.mem_cons, List.not_mem_nil, or_false, not_or] at around ⊢
      exact ⟨⟨⟨around.1, around.2.1, around.2.2.1⟩, noDigit⟩, around.2.2.2⟩
  | plain noQuote noBackslash seen =>
      rw [List.mem_singleton]
      rintro rfl
      exact seen hidden

end

/-! ## Whole texts -/

theorem unescape?_encode (characters : List Char) :
    unescape? (encode characters) = some characters := by
  induction characters with
  | nil => rfl
  | cons character characters induction =>
      rw [encode, List.flatMap_cons, (form_escape character).unescape?_append, ← encode, induction]
      rfl

theorem quote_not_mem_free_encode (characters : List Char) :
    '"' ∉ free false (encode characters) := by
  induction characters with
  | nil => exact List.not_mem_nil
  | cons character characters induction =>
      rw [encode, List.flatMap_cons, (form_escape character).quote_mem_free_append]
      exact induction

theorem unseen_not_mem_encode {character : Char} (hidden : character ∈ unseen)
    (characters : List Char) : character ∉ encode characters := by
  intro member
  obtain ⟨other, _, inside⟩ := List.mem_flatMap.mp member
  exact (form_escape other).unseen_not_mem hidden inside

theorem shows_quote (text : String) : Shows (quote text) text :=
  ⟨encode text.toList, String.toList_ofList, quote_not_mem_free_encode _,
    fun _ hidden => unseen_not_mem_encode hidden _, unescape?_encode _⟩

/-- A text that spells an escape itself is told apart from the character that the escape stands for. -/
example : unescape? ['\\', '\\', 'n'] = some ['\\', 'n'] ∧ unescape? ['\\', 'n'] = some ['\n'] := by
  decide

end OpcodeTrace.Quoted
