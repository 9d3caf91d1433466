import OpcodeTrace.Json.Skip
import OpcodeTrace.Proofs.Json.Writing
import OpcodeTrace.Proofs.Success

/-! What a whole JSON text says, read with the arrays and objects that are still open on a stack.
Numbers are exact: a number is a whole one times a power of ten. -/

namespace OpcodeTrace.Json

inductive Value where
  | null
  | bool (truth : Bool)
  /-- The significand times the power of ten. -/
  | number (significand power : Int)
  | string (text : String)
  | array (elements : List Value)
  | object (members : List (String × Value))

/-! ## Scalars -/

def Numeral.toValue (numeral : Numeral) : Value :=
  let digits : Int := Decimal.value (numeral.whole ++ numeral.fraction)
  .number (if numeral.negative then -digits else digits)
    ((numeral.exponent.map Exponent.value).getD 0 - numeral.fraction.length)

def readScalar (text : List Char) : Reading Value :=
  match text with
  | [] => .error .ended
  | first :: rest =>
      if first = 'n' then (skipWord ['u', 'l', 'l'] rest).map fun later => (.null, later)
      else if first = 't' then (skipWord ['r', 'u', 'e'] rest).map fun later => (.bool true, later)
      else if first = 'f' then
        (skipWord ['a', 'l', 's', 'e'] rest).map fun later => (.bool false, later)
      else if first = '"' then
        (readString rest).map fun (characters, later) => (.string (String.ofList characters), later)
      else (readNumeral text).map fun (numeral, later) => (numeral.toValue, later)

def readName (text : List Char) : Reading String :=
  match skipBlanks text with
  | [] => .error .ended
  | first :: rest =>
      if first = '"' then
        match readString rest with
        | .error problem => .error problem
        | .ok (name, rest) => (skipMark ':' rest).map fun later => (String.ofList name, later)
      else .error .malformed

/-! ## Arrays and objects -/

/-- An array or an object that is still open. A part of it is read, the last item first. In an object,
the name of the next item is read already. -/
inductive Unclosed where
  | array (elements : List Value)
  | object (members : List (String × Value)) (name : String)

namespace Unclosed

def bracket : Unclosed → Bracket
  | array _ => .array
  | object _ _ => .object

def close (value : Value) : Unclosed → Value
  | array elements => .array (value :: elements).reverse
  | object members name => .object ((name, value) :: members).reverse

def next (value : Value) (text : List Char) : Unclosed → Reading Unclosed
  | array elements => .ok (.array (value :: elements), text)
  | object members name =>
      (readName text).map fun (later, rest) => (.object ((name, value) :: members) later, rest)

end Unclosed

namespace Bracket

def empty : Bracket → Value
  | array => .array []
  | object => .object []

def start (text : List Char) : Bracket → Reading Unclosed
  | array => .ok (.array [], text)
  | object => (readName text).map fun (name, rest) => (.object [] name, rest)

end Bracket

theorem length_lt_of_readScalar {value : Value} {text rest : List Char}
    (reads : readScalar text = .ok (value, rest)) : rest.length < text.length := by
  have word {expected later : List Char} {scalar : Value}
      (reads : (skipWord expected later).map (fun last => (scalar, last)) = .ok (value, rest)) :
      rest.length < later.length + 1 := by
    obtain ⟨last, skipped, same⟩ := exists_of_map_eq_ok reads
    cases same
    exact Nat.lt_succ_of_le (length_le_of_skipWord skipped)
  unfold readScalar at reads
  split at reads
  · cases reads
  · split_ifs at reads
    · exact word reads
    · exact word reads
    · exact word reads
    · obtain ⟨⟨characters, later⟩, string, same⟩ := exists_of_map_eq_ok reads
      cases same
      exact Nat.lt_succ_of_lt (length_lt_of_readString string)
    · obtain ⟨⟨numeral, later⟩, number, same⟩ := exists_of_map_eq_ok reads
      cases same
      exact length_lt_of_readNumeral number

theorem length_le_of_readName {name : String} {text rest : List Char}
    (reads : readName text = .ok (name, rest)) : rest.length ≤ text.length := by
  have blanks := length_skipBlanks_le text
  unfold readName at reads
  split at reads
  · cases reads
  · next found =>
    rw [found, List.length_cons] at blanks
    split_ifs at reads
    split at reads
    · cases reads
    · next string =>
      obtain ⟨later, colon, same⟩ := exists_of_map_eq_ok reads
      cases same
      have quoted := length_lt_of_readString string
      have taken := length_lt_of_skipMark colon
      omega

theorem Unclosed.length_le_of_next {innermost longer : Unclosed} {value : Value} {text rest : List Char}
    (reads : innermost.next value text = .ok (longer, rest)) : rest.length ≤ text.length := by
  cases innermost with
  | array elements =>
      cases reads
      exact Nat.le_refl _
  | object members name =>
      obtain ⟨⟨later, after⟩, named, same⟩ := exists_of_map_eq_ok reads
      cases same
      exact length_le_of_readName named

theorem Bracket.length_le_of_start {bracket : Bracket} {innermost : Unclosed} {text rest : List Char}
    (reads : bracket.start text = .ok (innermost, rest)) : rest.length ≤ text.length := by
  cases bracket with
  | array =>
      cases reads
      exact Nat.le_refl _
  | object =>
      obtain ⟨⟨name, after⟩, named, same⟩ := exists_of_map_eq_ok reads
      cases same
      exact length_le_of_readName named

/-- Reads on within what is still open, in front of the next value or behind it. -/
def readOn (outer : List Unclosed) (done : Option Value) (text : List Char) : Reading Value :=
  match done, outer with
  | none, outer =>
      match _ : skipBlanks text with
      | [] => .error .ended
      | first :: rest =>
          match Bracket.opening? first with
          | none =>
              match _ : readScalar (first :: rest) with
              | .error problem => .error problem
              | .ok (value, later) => readOn outer (some value) later
          | some bracket =>
              match _ : skipBlanks rest with
              | [] => .error .ended
              | second :: inside =>
                  if second = bracket.closing then readOn outer (some bracket.empty) inside
                  else
                    match _ : bracket.start rest with
                    | .error problem => .error problem
                    | .ok (innermost, later) => readOn (innermost :: outer) none later
  | some value, [] => .ok (value, text)
  | some value, innermost :: outer =>
      match _ : skipBlanks text with
      | [] => .error .ended
      | first :: rest =>
          if first = innermost.bracket.closing then readOn outer (some (innermost.close value)) rest
          else if first = ',' then
            match _ : innermost.next value rest with
            | .error problem => .error problem
            | .ok (longer, later) => readOn (longer :: outer) none later
          else .error .malformed
termination_by text.length
decreasing_by
  all_goals
    have blanks := length_skipBlanks_le text
    rw [‹skipBlanks text = first :: rest›, List.length_cons] at blanks
  · have taken := length_lt_of_readScalar ‹readScalar (first :: rest) = .ok (value, later)›
    exact Nat.lt_of_lt_of_le taken blanks
  · have further := length_skipBlanks_le rest
    rw [‹skipBlanks rest = second :: inside›, List.length_cons] at further
    omega
  · have taken := Bracket.length_le_of_start ‹bracket.start rest = .ok (innermost, later)›
    omega
  · exact blanks
  · have taken := Unclosed.length_le_of_next ‹innermost.next value rest = .ok (longer, later)›
    omega

def parse? (text : String) : Option Value :=
  match readOn [] none text.toList with
  | .ok (value, rest) => if skipBlanks rest = [] then some value else none
  | .error _ => none

/-! ## One step of a reader -/

section

variable {outer : List Unclosed} {innermost : Unclosed} {value : Value} {text rest later : List Char}
  {first : Char}

theorem readOn_scalar (begins : skipBlanks text = first :: rest)
    (scalar : Bracket.opening? first = none)
    (reads : readScalar (first :: rest) = .ok (value, later)) :
    readOn outer none text = readOn outer (some value) later := by
  rw [readOn]
  split
  · next found => cases found.symm.trans begins
  · next found =>
    cases found.symm.trans begins
    rw [scalar]
    dsimp only
    split
    · next failed => cases failed.symm.trans reads
    · next read =>
      cases read.symm.trans reads
      rfl

theorem readOn_start {bracket : Bracket} {second : Char} {inside : List Char}
    (begins : skipBlanks text = first :: rest) (opens : Bracket.opening? first = some bracket)
    (holds : skipBlanks rest = second :: inside) (filled : second ≠ bracket.closing)
    (starts : bracket.start rest = .ok (innermost, later)) :
    readOn outer none text = readOn (innermost :: outer) none later := by
  rw [readOn]
  split
  · next found => cases found.symm.trans begins
  · next found =>
    cases found.symm.trans begins
    rw [opens]
    dsimp only
    split
    · next found => cases found.symm.trans holds
    · next found =>
      cases found.symm.trans holds
      rw [if_neg filled]
      split
      · next failed => cases failed.symm.trans starts
      · next started =>
        cases started.symm.trans starts
        rfl

theorem readOn_empty {bracket : Bracket} (begins : skipBlanks text = first :: rest)
    (opens : Bracket.opening? first = some bracket)
    (closes : skipBlanks rest = bracket.closing :: later) :
    readOn outer none text = readOn outer (some bracket.empty) later := by
  rw [readOn]
  split
  · next found => cases found.symm.trans begins
  · next found =>
    cases found.symm.trans begins
    rw [opens]
    dsimp only
    split
    · next found => cases found.symm.trans closes
    · next found =>
      cases found.symm.trans closes
      rw [if_pos rfl]

theorem readOn_done : readOn [] (some value) text = .ok (value, text) := by
  rw [readOn]

theorem readOn_next {longer : Unclosed} (begins : skipBlanks text = ',' :: rest)
    (goesOn : innermost.next value rest = .ok (longer, later)) :
    readOn (innermost :: outer) (some value) text = readOn (longer :: outer) none later := by
  have apart : ',' ≠ innermost.bracket.closing := by
    cases innermost <;> exact ne_of_beq_false rfl
  conv => lhs; rw [readOn]
  split
  · next found => cases found.symm.trans begins
  · next found =>
    cases found.symm.trans begins
    rw [if_neg apart, if_pos rfl]
    split
    · next failed => cases failed.symm.trans goesOn
    · next wentOn =>
      cases wentOn.symm.trans goesOn
      rfl

theorem readOn_close (begins : skipBlanks text = innermost.bracket.closing :: rest) :
    readOn (innermost :: outer) (some value) text = readOn outer (some (innermost.close value)) rest := by
  conv => lhs; rw [readOn]
  split
  · next found => cases found.symm.trans begins
  · next found =>
    cases found.symm.trans begins
    rw [if_pos rfl]

theorem Bracket.start_object {name : String} (named : readName text = .ok (name, rest)) :
    Bracket.object.start text = .ok (.object [] name, rest) := by
  rw [start, named]
  rfl

theorem Unclosed.next_object {members : List (String × Value)} {name following : String}
    (named : readName text = .ok (following, rest)) :
    (object members name).next value text = .ok (.object ((name, value) :: members) following, rest) := by
  rw [next, named]
  rfl

/-! ## What is written -/

theorem skipBlanks_quoted (string : String) (rest : List Char) :
    skipBlanks ((quote string).toList ++ rest) = (quote string).toList ++ rest := by
  rw [quote, String.toList_ofList]
  rfl

theorem skipBlanks_digits (number : Nat) (rest : List Char) :
    skipBlanks (Decimal.digits number ++ rest) = Decimal.digits number ++ rest := by
  obtain ⟨first, digits, found, digit⟩ := Decimal.exists_digits_eq_cons number
  rw [found]
  exact skipBlanks_of_not_blank (isBlank_eq_false_of_isDigit digit) _

theorem readOn_quote {string : String} (begins : skipBlanks text = (quote string).toList ++ rest) :
    readOn outer none text = readOn outer (some (.string string)) rest := by
  have opens : (quote string).toList ++ rest = '"' :: (encode string.toList ++ '"' :: rest) := by
    simp [quote]
  refine readOn_scalar (begins.trans opens) rfl ?_
  rw [readScalar, if_neg (by decide), if_neg (by decide), if_neg (by decide), if_pos rfl,
    readString_encode]
  simp [Except.map]

theorem EndsNumber.readOn_digits (ends : EndsNumber rest) {number : Nat}
    (begins : skipBlanks text = Decimal.digits number ++ rest) :
    readOn outer none text = readOn outer (some (.number number 0)) rest := by
  have numeral := ends.readNumeral_digits number
  have value : (Numeral.ofWhole (Decimal.digits number)).toValue = .number number 0 := by
    simp [Numeral.toValue, Numeral.ofWhole, Decimal.value_digits]
  obtain ⟨digit, digits, found, ascii⟩ := Decimal.exists_digits_eq_cons number
  have apart : ∀ other : Char, Decimal.isDigit other = false → digit ≠ other := by
    rintro other noDigit rfl
    rw [ascii] at noDigit
    cases noDigit
  rw [found, List.cons_append] at begins numeral
  refine readOn_scalar begins ?_ ?_
  · rw [Bracket.opening?, if_neg (apart _ rfl), if_neg (apart _ rfl)]
  · rw [readScalar, if_neg (apart _ rfl), if_neg (apart _ rfl), if_neg (apart _ rfl),
      if_neg (apart _ rfl), numeral, ← found]
    exact congrArg (fun value => Except.ok (value, rest)) value

theorem readName_plain {name : String} (plain : encode name.toList = name.toList)
    (begins : skipBlanks text = '"' :: (name.toList ++ '"' :: ':' :: rest)) :
    readName text = .ok (name, rest) := by
  have reads := readString_encode name.toList (':' :: rest)
  have colon : skipMark ':' (':' :: rest) = .ok rest := rfl
  rw [plain] at reads
  rw [readName, begins]
  simp [reads, colon, Except.map]

end

end OpcodeTrace.Json
