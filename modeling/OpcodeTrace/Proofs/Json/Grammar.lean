import Mathlib.Data.List.DropRight
import OpcodeTrace.Json.Skip
import OpcodeTrace.Proofs.Json.Writing

/-! What a text has to look like in order to be JSON, whatever it says. A text that the grammar
derives is skipped as a whole. -/

namespace OpcodeTrace.Json

/-! ## Blanks -/

def Blanks (text : List Char) : Prop :=
  ∀ character ∈ text, isBlank character

theorem Blanks.skipBlanks_append {blanks : List Char} (blank : Blanks blanks) (rest : List Char) :
    skipBlanks (blanks ++ rest) = skipBlanks rest :=
  List.dropWhile_append_of_pos blank

theorem skipBlanks_skipBlanks (text : List Char) : skipBlanks (skipBlanks text) = skipBlanks text :=
  List.dropWhile_idempotent ..

theorem Blanks.skipMark_append {blanks : List Char} {mark : Char} (blank : Blanks blanks)
    (visible : isBlank mark = false) (rest : List Char) :
    skipMark mark (blanks ++ mark :: rest) = .ok rest := by
  rw [skipMark, blank.skipBlanks_append, skipBlanks_of_not_blank visible]
  exact if_pos rfl

theorem Blanks.endsNumber_append {blanks rest : List Char} (blank : Blanks blanks)
    (ends : EndsNumber rest) : EndsNumber (blanks ++ rest) := by
  cases blanks with
  | nil => exact ends
  | cons first later =>
      have found := blank first List.mem_cons_self
      simp only [isBlank, Bool.or_eq_true, decide_eq_true_eq] at found
      rcases found with ((rfl | rfl) | rfl) | rfl <;> rfl

/-! ## Strings -/

inductive StringText : List Char → Prop where
  | nil : StringText []
  | letter {letter : Char} {later : List Char} (names : (escaped? letter).isSome)
      (rest : StringText later) : StringText ('\\' :: letter :: later)
  | code {digits : List Char} {code : Nat} {later : List Char} (spelled : Code digits code)
      (rest : StringText later) : StringText ('\\' :: 'u' :: (digits ++ later))
  | plain {character : Char} {later : List Char} (noQuote : character ≠ '"')
      (noBackslash : character ≠ '\\') (noControl : isControl character = false)
      (rest : StringText later) : StringText (character :: later)

theorem StringText.skipString_append {text : List Char} (derives : StringText text)
    (rest : List Char) : skipString (text ++ '"' :: rest) = .ok rest := by
  induction derives with
  | nil =>
      rw [List.nil_append, skipString.eq_def]
      exact if_pos rfl
  | @letter letter later names derives induction =>
      have other : letter ≠ 'u' := by
        rintro rfl
        cases names
      rw [List.cons_append, List.cons_append, skipString.eq_def]
      dsimp only
      rw [if_neg (by decide), if_pos rfl, if_neg other, if_pos names, induction]
  | code spelled derives induction =>
      have reads := spelled.readCode_append
      rw [List.cons_append, List.cons_append, List.append_assoc, skipString.eq_def]
      dsimp only
      rw [if_neg (by decide), if_pos rfl, if_pos rfl]
      split
      · next failed => cases failed.symm.trans (reads _)
      · next read =>
        cases read.symm.trans (reads _)
        exact induction
  | plain noQuote noBackslash noControl derives induction =>
      rw [List.cons_append, skipString.eq_def]
      dsimp only
      rw [if_neg noQuote, if_neg noBackslash, noControl]
      exact induction

/-! ## Numbers -/

def FractionText (text : List Char) : Prop :=
  text = [] ∨ ∃ digits, Digits digits ∧ text = '.' :: digits

def ExponentText (text : List Char) : Prop :=
  text = [] ∨ ∃ letter sign digits, (letter = 'e' ∨ letter = 'E') ∧
    (sign = [] ∨ sign = ['+'] ∨ sign = ['-']) ∧ Digits digits ∧ text = letter :: (sign ++ digits)

inductive NumberText : List Char → Prop where
  | parts {sign whole fraction exponent : List Char} (signed : sign = [] ∨ sign = ['-'])
      (wholeText : Whole whole) (fractionText : FractionText fraction)
      (exponentText : ExponentText exponent) :
      NumberText (sign ++ (whole ++ (fraction ++ exponent)))

section

variable {text rest : List Char}

theorem ExponentText.head?_append (exponent : ExponentText text) (ends : EndsNumber rest) :
    (text ++ rest).head?.any (fun character => Decimal.isDigit character || character = '.') =
      false := by
  rcases exponent with rfl | ⟨letter, sign, digits, letters, _, _, rfl⟩
  · cases rest with
    | nil => rfl
    | cons next rest =>
        simp only [EndsNumber, List.head?_cons, Option.any_some, continuesNumber,
          Bool.or_eq_false_iff] at ends
        simp [ends]
  · rcases letters with rfl | rfl <;> rfl

theorem ExponentText.readExponent_append (exponent : ExponentText text) (ends : EndsNumber rest) :
    ∃ value, readExponent (text ++ rest) = .ok (value, rest) := by
  rcases exponent with rfl | ⟨letter, sign, digits, letters, signs, numeric, rfl⟩
  · exact ⟨none, ends.readExponent_eq⟩
  · have reads := numeric.readSomeDigits_append ends.noDigit
    have unsigned : skipSign (digits ++ rest) = (false, digits ++ rest) := by
      rw [skipSign, numeric.skipOptional_append rfl]
      dsimp only
      rw [numeric.skipOptional_append rfl]
    have opens : skipExponentLetter (letter :: (sign ++ digits) ++ rest) =
        (true, sign ++ (digits ++ rest)) := by
      rcases letters with rfl | rfl <;> simp [skipExponentLetter, skipOptional]
    rw [readExponent, opens]
    rcases signs with rfl | rfl | rfl
    · rw [List.nil_append]
      dsimp only
      rw [unsigned]
      dsimp only
      rw [reads]
      exact ⟨_, rfl⟩
    · have plus : skipSign (['+'] ++ (digits ++ rest)) = (false, digits ++ rest) := rfl
      dsimp only
      rw [plus]
      dsimp only
      rw [reads]
      exact ⟨_, rfl⟩
    · have minus : skipSign (['-'] ++ (digits ++ rest)) = (true, digits ++ rest) := rfl
      dsimp only
      rw [minus]
      dsimp only
      rw [reads]
      exact ⟨_, rfl⟩

theorem FractionText.noDigit_append (fraction : FractionText text)
    (ends : rest.head?.any (fun character => Decimal.isDigit character || character = '.') = false) :
    (text ++ rest).head?.any Decimal.isDigit = false := by
  rcases fraction with rfl | ⟨digits, _, rfl⟩
  · cases rest with
    | nil => rfl
    | cons next rest =>
        simp only [List.head?_cons, Option.any_some, Bool.or_eq_false_iff] at ends
        exact ends.1
  · rfl

theorem FractionText.readFraction_append (fraction : FractionText text)
    (ends : rest.head?.any (fun character => Decimal.isDigit character || character = '.') = false) :
    ∃ digits, readFraction (text ++ rest) = .ok (digits, rest) := by
  have noDigit := FractionText.noDigit_append (.inl rfl) ends
  rcases fraction with rfl | ⟨digits, numeric, rfl⟩
  · have noPoint : skipOptional '.' rest = (false, rest) := by
      rw [skipOptional, if_neg]
      intro point
      simp [point] at ends
    refine ⟨[], ?_⟩
    rw [List.nil_append, readFraction, noPoint]
  · refine ⟨digits, ?_⟩
    have point : skipOptional '.' ('.' :: digits ++ rest) = (true, digits ++ rest) := rfl
    rw [readFraction, point]
    exact numeric.readSomeDigits_append noDigit

theorem NumberText.skipNumeral_append (number : NumberText text) (ends : EndsNumber rest) :
    skipNumeral (text ++ rest) = .ok rest := by
  cases number with
  | @parts sign whole fraction exponent signed wholeText fractionText exponentText =>
      have head := exponentText.head?_append ends
      obtain ⟨value, readsExponent⟩ := exponentText.readExponent_append ends
      obtain ⟨digits, readsFraction⟩ := fractionText.readFraction_append head
      have readsWhole := wholeText.readWhole_append (fractionText.noDigit_append head)
      have signs (later : List Char) : ∃ negative,
          skipOptional '-' (sign ++ (whole ++ later)) = (negative, whole ++ later) := by
        rcases signed with rfl | rfl
        · exact ⟨false, wholeText.skipOptional_append rfl later⟩
        · exact ⟨true, rfl⟩
      obtain ⟨negative, skips⟩ := signs (fraction ++ (exponent ++ rest))
      simp only [List.append_assoc]
      rw [skipNumeral, readNumeral, skips]
      dsimp only
      rw [readsWhole]
      dsimp only
      rw [readsFraction]
      dsimp only
      rw [readsExponent]

theorem NumberText.exists_eq_cons (number : NumberText text) :
    ∃ first later, text = first :: later ∧ (first = '-' ∨ Decimal.isDigit first) := by
  cases number with
  | parts signed wholeText fractionText exponentText =>
      rcases signed with rfl | rfl
      · obtain ⟨first, later, rfl, digit⟩ := wholeText.exists_eq_cons
        exact ⟨first, _, rfl, .inr digit⟩
      · exact ⟨'-', _, rfl, .inl rfl⟩

end

/-! ## Values -/

inductive ScalarText : List Char → Prop where
  | null : ScalarText ['n', 'u', 'l', 'l']
  | true : ScalarText ['t', 'r', 'u', 'e']
  | false : ScalarText ['f', 'a', 'l', 's', 'e']
  | string {text : List Char} (stringText : StringText text) : ScalarText ('"' :: (text ++ ['"']))
  | number {text : List Char} (numberText : NumberText text) : ScalarText text

def Bracket.opening : Bracket → Char
  | array => '['
  | object => '\x7b'

inductive LabelText : Bracket → List Char → Prop where
  | array : LabelText .array []
  | object {before name between : List Char} (blank : Blanks before) (nameText : StringText name)
      (blankBetween : Blanks between) :
      LabelText .object (before ++ '"' :: (name ++ '"' :: (between ++ [':'])))

inductive Symbol where
  | value
  /-- The items between brackets, at least one. -/
  | items (bracket : Bracket)

inductive Derives : Symbol → List Char → Prop where
  | scalar {text : List Char} (scalarText : ScalarText text) : Derives .value text
  | empty {bracket : Bracket} {between : List Char} (blank : Blanks between) :
      Derives .value (bracket.opening :: (between ++ [bracket.closing]))
  | filled {bracket : Bracket} {text : List Char} (items : Derives (.items bracket) text) :
      Derives .value (bracket.opening :: (text ++ [bracket.closing]))
  | last {bracket : Bracket} {label before text after : List Char}
      (labelText : LabelText bracket label) (blank : Blanks before) (value : Derives .value text)
      (blankAfter : Blanks after) :
      Derives (.items bracket) (label ++ (before ++ (text ++ after)))
  | more {bracket : Bracket} {label before text after later : List Char}
      (labelText : LabelText bracket label) (blank : Blanks before) (value : Derives .value text)
      (blankAfter : Blanks after) (rest : Derives (.items bracket) later) :
      Derives (.items bracket) (label ++ (before ++ (text ++ (after ++ ',' :: later))))

/-! ## Equations without the facts that are kept for termination -/

section

variable (expected : List Expected) (bracket : Bracket) (text : List Char)

theorem skipExpected_value :
    skipExpected (.value :: expected) text =
      match skipBlanks text with
      | [] => .error .ended
      | first :: rest =>
          match Bracket.opening? first with
          | some bracket => skipExpected (.contents bracket :: expected) rest
          | none =>
              match skipScalar (first :: rest) with
              | .error problem => .error problem
              | .ok later => skipExpected expected later := by
  rw [skipExpected]
  split
  · next found => rw [found]
  · next first rest found =>
    rw [found]
    dsimp only
    cases Bracket.opening? first with
    | some bracket => rfl
    | none =>
        dsimp only
        split
        · next scalar => rw [scalar]
        · next scalar => rw [scalar]

theorem skipExpected_contents :
    skipExpected (.contents bracket :: expected) text =
      match skipBlanks text with
      | [] => .error .ended
      | first :: rest =>
          if first = bracket.closing then skipExpected expected rest
          else
            match skipName bracket (first :: rest) with
            | .error problem => .error problem
            | .ok later => skipExpected (.value :: .remainder bracket :: expected) later := by
  rw [skipExpected]
  split
  · next found => rw [found]
  · next found =>
    rw [found]
    dsimp only
    split
    · rfl
    · split
      · next named => rw [named]
      · next named => rw [named]

theorem skipExpected_remainder :
    skipExpected (.remainder bracket :: expected) text =
      match skipBlanks text with
      | [] => .error .ended
      | first :: rest =>
          if first = bracket.closing then skipExpected expected rest
          else if first = ',' then
            match skipName bracket rest with
            | .error problem => .error problem
            | .ok later => skipExpected (.value :: .remainder bracket :: expected) later
          else .error .malformed := by
  rw [skipExpected]
  split
  · next found => rw [found]
  · next found =>
    rw [found]
    dsimp only
    split
    · rfl
    · split
      · split
        · next named => rw [named]
        · next named => rw [named]
      · rfl

end

/-! ## Skipping values -/

section

variable {expected : List Expected} {bracket : Bracket} {text rest later : List Char} {first : Char}

theorem Blanks.skipExpected_value_append {blanks : List Char} (blank : Blanks blanks) :
    skipExpected (.value :: expected) (blanks ++ text) = skipExpected (.value :: expected) text := by
  rw [skipExpected_value, skipExpected_value, blank.skipBlanks_append]

theorem Blanks.skipExpected_remainder_append {blanks : List Char} (blank : Blanks blanks) :
    skipExpected (.remainder bracket :: expected) (blanks ++ text) =
      skipExpected (.remainder bracket :: expected) text := by
  rw [skipExpected_remainder, skipExpected_remainder, blank.skipBlanks_append]

theorem skipExpected_scalar (begins : skipBlanks text = first :: rest)
    (noBracket : Bracket.opening? first = none) (skips : skipScalar (first :: rest) = .ok later) :
    skipExpected (.value :: expected) text = skipExpected expected later := by
  rw [skipExpected_value, begins]
  dsimp only
  rw [noBracket]
  dsimp only
  rw [skips]

theorem skipExpected_opening :
    skipExpected (.value :: expected) (bracket.opening :: text) =
      skipExpected (.contents bracket :: expected) text := by
  rw [skipExpected_value]
  cases bracket <;> rfl

theorem isBlank_closing (bracket : Bracket) : isBlank bracket.closing = false := by
  cases bracket <;> rfl

theorem skipExpected_contents_closing {between : List Char} (blank : Blanks between) :
    skipExpected (.contents bracket :: expected) (between ++ bracket.closing :: rest) =
      skipExpected expected rest := by
  rw [skipExpected_contents, blank.skipBlanks_append,
    skipBlanks_of_not_blank (isBlank_closing bracket)]
  exact if_pos rfl

theorem skipExpected_remainder_closing :
    skipExpected (.remainder bracket :: expected) (bracket.closing :: rest) =
      skipExpected expected rest := by
  rw [skipExpected_remainder, skipBlanks_of_not_blank (isBlank_closing bracket)]
  exact if_pos rfl

theorem skipExpected_remainder_comma (named : skipName bracket text = .ok later) :
    skipExpected (.remainder bracket :: expected) (',' :: text) =
      skipExpected (.value :: .remainder bracket :: expected) later := by
  have apart : ',' ≠ bracket.closing := by cases bracket <;> exact ne_of_beq_false rfl
  rw [skipExpected_remainder, skipBlanks_comma]
  dsimp only
  rw [if_neg apart, if_pos rfl, named]

theorem skipExpected_contents_eq (begins : skipBlanks text = first :: rest)
    (filled : first ≠ bracket.closing) :
    skipExpected (.contents bracket :: expected) text =
      skipExpected (.remainder bracket :: expected) (',' :: text) := by
  have apart : ',' ≠ bracket.closing := by cases bracket <;> exact ne_of_beq_false rfl
  rw [skipExpected_contents, begins, skipExpected_remainder, skipBlanks_comma]
  dsimp only
  rw [if_neg filled, if_neg apart, if_pos rfl]
  have again : skipBlanks (first :: rest) = first :: rest := by
    rw [← begins]
    exact skipBlanks_skipBlanks text
  cases bracket with
  | array =>
      dsimp only [skipName]
      rw [skipExpected_value, skipExpected_value, begins, again]
  | object =>
      dsimp only [skipName]
      rw [begins, again]

theorem LabelText.skipName_append {label : List Char} (labelText : LabelText bracket label)
    (rest : List Char) : skipName bracket (label ++ rest) = .ok rest := by
  cases labelText with
  | array => rfl
  | object blank nameText blankBetween =>
      have visible : isBlank ':' = false := rfl
      simp [skipName, blank.skipBlanks_append, skipBlanks_quote, nameText.skipString_append,
        blankBetween.skipMark_append visible]

/-! ### Derived texts -/

theorem isDigit_closing (bracket : Bracket) : Decimal.isDigit bracket.closing = false := by
  cases bracket <;> rfl

def Begins (first : Char) : Prop :=
  isBlank first = false ∧ ∀ bracket : Bracket, first ≠ bracket.closing

theorem begins_opening (bracket : Bracket) : Begins bracket.opening := by
  refine ⟨?_, fun other => ?_⟩
  · cases bracket <;> rfl
  · cases bracket <;> cases other <;> decide

theorem begins_quote : Begins '"' :=
  ⟨rfl, fun bracket => by cases bracket <;> decide⟩

theorem begins_of_isDigit (digit : Decimal.isDigit first) : Begins first := by
  refine ⟨isBlank_eq_false_of_isDigit digit, ?_⟩
  rintro bracket rfl
  rw [isDigit_closing] at digit
  cases digit

theorem ScalarText.exists_eq_cons (scalar : ScalarText text) :
    ∃ first later, text = first :: later ∧ Begins first ∧ Bracket.opening? first = none := by
  cases scalar with
  | null => exact ⟨'n', _, rfl, ⟨rfl, fun bracket => by cases bracket <;> decide⟩, rfl⟩
  | true => exact ⟨'t', _, rfl, ⟨rfl, fun bracket => by cases bracket <;> decide⟩, rfl⟩
  | false => exact ⟨'f', _, rfl, ⟨rfl, fun bracket => by cases bracket <;> decide⟩, rfl⟩
  | string => exact ⟨'"', _, rfl, begins_quote, rfl⟩
  | number numberText =>
      obtain ⟨first, later, rfl, rfl | digit⟩ := numberText.exists_eq_cons
      · exact ⟨'-', later, rfl, ⟨rfl, fun bracket => by cases bracket <;> decide⟩, rfl⟩
      · refine ⟨first, later, rfl, begins_of_isDigit digit, ?_⟩
        have noArray : first ≠ '[' := by rintro rfl; cases digit
        have noObject : first ≠ '\x7b' := by rintro rfl; cases digit
        rw [Bracket.opening?, if_neg noArray, if_neg noObject]

theorem ScalarText.skipScalar_append (scalar : ScalarText text) (ends : EndsNumber rest) :
    skipScalar (text ++ rest) = .ok rest := by
  cases scalar with
  | null | true | false => rfl
  | string stringText =>
      have skips := stringText.skipString_append rest
      rw [List.cons_append, List.append_assoc]
      exact skips
  | number numberText =>
      have skips := numberText.skipNumeral_append ends
      obtain ⟨first, later, rfl, minus | digit⟩ := numberText.exists_eq_cons
      · subst minus
        exact skips
      · have other (letter : Char) (noDigit : ¬Decimal.isDigit letter) : first ≠ letter := by
          rintro rfl
          exact noDigit digit
        rw [List.cons_append, skipScalar, if_neg (other 'n' (by decide)),
          if_neg (other 't' (by decide)), if_neg (other 'f' (by decide)),
          if_neg (other '"' (by decide)), if_pos (.inr digit)]
        exact skips

theorem Derives.exists_eq_cons (derives : Derives .value text) :
    ∃ first later, text = first :: later ∧ Begins first := by
  cases derives with
  | scalar scalarText =>
      obtain ⟨first, later, equal, begins, _⟩ := scalarText.exists_eq_cons
      exact ⟨first, later, equal, begins⟩
  | empty => exact ⟨_, _, rfl, begins_opening _⟩
  | filled => exact ⟨_, _, rfl, begins_opening _⟩

theorem LabelText.skipBlanks_append {label before : List Char} (labelText : LabelText bracket label)
    (blank : Blanks before) (derives : Derives .value text) (rest : List Char) :
    ∃ first later, skipBlanks (label ++ (before ++ (text ++ rest))) = first :: later ∧
      first ≠ bracket.closing := by
  cases labelText with
  | array =>
      obtain ⟨first, later, rfl, begins⟩ := derives.exists_eq_cons
      refine ⟨first, later ++ rest, ?_, begins.2 .array⟩
      rw [List.nil_append, blank.skipBlanks_append]
      exact skipBlanks_of_not_blank begins.1 _
  | object blankFirst nameText blankBetween =>
      have apart : '"' ≠ Bracket.object.closing := by decide
      rw [List.append_assoc, blankFirst.skipBlanks_append]
      exact ⟨_, _, skipBlanks_of_not_blank rfl _, apart⟩

theorem Derives.skipBlanks_append (derives : Derives (.items bracket) text) (rest : List Char) :
    ∃ first later, skipBlanks (text ++ rest) = first :: later ∧ first ≠ bracket.closing := by
  cases derives with
  | last labelText blank value blankAfter =>
      simpa only [List.append_assoc] using labelText.skipBlanks_append blank value _
  | more labelText blank value blankAfter later =>
      simpa only [List.append_assoc] using labelText.skipBlanks_append blank value _

/-- What it means for a text derived from a symbol to be skipped. Items are skipped behind a comma. -/
def Skips : Symbol → List Char → Prop
  | .value, text => ∀ (expected : List Expected) (rest : List Char), EndsNumber rest →
      skipExpected (.value :: expected) (text ++ rest) = skipExpected expected rest
  | .items bracket, text => ∀ (expected : List Expected) (rest : List Char), EndsNumber rest →
      skipExpected (.remainder bracket :: expected) (',' :: (text ++ rest)) =
        skipExpected (.remainder bracket :: expected) rest

theorem Skips.item {label before after : List Char} (skips : Skips .value text)
    (labelText : LabelText bracket label) (blank : Blanks before) (blankAfter : Blanks after)
    (ends : EndsNumber rest) :
    skipExpected (.remainder bracket :: expected)
        (',' :: (label ++ (before ++ (text ++ (after ++ rest))))) =
      skipExpected (.remainder bracket :: expected) rest := by
  rw [skipExpected_remainder_comma (labelText.skipName_append _), blank.skipExpected_value_append,
    skips _ _ (blankAfter.endsNumber_append ends), blankAfter.skipExpected_remainder_append]

theorem Derives.skips {symbol : Symbol} (derives : Derives symbol text) : Skips symbol text := by
  -- Values hold items and items hold values, so both are skipped by one induction.
  induction derives with
  | scalar scalarText =>
      intro expected rest ends
      have skips := scalarText.skipScalar_append ends
      obtain ⟨first, later, rfl, begins, noBracket⟩ := scalarText.exists_eq_cons
      exact skipExpected_scalar (skipBlanks_of_not_blank begins.1 _) noBracket skips
  | empty blank =>
      intro expected rest _
      rw [List.cons_append, List.append_assoc, skipExpected_opening]
      exact skipExpected_contents_closing blank
  | @filled bracket text items induction =>
      intro expected rest _
      obtain ⟨first, later, begins, apart⟩ := items.skipBlanks_append (bracket.closing :: rest)
      have ends : EndsNumber (bracket.closing :: rest) := by cases bracket <;> rfl
      rw [List.cons_append, List.append_assoc, skipExpected_opening]
      exact (skipExpected_contents_eq begins apart).trans
        ((induction expected _ ends).trans skipExpected_remainder_closing)
  | last labelText blank value blankAfter induction =>
      intro expected rest ends
      simpa only [List.append_assoc] using induction.item labelText blank blankAfter ends
  | more labelText blank value blankAfter later induction laterInduction =>
      intro expected rest ends
      have item := (induction.item labelText blank blankAfter (endsNumber_comma _)).trans
        (laterInduction expected rest ends)
      simpa only [List.append_assoc, List.cons_append] using item

theorem Derives.skipValue_append {blanks : List Char} (derives : Derives .value text)
    (blank : Blanks blanks) (ends : EndsNumber rest) :
    skipValue (blanks ++ (text ++ rest)) = .ok rest := by
  rw [skipValue, blank.skipExpected_value_append, derives.skips [] rest ends, skipExpected]

end

end OpcodeTrace.Json
