import OpcodeTrace.Text.Blank
import OpcodeTrace.Text.Pattern.State

/-! Classes in patterns. A few signs mean what they do because of the characters behind them, so
the rest of the pattern is looked at too. -/

namespace OpcodeTrace.Pattern

structure NamedSet where
  negated : Bool
  /-- The number of characters behind the opening bracket. -/
  length : Nat
deriving DecidableEq, Repr

def setNames : List String :=
  ["alnum", "alpha", "ascii", "blank", "cntrl", "digit", "graph", "lower", "print", "punct",
    "space", "upper", "word", "xdigit"]

/-- The name of a set between colons, and the bracket that closes the set. -/
def nameLength? (text : List Char) : Option Nat :=
  let name := text.takeWhile (· ≠ ':')
  if setNames.contains (String.ofList name)
      && (text.dropWhile (· ≠ ':')).take 2 = [':', ']'] then
    some (name.length + 2)
  else none

def namedSet? : List Char → Option NamedSet
  | ':' :: '^' :: rest =>
      (nameLength? rest).map fun length => { negated := true, length := length + 2 }
  | ':' :: rest => (nameLength? rest).map fun length => { negated := false, length := length + 1 }
  | _ => none

def nextApart : (signSeen : Bool) → List Char → Option Char
  | _, [] => none
  | signSeen, character :: rest =>
      if Blank.isBlank character then nextApart signSeen rest
      else if character = '#' && !signSeen then nextApart true rest
      else some character

/-- The character that tells whether a minus sign makes a range. -/
def afterDash (flags : Flags) (rest : List Char) : Option Char :=
  if flags.spaced then (nextApart false rest).or rest.head? else rest.head?

namespace State

def namedSet? (state : State) (set : NamedSet) : Option State :=
  if state.lacksCases || (!state.flags.unicode && set.negated) then none
  else some (state.pushClassLeaf (.known (set.length - 1)))

def stepClassItem (state : State) (character : Char) (rest : List Char) : Option State :=
  if character = '[' then
    match Pattern.namedSet? rest with
    | some set => state.namedSet? set
    | none => some state.openClass
  else if character = ']' then some state.closeClass
  else if (character = '&' || character = '-' || character = '~')
      && rest.head? = some character then
    some state.startOperand
  else if character = '\\' then some (state.moveTo (.escape .classItem))
  else state.literal? character .classItem

def stepAfterItem (state : State) (low : Option Char) (character : Char) (rest : List Char) :
    Option State :=
  if character = '-' && afterDash state.flags rest ≠ some ']'
      && afterDash state.flags rest ≠ some '-' then
    some (state.moveTo (.inClass (.range low)))
  else state.stepClassItem character rest

/-- Takes a caret right behind the bracket. Without Unicode, a negated class would hold bytes that
are no characters. -/
def negate? (state : State) : Option State :=
  if state.flags.unicode then some (state.moveTo (.inClass .negated)) else none

def stepClass (state : State) (place : ClassPlace) (character : Char) (rest : List Char) :
    Option State :=
  match place with
  | .first =>
      if character = '^' then state.negate?
      else if character = '-' then state.lead? '-' .dashes
      else if character = ']' then state.lead? ']' .item
      else state.stepClassItem character rest
  | .negated =>
      if character = '-' then state.lead? '-' .dashes
      else if character = ']' then state.lead? ']' .item
      else state.stepClassItem character rest
  | .dashes =>
      if character = '-' then state.lead? '-' .dashes else state.stepClassItem character rest
  | .item => state.stepClassItem character rest
  | .after low => state.stepAfterItem low character rest
  | .range low =>
      if character = '\\' then some (state.moveTo (.escape (.rangeEnd low)))
      else state.literal? character (.rangeEnd low)
  | .known 0 => some (state.moveTo (.inClass .item))
  | .known (more + 1) => some (state.moveTo (.inClass (.known more)))

end State

end OpcodeTrace.Pattern
