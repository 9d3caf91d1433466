import OpcodeTrace.Text.Pattern.Nesting

/-! What has been read of a pattern, as far as it matters for what may follow. -/

namespace OpcodeTrace.Pattern

structure Flags where
  ignoreCase : Bool
  unicode : Bool
  /-- Blanks are left out, and a number sign starts a comment. -/
  spaced : Bool
deriving DecidableEq, Repr

namespace Flags

def initial : Flags :=
  { ignoreCase := false, unicode := true, spaced := false }

def letters : List Char :=
  ['i', 'm', 's', 'U', 'u', 'R', 'x']

/-- Sets or clears a flag. Those about lines and greed change no pattern's form. -/
def set (flags : Flags) (letter : Char) (value : Bool) : Flags :=
  if letter = 'i' then { flags with ignoreCase := value }
  else if letter = 'u' then { flags with unicode := value }
  else if letter = 'x' then { flags with spaced := value }
  else flags

end Flags

structure FlagList where
  flags : Flags
  seen : List Char
  /-- The flags from here on are cleared. -/
  clearing : Bool
  /-- The minus sign was read last. -/
  dangling : Bool
deriving DecidableEq, Repr

inductive ClassPlace where
  /-- Right behind the opening bracket. -/
  | first
  /-- Behind the bracket and a caret. -/
  | negated
  /-- Behind minus signs that start the class. -/
  | dashes
  /-- Where an item may start. -/
  | item
  /-- Behind an item, which is a single character or not. -/
  | after (low : Option Char)
  /-- Behind an item and the minus sign of a range. -/
  | range (low : Option Char)
  /-- Before so many characters and one more that are known already. -/
  | known (more : Nat)
deriving DecidableEq, Repr

inductive Purpose where
  | outside
  | classItem
  | rangeEnd (low : Option Char)
deriving DecidableEq, Repr

inductive Mode where
  /-- Where an item may start outside classes. -/
  | item
  /-- Right behind a repetition. -/
  | repeated
  | escape (purpose : Purpose)
  /-- Behind the digits of a code with the value `code`, before `left` of its `width` digits. -/
  | code (purpose : Purpose) (width left code : Nat)
  /-- Behind an opening parenthesis. -/
  | group
  /-- Behind an opening parenthesis and a question mark. -/
  | question
  /-- Behind an opening parenthesis, a question mark and the letter P. -/
  | named
  | name (characters : List Char)
  | flags (list : FlagList)
  | inClass (place : ClassPlace)
deriving DecidableEq, Repr

structure State where
  mode : Mode
  flags : Flags
  body : Body
  /-- For each open group the flags outside it and what is read around it, the innermost group
  first. -/
  groups : List (Flags × Body)
  names : List (List Char)
  /-- What is read of each open class, the innermost class first. -/
  classes : List ClassBody
  inComment : Bool
deriving DecidableEq, Repr

namespace State

def initial : State :=
  { mode := .item, flags := .initial, body := .empty, groups := [], names := [], classes := [],
    inComment := false }

def moveTo (state : State) (mode : Mode) : State :=
  { state with mode }

/-! ## Outside classes -/

def push (state : State) (item : Item) : State :=
  { state with mode := .item, body := state.body.push item }

def pushLeaf (state : State) : State :=
  state.push { depth := 0, repeatable := true }

def openGroup (state : State) (flags : Flags) : State :=
  { state with
    mode := .item, flags, body := .empty, groups := (state.flags, state.body) :: state.groups }

def closeGroup? (state : State) : Option State :=
  match state.groups with
  | [] => none
  | (flags, body) :: groups =>
      some { state with
        mode := .item, flags, groups
        body := body.push { depth := state.body.depth + 1, repeatable := true } }

def startAlternative (state : State) : State :=
  { state with mode := .item, body := state.body.startAlternative }

def repeat? (state : State) : Option State :=
  state.body.current.repeat?.map fun current =>
    { state with mode := .repeated, body := { state.body with current } }

/-! ## In classes -/

def openClass (state : State) : State :=
  { state with mode := .inClass .first, classes := .empty :: state.classes }

def closeClass (state : State) : State :=
  match state.classes with
  | [] => state
  | [body] => { state with classes := [] }.push { depth := body.depth + 1, repeatable := true }
  | body :: outer :: classes =>
      { state with mode := .inClass .item, classes := outer.push (body.depth + 1) :: classes }

def pushClassLeaf (state : State) (place : ClassPlace) : State :=
  match state.classes with
  | [] => state
  | body :: classes =>
      { state with mode := .inClass place, classes := body.push 0 :: classes }

/-- Takes the first sign of an operator, which comes twice. -/
def startOperand (state : State) : State :=
  match state.classes with
  | [] => state
  | body :: classes =>
      { state with mode := .inClass (.known 0), classes := body.startOperand :: classes }

/-! ## What is not supported -/

/-- There is no table for comparing the characters of Unicode without their case. -/
def lacksCases (state : State) : Bool :=
  state.flags.ignoreCase && state.flags.unicode

/-- In a class that is not about the characters of Unicode, a character has to be one byte. -/
def allowsInClass (state : State) (character : Char) : Bool :=
  !state.lacksCases && (state.flags.unicode || character.toNat < 0x80)

/-- Takes a character that stands for itself. The first character of a range is an item, and its
last character is a part of the same item. -/
def literal? (state : State) (character : Char) : Purpose → Option State
  | .outside => if state.lacksCases then none else some state.pushLeaf
  | .classItem =>
      if state.allowsInClass character then some (state.pushClassLeaf (.after (some character)))
      else none
  | .rangeEnd none => none
  | .rangeEnd (some low) =>
      if state.allowsInClass character && low ≤ character then some (state.moveTo (.inClass .item))
      else none

def lead? (state : State) (character : Char) (place : ClassPlace) : Option State :=
  if state.allowsInClass character then some (state.pushClassLeaf place) else none

/-- Takes a set of characters for which there is no table for Unicode. -/
def set? (state : State) (purpose : Purpose) : Option State :=
  if state.flags.unicode then none
  else
    match purpose with
    | .outside => some state.pushLeaf
    | .classItem => some (state.pushClassLeaf (.after none))
    | .rangeEnd _ => none

def assertion? (state : State) : Purpose → Option State
  | .outside => some state.pushLeaf
  | .classItem => none
  | .rangeEnd _ => none

/-- Takes the character with a code. Without Unicode, a code of two digits is that of a byte. -/
def code? (state : State) (purpose : Purpose) (width code : Nat) : Option State :=
  if !state.flags.unicode && width = 2 && 0x80 ≤ code then none
  else if code.isValidChar then state.literal? (Char.ofNat code) purpose
  else none

end State

end OpcodeTrace.Pattern
