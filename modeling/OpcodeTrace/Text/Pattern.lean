import OpcodeTrace.Text.Alphanumeric
import OpcodeTrace.Text.Hexadecimal
import OpcodeTrace.Text.Pattern.Classes

/-! Which texts are regular expressions. Repetitions are not counted, and there are no tables of
characters by category or by case: with the Unicode flag, which is set at the start, a pattern may
not ask for them. Without the flag it may not match a part of a character. -/

namespace OpcodeTrace.Pattern

def maxDepth : Nat := 250

namespace State

def stepItem (state : State) (character : Char) : Option State :=
  if character = '(' then some (state.moveTo .group)
  else if character = ')' then state.closeGroup?
  else if character = '|' then some state.startAlternative
  else if character = '[' then some state.openClass
  else if character = '*' || character = '+' || character = '?' then state.repeat?
  else if character = '\x7b' then none
  else if character = '\\' then some (state.moveTo (.escape .outside))
  else if character = '.' then if state.flags.unicode then some state.pushLeaf else none
  else if character = '^' || character = '$' then some state.pushLeaf
  else state.literal? character .outside

def stepEscape (state : State) (purpose : Purpose) (character : Char) : Option State :=
  if character = 'x' then some (state.moveTo (.code purpose 2 2 0))
  else if character = 'u' then some (state.moveTo (.code purpose 4 4 0))
  else if character = 'U' then some (state.moveTo (.code purpose 8 8 0))
  else if character = 'd' || character = 's' || character = 'w' then state.set? purpose
  else if character = 'A' || character = 'z' then state.assertion? purpose
  else if character = 'b' || character = 'B' || character = '<' || character = '>' then
    if state.flags.unicode then none else state.assertion? purpose
  else if character = 'a' then state.literal? '\x07' purpose
  else if character = 'f' then state.literal? '\x0c' purpose
  else if character = 'n' then state.literal? '\n' purpose
  else if character = 'r' then state.literal? '\r' purpose
  else if character = 't' then state.literal? '\t' purpose
  else if character = 'v' then state.literal? '\x0b' purpose
  else if character.toNat < 0x80 && !character.isAlphanum then state.literal? character purpose
  else none

def stepCode (state : State) (purpose : Purpose) (width left code : Nat) (character : Char) :
    Option State :=
  match Hexadecimal.digitValue? character with
  | none => none
  | some value =>
      if left = 1 then state.code? purpose width (16 * code + value)
      else some (state.moveTo (.code purpose width (left - 1) (16 * code + value)))

def isNameCharacter (isFirst : Bool) (character : Char) : Bool :=
  character = '_'
    || if isFirst then Alphanumeric.isAlphabetic character
      else character = '.' || character = '[' || character = ']'
        || Alphanumeric.isAlphanumeric character

def stepName (state : State) (characters : List Char) (character : Char) : Option State :=
  if character = '>' then
    if characters.isEmpty || state.names.contains characters then none
    else some { state.openGroup state.flags with names := characters :: state.names }
  else if isNameCharacter characters.isEmpty character then
    some (state.moveTo (.name (characters ++ [character])))
  else none

def stepFlags (state : State) (list : FlagList) (character : Char) : Option State :=
  if character = ':' then if list.dangling then none else some (state.openGroup list.flags)
  else if character = ')' then
    if list.dangling || list.seen.isEmpty then none
    else some ({ state with flags := list.flags }.push { depth := 0, repeatable := false })
  else if character = '-' then
    if list.clearing then none
    else some (state.moveTo (.flags { list with clearing := true, dangling := true }))
  else if Flags.letters.contains character && !list.seen.contains character then
    some (state.moveTo (.flags
      { list with
        flags := list.flags.set character !list.clearing
        seen := character :: list.seen
        dangling := false }))
  else none

def stepQuestion (state : State) (character : Char) : Option State :=
  if character = '<' then some (state.moveTo (.name []))
  else if character = 'P' then some (state.moveTo .named)
  else
    state.stepFlags { flags := state.flags, seen := [], clearing := false, dangling := false }
      character

/-- Blanks and comments may stand here if they are left out at all. -/
def mayPause (state : State) : Bool :=
  match state.mode with
  | .item => true
  | .repeated => true
  | .code _ _ _ _ => true
  | .group => true
  | .inClass (.known _) => false
  | .inClass _ => true
  | _ => false

/-- Passes over a blank or the start of a comment. The question mark that makes a repetition lazy
can't come behind it. -/
def pause (state : State) (character : Char) : State :=
  { state with
    mode := if state.mode = .repeated then .item else state.mode
    inComment := character = '#' }

def stepMode (state : State) (character : Char) (rest : List Char) : Option State :=
  match state.mode with
  | .item => state.stepItem character
  | .repeated =>
      if character = '?' then some (state.moveTo .item) else state.stepItem character
  | .escape purpose => state.stepEscape purpose character
  | .code purpose width left code => state.stepCode purpose width left code character
  | .group =>
      if character = '?' then some (state.moveTo .question)
      else (state.openGroup state.flags).stepItem character
  | .question => state.stepQuestion character
  | .named => if character = '<' then some (state.moveTo (.name [])) else none
  | .name characters => state.stepName characters character
  | .flags list => state.stepFlags list character
  | .inClass place => state.stepClass place character rest

def step (state : State) (character : Char) (rest : List Char) : Option State :=
  if state.inComment then some { state with inComment := character ≠ '\n' }
  else if state.flags.spaced && state.mayPause
      && (Blank.isBlank character || character = '#') then
    some (state.pause character)
  else state.stepMode character rest

def read? (state : State) : List Char → Option State
  | [] => some state
  | character :: rest => (state.step character rest).bind (·.read? rest)

def isComplete (state : State) : Bool :=
  (state.mode = .item || state.mode = .repeated) && state.groups.isEmpty
    && state.body.depth ≤ maxDepth

end State

def isPattern (text : List Char) : Bool :=
  (State.initial.read? text).any State.isComplete

end OpcodeTrace.Pattern
