/-! How deep a pattern is nested: the number of parts around its innermost part, found while the
pattern is read. -/

namespace OpcodeTrace.Pattern

/-- Things side by side: their number and the depth of the deepest. -/
structure Row where
  size : Nat
  deepest : Nat
deriving DecidableEq, Repr

namespace Row

def empty : Row :=
  { size := 0, deepest := 0 }

def push (row : Row) (depth : Nat) : Row :=
  { size := row.size + 1, deepest := max row.deepest depth }

/-- Nothing is not a part, and a single thing is no part of its own. -/
def depth (row : Row) : Nat :=
  if row.size < 2 then row.deepest else row.deepest + 1

end Row

/-- One of the things that are read one after the other outside classes. -/
structure Item where
  depth : Nat
  /-- A list of flags can't be repeated. -/
  repeatable : Bool
deriving DecidableEq, Repr

structure Sequence where
  /-- All items but the last. -/
  earlier : Row
  last : Option Item
deriving DecidableEq, Repr

namespace Sequence

def empty : Sequence :=
  { earlier := .empty, last := none }

def row (sequence : Sequence) : Row :=
  match sequence.last with
  | none => sequence.earlier
  | some item => sequence.earlier.push item.depth

def depth (sequence : Sequence) : Nat :=
  sequence.row.depth

def push (sequence : Sequence) (item : Item) : Sequence :=
  { earlier := sequence.row, last := some item }

def repeat? (sequence : Sequence) : Option Sequence :=
  match sequence.last with
  | some { depth, repeatable := true } =>
      some { sequence with last := some { depth := depth + 1, repeatable := true } }
  | _ => none

end Sequence

/-- What a group holds, or the whole pattern. -/
structure Body where
  alternatives : Row
  current : Sequence
deriving DecidableEq, Repr

namespace Body

def empty : Body :=
  { alternatives := .empty, current := .empty }

def depth (body : Body) : Nat :=
  (body.alternatives.push body.current.depth).depth

def push (body : Body) (item : Item) : Body :=
  { body with current := body.current.push item }

def startAlternative (body : Body) : Body :=
  { alternatives := body.alternatives.push body.current.depth, current := .empty }

end Body

structure ClassBody where
  /-- The depth of what stands before the last operator. -/
  left : Option Nat
  items : Row
deriving DecidableEq, Repr

namespace ClassBody

def empty : ClassBody :=
  { left := none, items := .empty }

def depth (body : ClassBody) : Nat :=
  match body.left with
  | none => body.items.depth
  | some left => max left body.items.depth + 1

def push (body : ClassBody) (depth : Nat) : ClassBody :=
  { body with items := body.items.push depth }

def startOperand (body : ClassBody) : ClassBody :=
  { left := some body.depth, items := .empty }

end ClassBody

end OpcodeTrace.Pattern
