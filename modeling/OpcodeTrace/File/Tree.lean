import OpcodeTrace.File.Basic

/-! Files in memory, below a directory in which a path starts. A path that leaves this directory
finds nothing but directories. Each name in a path, also an empty one or a dot, needs a directory
to be looked up in. -/

namespace OpcodeTrace.File

inductive Node where
  | file (bytes : Array UInt8)
  | directory
deriving DecidableEq

/-- Files and directories under their paths from the top of the tree. A directory that holds
something need not be listed. -/
structure Tree where
  entries : List (List String × Node) := []

inductive Place where
  /-- Somewhere above the tree. -/
  | above
  | inside (path : List String)
deriving DecidableEq

namespace Place

def below (name : String) : Place → Place
  | .above => .above
  | .inside path => .inside (path ++ [name])

def parent : Place → Place
  | .above => .above
  | .inside [] => .above
  | .inside path => .inside path.dropLast

end Place

namespace Tree

def nameLimit : Nat := 255

def pathLimit : Nat := 4095

def insert (tree : Tree) (path : List String) (node : Node) : Tree where
  entries := (path, node) :: tree.entries

/-- What stands at a place, if anything does. The entry inserted last counts. -/
def node? (tree : Tree) : Place → Option Node
  | .above => some .directory
  | .inside [] => some .directory
  | .inside path =>
      match tree.entries.find? (·.1 = path) with
      | some entry => some entry.2
      | none => if tree.entries.any (path.isPrefixOf ·.1) then some .directory else none

def enter (tree : Tree) (place : Place) (name : String) : Except Failure Place :=
  if tree.node? place ≠ some .directory then .error .notDirectory
  else if name = "" ∨ name = "." then .ok place
  else if name = ".." then .ok (place.parent)
  else if name.utf8ByteSize > nameLimit then .error .nameTooLong
  else
    match place with
    | .above => .error .notFound
    | .inside _ =>
        let found := place.below name
        if (tree.node? found).isSome then .ok found else .error .notFound

def resolve (tree : Tree) (path : String) : Except Failure Place :=
  if path.contains '\x00' then .error .zeroInName
  else if path = "" then .error .notFound
  else if path.utf8ByteSize > pathLimit then .error .nameTooLong
  else
    let start : Place := if path.startsWith "/" then .above else .inside []
    (path.splitOn "/").foldlM tree.enter start

def read (tree : Tree) (path : String) : Contents :=
  match tree.resolve path with
  | .error failure => .error (.opening failure)
  | .ok place =>
      match tree.node? place with
      | some (.file bytes) => .ok bytes
      | some .directory => .error (.reading .isDirectory)
      | none => .error (.opening .notFound)

end Tree

end OpcodeTrace.File
