/-! The lines of an input. The last one may lack its newline. A carriage return right before the
newline belongs to the line end. -/

namespace OpcodeTrace.Lines

def newline : UInt8 := 10

def carriageReturn : UInt8 := 13

def split : List UInt8 → List (List UInt8)
  | [] => []
  | byte :: rest =>
      if byte = newline then [byte] :: split rest
      else
        match split rest with
        | [] => [[byte]]
        | line :: lines => (byte :: line) :: lines

def content (line : List UInt8) : List UInt8 :=
  if line.getLast? = some newline then
    if line.dropLast.getLast? = some carriageReturn then line.dropLast.dropLast else line.dropLast
  else
    line

def text? (line : List UInt8) : Option String :=
  String.fromUTF8? ⟨(content line).toArray⟩

theorem flatten_split (bytes : List UInt8) : (split bytes).flatten = bytes := by
  induction bytes with
  | nil => rfl
  | cons byte rest induction =>
      unfold split
      split
      · rw [List.flatten_cons, induction, List.singleton_append]
      · split
        · next none => rw [none] at induction; simpa using induction
        · next line lines some => rw [some] at induction; simpa using induction

end OpcodeTrace.Lines
