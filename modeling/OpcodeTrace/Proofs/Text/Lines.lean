import OpcodeTrace.Text.Lines

/-! Lines can be put together freely, as long as each one but the last has its newline. -/

namespace OpcodeTrace.Lines

def Ended (line : List UInt8) : Prop :=
  line.getLast? = some newline

def Whole (line : List UInt8) : Prop :=
  split line = [line]

inductive Parted : List (List UInt8) → Prop
  | nil : Parted []
  | last {line : List UInt8} (whole : Whole line) : Parted [line]
  | cons {line : List UInt8} {lines : List (List UInt8)} (whole : Whole line)
      (ended : Ended line) (rest : Parted lines) : Parted (line :: lines)

theorem split_newline_cons (rest : List UInt8) :
    split (newline :: rest) = [newline] :: split rest := by
  rw [split, if_pos rfl]

theorem split_cons_of_nil {byte : UInt8} (inner : byte ≠ newline) {rest : List UInt8}
    (empty : split rest = []) : split (byte :: rest) = [[byte]] := by
  rw [split, if_neg inner, empty]

theorem split_cons_of_cons {byte : UInt8} (inner : byte ≠ newline) {rest line : List UInt8}
    {lines : List (List UInt8)} (parts : split rest = line :: lines) :
    split (byte :: rest) = (byte :: line) :: lines := by
  rw [split, if_neg inner, parts]

theorem split_eq_nil_iff {bytes : List UInt8} : split bytes = [] ↔ bytes = [] := by
  constructor
  · intro empty
    rw [← flatten_split bytes, empty, List.flatten_nil]
  · rintro rfl
    rfl

theorem split_append {first : List UInt8} (seam : first = [] ∨ Ended first)
    (second : List UInt8) : split (first ++ second) = split first ++ split second := by
  induction first with
  | nil => rfl
  | cons byte rest induction =>
      have ended : Ended (byte :: rest) := seam.resolve_left (List.cons_ne_nil byte rest)
      cases rest with
      | nil =>
          have isNewline : byte = newline := Option.some.inj ended
          rw [isNewline, List.singleton_append, split_newline_cons]
          rfl
      | cons next rest =>
          -- The seam is further on, so the rest has it too.
          have later := induction (.inr (List.getLast?_cons_cons.symm.trans ended))
          by_cases isNewline : byte = newline
          · rw [isNewline, List.cons_append, split_newline_cons, split_newline_cons, later,
              List.cons_append]
          · cases parts : split (next :: rest) with
            | nil => exact absurd (split_eq_nil_iff.mp parts) (List.cons_ne_nil next rest)
            | cons line lines =>
                have joined : split (next :: rest ++ second) =
                    line :: (lines ++ split second) := by
                  rw [later, parts, List.cons_append]
                rw [split_cons_of_cons isNewline parts]
                exact split_cons_of_cons isNewline joined

theorem split_flatten {lines : List (List UInt8)} (parted : Parted lines) :
    split lines.flatten = lines := by
  induction parted with
  | nil => rfl
  | last whole => rwa [List.flatten_singleton]
  | cons whole ended rest induction =>
      rw [List.flatten_cons, split_append (.inr ended), whole, induction, List.singleton_append]

theorem whole_cons {byte : UInt8} (inner : byte ≠ newline) {line : List UInt8}
    (whole : Whole line) : Whole (byte :: line) :=
  split_cons_of_cons inner whole

theorem ended_cons {byte : UInt8} {line : List UInt8} (ended : Ended line) :
    Ended (byte :: line) := by
  cases line with
  | nil => cases ended
  | cons next rest => exact List.getLast?_cons_cons.trans ended

theorem parted_split (bytes : List UInt8) : Parted (split bytes) := by
  induction bytes with
  | nil => exact .nil
  | cons byte rest induction =>
      by_cases isNewline : byte = newline
      · rw [isNewline, split_newline_cons]
        exact .cons rfl rfl induction
      · cases parts : split rest with
        | nil =>
            rw [split_cons_of_nil isNewline parts]
            exact .last (split_cons_of_nil isNewline rfl)
        | cons line lines =>
            rw [split_cons_of_cons isNewline parts]
            rw [parts] at induction
            cases induction with
            | last whole => exact .last (whole_cons isNewline whole)
            | cons whole ended later =>
                exact .cons (whole_cons isNewline whole) (ended_cons ended) later

end OpcodeTrace.Lines
