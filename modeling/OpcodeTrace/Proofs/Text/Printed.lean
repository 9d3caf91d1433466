/-! Texts that are printed line by line. -/

namespace OpcodeTrace.Printed

def HasLines (text : String) (lines : List String) : Prop :=
  text.toList.splitOn '\n' = lines.map String.toList ++ [[]]

def Unbroken (line : String) : Prop :=
  '\n' ∉ line.toList

theorem hasLines_join_map {Item : Type} {line : Item → String} {items : List Item}
    (unbroken : ∀ item ∈ items, Unbroken (line item)) :
    HasLines (String.join (items.map fun item => line item ++ "\n")) (items.map line) := by
  rw [HasLines, String.toList_join]
  induction items with
  | nil => rfl
  | cons item items induction =>
      have first : Unbroken (line item) := unbroken item List.mem_cons_self
      have later := induction fun item member => unbroken item (List.mem_cons_of_mem _ member)
      have newline : "\n".toList = ['\n'] := rfl
      rw [List.map_cons, List.flatMap_cons, String.toList_append, newline, List.append_assoc,
        List.singleton_append, List.splitOn_append_cons_self_of_not_mem first, later,
        List.map_cons, List.map_cons, List.cons_append]

end OpcodeTrace.Printed
