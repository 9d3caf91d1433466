import OpcodeTrace.Template

/-! Templates are expanded piece by piece. They may be cut wherever no percent sign or backslash
is left waiting for its character. -/

namespace OpcodeTrace

namespace Template

def introduces (character : Char) : Bool :=
  character = '%' || character = '\\'

theorem introduces_iff {character : Char} :
    introduces character ↔ character = '%' ∨ character = '\\' := by
  simp only [introduces, Bool.or_eq_true, decide_eq_true_eq]

/-- The character that waits for its next one, once a scan has read one more. -/
def scan : (waiting : Option Char) → Char → Option Char
  | some _, _ => none
  | none, character => if introduces character then some character else none

def waiting? (template : List Char) : Option Char :=
  template.foldl scan none

/-- A template for a text, with everything written twice that would take the next character along. -/
def spell (text : List Char) : List Char :=
  text.flatMap fun character => if introduces character then [character, character] else [character]

variable (ip opcode : List Char)

/-! ## One piece -/

theorem expand_introducer {character : Char} (takes : introduces character) :
    expand ip opcode [character] = [] := by
  rcases introduces_iff.mp takes with rfl | rfl <;> rfl

theorem expand_percent (marked : Char) (later : List Char) :
    expand ip opcode ('%' :: marked :: later) =
      directive ip opcode marked ++ expand ip opcode later := by
  rw [expand, if_pos rfl]

theorem expand_backslash (marked : Char) (later : List Char) :
    expand ip opcode ('\\' :: marked :: later) = escape marked ++ expand ip opcode later := by
  rw [expand, if_neg (by decide), if_pos rfl]

theorem expand_plain {character : Char} (plain : ¬ introduces character) (rest : List Char) :
    expand ip opcode (character :: rest) = character :: expand ip opcode rest := by
  rcases not_or.mp (mt introduces_iff.mpr plain) with ⟨notPercent, notBackslash⟩
  rw [expand.eq_def]
  dsimp only
  rw [if_neg notPercent, if_neg notBackslash]

theorem waiting?_introducer {character : Char} (takes : introduces character) (marked : Char)
    (later : List Char) : waiting? (character :: marked :: later) = waiting? later := by
  simp only [waiting?, List.foldl_cons, scan, if_pos takes]

theorem waiting?_plain {character : Char} (plain : ¬ introduces character) (rest : List Char) :
    waiting? (character :: rest) = waiting? rest := by
  simp only [waiting?, List.foldl_cons, scan, if_neg plain]

theorem waiting?_concat (shorter : List Char) (final : Char) :
    waiting? (shorter ++ [final]) = scan (waiting? shorter) final := by
  simp only [waiting?, List.foldl_append, List.foldl_cons, List.foldl_nil]

/-! ## Two pieces -/

theorem expand_append {left : List Char} (rests : waiting? left = none) (right : List Char) :
    expand ip opcode (left ++ right) = expand ip opcode left ++ expand ip opcode right := by
  -- One of the two at the end would be waiting, and any other has its next character on this side.
  fun_induction expand ip opcode left with
  | case1 => rfl
  | case2 => cases rests
  | case3 marked later induction =>
      rw [waiting?_introducer rfl] at rests
      rw [List.cons_append, List.cons_append, expand_percent, induction rests, List.append_assoc]
  | case4 => cases rests
  | case5 marked later _ induction =>
      rw [waiting?_introducer rfl] at rests
      rw [List.cons_append, List.cons_append, expand_backslash, induction rests, List.append_assoc]
  | case6 character rest notPercent notBackslash induction =>
      have plain : ¬ introduces character :=
        mt introduces_iff.mp (not_or.mpr ⟨notPercent, notBackslash⟩)
      rw [waiting?_plain plain] at rests
      rw [List.cons_append, expand_plain ip opcode plain, induction rests, List.cons_append]

theorem exists_of_waiting {template : List Char} {last : Char}
    (waits : waiting? template = some last) :
    ∃ shorter, template = shorter ++ [last] ∧ waiting? shorter = none ∧ introduces last := by
  rcases List.eq_nil_or_concat template with rfl | ⟨shorter, final, split⟩
  · cases waits
  · rw [List.concat_eq_append] at split
    subst split
    rw [waiting?_concat] at waits
    cases before : waiting? shorter with
    | some earlier =>
        rw [before] at waits
        cases waits
    | none =>
        rw [before, scan, Option.ite_none_right_eq_some] at waits
        rcases waits with ⟨takes, same⟩
        cases same
        exact ⟨shorter, rfl, before, takes⟩

/-- The first introducer takes the second one along, and a third one waits. -/
example : waiting? ['%', '\\'] = none ∧ waiting? ['\\', '%', '%'] = some '%' := by decide

theorem expand_concat_of_introduces {shorter : List Char} (rests : waiting? shorter = none)
    {last : Char} (takes : introduces last) :
    expand ip opcode (shorter ++ [last]) = expand ip opcode shorter := by
  rw [expand_append ip opcode rests, expand_introducer ip opcode takes, List.append_nil]

/-! ## Every text -/

theorem expand_twice {character : Char} (takes : introduces character) (rest : List Char) :
    expand ip opcode (character :: character :: rest) = character :: expand ip opcode rest := by
  rcases introduces_iff.mp takes with rfl | rfl
  · exact expand_percent ip opcode '%' rest
  · exact expand_backslash ip opcode '\\' rest

theorem expand_spell (text : List Char) : expand ip opcode (spell text) = text := by
  induction text with
  | nil => rfl
  | cons character rest induction =>
      rw [spell, List.flatMap_cons, ← spell]
      by_cases takes : introduces character
      · rw [if_pos takes, List.cons_append, List.singleton_append, expand_twice ip opcode takes,
          induction]
      · rw [if_neg takes, List.singleton_append, expand_plain ip opcode takes, induction]

end Template

namespace Reader

/-- Templates are expanded piece by piece, a character that is left waiting stands for nothing, and
every text can be spelled. Nothing of a reader is seen but its offset and the name under it. -/
theorem format_piecewise (reader : Reader) :
    (∀ left right : String, Template.waiting? left.toList = none →
      reader.format (left ++ right) = reader.format left ++ reader.format right) ∧
    (∀ (template : String) (last : Char), Template.waiting? template.toList = some last →
      ∃ shorter : String, template = shorter.push last ∧
        Template.waiting? shorter.toList = none ∧
        reader.format template = reader.format shorter) ∧
    (∀ text : String, reader.format (String.ofList (Template.spell text.toList)) = text) ∧
    ∀ other : Reader, reader.ip = other.ip → reader.currentLabel = other.currentLabel →
      ∀ template, reader.format template = other.format template := by
  refine ⟨?_, ?_, ?_, ?_⟩
  · intro left right rests
    simp only [format, String.toList_append, Template.expand_append _ _ rests, String.ofList_append]
  · intro template last waits
    rcases Template.exists_of_waiting waits with ⟨shorter, split, rests, takes⟩
    refine ⟨String.ofList shorter, ?_, ?_, ?_⟩
    · rw [← String.toList_inj, split, String.toList_push, String.toList_ofList]
    · rw [String.toList_ofList]
      exact rests
    · rw [format, split, Template.expand_concat_of_introduces _ _ rests takes, format,
        String.toList_ofList]
  · intro text
    rw [format, String.toList_ofList, Template.expand_spell, String.ofList_toList]
  · intro other sameIp sameLabel template
    rw [format, format, sameIp, sameLabel]

end Reader

end OpcodeTrace
