import OpcodeTrace.Proofs.Json.Values
import OpcodeTrace.Proofs.Opcode.Names
import OpcodeTrace.Proofs.Reader.Landings
import OpcodeTrace.Proofs.Session.Dumps

/-! Two views of the counts, each read back as what it shows. -/

namespace OpcodeTrace

open Json (Bracket EndsNumber Unclosed readOn skipBlanks)

namespace Reader

/-! ## The document -/

def Count.toValue (count : Count) : Json.Value :=
  .object [
    ("opcode", .number count.opcode.value.toNat 0),
    ("name", .string count.opcode.label),
    ("count", .number count.count.toNat 0)]

/-- The line break and the name in front of a value. -/
def nameText (name : String) : List Char :=
  ['\n', ' ', ' ', ' ', ' ', '"'] ++ name.toList ++ ['"', ':']

def Count.text (count : Count) : List Char :=
  '\x7b' :: (nameText "opcode" ++ ' ' :: (Decimal.digits count.opcode.value.toNat ++ ',' ::
    (nameText "name" ++ ' ' :: ((Json.quote count.opcode.label).toList ++ ',' ::
      (nameText "count" ++ ' ' :: (Decimal.digits count.count.toNat ++
        ['\n', ' ', ' ', '\x7d']))))))

theorem toList_documentEntry (count : Count) :
    (documentEntry count).toList = ' ' :: ' ' :: count.text := by
  have opens : "  \x7b\n".toList ++ "    \"opcode\": ".toList =
      ' ' :: ' ' :: '\x7b' :: (nameText "opcode" ++ [' ']) := by decide
  have name : ",\n".toList ++ "    \"name\": ".toList = ',' :: nameText "name" ++ [' '] := by decide
  have number : ",\n".toList ++ "    \"count\": ".toList = ',' :: nameText "count" ++ [' '] := by decide
  have closes : "\n".toList ++ "  \x7d".toList = ['\n', ' ', ' ', '\x7d'] := by decide
  have parts : documentEntry count =
      ("  \x7b\n" ++ "    \"opcode\": ") ++ Decimal.render count.opcode.value.toNat ++
      (",\n" ++ "    \"name\": ") ++ Json.quote count.opcode.label ++
      (",\n" ++ "    \"count\": ") ++ Decimal.render count.count.toNat ++
      ("\n" ++ "  \x7d") := by
    unfold documentEntry
    simp only [String.append_assoc]
  rw [parts, Count.text]
  simp only [String.toList_append, opens, name, number, closes, Decimal.render, String.toList_ofList,
    List.append_assoc, List.cons_append, List.nil_append]

theorem readName_nameText {name : String} (plain : Json.encode name.toList = name.toList)
    (rest : List Char) : Json.readName (nameText name ++ rest) = .ok (name, rest) := by
  refine Json.readName_plain plain ?_
  have begins (later : List Char) :
      skipBlanks ('\n' :: ' ' :: ' ' :: ' ' :: ' ' :: '"' :: later) = '"' :: later := rfl
  simp [nameText, begins]

theorem readOn_text {outer : List Unclosed} {text rest : List Char} {count : Count}
    (begins : skipBlanks text = count.text ++ rest) :
    readOn outer none text = readOn outer (some count.toValue) rest := by
  have blank (later : List Char) : skipBlanks (' ' :: later) = skipBlanks later := rfl
  have ends (first : Char) (later : List Char) (other : Json.continuesNumber first = false) :
      EndsNumber (first :: later) := other
  simp only [Count.text, List.cons_append, List.append_assoc] at begins
  rw [Json.readOn_start begins rfl rfl (by decide)
      (Bracket.start_object (readName_nameText (by decide) _)),
    (ends ',' _ rfl).readOn_digits ((blank _).trans (Json.skipBlanks_digits _ _)),
    Json.readOn_next (Json.skipBlanks_comma _) (Unclosed.next_object (readName_nameText (by decide) _)),
    Json.readOn_quote ((blank _).trans (Json.skipBlanks_quoted _ _)),
    Json.readOn_next (Json.skipBlanks_comma _) (Unclosed.next_object (readName_nameText (by decide) _)),
    (ends '\n' _ rfl).readOn_digits ((blank _).trans (Json.skipBlanks_digits _ _))]
  exact Json.readOn_close rfl

def laterText (counts : List Count) : List Char :=
  counts.flatMap fun count => ',' :: '\n' :: ' ' :: ' ' :: count.text

theorem toList_intercalate_documentEntry (first : Count) (later : List Count) :
    (String.intercalate ",\n" ((first :: later).map documentEntry)).toList =
      ' ' :: ' ' :: (first.text ++ laterText later) := by
  induction later generalizing first with
  | nil => simp [toList_documentEntry, laterText]
  | cons second later induction =>
      have between : ",\n".toList = [',', '\n'] := rfl
      rw [List.map_cons, List.map_cons, String.intercalate_cons_cons, ← List.map_cons,
        String.toList_append, String.toList_append, induction, toList_documentEntry, between]
      simp [laterText]

theorem readOn_laterText (counts : List Count) {read : List Json.Value} {value : Json.Value} :
    readOn [.array read] (some value) (laterText counts ++ ['\n', ']', '\n']) =
      .ok (.array (read.reverse ++ value :: counts.map Count.toValue), ['\n']) := by
  induction counts generalizing read value with
  | nil =>
      rw [laterText, List.flatMap_nil, List.nil_append, Json.readOn_close rfl, Json.readOn_done]
      simp [Unclosed.close]
  | cons count counts induction =>
      have blanks (rest : List Char) :
          skipBlanks ('\n' :: ' ' :: ' ' :: (count.text ++ rest)) = count.text ++ rest := rfl
      rw [laterText, List.flatMap_cons, ← laterText, List.append_assoc, List.cons_append,
        Json.readOn_next rfl rfl, List.cons_append, List.cons_append, List.cons_append,
        readOn_text (blanks _), induction]
      simp

theorem parse?_countsDocument (counts : List Count) :
    Json.parse? (countsDocument counts ++ "\n") = some (.array (counts.map Count.toValue)) := by
  cases counts with
  | nil =>
      have text : (countsDocument [] ++ "\n").toList = ['[', ']', '\n'] := by decide
      rw [Json.parse?, text, Json.readOn_empty rfl rfl rfl, Json.readOn_done]
      rfl
  | cons first later =>
      have text : (countsDocument (first :: later) ++ "\n").toList =
          '[' :: '\n' :: ' ' :: ' ' :: (first.text ++ (laterText later ++ ['\n', ']', '\n'])) := by
        have document : countsDocument (first :: later) =
            "[\n" ++ String.intercalate ",\n" ((first :: later).map documentEntry) ++ "\n]" := rfl
        rw [document, String.toList_append, String.toList_append, String.toList_append,
          toList_intercalate_documentEntry]
        simp
      have blanks (rest : List Char) :
          skipBlanks ('\n' :: ' ' :: ' ' :: (first.text ++ rest)) = first.text ++ rest := rfl
      rw [Json.parse?, text, Json.readOn_start rfl rfl (blanks _) (by decide) rfl,
        readOn_text (blanks _), readOn_laterText]
      rfl

end Reader

namespace Session

variable {State : Type} [Console State]

/-! ## The list -/

/-- The line has the name of the count before its only colon, and its number behind a blank after it. -/
def ShowsCount (line : String) (count : Reader.Count) : Prop :=
  ∃ digits, line.toList.splitOn ':' = [count.opcode.label.toList, ' ' :: digits] ∧
    Decimal.Spelled digits count.count.toNat

def countText (count : Reader.Count) : String :=
  count.opcode.label ++ ": " ++ Decimal.render count.count.toNat

theorem unbroken_countText (count : Reader.Count) : Printed.Unbroken (countText count) := by
  have label := (Opcode.plain_labels _ count.opcode.label_mem).1
  have number := unbroken_render count.count.toNat
  rw [Printed.Unbroken] at number ⊢
  rw [countText, String.toList_append, String.toList_append, List.mem_append, List.mem_append]
  rintro ((inLabel | inColon) | inNumber)
  · exact label inLabel
  · exact absurd inColon (by decide)
  · exact number inNumber

theorem showsCount_countText (count : Reader.Count) : ShowsCount (countText count) count := by
  refine ⟨Decimal.digits count.count.toNat, ?_, Decimal.spelled_digits _⟩
  have label := (Opcode.plain_labels _ count.opcode.label_mem).2
  have number : ':' ∉ ' ' :: Decimal.digits count.count.toNat := by
    rw [List.mem_cons]
    rintro (blank | digit)
    · exact absurd blank (by decide)
    · exact absurd (Decimal.isDigit_of_mem_digits digit) (by decide)
  have text : (countText count).toList =
      count.opcode.label.toList ++ ':' :: ' ' :: Decimal.digits count.count.toNat := by
    simp [countText, Decimal.render]
  rw [text, List.splitOn_append_cons_self_of_not_mem label, List.splitOn_eq_singleton number]

theorem answer_counts_list (session : Session) :
    session.answer (.counts false) =
      String.join (("Counts:" :: session.reader.counted.map countText).map (· ++ "\n")) := by
  have lines : session.reader.counted.map countLine =
      (session.reader.counted.map countText).map (· ++ "\n") := by
    rw [List.map_map]
    rfl
  rw [List.map_cons, ← lines]
  rfl

theorem answer_counts_document (session : Session) :
    session.answer (.counts true) = Reader.countsDocument session.reader.counted ++ "\n" :=
  rfl

theorem hasLines_answer_counts (session : Session) :
    Printed.HasLines (session.answer (.counts false))
      ("Counts:" :: session.reader.counted.map countText) := by
  have heading : Printed.Unbroken "Counts:" := by
    rw [Printed.Unbroken]
    decide
  have unbroken : ∀ line ∈ "Counts:" :: session.reader.counted.map countText,
      Printed.Unbroken line := by
    rw [List.forall_mem_cons, List.forall_mem_map]
    exact ⟨heading, fun count _ => unbroken_countText count⟩
  rw [answer_counts_list]
  have lines := Printed.hasLines_join_map unbroken
  rwa [List.map_id'] at lines

/-! ## Both views -/

/-- Both views hold the counts that are not zero, by ascending opcode, and nothing else. -/
theorem counts_views_agree (session : Session) {console : State}
    (reliable : Console.Reliable console) :
    let counted := session.reader.counted
    Json.parse? (session.printed (.counts true) console) =
        some (.array (counted.map Reader.Count.toValue)) ∧
      (∃ lines, Printed.HasLines (session.printed (.counts false) console) ("Counts:" :: lines) ∧
        List.Forall₂ ShowsCount lines counted) ∧
      (counted.Pairwise fun earlier later => earlier.opcode.value < later.opcode.value) ∧
      (∀ entry, entry ∈ counted ↔
        entry.count ≠ 0 ∧ entry.count = session.reader.countOf entry.opcode) ∧
      (∀ one other : Opcode, one.isNamed → other.isNamed → one.label = other.label → one = other) ∧
      ∀ opcode : Opcode, opcode.label = "!ERR!" ↔ opcode.isNamed = false := by
  intro counted
  refine ⟨?_, ⟨counted.map countText, ?_, ?_⟩, session.reader.pairwise_counted,
    session.reader.mem_counted_iff, fun _ _ => Opcode.eq_of_label, fun opcode => ?_⟩
  · rw [printed_of_reliable _ _ reliable, answer_counts_document]
    exact Reader.parse?_countsDocument counted
  · rw [printed_of_reliable _ _ reliable]
    exact session.hasLines_answer_counts
  · rw [List.forall₂_map_left_iff]
    exact List.forall₂_same.mpr fun count _ => showsCount_countText count
  · constructor
    · intro missing
      rw [Bool.eq_false_iff]
      exact fun named => Opcode.label_ne_missingName named missing
    · exact Opcode.label_of_unnamed

/-- The two opcodes without a name have one entry each, and the largest count is exact. -/
theorem counts_views_agree_of_unnamed_opcodes :
    let reader := Reader.new (Trace.ofBytes #[0])
    let counts := ((reader.counts.set 0 0xffffffffffffffff).set 200 1).set 255 2
    let session : Session :=
      { Session.new (Trace.ofBytes #[0]) {} with reader := { reader with counts } }
    let console : BoundedConsole := {}
    Console.Reliable console ∧
      Json.parse? (session.printed (.counts true) console) = some (.array [
        .object [("opcode", .number 0 0), ("name", .string "LOAD"),
          ("count", .number 18446744073709551615 0)],
        .object [("opcode", .number 200 0), ("name", .string "!ERR!"), ("count", .number 1 0)],
        .object [("opcode", .number 255 0), ("name", .string "!ERR!"), ("count", .number 2 0)]]) := by
  intro reader counts session console
  have reliable : Console.Reliable console := ⟨_, BoundedConsole.steady_unlimited, rfl, rfl, rfl⟩
  have counted : session.reader.counted = [⟨⟨0⟩, 0xffffffffffffffff⟩, ⟨⟨200⟩, 1⟩, ⟨⟨255⟩, 2⟩] := by
    decide +kernel
  have agree := (session.counts_views_agree reliable).1
  have labels : Opcode.label ⟨0⟩ = "LOAD" ∧ Opcode.label ⟨200⟩ = "!ERR!" ∧
      Opcode.label ⟨255⟩ = "!ERR!" := by decide +kernel
  rw [counted] at agree
  simp only [List.map_cons, List.map_nil, Reader.Count.toValue, labels] at agree
  exact ⟨reliable, agree⟩

end Session

end OpcodeTrace
