import OpcodeTrace.Config.Load
import OpcodeTrace.Proofs.Json.Writing

/-! A configuration is loaded as it is written. -/

namespace OpcodeTrace

namespace Config

/-! ## Members -/

inductive Member where
  | tracePath (path : String)
  | prompt (template : String)
  | info (template : String)
  | defaultCount (count : UInt64)

namespace Member

def field : Member → Field
  | tracePath _ => .tracePath
  | prompt _ => .prompt
  | info _ => .info
  | defaultCount _ => .defaultCount

def value : Member → List Char
  | tracePath text | prompt text | info text => (Json.quote text).toList
  | defaultCount count => Decimal.digits count.toNat

def text (member : Member) : List Char :=
  member.field.key.toList ++ '"' :: ':' :: member.value

end Member

def laterText (members : List Member) : List Char :=
  members.flatMap fun member => ',' :: '"' :: member.text

def objectText : List Member → List Char
  | [] => ['\x7b', '\x7d']
  | first :: later => '\x7b' :: '"' :: (first.text ++ laterText later ++ ['\x7d'])

def members (config : Config) : List Member :=
  [.tracePath config.tracePath, .prompt config.prompt, .info config.info,
    .defaultCount config.defaultCount]

theorem toList_render (config : Config) : config.render.toList = objectText config.members := by
  have tracePath : "\x7b\"trace_path\":".toList =
      '\x7b' :: '"' :: (Field.tracePath.key.toList ++ ['"', ':']) := by decide
  have prompt : ",\"prompt\":".toList =
      ',' :: '"' :: (Field.prompt.key.toList ++ ['"', ':']) := by decide
  have info : ",\"info\":".toList = ',' :: '"' :: (Field.info.key.toList ++ ['"', ':']) := by decide
  have defaultCount : ",\"default_count\":".toList =
      ',' :: '"' :: (Field.defaultCount.key.toList ++ ['"', ':']) := by decide
  have close : "\x7d".toList = ['\x7d'] := by decide
  unfold render
  simp only [String.toList_append, tracePath, prompt, info, defaultCount, close, Decimal.render,
    String.toList_ofList, members, objectText, laterText, Member.text, Member.field, Member.value,
    List.flatMap_cons, List.flatMap_nil, List.cons_append, List.nil_append, List.append_assoc,
    List.append_nil]

end Config

namespace Settings

open Config (Field Member laterText objectText)
open Json (EndsNumber)

def set (settings : Settings) : Member → Settings
  | .tracePath path => { settings with tracePath := some path }
  | .prompt template => { settings with prompt := some template }
  | .info template => { settings with info := some template }
  | .defaultCount count => { settings with defaultCount := some count }

theorem isSet_set (settings : Settings) (member : Member) (field : Field) :
    (settings.set member).isSet field = (settings.isSet field || member.field = field) := by
  cases member <;> cases field <;> simp [set, isSet, Member.field]

/-! ## Reading a member -/

theorem ofKey?_key (field : Field) : Field.ofKey? field.key = some field := by
  cases field <;> decide

theorem readString_key (field : Field) (rest : List Char) :
    Json.readString (field.key.toList ++ '"' :: rest) = .ok (field.key.toList, rest) := by
  have plain : Json.encode field.key.toList = field.key.toList := by cases field <;> decide
  have reads := Json.readString_encode field.key.toList rest
  rwa [plain] at reads

variable {settings : Settings} {member : Member} {members : List Member} {rest : List Char}

theorem readField_value (member : Member) (ends : EndsNumber rest) :
    settings.readField member.field (member.value ++ rest) = .ok (settings.set member, rest) := by
  cases member with
  | tracePath text | prompt text | info text =>
      simp [Member.field, Member.value, readField, Json.readText_quote, Except.map, set]
  | defaultCount count =>
      simp [Member.field, Member.value, readField, ends.readNumber_digits, Except.map, set]

theorem readMember_text (unset : settings.isSet member.field = false) (ends : EndsNumber rest) :
    settings.readMember (member.text ++ rest) = .ok (settings.set member, rest) := by
  have colon (later : List Char) : Json.skipMark ':' (':' :: later) = .ok later := rfl
  rw [Member.text, List.append_assoc, readMember, List.cons_append, List.cons_append,
    readString_key]
  simp [ofKey?_key, unset, colon, readField_value member ends]

/-! ## Reading members -/

/-- The equation without the facts that are kept for termination. -/
theorem readMembers_eq (settings : Settings) (text : List Char) :
    settings.readMembers text =
      match Json.skipBlanks text with
      | [] => .error .ended
      | first :: rest =>
          if first = '\x7d' then .ok (settings, rest)
          else if first = ',' then
            match Json.skipMark '"' rest with
            | .error problem => .error problem
            | .ok name =>
                match settings.readMember name with
                | .error problem => .error problem
                | .ok (changed, later) => changed.readMembers later
          else .error .malformed := by
  rw [readMembers]
  split
  · next found => rw [found]
  · next first rest found =>
    rw [found]
    dsimp only
    split
    · rfl
    · split
      · split
        · next quote => rw [quote]
        · next quote =>
          rw [quote]
          dsimp only
          split
          · next member => rw [member]
          · next member => rw [member]
      · rfl

theorem readMembers_close : settings.readMembers ('\x7d' :: rest) = .ok (settings, rest) := by
  rw [readMembers_eq]
  rfl

theorem readMembers_comma {changed : Settings} {text : List Char}
    (reads : settings.readMember text = .ok (changed, rest)) :
    settings.readMembers (',' :: '"' :: text) = changed.readMembers rest := by
  have quote : Json.skipMark '"' ('"' :: text) = .ok text := rfl
  rw [readMembers_eq, Json.skipBlanks_comma]
  simp [quote, reads]

/-- No field of the members is set twice, with what is set already counted. -/
def Admits (settings : Settings) (members : List Member) : Prop :=
  (∀ member ∈ members, settings.isSet member.field = false) ∧
    members.Pairwise (·.field ≠ ·.field)

theorem Admits.isSet_head (admits : settings.Admits (member :: members)) :
    settings.isSet member.field = false :=
  admits.1 member List.mem_cons_self

theorem Admits.tail (admits : settings.Admits (member :: members)) :
    (settings.set member).Admits members := by
  obtain ⟨unset, distinct⟩ := admits
  rw [List.pairwise_cons] at distinct
  refine ⟨fun later laterMember => ?_, distinct.2⟩
  rw [isSet_set, unset later (List.mem_cons_of_mem member laterMember), Bool.false_or]
  exact decide_eq_false (distinct.1 later laterMember)

theorem endsNumber_laterText (members : List Member) (rest : List Char) :
    EndsNumber (laterText members ++ '\x7d' :: rest) := by
  cases members <;> rfl

theorem readMembers_laterText (admits : settings.Admits members) (rest : List Char) :
    settings.readMembers (laterText members ++ '\x7d' :: rest) =
      .ok (members.foldl set settings, rest) := by
  induction members generalizing settings with
  | nil => exact readMembers_close
  | cons member members induction =>
      have reads := readMember_text admits.isSet_head (endsNumber_laterText members rest)
      rw [laterText, List.flatMap_cons, ← laterText, List.append_assoc, List.cons_append,
        List.cons_append, readMembers_comma reads, induction admits.tail, List.foldl_cons]

/-! ## Reading an object -/

theorem readObject_first (text : List Char) :
    readObject ('"' :: text) =
      match readMember {} text with
      | .error problem => .error problem
      | .ok (settings, later) => settings.readMembers later :=
  rfl

theorem readBody_objectText (distinct : members.Pairwise (·.field ≠ ·.field)) :
    readBody (objectText members) = .ok (members.foldl set {}, []) := by
  have opens (text : List Char) : readBody ('\x7b' :: text) = readObject text := rfl
  cases members with
  | nil => rfl
  | cons first later =>
      have unset (member : Member) : isSet {} member.field = false := by cases member <;> rfl
      have admits : Admits {} (first :: later) := ⟨fun member _ => unset member, distinct⟩
      have reads := readMember_text admits.isSet_head (endsNumber_laterText later [])
      rw [objectText, opens, readObject_first, List.append_assoc, reads]
      exact readMembers_laterText admits.tail []

theorem read_objectText (distinct : members.Pairwise (·.field ≠ ·.field)) :
    Settings.read (String.ofList (objectText members)) = .ok (members.foldl set {}) := by
  rw [Settings.read, String.toList_ofList, readBody_objectText distinct]
  rfl

end Settings

namespace Config

theorem override_members (config : Config) :
    override {} (config.members.foldl Settings.set {}) = config :=
  rfl

theorem fromUTF8?_toUTF8 (text : String) : String.fromUTF8? ⟨text.toUTF8.data⟩ = some text := by
  change String.fromUTF8? text.toByteArray = some text
  rw [String.fromUTF8?, dif_pos text.isValidUTF8]
  rfl

theorem ofFile_render (config : Config) (path : String) :
    ofFile path (.ok config.render.toUTF8.data) = .ok config := by
  have distinct : config.members.Pairwise (·.field ≠ ·.field) := by
    simp [members, Member.field]
  have reads := Settings.read_objectText distinct
  rw [← toList_render, String.ofList_toList] at reads
  rw [ofFile, fromUTF8?_toUTF8]
  dsimp only
  rw [reads]
  dsimp only
  rw [override_members]

end Config

end OpcodeTrace
