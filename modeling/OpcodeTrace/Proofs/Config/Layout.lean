import Mathlib.Data.List.Pairwise
import Mathlib.Data.List.ReduceOption
import OpcodeTrace.Proofs.Config.Writing
import OpcodeTrace.Proofs.Json.Grammar

/-! A file means the same in all of its layouts. -/

namespace OpcodeTrace

/-! ## Layouts -/

namespace Json

/-- Items with blanks around them and commas between them. There is at least one. -/
inductive Separated {Item : Type} (Written : Item → List Char → Prop) :
    List Item → List Char → Prop where
  | last {item : Item} {before text after : List Char} (blank : Blanks before)
      (written : Written item text) (blankAfter : Blanks after) :
      Separated Written [item] (before ++ (text ++ after))
  | more {item : Item} {items : List Item} {before text after later : List Char}
      (blank : Blanks before) (written : Written item text) (blankAfter : Blanks after)
      (rest : Separated Written items later) :
      Separated Written (item :: items) (before ++ (text ++ (after ++ ',' :: later)))

inductive Document {Item : Type} (bracket : Bracket) (Written : Item → List Char → Prop) :
    List Item → List Char → Prop where
  | empty {before between after : List Char} (blank : Blanks before) (blankBetween : Blanks between)
      (blankAfter : Blanks after) :
      Document bracket Written []
        (before ++ bracket.opening :: (between ++ bracket.closing :: after))
  | filled {items : List Item} {before text after : List Char} (blank : Blanks before)
      (separated : Separated Written items text) (blankAfter : Blanks after) :
      Document bracket Written items
        (before ++ bracket.opening :: (text ++ bracket.closing :: after))

theorem Separated.skipBlanks_append {Item : Type} {Written : Item → List Char → Prop}
    {items : List Item} {text : List Char}
    (begins : ∀ {item text}, Written item text → ∃ first later, text = first :: later ∧ Begins first)
    (separated : Separated Written items text) (rest : List Char) :
    ∃ first later, skipBlanks (text ++ rest) = first :: later ∧ Begins first := by
  cases separated with
  | last blank written _ | more blank written _ _ =>
      obtain ⟨first, later, rfl, visible⟩ := begins written
      rw [List.append_assoc, blank.skipBlanks_append]
      exact ⟨first, _, skipBlanks_of_not_blank visible.1 _, visible⟩

end Json

/-- Updates for different keys can be made in any order if any two of them can be exchanged. -/
theorem foldl_perm_of_distinct {State Item Key : Type} {update : State → Item → State}
    {key : Item → Key}
    (exchange : ∀ {one other : Item}, key one ≠ key other →
      ∀ state, update (update state one) other = update (update state other) one)
    {items others : List Item} (perm : items.Perm others)
    (distinct : items.Pairwise (key · ≠ key ·)) (state : State) :
    items.foldl update state = others.foldl update state := by
  have symmetric : Std.Symm fun one other : Item => key one ≠ key other := ⟨fun _ _ => Ne.symm⟩
  refine perm.foldl_eq' (fun first firstMember second secondMember current => ?_) state
  by_cases equal : first = second
  · rw [equal]
  · exact exchange (distinct.forall firstMember secondMember equal) current

open Json (Begins Blanks Bracket Document EndsNumber Separated Spells skipBlanks)

/-! ## What a file holds -/

namespace Config

def Member.Written : Member → List Char → Prop
  | tracePath string, text | prompt string, text | info string, text =>
      ∃ body, Spells string.toList body ∧ text = '"' :: (body ++ ['"'])
  | defaultCount count, text => Json.Whole text ∧ Decimal.value text = count.toNat

/-- The text is a name that spells the key, a colon and the value. -/
def Named (key value text : List Char) : Prop :=
  ∃ name between before, Spells key name ∧ Blanks between ∧ Blanks before ∧
    text = '"' :: (name ++ '"' :: (between ++ ':' :: (before ++ value)))

/-- The text is the member of an object that sets a field, or none of them. -/
inductive Held : Option Member → List Char → Prop where
  | known {member : Member} {value text : List Char} (written : member.Written value)
      (named : Named member.field.key.toList value text) : Held (some member) text
  | unknown {key value text : List Char} (other : ∀ field : Field, key ≠ field.key.toList)
      (derives : Json.Derives .value value) (named : Named key value text) : Held none text

theorem Member.Written.begins {member : Member} {text : List Char}
    (written : member.Written text) : ∃ first later, text = first :: later ∧ Begins first := by
  cases member with
  | tracePath string | prompt string | info string =>
      obtain ⟨body, _, rfl⟩ := written
      exact ⟨'"', _, rfl, Json.begins_quote⟩
  | defaultCount count =>
      obtain ⟨first, later, rfl, digit⟩ := written.1.exists_eq_cons
      exact ⟨first, later, rfl, Json.begins_of_isDigit digit⟩

theorem Held.exists_eq_cons {item : Option Member} {text : List Char} (held : Held item text) :
    ∃ later, text = '"' :: later := by
  cases held with
  | known _ named | unknown _ _ named =>
      obtain ⟨name, between, before, _, _, _, rfl⟩ := named
      exact ⟨_, rfl⟩

theorem Held.begins {item : Option Member} {text : List Char} (held : Held item text) :
    ∃ first later, text = first :: later ∧ Begins first := by
  obtain ⟨later, rfl⟩ := held.exists_eq_cons
  exact ⟨'"', later, rfl, Json.begins_quote⟩

end Config

namespace Settings

open Config (Field Member Named Held)

def members (settings : Settings) : List Member :=
  [settings.tracePath.map .tracePath, settings.prompt.map .prompt, settings.info.map .info,
    settings.defaultCount.map .defaultCount].reduceOption

variable {settings : Settings} {member : Member} {members : List Member}
  {blanks before text after rest : List Char}

/-! ## Fields -/

theorem readText_skipBlanks (text : List Char) :
    Json.readText (skipBlanks text) = Json.readText text := by
  rw [Json.readText, Json.skipBlanks_skipBlanks, Json.readText]

theorem readNumber_skipBlanks (text : List Char) :
    Json.readNumber (skipBlanks text) = Json.readNumber text := by
  rw [Json.readNumber, Json.skipBlanks_skipBlanks, Json.readNumber]

theorem readField_skipBlanks (settings : Settings) (field : Field) (text : List Char) :
    settings.readField field (skipBlanks text) = settings.readField field text := by
  cases field <;> simp only [readField, readText_skipBlanks, readNumber_skipBlanks]

theorem readField_blanks (blank : Blanks blanks) (field : Field) :
    settings.readField field (blanks ++ text) = settings.readField field text := by
  rw [← readField_skipBlanks, blank.skipBlanks_append, readField_skipBlanks]

theorem readField_written (written : member.Written text) (ends : EndsNumber rest) :
    settings.readField member.field (text ++ rest) = .ok (settings.set member, rest) := by
  cases member with
  | tracePath string | prompt string | info string =>
      obtain ⟨body, spells, rfl⟩ := written
      have reads := spells.readText_eq rest
      rw [List.cons_append, List.append_assoc, List.singleton_append]
      simp [Member.field, readField, reads, Except.map, set]
  | defaultCount count =>
      obtain ⟨whole, value⟩ := written
      simp [Member.field, readField, ends.readNumber_whole whole value, Except.map, set]

/-! ## Members -/

theorem ofKey?_eq_none {key : List Char} (other : ∀ field : Field, key ≠ field.key.toList) :
    Field.ofKey? (String.ofList key) = none := by
  refine List.find?_eq_none.mpr fun field _ equal => other field ?_
  rw [of_decide_eq_true equal, String.toList_ofList]

theorem readMember_held {item : Option Member} (held : Held item ('"' :: text))
    (unset : ∀ member ∈ item, settings.isSet member.field = false) (ends : EndsNumber rest) :
    settings.readMember (text ++ rest) = .ok (item.elim settings settings.set, rest) := by
  have visible : Json.isBlank ':' = false := rfl
  cases held with
  | @known member value _ written named =>
      obtain ⟨name, between, before, spells, blankBetween, blank, equal⟩ := named
      obtain rfl := (List.cons.inj equal).2
      simp only [List.append_assoc, List.cons_append]
      rw [readMember, spells.readString_eq]
      simp [ofKey?_key, unset member rfl, blankBetween.skipMark_append visible,
        readField_blanks blank, readField_written written ends]
  | @unknown key value _ other derives named =>
      obtain ⟨name, between, before, spells, blankBetween, blank, equal⟩ := named
      obtain rfl := (List.cons.inj equal).2
      simp only [List.append_assoc, List.cons_append]
      rw [readMember, spells.readString_eq]
      simp [ofKey?_eq_none other, blankBetween.skipMark_append visible,
        derives.skipValue_append blank ends]

theorem readMembers_blanks (blank : Blanks blanks) :
    settings.readMembers (blanks ++ text) = settings.readMembers text := by
  rw [readMembers_eq, readMembers_eq, blank.skipBlanks_append]

theorem readMembers_blanks_comma {changed : Settings} (blank : Blanks blanks)
    (reads : settings.readMember text = .ok (changed, rest)) :
    settings.readMembers (',' :: (blanks ++ '"' :: text)) = changed.readMembers rest := by
  have visible : Json.isBlank '"' = false := rfl
  rw [readMembers_eq, Json.skipBlanks_comma]
  simp [blank.skipMark_append visible, reads]

theorem readMembers_again {field : Field} {name : List Char} (blank : Blanks blanks)
    (spells : Spells field.key.toList name) (again : settings.isSet field) :
    settings.readMembers (',' :: (blanks ++ '"' :: (name ++ '"' :: rest))) = .error .mismatched := by
  have refused : settings.readMember (name ++ '"' :: rest) = .error .mismatched := by
    rw [readMember, spells.readString_eq]
    simp [ofKey?_key, again]
  have visible : Json.isBlank '"' = false := rfl
  rw [readMembers_eq, Json.skipBlanks_comma]
  simp [blank.skipMark_append visible, refused]

theorem readMembers_item {item : Option Member} {items : List (Option Member)}
    {after : List Char} (blank : Blanks before) (held : Held item text) (blankAfter : Blanks after)
    (admits : settings.Admits (item :: items).reduceOption) (ends : EndsNumber rest) :
    ∃ changed : Settings, changed.Admits items.reduceOption ∧
      items.reduceOption.foldl set changed = (item :: items).reduceOption.foldl set settings ∧
      settings.readMembers (',' :: (before ++ (text ++ (after ++ rest)))) =
        changed.readMembers rest := by
  obtain ⟨later, rfl⟩ := held.exists_eq_cons
  have unset : ∀ member ∈ item, settings.isSet member.field = false := by
    rintro member ⟨⟩
    exact admits.isSet_head
  have reads := readMember_held held unset (blankAfter.endsNumber_append ends)
  refine ⟨item.elim settings settings.set, ?_, ?_, ?_⟩
  · cases item with
    | none => exact admits
    | some member => exact admits.tail
  · cases item <;> rfl
  · rw [List.cons_append, readMembers_blanks_comma blank reads, readMembers_blanks blankAfter]

theorem readMembers_separated {items : List (Option Member)} (separated : Separated Held items text)
    (admits : settings.Admits items.reduceOption) (ends : EndsNumber rest) :
    settings.readMembers (',' :: (text ++ rest)) =
      (items.reduceOption.foldl set settings).readMembers rest := by
  -- What is set already grows from item to item, and no later item may set it again.
  induction separated generalizing settings with
  | last blank held blankAfter =>
      obtain ⟨changed, _, equal, reads⟩ := readMembers_item blank held blankAfter admits ends
      simp only [List.append_assoc]
      rw [reads, ← equal]
      rfl
  | more blank held blankAfter later induction =>
      obtain ⟨changed, admitsLater, equal, reads⟩ :=
        readMembers_item blank held blankAfter admits (Json.endsNumber_comma _)
      simp only [List.append_assoc, List.cons_append]
      rw [reads, induction admitsLater, equal]

/-! ## Objects -/

theorem readObject_eq {first : Char} {later : List Char} (begins : skipBlanks text = first :: later)
    (filled : first ≠ '\x7d') : readObject text = readMembers {} (',' :: text) := by
  have apart : ',' ≠ '\x7d' := by decide
  rw [readMembers_eq, Json.skipBlanks_comma, readObject, begins]
  dsimp only
  rw [if_neg filled, if_neg apart, if_pos (rfl : ',' = ','), Json.skipMark, begins]
  by_cases quote : first = '"'
  · cases reads : readMember {} later <;> simp [quote, reads]
  · simp [quote]

theorem admits_empty (distinct : members.Pairwise (·.field ≠ ·.field)) : Admits {} members :=
  ⟨fun member _ => by cases member <;> rfl, distinct⟩

theorem readBody_object {items : List (Option Member)}
    (document : Document .object Held items text)
    (distinct : items.reduceOption.Pairwise (·.field ≠ ·.field)) :
    ∃ after, Blanks after ∧ readBody text = .ok (items.reduceOption.foldl set {}, after) := by
  have opens (later : List Char) : skipBlanks (Bracket.object.opening :: later) =
      '\x7b' :: later := rfl
  cases document with
  | @empty before between after blank blankBetween blankAfter =>
      refine ⟨after, blankAfter, ?_⟩
      rw [readBody, blank.skipBlanks_append, opens]
      change readObject (between ++ '\x7d' :: after) = _
      rw [readObject, blankBetween.skipBlanks_append]
      rfl
  | @filled _ before text after blank separated blankAfter =>
      refine ⟨after, blankAfter, ?_⟩
      have ends : EndsNumber ('\x7d' :: after) := rfl
      obtain ⟨first, later, begins, visible⟩ :=
        separated.skipBlanks_append Held.begins ('\x7d' :: after)
      rw [readBody, blank.skipBlanks_append, opens]
      change readObject (text ++ '\x7d' :: after) = _
      rw [readObject_eq begins (visible.2 .object),
        readMembers_separated separated (admits_empty distinct) ends, readMembers_close]

/-! ## Arrays -/

theorem readElements_close (fields : List Field) :
    settings.readElements fields (']' :: rest) = .ok (settings, rest) := by
  cases fields <;> rfl

theorem readElements_blanks (blank : Blanks blanks) (fields : List Field) :
    settings.readElements fields (blanks ++ text) = settings.readElements fields text := by
  cases fields <;> simp only [readElements, blank.skipBlanks_append]

theorem readElements_comma (blank : Blanks before) (written : member.Written text)
    (ends : EndsNumber rest) (fields : List Field) :
    settings.readElements (member.field :: fields) (',' :: (before ++ (text ++ rest))) =
      (settings.set member).readElements fields rest := by
  rw [readElements, Json.skipBlanks_comma]
  simp [readField_blanks blank, readField_written written ends]

theorem readElements_separated (separated : Separated Member.Written members text)
    (ends : EndsNumber rest) (fields : List Field) :
    settings.readElements (members.map Member.field ++ fields) (',' :: (text ++ rest)) =
      (members.foldl set settings).readElements fields rest := by
  induction separated generalizing settings with
  | last blank written blankAfter =>
      have endsAfter := blankAfter.endsNumber_append ends
      simp only [List.append_assoc, List.map_cons, List.map_nil, List.cons_append, List.nil_append]
      rw [readElements_comma blank written endsAfter, readElements_blanks blankAfter]
      rfl
  | more blank written blankAfter later induction =>
      have endsAfter (next : List Char) := blankAfter.endsNumber_append (Json.endsNumber_comma next)
      simp only [List.append_assoc, List.map_cons, List.cons_append]
      rw [readElements_comma blank written (endsAfter _), readElements_blanks blankAfter, induction]
      rfl

theorem readArray_eq {first : Char} {later : List Char} (begins : skipBlanks text = first :: later)
    (filled : first ≠ ']') : readArray text = readElements {} Field.all (',' :: text) := by
  have skipped := readField_skipBlanks {} .tracePath text
  rw [begins] at skipped
  rw [readArray, begins, Field.all, readElements, Json.skipBlanks_comma]
  simp [filled, skipped]

theorem readBody_array (document : Document .array Member.Written members text)
    (inOrder : members.map Member.field <+: Field.all) :
    ∃ after, Blanks after ∧ readBody text = .ok (members.foldl set {}, after) := by
  have opens (later : List Char) : skipBlanks (Bracket.array.opening :: later) = '[' :: later := rfl
  cases document with
  | @empty before between after blank blankBetween blankAfter =>
      refine ⟨after, blankAfter, ?_⟩
      rw [readBody, blank.skipBlanks_append, opens]
      change readArray (between ++ ']' :: after) = _
      rw [readArray, blankBetween.skipBlanks_append]
      rfl
  | @filled _ before text after blank separated blankAfter =>
      refine ⟨after, blankAfter, ?_⟩
      have ends : EndsNumber (']' :: after) := rfl
      obtain ⟨first, later, begins, visible⟩ :=
        separated.skipBlanks_append Config.Member.Written.begins (']' :: after)
      obtain ⟨fields, inOrder⟩ := inOrder
      rw [readBody, blank.skipBlanks_append, opens]
      change readArray (text ++ ']' :: after) = _
      rw [readArray_eq begins (visible.2 .array), ← inOrder, readElements_separated separated ends,
        readElements_close]

/-! ## The order of fields -/

theorem set_comm {later : Member} (other : member.field ≠ later.field) (settings : Settings) :
    (settings.set member).set later = (settings.set later).set member := by
  cases member <;> cases later <;> first | rfl | exact absurd rfl other

theorem foldl_set_perm {others : List Member} (perm : members.Perm others)
    (distinct : members.Pairwise (·.field ≠ ·.field)) :
    members.foldl set settings = others.foldl set settings :=
  foldl_perm_of_distinct (fun apart => set_comm apart) perm distinct settings

theorem members_pairwise (settings : Settings) :
    settings.members.Pairwise (·.field ≠ ·.field) := by
  obtain ⟨_ | tracePath, _ | prompt, _ | info, _ | defaultCount⟩ := settings <;>
    simp [Settings.members, List.reduceOption, Member.field]

theorem foldl_set_members (settings : Settings) : settings.members.foldl set {} = settings := by
  obtain ⟨_ | tracePath, _ | prompt, _ | info, _ | defaultCount⟩ := settings <;> rfl

theorem foldl_set_of_perm (perm : members.Perm settings.members) :
    members.foldl set {} = settings :=
  (foldl_set_perm perm.symm settings.members_pairwise).symm.trans settings.foldl_set_members

/-! ## Documents -/

theorem read_of_readBody {after : List Char} (reads : readBody text = .ok (settings, after))
    (blank : Blanks after) : Settings.read (String.ofList text) = .ok settings := by
  have nothing : skipBlanks after = [] := by
    have skips := blank.skipBlanks_append []
    rwa [List.append_nil] at skips
  rw [Settings.read, String.toList_ofList, reads]
  exact if_pos nothing

theorem isSet_foldl (field : Field) :
    (members.foldl set settings).isSet field =
      (settings.isSet field || members.any (·.field = field)) := by
  induction members generalizing settings with
  | nil => simp
  | cons member members induction =>
      rw [List.foldl_cons, induction, isSet_set, List.any_cons, Bool.or_assoc]

theorem readBody_again {items : List (Option Member)} {field : Field} {name : List Char}
    (blank : Blanks before) (separated : Separated Held items text)
    (distinct : items.reduceOption.Pairwise (·.field ≠ ·.field))
    (given : field ∈ items.reduceOption.map Member.field) (blankBetween : Blanks blanks)
    (spells : Spells field.key.toList name) (rest : List Char) :
    readBody (before ++ '\x7b' :: (text ++ ',' :: (blanks ++ '"' :: (name ++ '"' :: rest)))) =
      .error .mismatched := by
  have opens (later : List Char) : skipBlanks ('\x7b' :: later) = '\x7b' :: later := rfl
  obtain ⟨first, later, begins, visible⟩ := separated.skipBlanks_append Held.begins _
  have again : (items.reduceOption.foldl set {}).isSet field := by
    rw [isSet_foldl, Bool.or_eq_true, List.any_eq_true]
    obtain ⟨member, found, equal⟩ := List.mem_map.mp given
    exact .inr ⟨member, found, decide_eq_true equal⟩
  rw [readBody, blank.skipBlanks_append, opens]
  change readObject (text ++ ',' :: (blanks ++ '"' :: (name ++ '"' :: rest))) = _
  rw [readObject_eq begins (visible.2 .object),
    readMembers_separated separated (admits_empty distinct) (Json.endsNumber_comma _),
    readMembers_again blankBetween spells again]

end Settings

namespace Config

theorem map_field_take (config : Config) (count : Nat) :
    (config.members.take count).map Member.field <+: Field.all := by
  have fields : config.members.map Member.field = Field.all := rfl
  rw [List.map_take, fields]
  exact List.take_prefix count Field.all

def ofText (path : String) (text : List Char) : Except LoadError Config :=
  ofFile path (.ok (String.ofList text).toUTF8.data)

theorem ofText_eq (path : String) (text : List Char) :
    ofText path text =
      match Settings.read (String.ofList text) with
      | .ok settings => .ok (override {} settings)
      | .error problem => .error (.parse path problem) := by
  have decodes := fromUTF8?_toUTF8 (String.ofList text)
  cases reads : Settings.read (String.ofList text) <;>
    simp only [ofText, ofFile, decodes, reads]

theorem ofText_of_readBody {members : List Member} {text after : List Char}
    (reads : Settings.readBody text = .ok (members.foldl Settings.set {}, after))
    (blank : Blanks after) (path : String) :
    ofText path text = .ok (override {} (members.foldl Settings.set {})) := by
  rw [ofText_eq, Settings.read_of_readBody reads blank]

/-- A file sets the fields that it holds, in any order and layout and with any other members between
them. An array of the first fields is loaded like an object of them, and a file in which a field comes
again behind valid members is refused. -/
theorem ofFile_layouts (path : String) :
    (∀ (settings : Settings) items text, Document .object Held items text →
      items.reduceOption.Perm settings.members →
      ofText path text = .ok {
        tracePath := settings.tracePath.getD "out_primary.log"
        prompt := settings.prompt.getD "> "
        info := settings.info.getD ""
        defaultCount := settings.defaultCount.getD 10 }) ∧
    (∀ (config : Config) count array items object,
      Document .array Member.Written (config.members.take count) array →
      Document .object Held items object → items.reduceOption.Perm (config.members.take count) →
      ∃ loaded, ofText path array = .ok loaded ∧ ofText path object = .ok loaded) ∧
    ∀ (field : Field) items before text between name rest, Blanks before →
      Separated Held items text → items.reduceOption.Pairwise (·.field ≠ ·.field) →
      field ∈ items.reduceOption.map Member.field → Blanks between →
      Spells field.key.toList name →
      ofText path
          (before ++ '\x7b' :: (text ++ ',' :: (between ++ '"' :: (name ++ '"' :: rest)))) =
        .error (.parse path .mismatched) := by
  refine ⟨fun settings items text document perm => ?_,
    fun config count array items object arrayDocument document perm => ?_,
    fun field items before text between name rest blank separated distinct given blankBetween
      spells => ?_⟩
  · have distinct := perm.symm.pairwise settings.members_pairwise (fun other => other.symm)
    obtain ⟨after, blank, reads⟩ := Settings.readBody_object document distinct
    rw [ofText_of_readBody reads blank, Settings.foldl_set_of_perm perm]
    rfl
  · have distinctFields : (config.members.take count).Pairwise (·.field ≠ ·.field) :=
      (show config.members.Pairwise (·.field ≠ ·.field) by simp [members, Member.field]).take
    have distinct := perm.symm.pairwise distinctFields (fun other => other.symm)
    obtain ⟨_, blank, reads⟩ := Settings.readBody_object document distinct
    obtain ⟨_, blankArray, readsArray⟩ :=
      Settings.readBody_array arrayDocument (map_field_take config count)
    refine ⟨_, ofText_of_readBody readsArray blankArray path, ?_⟩
    rw [ofText_of_readBody reads blank, Settings.foldl_set_perm perm distinct]
  · have refused := Settings.readBody_again blank separated distinct given blankBetween spells rest
    rw [ofText_eq, Settings.read, String.toList_ofList, refused]

theorem ofFile_layouts_of_escaped_name :
    ofText "c" " \x7b \"x\" : [ [ ] ] , \"\\u0070rompt\" : \"go\" \x7d\n".toList =
      .ok { tracePath := "out_primary.log", prompt := "go", info := "", defaultCount := 10 } ∧
    (∃ loaded, ofText "c" "[\"a\",\"b\"]".toList = .ok loaded ∧
      ofText "c" "\x7b\"prompt\":\"b\",\"trace_path\":\"a\"\x7d".toList = .ok loaded) ∧
    ofText "c" "\x7b\"info\":\"\",\"info\"".toList = .error (.parse "c" .mismatched) := by
  have nothing : Blanks [] := List.forall_mem_nil _
  have space : Blanks [' '] := List.forall_mem_singleton.mpr rfl
  have line : Blanks ['\n'] := List.forall_mem_singleton.mpr rfl
  have nested : Json.Derives .value "[ [ ] ]".toList :=
    @Json.Derives.filled .array _ (.last .array space (@Json.Derives.empty .array _ space) space)
  have other : Held none "\"x\" : [ [ ] ]".toList :=
    .unknown (fun field => by cases field <;> decide) nested
      ⟨['x'], [' '], [' '], Json.spells_encode ['x'], space, space, rfl⟩
  have escaped : Spells "prompt".toList "\\u0070rompt".toList :=
    .cons (@Json.Escapes.code "0070".toList 0x70 ⟨rfl, rfl⟩ rfl rfl) (Json.spells_encode "rompt".toList)
  have written (string : String) (plain : Json.encode string.toList = string.toList) :
      ∃ body, Spells string.toList body ∧
        '"' :: (string.toList ++ ['"']) = '"' :: (body ++ ['"']) :=
    ⟨_, Json.spells_encode _, by rw [plain]⟩
  have prompt : Held (some (.prompt "go")) "\"\\u0070rompt\" : \"go\"".toList :=
    .known (written "go" rfl) ⟨_, [' '], [' '], escaped, space, space, rfl⟩
  have object : Document .object Held [none, some (.prompt "go")]
      " \x7b \"x\" : [ [ ] ] , \"\\u0070rompt\" : \"go\" \x7d\n".toList :=
    .filled space (.more space other space (.last space prompt space)) line
  have tracePath : (Member.tracePath "a").Written "\"a\"".toList := written "a" rfl
  have prompt : (Member.prompt "b").Written "\"b\"".toList := written "b" rfl
  have array : Document .array Member.Written [.tracePath "a", .prompt "b"]
      "[\"a\",\"b\"]".toList :=
    .filled nothing (.more nothing tracePath nothing (.last nothing prompt nothing)) nothing
  have first : Held (some (.prompt "b")) "\"prompt\":\"b\"".toList :=
    .known prompt ⟨_, [], [], Json.spells_encode _, nothing, nothing, rfl⟩
  have second : Held (some (.tracePath "a")) "\"trace_path\":\"a\"".toList :=
    .known tracePath ⟨_, [], [], Json.spells_encode _, nothing, nothing, rfl⟩
  have turned : Document .object Held [some (.prompt "b"), some (.tracePath "a")]
      "\x7b\"prompt\":\"b\",\"trace_path\":\"a\"\x7d".toList :=
    .filled nothing (.more nothing first nothing (.last nothing second nothing)) nothing
  have info : Held (some (.info "")) "\"info\":\"\"".toList :=
    .known (written "" rfl) ⟨_, [], [], Json.spells_encode _, nothing, nothing, rfl⟩
  have items : Separated Held [some (.info "")] "\"info\":\"\"".toList :=
    .last nothing info nothing
  obtain ⟨objects, arrays, again⟩ := ofFile_layouts "c"
  refine ⟨objects { prompt := some "go" } _ _ object (.refl _),
    arrays { tracePath := "a", prompt := "b" } 2 _ _ _ array turned (.swap ..), ?_⟩
  have spelled : Spells Field.info.key.toList "info".toList := Json.spells_encode "info".toList
  have twice : "\x7b\"info\":\"\",\"info\"".toList =
      [] ++ '\x7b' :: ("\"info\":\"\"".toList ++ ',' :: ([] ++ '"' :: ("info".toList ++ ['"']))) := by
    rfl
  rw [twice]
  exact again .info [some (.info "")] [] _ [] _ [] nothing items (List.pairwise_singleton ..)
    List.mem_cons_self nothing spelled

end Config

end OpcodeTrace
