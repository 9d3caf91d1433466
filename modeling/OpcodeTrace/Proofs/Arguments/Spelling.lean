import OpcodeTrace.Arguments.Parse
import OpcodeTrace.Proofs.Config.Layout

/-! A setting can be given in several ways, and settings in any order. What they are read as
depends on neither. -/

namespace OpcodeTrace.Arguments

open Config (Field Member)

/-! ## Settings -/

inductive Setting where
  | file (path : String)
  | field (member : Member)

def Key.ofField : Field → Key
  | .tracePath => trace
  | .prompt => prompt
  | .info => info
  | .defaultCount => count

def Key.letter? : Key → Option Char
  | config => some 'c'
  | prompt => some 'p'
  | info => some 'i'
  | count => some 'n'
  | trace => none

namespace Setting

def key : Setting → Key
  | file _ => .config
  | field member => .ofField member.field

/-- The setting has the value that the text stands for. -/
def Valued : Setting → String → Prop
  | file path, text => text = path
  | field (.tracePath string), text | field (.prompt string), text | field (.info string), text =>
      text = string
  | field (.defaultCount count), text => Decimal.read? text = some count

end Setting

def set (arguments : Arguments) : Setting → Arguments
  | .file path => { arguments with configPath := some path }
  | .field member => { arguments with settings := arguments.settings.set member }

/-! ## Spellings -/

inductive Spelled (key : Key) (value : String) : List String → Prop where
  | long {letter : Char} (option : key.letter? = some letter) :
      Spelled key value ["--" ++ key.name ++ "=" ++ value]
  | short {letter : Char} (option : key.letter? = some letter) :
      Spelled key value ["-" ++ letter.toString ++ "=" ++ value]
  | attached {letter : Char} (option : key.letter? = some letter)
      (noEquals : value.toList.head? ≠ some '=') :
      Spelled key value ["-" ++ letter.toString ++ value]
  | longApart {letter : Char} (option : key.letter? = some letter)
      (plain : value.toList.head? ≠ some '-' ∨ value = "-") :
      Spelled key value ["--" ++ key.name, value]
  | shortApart {letter : Char} (option : key.letter? = some letter)
      (plain : value.toList.head? ≠ some '-' ∨ value = "-") :
      Spelled key value ["-" ++ letter.toString, value]
  | alone (noOption : key.letter? = none) (noDash : value.toList.head? ≠ some '-') :
      Spelled key value [value]

inductive Words : List Setting → List String → Prop where
  | nil : Words [] []
  | cons {setting : Setting} {settings : List Setting} {value : String} {piece words : List String}
      (filled : value ≠ "") (valued : setting.Valued value)
      (spelled : Spelled setting.key value piece) (later : Words settings words) :
      Words (setting :: settings) (piece ++ words)

/-! ## Words -/

theorem ofString_plain {value : String} (plain : value.toList.head? ≠ some '-' ∨ value = "-") :
    Word.ofString value = .plain := by
  rcases plain with noDash | rfl
  · rw [Word.ofString]
    split
    · rfl
    · next first rest found =>
      rw [found, List.head?_cons] at noDash
      exact if_pos fun dash => noDash (congrArg some dash)
  · rfl

section

variable {name : List Char} (noEquals : ∀ character ∈ name, character ≠ '=')
include noEquals

theorem ofLong_equals (value : List Char) : Word.ofLong (name ++ '=' :: value) =
    .long (String.ofList name) (some (String.ofList value)) := by
  have other := fun character member => decide_eq_true (noEquals character member)
  rw [Word.ofLong, List.takeWhile_append_of_pos other, List.dropWhile_append_of_pos other]
  simp

theorem ofLong_name : Word.ofLong name = .long (String.ofList name) none := by
  have other := fun character member => decide_eq_true (noEquals character member)
  rw [Word.ofLong, List.takeWhile_eq_self_iff.mpr other, List.dropWhile_eq_nil_iff.mpr other]

end

theorem name_noEquals (key : Key) : ∀ character ∈ key.name.toList, character ≠ '=' := by
  have noEquals : '=' ∉ key.name.toList := by cases key <;> decide
  exact fun character member equals => noEquals (equals ▸ member)

theorem ofString_long (key : Key) (value : String) :
    Word.ofString ("--" ++ key.name ++ "=" ++ value) = .long key.name (some value) := by
  have parts : ("--" ++ key.name ++ "=" ++ value).toList =
      '-' :: '-' :: (key.name.toList ++ '=' :: value.toList) := by simp
  rw [Word.ofString, parts]
  simp [ofLong_equals (name_noEquals key)]

theorem ofString_name (key : Key) : Word.ofString ("--" ++ key.name) = .long key.name none := by
  have parts : ("--" ++ key.name).toList = '-' :: '-' :: key.name.toList := by simp
  have filled : key.name.toList ≠ [] := by cases key <;> decide
  rw [Word.ofString, parts]
  simp [filled, ofLong_name (name_noEquals key)]

section

variable {key : Key} {letter : Char} (option : key.letter? = some letter)
include option

theorem ofString_short (text : String) :
    Word.ofString ("-" ++ letter.toString ++ text) = .short letter text.toList := by
  have noDash : letter ≠ '-' := by
    rintro rfl
    cases key <;> cases option
  simp [Word.ofString, noDash]

theorem ofName?_name : Flag.ofName? key.name = some (.valued key) := by
  cases key with
  | config | prompt | info | count => decide
  | trace => cases option

theorem ofLetter?_letter : Flag.ofLetter? letter = some (.valued key) := by
  cases key <;> cases option <;> decide

end

/-! ## Reading a setting -/

variable {key : Key} {value : String} {arguments : Arguments}

theorem attached_equals (value : String) : attached ("=" ++ value).toList = some value := by
  simp [attached]

theorem attached_self (filled : value ≠ "") (noEquals : value.toList.head? ≠ some '=') :
    attached value.toList = some value := by
  cases characters : value.toList with
  | nil => exact absurd (String.toList_eq_nil_iff.mp characters) filled
  | cons first rest =>
      rw [characters, List.head?_cons] at noEquals
      rw [attached, if_neg fun equals => noEquals (congrArg some equals), ← characters,
        String.ofList_toList]

theorem Spelled.parseFrom_append {piece : List String} (spelled : Spelled key value piece)
    (filled : value ≠ "") (arguments : Arguments) (words : List String) :
    arguments.parseFrom (piece ++ words) =
      (arguments.give key value).bind fun changed => changed.parseFrom words := by
  cases spelled with
  | long option =>
      rw [List.singleton_append, parseFrom, ofString_long]
      dsimp only
      rw [ofName?_name option]
      rfl
  | short option =>
      rw [List.singleton_append, parseFrom, String.append_assoc, ofString_short option]
      dsimp only
      rw [ofLetter?_letter option, attached_equals]
      rfl
  | attached option noEquals =>
      rw [List.singleton_append, parseFrom, ofString_short option]
      dsimp only
      rw [ofLetter?_letter option, attached_self filled noEquals]
      rfl
  | longApart option plain =>
      rw [List.cons_append, List.singleton_append, parseFrom, ofString_name]
      dsimp only
      rw [ofName?_name option]
      dsimp only
      rw [if_pos (ofString_plain plain)]
      rfl
  | @shortApart letter option plain =>
      have short := ofString_short option ""
      rw [String.append_empty] at short
      rw [List.cons_append, List.singleton_append, parseFrom, short]
      dsimp only
      rw [ofLetter?_letter option]
      dsimp only
      rw [if_pos (ofString_plain plain)]
      rfl
  | alone noOption noDash =>
      have trace : key = .trace := by cases key <;> first | rfl | cases noOption
      subst trace
      rw [List.singleton_append, parseFrom, ofString_plain (.inl noDash)]
      rfl

/-! ## Reading settings -/

variable {setting : Setting} {settings : List Setting} {words : List String}

def isGiven (arguments : Arguments) : Setting → Bool
  | .file _ => arguments.configPath.isSome
  | .field member => arguments.settings.isSet member.field

theorem isGiven_set (arguments : Arguments) (setting other : Setting) :
    (arguments.set setting).isGiven other = (arguments.isGiven other || setting.key = other.key) := by
  have apart (field : Field) : Key.config ≠ .ofField field := by cases field <;> decide
  have injective (field later : Field) : Key.ofField field = .ofField later ↔ field = later := by
    cases field <;> cases later <;> decide
  cases setting with
  | file path =>
      cases other with
      | file path => simp [set, isGiven, Setting.key]
      | field member => simp [set, isGiven, Setting.key, apart]
  | field member =>
      cases other with
      | file path => simp [set, isGiven, Setting.key, (apart _).symm]
      | field later => simp [set, isGiven, Setting.key, injective, Settings.isSet_set]

theorem once_fresh {Value : Type} {former : Option Value} (fresh : former.isSome = false) (key : Key)
    (value : Value) : once key former value = .ok (some value) := by
  rw [once, fresh]
  rfl

theorem readPath_filled (filled : value ≠ "") (key : Key) : readPath key value = .ok value :=
  if_neg filled

theorem give_valued (valued : setting.Valued value) (filled : value ≠ "")
    (fresh : arguments.isGiven setting = false) :
    arguments.give setting.key value = .ok (arguments.set setting) := by
  cases setting with
  | file path =>
      cases valued
      change arguments.give .config value = _
      rw [give, readPath_filled filled]
      change (once .config arguments.configPath value).bind _ = _
      rw [once_fresh fresh]
      rfl
  | field member =>
      cases member with
      | tracePath string =>
          cases valued
          change arguments.give .trace value = _
          rw [give, readPath_filled filled]
          change (once .trace arguments.settings.tracePath value).bind _ = _
          rw [once_fresh fresh]
          rfl
      | prompt string =>
          cases valued
          change (once .prompt arguments.settings.prompt value).bind _ = _
          rw [once_fresh fresh]
          rfl
      | info string =>
          cases valued
          change (once .info arguments.settings.info value).bind _ = _
          rw [once_fresh fresh]
          rfl
      | defaultCount count =>
          have reads : readCount value = .ok count := by rw [readCount, valued]
          change arguments.give .count value = _
          rw [give, reads]
          change (once .count arguments.settings.defaultCount count).bind _ = _
          rw [once_fresh fresh]
          rfl

theorem parseFrom_words (given : Words settings words)
    (fresh : ∀ setting ∈ settings, arguments.isGiven setting = false)
    (distinct : settings.Pairwise (·.key ≠ ·.key)) :
    arguments.parseFrom words = .ok (.start (settings.foldl set arguments)) := by
  -- The keys still to come differ from the one just given, so none of them counts as repeated.
  induction given generalizing arguments with
  | nil => rfl
  | @cons setting settings value piece words filled valued spelled later induction =>
      rw [List.forall_mem_cons] at fresh
      rw [List.pairwise_cons] at distinct
      have freshLater : ∀ other ∈ settings, (arguments.set setting).isGiven other = false := by
        intro other member
        rw [isGiven_set, fresh.2 other member, decide_eq_false (distinct.1 other member)]
        rfl
      rw [spelled.parseFrom_append filled, give_valued valued filled fresh.1]
      exact induction freshLater distinct.2

theorem parse_words (given : Words settings words) (distinct : settings.Pairwise (·.key ≠ ·.key)) :
    parse words = .ok (.start (settings.foldl set {})) := by
  have fresh (setting : Setting) : isGiven {} setting = false := by
    cases setting with
    | file path => rfl
    | field member => cases member <;> rfl
  exact parseFrom_words given (fun setting _ => fresh setting) distinct

/-! ## The order of settings -/

theorem set_comm {other : Setting} (apart : setting.key ≠ other.key) (arguments : Arguments) :
    (arguments.set setting).set other = (arguments.set other).set setting := by
  cases setting with
  | file path =>
      cases other with
      | file path => exact absurd rfl apart
      | field member => rfl
  | field member =>
      cases other with
      | file path => rfl
      | field later =>
          have fields : member.field ≠ later.field := fun equal => apart (congrArg Key.ofField equal)
          simp only [set, Settings.set_comm fields]

theorem foldl_set_perm {others : List Setting} (perm : others.Perm settings)
    (distinct : settings.Pairwise (·.key ≠ ·.key)) (arguments : Arguments) :
    others.foldl set arguments = settings.foldl set arguments :=
  (foldl_perm_of_distinct (fun apart => set_comm apart) perm.symm distinct arguments).symm

/-! ## What is given -/

def Setting.alone (setting : Setting) : Arguments :=
  set {} setting

def or (first second : Arguments) : Arguments where
  configPath := first.configPath.or second.configPath
  settings := {
    tracePath := first.settings.tracePath.or second.settings.tracePath
    prompt := first.settings.prompt.or second.settings.prompt
    info := first.settings.info.or second.settings.info
    defaultCount := first.settings.defaultCount.or second.settings.defaultCount }

theorem set_eq_or (arguments : Arguments) (setting : Setting) :
    arguments.set setting = setting.alone.or arguments := by
  cases setting with
  | file path => rfl
  | field member => cases member <;> rfl

def ofSettings (settings : List Setting) : Arguments where
  configPath := settings.findSome? (·.alone.configPath)
  settings := {
    tracePath := settings.findSome? (·.alone.settings.tracePath)
    prompt := settings.findSome? (·.alone.settings.prompt)
    info := settings.findSome? (·.alone.settings.info)
    defaultCount := settings.findSome? (·.alone.settings.defaultCount) }

theorem ofSettings_cons (setting : Setting) (settings : List Setting) :
    ofSettings (setting :: settings) = setting.alone.or (ofSettings settings) := by
  have first {Value : Type} (part : Setting → Option Value) :
      (setting :: settings).findSome? part = (part setting).or (settings.findSome? part) := by
    rw [List.findSome?_cons]
    cases part setting <;> rfl
  simp only [ofSettings, or, first]

theorem foldl_set_eq (distinct : settings.Pairwise (·.key ≠ ·.key)) :
    settings.foldl set {} = ofSettings settings := by
  induction settings with
  | nil => rfl
  | cons setting settings induction =>
      -- The first setting may as well be the last one.
      have turned := foldl_set_perm (List.perm_append_singleton setting settings) distinct {}
      rw [← turned, List.foldl_append, induction (List.pairwise_cons.mp distinct).2,
        ofSettings_cons, ← set_eq_or]
      rfl

end OpcodeTrace.Arguments
