import OpcodeTrace.Command.Parse
import OpcodeTrace.Proofs.Success
import OpcodeTrace.Proofs.Text.Decimal
import OpcodeTrace.Proofs.Text.Words

/-! Commands are read as they are written. -/

namespace OpcodeTrace

/-! ## Names -/

namespace Command.Keyword

def names : Keyword → List String
  | step => ["s", "step"]
  | resume => ["c", "continue"]
  | finish => ["f", "finish"]
  | counts => ["counts"]
  | breakpoints => ["bps"]
  | setBreakpoint => ["b", "break"]
  | clearBreakpoint => ["d", "delete"]
  | jump => ["j", "jump"]
  | reset => ["reset"]
  | disassemble => ["dis"]
  | raw => ["raw"]
  | hex => ["hex"]
  | info => ["info"]
  | prompt => ["prompt"]
  | help => ["help"]
  | quit => ["q", "quit"]

theorem ofWord?_eq_some_iff {name : String} {keyword : Keyword} :
    ofWord? name = some keyword ↔ name ∈ keyword.names := by
  constructor
  · intro reads
    unfold ofWord? at reads
    split at reads <;> cases reads <;> decide
  · have reads : ∀ name ∈ keyword.names, ofWord? name = some keyword := by
      cases keyword <;> decide
    exact reads name

theorem spells_of_mem_names {name : String} {keyword : Keyword} (named : name ∈ keyword.names) :
    Words.Spells name name := by
  have plain : ∀ name ∈ keyword.names, name ≠ "" ∧ name.toList.all Words.isPlain := by
    cases keyword <;> decide
  exact Words.spells_plain (plain name named).1 (plain name named).2

end Command.Keyword

/-! ## Commands as they are written -/

/-- With a start there is a count. -/
def Window.Complete (window : Window) : Prop :=
  window.start.isSome → window.count.isSome

namespace Command

inductive Argument where
  | number (number : UInt64)
  | json
  | template (template : String)
deriving DecidableEq, Repr

def Argument.word : Argument → String
  | number value => Decimal.render value.toNat
  | json => "json"
  | template text => text

def Argument.text : Argument → String
  | number value => Decimal.render value.toNat
  | json => "json"
  | template text => Words.quoted text

def windowArguments (window : Window) : List Argument :=
  (window.start.toList ++ window.count.toList).map .number

def arguments : Command → List Argument
  | step | resume | finish | breakpoints | reset | help | quit => []
  | counts json => if json then [.json] else []
  | setBreakpoint offset | clearBreakpoint offset | jump offset => [.number offset]
  | disassemble window | raw window | hex window => windowArguments window
  | info template => template.toList.map .template
  | prompt template => [.template template]

def keyword : Command → Keyword
  | step => .step
  | resume => .resume
  | finish => .finish
  | counts _ => .counts
  | breakpoints => .breakpoints
  | setBreakpoint _ => .setBreakpoint
  | clearBreakpoint _ => .clearBreakpoint
  | jump _ => .jump
  | reset => .reset
  | disassemble _ => .disassemble
  | raw _ => .raw
  | hex _ => .hex
  | info _ => .info
  | prompt _ => .prompt
  | help => .help
  | quit => .quit

def render (command : Command) (name : String) : String :=
  " ".intercalate (name :: command.arguments.map Argument.text)

def window? : Command → Option Window
  | disassemble window | raw window | hex window => some window
  | _ => none

def Complete (command : Command) : Prop :=
  ∀ window ∈ command.window?, window.Complete

/-! ## Reading words -/

theorem isPlain_of_isDigit {character : Char} (digit : Decimal.isDigit character) :
    Words.isPlain character := by
  rw [Words.isPlain_iff, Words.isSeparator]
  refine ⟨?_, ?_, ?_, ?_, ?_⟩
  · rw [Bool.eq_false_iff]
    intro separator
    simp only [Bool.or_eq_true, decide_eq_true_eq] at separator
    rcases separator with (rfl | rfl) | rfl <;> exact absurd digit (by decide)
  all_goals
    rintro rfl
    exact absurd digit (by decide)

theorem spells_render (number : Nat) :
    Words.Spells (Decimal.render number) (Decimal.render number) := by
  apply Words.spells_plain
  · rw [Decimal.render, Ne, ← String.toList_eq_nil_iff, String.toList_ofList]
    exact Decimal.digits_ne_nil number
  · rw [Decimal.render, String.toList_ofList, List.all_eq_true]
    exact fun character member => isPlain_of_isDigit (Decimal.isDigit_of_mem_digits member)

theorem Argument.spells (argument : Argument) : Words.Spells argument.text argument.word := by
  cases argument with
  | number value => exact spells_render value.toNat
  | json => exact Words.spells_plain (by decide) (by decide)
  | template text => exact Words.spells_quoted text

theorem readNumber_render (parameter : Parameter) (number : UInt64) :
    readNumber parameter (Decimal.render number.toNat) = .ok number := by
  rw [readNumber, Decimal.read?_render]

theorem withOffset_render (keyword : Keyword) (command : UInt64 → Command) (offset : UInt64) :
    withOffset keyword command [Decimal.render offset.toNat] = .ok (command offset) := by
  rw [withOffset, readNumber_render]
  rfl

theorem withWindow_windowArguments {window : Window} (complete : window.Complete)
    (keyword : Keyword) (command : Window → Command) :
    withWindow keyword command ((windowArguments window).map Argument.word) =
      .ok (command window) := by
  rcases window with ⟨_ | start, _ | count⟩
  · rfl
  · simp only [windowArguments, Option.toList, List.nil_append, List.map, Argument.word, withWindow,
      readNumber_render]
    rfl
  · cases complete rfl
  · simp only [windowArguments, Option.toList, List.cons_append, List.nil_append, List.map,
      Argument.word, withWindow, readNumber_render]
    rfl

theorem ofKeyword_arguments {command : Command} (complete : command.Complete) :
    ofKeyword command.keyword (command.arguments.map Argument.word) = .ok command := by
  cases command with
  | counts json => cases json <;> rfl
  | setBreakpoint offset => exact withOffset_render .setBreakpoint setBreakpoint offset
  | clearBreakpoint offset => exact withOffset_render .clearBreakpoint clearBreakpoint offset
  | jump target => exact withOffset_render .jump jump target
  | disassemble window | raw window | hex window =>
      exact withWindow_windowArguments (complete window rfl) _ _
  | info template => cases template <;> rfl
  | step | resume | finish | breakpoints | reset | prompt | help | quit => rfl

theorem parse_render {command : Command} (complete : command.Complete) {name : String}
    (named : name ∈ command.keyword.names) : parse (command.render name) = .ok (some command) := by
  have spelled : List.Forall₂ Words.Spells (name :: command.arguments.map Argument.text)
      (name :: command.arguments.map Argument.word) := by
    refine .cons (Keyword.spells_of_mem_names named) ?_
    rw [List.forall₂_map_left_iff, List.forall₂_map_right_iff, List.forall₂_same]
    exact fun argument _ => argument.spells
  rw [parse, render, Words.split_spelled spelled]
  dsimp only
  rw [ofWords, Keyword.ofWord?_eq_some_iff.mpr named]
  dsimp only
  rw [ofKeyword_arguments complete]
  rfl

/-! ## What is read of a line -/

variable {keyword : Keyword} {words : List String} {read : Command}

theorem eq_of_withoutArguments {command : Command}
    (reads : withoutArguments keyword command words = .ok read) : read = command := by
  cases words with
  | nil => exact (Except.ok.inj reads).symm
  | cons word words => cases reads

theorem exists_eq_of_withOffset {command : UInt64 → Command}
    (reads : withOffset keyword command words = .ok read) : ∃ offset, read = command offset := by
  rcases words with _ | ⟨word, _ | ⟨other, words⟩⟩
  · cases reads
  · rcases exists_of_map_eq_ok reads with ⟨offset, _, equal⟩
    exact ⟨offset, equal⟩
  · cases reads

/-- A single number is read as a count, so a start never comes alone. -/
theorem exists_eq_of_withWindow {command : Window → Command}
    (reads : withWindow keyword command words = .ok read) :
    ∃ window : Window, window.Complete ∧ read = command window := by
  rcases words with _ | ⟨first, _ | ⟨second, _ | ⟨other, words⟩⟩⟩
  · exact ⟨{}, nofun, (Except.ok.inj reads).symm⟩
  · rcases exists_of_bind_eq_ok reads with ⟨count, _, equal⟩
    exact ⟨{ count := some count }, fun _ => rfl, (Except.ok.inj equal).symm⟩
  · rcases exists_of_bind_eq_ok reads with ⟨start, _, reads⟩
    rcases exists_of_bind_eq_ok reads with ⟨count, _, equal⟩
    exact ⟨{ start := some start, count := some count }, fun _ => rfl, (Except.ok.inj equal).symm⟩
  · cases reads

theorem complete_of_window {window : Window} (complete : window.Complete)
    (lists : read.window? = some window) : read.Complete := by
  intro listed member
  rw [lists] at member
  rw [← Option.some.inj member]
  exact complete

theorem complete_of_window_eq_none (lists : read.window? = none) : read.Complete := by
  intro listed member
  rw [lists] at member
  cases member

theorem complete_of_ofKeyword (reads : ofKeyword keyword words = .ok read) : read.Complete := by
  cases keyword with
  | disassemble | raw | hex =>
      rcases exists_eq_of_withWindow reads with ⟨window, complete, rfl⟩
      exact complete_of_window complete rfl
  | setBreakpoint | clearBreakpoint | jump =>
      rcases exists_eq_of_withOffset reads with ⟨offset, rfl⟩
      exact complete_of_window_eq_none rfl
  | step | resume | finish | breakpoints | reset | help | quit =>
      cases eq_of_withoutArguments reads
      exact complete_of_window_eq_none rfl
  | counts =>
      dsimp only [ofKeyword] at reads
      split at reads
      · cases reads
        exact complete_of_window_eq_none rfl
      · split at reads <;> cases reads
        exact complete_of_window_eq_none rfl
      · cases reads
  | info | prompt =>
      dsimp only [ofKeyword] at reads
      split at reads <;> cases reads <;> exact complete_of_window_eq_none rfl

theorem complete_of_parse {line : String} (reads : parse line = .ok (some read)) :
    read.Complete := by
  rw [parse] at reads
  cases spelled : Words.split line with
  | none =>
      rw [spelled] at reads
      cases reads
  | some words =>
      rw [spelled] at reads
      rcases words with _ | ⟨name, words⟩
      · cases reads
      · dsimp only [ofWords] at reads
        split at reads
        · rcases exists_of_map_eq_ok reads with ⟨command, reads, equal⟩
          rw [Option.some.inj equal]
          exact complete_of_ofKeyword reads
        · cases reads

/-- What is written for a command is read as that command, under each of its names. The only commands
that this leaves out are not read of any line. -/
theorem parse_render_and_complete :
    (∀ (command : Command) (name : String), command.Complete → name ∈ command.keyword.names →
      parse (command.render name) = .ok (some command)) ∧
    (∀ (line : String) (command : Command), parse line = .ok (some command) → command.Complete) := by
  constructor
  · intro command name complete named
    exact parse_render complete named
  · intro line command reads
    exact complete_of_parse reads

/-- The template holds all that means something to a reader of words, and the start is the largest
word. -/
theorem parse_render_and_complete_of_prompt_and_hex :
    let prompt : Command := .prompt "it's \"\\\" \t\n#\u00e9"
    let hex : Command := .hex { start := some 18446744073709551615, count := some 0 }
    let line := "hex 18446744073709551615 0"
    prompt.render "prompt" = "prompt 'it'\\''s \"\\\" \t\n#\u00e9'" ∧
      (prompt.Complete ∧ "prompt" ∈ prompt.keyword.names ∧
        parse (prompt.render "prompt") = .ok (some prompt)) ∧
      (parse line = .ok (some hex) ∧ hex.Complete) := by
  intro prompt hex line
  have complete : prompt.Complete := complete_of_window_eq_none rfl
  have named : "prompt" ∈ prompt.keyword.names := by decide
  have reads : parse line = .ok (some hex) := by
    have words : Words.split line = some ["hex", "18446744073709551615", "0"] := by decide +kernel
    rw [parse, words]
    rfl
  exact ⟨by decide +kernel,
    ⟨complete, named, parse_render_and_complete.1 prompt "prompt" complete named⟩,
    reads, parse_render_and_complete.2 line hex reads⟩

end Command

end OpcodeTrace
