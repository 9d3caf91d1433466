import OpcodeTrace.Proofs.Command.Rendering
import OpcodeTrace.Proofs.Text.Numeral

/-! A grammar of command lines that says which form of a keyword a line has, or else for which of
several reasons it is rejected. -/

namespace OpcodeTrace.Command

/-- The parameters of the arguments of a keyword. A template, which any word is, has none. -/
abbrev Form := List (Option Parameter)

def Keyword.forms : Keyword → List Form
  | .step | .resume | .finish | .breakpoints | .reset | .help | .quit => [[]]
  | .setBreakpoint | .clearBreakpoint | .jump => [[some .ip]]
  | .disassemble | .raw | .hex => [[], [some .count], [some .ip, some .count]]
  | .counts => [[], [some .format]]
  | .info => [[], [none]]
  | .prompt => [[none]]

/-- The word suits the parameter and stands for the argument. -/
inductive Suits : Option Parameter → String → Argument → Prop
  | number {parameter : Parameter} {word : String} {value : Nat} (numeric : parameter ≠ .format)
      (numeral : Decimal.Numeral word value) (fits : value < UInt64.size) :
      Suits (some parameter) word (.number (.ofNat value))
  | json : Suits (some .format) "json" .json
  | template (word : String) : Suits none word (.template word)

/-- What the words stand for, taken from left to right, or the first one that does not suit its
parameter. There are as many words as parameters. -/
inductive Reads : Form → List String → Except Rejection (List Argument) → Prop
  | done : Reads [] [] (.ok [])
  | suited {parameter : Option Parameter} {form : Form} {word : String} {words : List String}
      {argument : Argument} {result : Except Rejection (List Argument)}
      (suits : Suits parameter word argument) (later : Reads form words result) :
      Reads (parameter :: form) (word :: words) (result.map (argument :: ·))
  | malformed {parameter : Parameter} {form : Form} {word : String} {words : List String}
      (unsuited : ∀ argument, ¬ Suits (some parameter) word argument)
      (counted : form.length = words.length) :
      Reads (some parameter :: form) (word :: words) (.error (.malformed parameter word))

inductive Judged (keyword : Keyword) (words : List String) : Except Rejection Command → Prop
  | miscounted (uncounted : ∀ form ∈ keyword.forms, form.length ≠ words.length) :
      Judged keyword words (.error (.arity keyword words.length))
  | malformed {form : Form} {rejection : Rejection} (taken : form ∈ keyword.forms)
      (reads : Reads form words (.error rejection)) : Judged keyword words (.error rejection)
  | understood {form : Form} {command : Command} (taken : form ∈ keyword.forms)
      (reads : Reads form words (.ok command.arguments)) (named : command.keyword = keyword)
      (complete : command.Complete) : Judged keyword words (.ok command)

inductive Ruled (line : String) : Except Rejection (Option Command) → Prop
  | unclosed (splits : Words.split line = none) : Ruled line (.error .unclosedQuote)
  | empty (splits : Words.split line = some []) : Ruled line (.ok none)
  | unknown {name : String} {words : List String} (splits : Words.split line = some (name :: words))
      (unnamed : ∀ keyword : Keyword, name ∉ keyword.names) : Ruled line (.error (.unknown name))
  | known {name : String} {words : List String} {keyword : Keyword}
      {result : Except Rejection Command} (splits : Words.split line = some (name :: words))
      (named : name ∈ keyword.names) (judged : Judged keyword words result) :
      Ruled line (result.map some)

/-! ## The grammar has one verdict -/

theorem Suits.unique {parameter : Option Parameter} {word : String} {left right : Argument}
    (one : Suits parameter word left) (other : Suits parameter word right) : left = right := by
  cases one with
  | number numeric numeral fits =>
      cases other with
      | number _ otherNumeral _ => rw [numeral.unique otherNumeral]
      | json => exact absurd rfl numeric
  | json =>
      cases other with
      | number numeric _ _ => exact absurd rfl numeric
      | json => rfl
  | template =>
      cases other
      rfl

theorem Reads.length_eq {form : Form} {words : List String}
    {result : Except Rejection (List Argument)} (reads : Reads form words result) :
    form.length = words.length := by
  induction reads with
  | done => rfl
  | suited _ _ induction => exact congrArg Nat.succ induction
  | malformed _ counted => exact congrArg Nat.succ counted

theorem Reads.unique {form : Form} {words : List String}
    {left right : Except Rejection (List Argument)} (one : Reads form words left)
    (other : Reads form words right) : left = right := by
  induction one generalizing right with
  | done =>
      cases other
      rfl
  | suited suits _ induction =>
      cases other with
      | suited otherSuits otherLater => rw [suits.unique otherSuits, induction otherLater]
      | malformed unsuited => exact absurd suits (unsuited _)
  | malformed unsuited =>
      cases other with
      | suited suits => exact absurd suits (unsuited _)
      | malformed => rfl

theorem Reads.unique_of_forms {keyword : Keyword} {left right : Form} {words : List String}
    {leftResult rightResult : Except Rejection (List Argument)} (leftTaken : left ∈ keyword.forms)
    (rightTaken : right ∈ keyword.forms) (one : Reads left words leftResult)
    (other : Reads right words rightResult) : leftResult = rightResult := by
  have unique : ∀ left ∈ keyword.forms, ∀ right ∈ keyword.forms,
      left.length = right.length → left = right := by
    cases keyword <;> decide
  have same := unique left leftTaken right rightTaken (one.length_eq.trans other.length_eq.symm)
  subst same
  exact one.unique other

theorem eq_of_arguments {left right : Command} (leftComplete : left.Complete)
    (rightComplete : right.Complete) (named : left.keyword = right.keyword)
    (same : left.arguments = right.arguments) : left = right := by
  have reads := ofKeyword_arguments leftComplete
  rw [named, same, ofKeyword_arguments rightComplete] at reads
  exact (Except.ok.inj reads).symm

theorem Judged.unique {keyword : Keyword} {words : List String}
    {left right : Except Rejection Command} (one : Judged keyword words left)
    (other : Judged keyword words right) : left = right := by
  cases one with
  | miscounted uncounted =>
      cases other with
      | miscounted => rfl
      | malformed taken reads => exact absurd reads.length_eq (uncounted _ taken)
      | understood taken reads => exact absurd reads.length_eq (uncounted _ taken)
  | malformed taken reads =>
      cases other with
      | miscounted uncounted => exact absurd reads.length_eq (uncounted _ taken)
      | malformed otherTaken otherReads =>
          have same := reads.unique_of_forms taken otherTaken otherReads
          rw [Except.error.inj same]
      | understood otherTaken otherReads =>
          have same := reads.unique_of_forms taken otherTaken otherReads
          cases same
  | understood taken reads named complete =>
      cases other with
      | miscounted uncounted => exact absurd reads.length_eq (uncounted _ taken)
      | malformed otherTaken otherReads =>
          have same := reads.unique_of_forms taken otherTaken otherReads
          cases same
      | understood otherTaken otherReads otherNamed otherComplete =>
          have same := reads.unique_of_forms taken otherTaken otherReads
          rw [eq_of_arguments complete otherComplete (named.trans otherNamed.symm)
            (Except.ok.inj same)]

/-! ## Reading follows the grammar -/

section Reading

variable {keyword : Keyword} {words : List String}

theorem readNumber_cases (parameter : Parameter) (numeric : parameter ≠ .format) (word : String) :
    (∃ number, readNumber parameter word = .ok number ∧
      Suits (some parameter) word (.number number)) ∨
    (readNumber parameter word = .error (.malformed parameter word) ∧
      ∀ argument, ¬ Suits (some parameter) word argument) := by
  rw [readNumber]
  cases reads : Decimal.read? word with
  | some number =>
      rcases Decimal.read?_eq_some_iff.mp reads with ⟨value, numeral, fits, equal⟩
      exact .inl ⟨number, rfl, equal ▸ .number numeric numeral fits⟩
  | none =>
      refine .inr ⟨rfl, ?_⟩
      intro argument suits
      cases suits with
      | number _ numeral fits =>
          have found := Decimal.read?_eq_some_iff.mpr ⟨_, numeral, fits, rfl⟩
          rw [reads] at found
          cases found
      | json => exact numeric rfl

theorem judged_withoutArguments {command : Command} (forms : keyword.forms = [[]])
    (named : command.keyword = keyword) (bare : command.arguments = [])
    (complete : command.Complete) :
    Judged keyword words (withoutArguments keyword command words) := by
  cases words with
  | nil =>
      have taken : [] ∈ keyword.forms := by simp [forms]
      exact .understood taken (bare ▸ .done) named complete
  | cons word words => exact .miscounted (by simp [forms])

theorem judged_withOffset {command : UInt64 → Command} (forms : keyword.forms = [[some .ip]])
    (named : ∀ offset, (command offset).keyword = keyword)
    (given : ∀ offset, (command offset).arguments = [.number offset])
    (complete : ∀ offset, (command offset).Complete) :
    Judged keyword words (withOffset keyword command words) := by
  rcases words with _ | ⟨word, _ | ⟨other, words⟩⟩
  · exact .miscounted (by simp [forms])
  · have taken : [some .ip] ∈ keyword.forms := by simp [forms]
    rcases readNumber_cases .ip (by decide) word with
      ⟨offset, reads, suits⟩ | ⟨fails, unsuited⟩
    · rw [withOffset, reads]
      exact .understood taken (given offset ▸ .suited suits .done) (named offset) (complete offset)
    · rw [withOffset, fails]
      exact .malformed taken (.malformed unsuited rfl)
  · exact .miscounted (by simp [forms])

theorem judged_withWindow {command : Window → Command}
    (forms : keyword.forms = [[], [some .count], [some .ip, some .count]])
    (named : ∀ window, (command window).keyword = keyword)
    (given : ∀ window, (command window).arguments = windowArguments window)
    (complete : ∀ window : Window, window.Complete → (command window).Complete) :
    Judged keyword words (withWindow keyword command words) := by
  rcases words with _ | ⟨first, _ | ⟨second, _ | ⟨third, words⟩⟩⟩
  · have taken : [] ∈ keyword.forms := by simp [forms]
    exact .understood taken (given {} ▸ .done) (named {}) (complete {} nofun)
  · have taken : [some .count] ∈ keyword.forms := by simp [forms]
    rcases readNumber_cases .count (by decide) first with
      ⟨count, reads, suits⟩ | ⟨fails, unsuited⟩
    · have suited : Reads [some .count] [first]
          (.ok (command { count := some count }).arguments) := by
        rw [given]
        exact .suited suits .done
      rw [withWindow, reads]
      exact .understood taken suited (named _) (complete _ fun _ => rfl)
    · rw [withWindow, fails]
      exact .malformed taken (.malformed unsuited rfl)
  · have taken : [some .ip, some .count] ∈ keyword.forms := by simp [forms]
    rcases readNumber_cases .ip (by decide) first with
      ⟨start, reads, startSuits⟩ | ⟨fails, unsuited⟩
    · rcases readNumber_cases .count (by decide) second with
        ⟨count, countReads, countSuits⟩ | ⟨countFails, unsuited⟩
      · have suited : Reads [some .ip, some .count] [first, second]
            (.ok (command { start := some start, count := some count }).arguments) := by
          rw [given]
          exact .suited startSuits (.suited countSuits .done)
        rw [withWindow, reads, countReads]
        exact .understood taken suited (named _) (complete _ fun _ => rfl)
      · rw [withWindow, reads, countFails]
        exact .malformed taken (.suited startSuits (.malformed unsuited rfl))
    · rw [withWindow, fails]
      exact .malformed taken (.malformed unsuited rfl)
  · exact .miscounted (by simp [forms])

theorem judged_counts : Judged .counts words (ofKeyword .counts words) := by
  rcases words with _ | ⟨format, _ | ⟨other, words⟩⟩
  · have taken : [] ∈ Keyword.counts.forms := by decide
    exact .understood taken .done rfl (complete_of_window_eq_none rfl)
  · have taken : [some .format] ∈ Keyword.counts.forms := by decide
    dsimp only [ofKeyword]
    split
    · next known =>
      subst known
      exact .understood taken (.suited .json .done) rfl (complete_of_window_eq_none rfl)
    · next unknown =>
      refine .malformed taken (.malformed (fun argument suits => ?_) rfl)
      cases suits with
      | number numeric => exact numeric rfl
      | json => exact unknown rfl
  · exact .miscounted (by simp [Keyword.forms])

theorem judged_info : Judged .info words (ofKeyword .info words) := by
  rcases words with _ | ⟨template, _ | ⟨other, words⟩⟩
  · have taken : [] ∈ Keyword.info.forms := by decide
    exact .understood taken .done rfl (complete_of_window_eq_none rfl)
  · have taken : [none] ∈ Keyword.info.forms := by decide
    exact .understood taken (.suited (.template template) .done) rfl (complete_of_window_eq_none rfl)
  · exact .miscounted (by simp [Keyword.forms])

theorem judged_prompt : Judged .prompt words (ofKeyword .prompt words) := by
  rcases words with _ | ⟨template, _ | ⟨other, words⟩⟩
  · exact .miscounted (by simp [Keyword.forms])
  · have taken : [none] ∈ Keyword.prompt.forms := by decide
    exact .understood taken (.suited (.template template) .done) rfl (complete_of_window_eq_none rfl)
  · exact .miscounted (by simp [Keyword.forms])

end Reading

theorem judged_ofKeyword (keyword : Keyword) (words : List String) :
    Judged keyword words (ofKeyword keyword words) := by
  cases keyword with
  | step | resume | finish | breakpoints | reset | help | quit =>
      exact judged_withoutArguments rfl rfl rfl (complete_of_window_eq_none rfl)
  | setBreakpoint | clearBreakpoint | jump =>
      exact judged_withOffset rfl (fun _ => rfl) (fun _ => rfl)
        (fun _ => complete_of_window_eq_none rfl)
  | disassemble | raw | hex =>
      exact judged_withWindow rfl (fun _ => rfl) (fun _ => rfl)
        (fun _ complete => complete_of_window complete rfl)
  | counts => exact judged_counts
  | info => exact judged_info
  | prompt => exact judged_prompt

theorem ruled_parse (line : String) : Ruled line (parse line) := by
  rw [parse]
  cases splits : Words.split line with
  | none => exact .unclosed splits
  | some words =>
      cases words with
      | nil => exact .empty splits
      | cons name words =>
          dsimp only [ofWords]
          cases reads : Keyword.ofWord? name with
          | some keyword =>
              have named := Keyword.ofWord?_eq_some_iff.mp reads
              exact .known splits named (judged_ofKeyword keyword words)
          | none =>
              refine .unknown splits fun keyword named => ?_
              rw [Keyword.ofWord?_eq_some_iff.mpr named] at reads
              cases reads

theorem parse_of_ruled {line : String} {result : Except Rejection (Option Command)}
    (ruled : Ruled line result) : parse line = result := by
  cases ruled with
  | unclosed splits => rw [parse, splits]
  | empty splits =>
      rw [parse, splits]
      rfl
  | @unknown name words splits unnamed =>
      have unread : Keyword.ofWord? name = none := by
        rw [Option.eq_none_iff_forall_ne_some]
        exact fun keyword reads => unnamed keyword (Keyword.ofWord?_eq_some_iff.mp reads)
      rw [parse, splits]
      dsimp only [ofWords]
      rw [unread]
  | @known name words keyword result splits named judged =>
      rw [parse, splits]
      dsimp only [ofWords]
      rw [Keyword.ofWord?_eq_some_iff.mpr named]
      exact congrArg (Except.map some) ((judged_ofKeyword keyword words).unique judged)

/-- The long name of a keyword, by which a rejection calls it, is its longest name. Only a listing has a
name that can't be typed. -/
theorem longName_longest (keyword : Keyword) :
    (keyword.longName ∈ keyword.names ∧
      ∀ name ∈ keyword.names, name.length ≤ keyword.longName.length) ∨
    (keyword = .disassemble ∧ keyword.longName = "disassemble") := by
  cases keyword <;> decide

/-- A line is read as the grammar says, and as nothing else. The number of an argument does not depend on
zeros in front of its digits or on a plus sign, and a rejection calls a keyword by its long name. -/
theorem parse_ruled :
    (∀ line result, parse line = result ↔ Ruled line result) ∧
    (∀ digits number, Decimal.Spelled digits number → ∀ zeros,
      Decimal.Numeral (String.ofList (List.replicate zeros '0' ++ digits)) number ∧
        Decimal.Numeral (String.ofList ('+' :: List.replicate zeros '0' ++ digits)) number) ∧
    (∀ keyword : Keyword,
      (keyword.longName ∈ keyword.names ∧
        ∀ name ∈ keyword.names, name.length ≤ keyword.longName.length) ∨
      (keyword = .disassemble ∧ keyword.longName = "disassemble")) := by
  refine ⟨?_, ?_, longName_longest⟩
  · intro line result
    constructor
    · intro read
      rw [← read]
      exact ruled_parse line
    · exact parse_of_ruled
  · intro digits number spelled zeros
    exact spelled.numeral zeros

/-- The start is a numeral, with a sign and zeros, and the count is the first number that is too large.
With an argument more, neither is looked at. -/
theorem parse_ruled_of_large_count :
    let line := "hex +007 18446744073709551616"
    let longer := "hex +007 18446744073709551616 x"
    Ruled line (.error (.malformed .count "18446744073709551616")) ∧
      Ruled longer (.error (.arity .hex 3)) ∧
      Decimal.Spelled ['7'] 7 ∧ Decimal.Numeral "007" 7 ∧ Decimal.Numeral "+007" 7 := by
  intro line longer
  have words : Words.split line = some ["hex", "+007", "18446744073709551616"] := by
    decide +kernel
  have moreWords : Words.split longer = some ["hex", "+007", "18446744073709551616", "x"] := by
    decide +kernel
  have rejects : parse line = .error (.malformed .count "18446744073709551616") := by
    rw [parse, words]
    rfl
  have miscounts : parse longer = .error (.arity .hex 3) := by
    rw [parse, moreWords]
    rfl
  have seven : Decimal.Spelled ['7'] 7 := ⟨by simp, by simp, rfl⟩
  have numerals := parse_ruled.2.1 ['7'] 7 seven 2
  exact ⟨(parse_ruled.1 line _).mp rejects, (parse_ruled.1 longer _).mp miscounts, seven,
    numerals.1, numerals.2⟩

end OpcodeTrace.Command
