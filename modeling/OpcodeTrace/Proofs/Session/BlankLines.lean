import Mathlib.Data.List.TakeWhile
import OpcodeTrace.Console.Bounded
import OpcodeTrace.Proofs.Session.Script

/-! In a script, a blank line is another way to write the line before it. -/

namespace OpcodeTrace

namespace Lines

def isBlank (line : List UInt8) : Bool :=
  (text? line).any Blank.isBlankText

/-- Writes the nearest line before it that is not blank in place of each blank line. `previous` is
that line for the first one. -/
def repeatLines : (previous : Option (List UInt8)) → List (List UInt8) → List (List UInt8)
  | _, [] => []
  | previous, line :: lines =>
      if isBlank line then previous.getD line :: repeatLines previous lines
      else line :: repeatLines (some line) lines

def spellOut (input : List UInt8) : List UInt8 :=
  (repeatLines none (split input)).flatten

theorem isBlank_iff {line : List UInt8} :
    isBlank line ↔ ∃ text, text? line = some text ∧ Blank.isBlankText text := by
  simp [isBlank, Option.any_eq_true]

theorem parted_repeatLines {previous : Option (List UInt8)} {lines : List (List UInt8)}
    (parted : Parted lines) (complete : ∀ line, previous = some line → Whole line ∧ Ended line) :
    Parted (repeatLines previous lines) := by
  induction parted generalizing previous with
  | nil => exact .nil
  | @last line whole =>
      rw [repeatLines]
      split
      · cases previous with
        | none => exact .last whole
        | some before => exact .last (complete before rfl).1
      · exact .last whole
  | @cons line lines whole ended rest induction =>
      rw [repeatLines]
      split
      · cases previous with
        | none => exact .cons whole ended (induction complete)
        | some before =>
            exact .cons (complete before rfl).1 (complete before rfl).2 (induction complete)
      · apply Parted.cons whole ended
        apply induction
        rintro line' ⟨⟩
        exact ⟨whole, ended⟩

theorem split_spellOut (input : List UInt8) :
    split (spellOut input) = repeatLines none (split input) := by
  apply split_flatten
  apply parted_repeatLines (parted_split input)
  rintro line ⟨⟩

end Lines

namespace Session

variable {State : Type} [Console State]

def Remembers (session : Session) (line : List UInt8) : Prop :=
  ∃ text, Lines.text? line = some text ∧ session.lastLine = some text

/-! ## A blank line and the line it repeats -/

theorem runLine_lastLine_of_blank {session : Session} {line : List UInt8}
    (blank : Lines.isBlank line) (console : State) :
    (session.runLine console line).session.lastLine = session.lastLine := by
  rcases Lines.isBlank_iff.mp blank with ⟨text, reads, blankText⟩
  rw [session.runLine_session_of_text console reads, executeLine_lastLine,
    session.lineMeant?_of_blank blankText]

theorem remembers_of_goesOn {session : Session} {line : List UInt8} {console : State}
    (filled : ¬ Lines.isBlank line) (goesOn : (session.runLine console line).goesOn) :
    (session.runLine console line).session.Remembers line := by
  rcases text_of_goesOn goesOn with ⟨text, reads⟩
  have filledText : ¬ Blank.isBlankText text := fun blankText =>
    filled (Lines.isBlank_iff.mpr ⟨text, reads, blankText⟩)
  refine ⟨text, reads, ?_⟩
  rw [session.runLine_session_of_text console reads, executeLine_lastLine,
    session.lineMeant?_of_not_blank filledText]

theorem runLine_of_remembers {session : Session} {line before : List UInt8}
    (blank : Lines.isBlank line) (remembers : session.Remembers before) (console : State) :
    session.runLine console before = session.runLine console line := by
  rcases Lines.isBlank_iff.mp blank with ⟨text, reads, blankText⟩
  rcases remembers with ⟨last, readsLast, remembered⟩
  rw [session.runLine_of_text console reads, session.runLine_of_text console readsLast]
  congr 1
  apply executeLine_congr
  rw [lineMeant?_of_lastLine remembered, session.lineMeant?_of_blank blankText, remembered]

theorem runLines_repeatLines {session : Session} {previous : Option (List UInt8)}
    (remembers : ∀ before, previous = some before → session.Remembers before)
    (console : State) (lines : List (List UInt8)) :
    session.runLines console (Lines.repeatLines previous lines) =
      session.runLines console lines := by
  induction lines generalizing session console previous with
  | nil => rfl
  | cons line lines induction =>
      rw [Lines.repeatLines]
      by_cases blank : Lines.isBlank line
      -- A blank line leaves alone what is remembered, and any other line is remembered itself.
      · have written : session.runLine console (previous.getD line) =
            session.runLine console line := by
          cases previous with
          | none => rfl
          | some before => exact runLine_of_remembers blank (remembers before rfl) console
        rw [if_pos blank, runLines_cons, runLines_cons, written]
        apply Outcome.andThen_congr
        intro _
        apply induction
        intro before isPrevious
        rcases remembers before isPrevious with ⟨text, reads, remembered⟩
        exact ⟨text, reads, (runLine_lastLine_of_blank blank console).trans remembered⟩
      · rw [if_neg blank, runLines_cons, runLines_cons]
        apply Outcome.andThen_congr
        intro goesOn
        apply induction
        rintro before ⟨⟩
        exact remembers_of_goesOn blank goesOn

/-! ## Blank lines before all others -/

/-- Shows the prompt so many times, up to a failure. -/
def showPrompts (session : Session) : Nat → State → State × Option Failure
  | 0, console => (console, none)
  | count + 1, console =>
      match session.showPrompt console with
      | (console, none) => session.showPrompts count console
      | (console, some failure) => (console, some failure)

def runLinesAfter (session : Session) (shown : State × Option Failure)
    (lines : List (List UInt8)) : Outcome State :=
  match shown with
  | (console, none) => session.runLines console lines
  | (console, some failure) => { session, console, failure := some failure }

theorem runLine_of_nothing {session : Session} {line : List UInt8} (blank : Lines.isBlank line)
    (nothing : session.lastLine = none) (running : session.running) (console : State) :
    session.runLine console line =
      { session
        console := (session.showPrompt console).1
        failure := (session.showPrompt console).2 } := by
  rcases Lines.isBlank_iff.mp blank with ⟨text, reads, blankText⟩
  have means := (session.lineMeant?_of_blank blankText).trans nothing
  rw [session.runLine_of_text console reads, executeLine_of_lineMeant_none means,
    Outcome.prompted_of_goesOn ((Outcome.goesOn_iff _).mpr ⟨rfl, running⟩)]

theorem runLines_of_nothing {session : Session} (nothing : session.lastLine = none)
    (running : session.running) {blanks : List (List UInt8)}
    (blank : ∀ line ∈ blanks, Lines.isBlank line) (console : State)
    (lines : List (List UInt8)) :
    session.runLines console (blanks ++ lines) =
      session.runLinesAfter (session.showPrompts blanks.length console) lines := by
  induction blanks generalizing console with
  | nil => rfl
  | cons line blanks induction =>
      rw [List.cons_append, runLines_cons,
        runLine_of_nothing (blank line (List.mem_cons_self ..)) nothing running,
        List.length_cons, showPrompts]
      rcases session.showPrompt console with ⟨next, _ | failure⟩
      · rw [Outcome.andThen_of_goesOn ((Outcome.goesOn_iff _).mpr ⟨rfl, running⟩)]
        exact induction (fun item member => blank item (List.mem_cons_of_mem _ member)) next
      · rw [Outcome.andThen_of_ended (by simp [Outcome.goesOn])]
        rfl

/-- Writing out the repetitions of an input changes nothing about a run. While nothing is remembered,
each blank line at its beginning shows the prompt once more, and that is all. -/
theorem run_spellOut (session : Session) (input : List UInt8) (console : State) :
    session.run (Lines.spellOut input) console = session.run input console ∧
    (session.lastLine = none →
      let blanks := (Lines.split input).takeWhile Lines.isBlank
      let lines := (Lines.split input).dropWhile Lines.isBlank
      let started := { session with running := true }
      session.run input console =
        started.runLinesAfter (started.showPrompts (blanks.length + 1) console) lines) := by
  constructor
  · rw [run_eq, run_eq, Lines.split_spellOut]
    apply Outcome.andThen_congr
    intro _
    apply runLines_repeatLines
    rintro before ⟨⟩
  · intro nothing blanks lines started
    have blank : ∀ line ∈ blanks, Lines.isBlank line := fun _ => List.mem_takeWhile_imp
    have parts : Lines.split input = blanks ++ lines := List.takeWhile_append_dropWhile.symm
    have begins : session.start console =
        { session := started
          console := (started.showPrompt console).1
          failure := (started.showPrompt console).2 } := rfl
    rw [run_eq, begins, parts, showPrompts]
    rcases started.showPrompt console with ⟨next, _ | failure⟩
    · have goesOn : ({ session := started, console := next, failure := none } :
          Outcome State).goesOn := rfl
      have unremembered : started.lastLine = none := nothing
      have prompts := runLines_of_nothing unremembered rfl blank next lines
      exact (Outcome.andThen_of_goesOn goesOn _).trans prompts
    · have ended : ¬ ({ session := started, console := next, failure := some failure } :
          Outcome State).goesOn := by simp [Outcome.goesOn]
      exact Outcome.andThen_of_ended ended _

/-- Blank lines of several kinds stand here before the first command, behind it, behind a comment and
behind a word that is no command. -/
theorem run_spellOut_of_mixed_script :
    let session := Session.new (Trace.ofBytes #[0, 65, 72]) {}
    let console : BoundedConsole := {}
    let input := "\n \t\ns\n\n# note\n\r\nbogus\n ".toUTF8.toList
    Lines.spellOut input = "\n \t\ns\ns\n# note\n# note\nbogus\nbogus\n".toUTF8.toList ∧
      session.lastLine = none ∧
      session.run (Lines.spellOut input) console = session.run input console ∧
      (let blanks := (Lines.split input).takeWhile Lines.isBlank
      let lines := (Lines.split input).dropWhile Lines.isBlank
      let started := { session with running := true }
      session.run input console =
        started.runLinesAfter (started.showPrompts (blanks.length + 1) console) lines) := by
  intro session console input
  have written : Lines.spellOut input =
      "\n \t\ns\ns\n# note\n# note\nbogus\nbogus\n".toUTF8.toList := by decide +kernel
  have nothing : session.lastLine = none := rfl
  have same := session.run_spellOut input console
  exact ⟨written, nothing, same.1, same.2 nothing⟩

end Session

end OpcodeTrace
