import OpcodeTrace.Console.Bounded
import OpcodeTrace.Proofs.Session.Line

/-! A line without a command is documented to repeat the line before it. The session tells a line
to repeat by its blanks, though, while the reader of commands skips comments and dropped newlines
too. -/

namespace OpcodeTrace.Session

variable {State : Type} [Console State]

/-- The line has the effect of the remembered one, which stays remembered. Without a remembered line
it has no effect. -/
def Repeats (session : Session) (line : String) (console : State) : Prop :=
  match session.lastLine with
  | none => session.executeLine line console = { session, console, failure := none }
  | some last =>
      session.executeLine line console = session.executeLine last console ∧
        (session.executeLine line console).session.lastLine = some last

theorem repeats_iff_of_lastLine_none {session : Session} (nothing : session.lastLine = none)
    (line : String) (console : State) :
    session.Repeats line console ↔
      session.executeLine line console = { session, console, failure := none } := by
  rw [Repeats, nothing]

theorem repeats_iff_of_lastLine_some {session : Session} {last : String}
    (remembers : session.lastLine = some last) (line : String) (console : State) :
    session.Repeats line console ↔
      session.executeLine line console = session.executeLine last console ∧
        (session.executeLine line console).session.lastLine = some last := by
  rw [Repeats, remembers]

theorem repeats_of_lineMeant {session : Session} {line : String}
    (means : session.lineMeant? line = session.lastLine) (console : State) :
    session.Repeats line console := by
  cases remembers : session.lastLine with
  | none =>
      rw [repeats_iff_of_lastLine_none remembers]
      exact executeLine_of_lineMeant_none (means.trans remembers) console
  | some last =>
      rw [repeats_iff_of_lastLine_some remembers, executeLine_lastLine]
      refine ⟨executeLine_congr ?_ console, means.trans remembers⟩
      rw [means, remembers, lineMeant?_of_lastLine remembers]

theorem lastLine_of_repeats {session : Session} {line : String} {console : State}
    (repeated : session.Repeats line console) :
    (session.executeLine line console).session.lastLine = session.lastLine := by
  cases remembers : session.lastLine with
  | none =>
      rw [repeats_iff_of_lastLine_none remembers] at repeated
      rw [repeated, remembers]
  | some last =>
      rw [repeats_iff_of_lastLine_some remembers] at repeated
      exact repeated.2

theorem repeats_iff_lineMeant (session : Session) (line : String) (console : State) :
    session.Repeats line console ↔ session.lineMeant? line = session.lastLine := by
  constructor
  · intro repeated
    rw [← session.executeLine_lastLine line console, lastLine_of_repeats repeated]
  · intro means
    exact repeats_of_lineMeant means console

theorem lineMeant?_eq_lastLine_iff (session : Session) (line : String) :
    session.lineMeant? line = session.lastLine ↔
      Blank.isBlankText line ∨ session.lastLine = some line := by
  by_cases blank : Blank.isBlankText line
  · simp [session.lineMeant?_of_blank blank, blank]
  · simp [session.lineMeant?_of_not_blank blank, blank, eq_comm]

private theorem parse_note : Command.parse "# note" = .ok none := by
  have empty : Words.split "# note" = some [] := by decide +kernel
  rw [Command.parse, empty]
  rfl

/-- A line without a command repeats the remembered one exactly if it is blank or the remembered line
itself. If it is not blank, it does nothing but being remembered. -/
theorem repeats_iff (session : Session) {line : String} (bare : Command.parse line = .ok none)
    (console : State) :
    (session.Repeats line console ↔
      Blank.isBlankText line ∨ session.lastLine = some line) ∧
    (¬ Blank.isBlankText line →
      session.executeLine line console =
        { session := { session with lastLine := some line }, console, failure := none }) := by
  constructor
  · rw [repeats_iff_lineMeant, lineMeant?_eq_lastLine_iff]
  · intro filled
    rw [executeLine_of_lineMeant (session.lineMeant?_of_not_blank filled), dispatch, bare]

/-- The comment is not blank, and it isn't the line that the session remembers. -/
theorem repeats_iff_of_comment :
    let session : Session :=
      { Session.new (Trace.ofBytes #[0, 0, 0]) {} with lastLine := some "s" }
    let console : BoundedConsole := {}
    Command.parse "# note" = .ok none ∧ ¬ Blank.isBlankText "# note" ∧
      (session.Repeats "# note" console ↔
        Blank.isBlankText "# note" ∨ session.lastLine = some "# note") ∧
      session.executeLine "# note" console =
        { session := { session with lastLine := some "# note" }, console, failure := none } := by
  intro session console
  have filled : ¬ Blank.isBlankText "# note" := by decide +kernel
  have settled := session.repeats_iff parse_note console
  exact ⟨parse_note, filled, settled.1, settled.2 filled⟩

theorem comment_is_no_repetition :
    let stepped := (Session.new (Trace.ofBytes #[0, 0, 0]) {}).executeLine "s"
      ({} : BoundedConsole)
    Command.parse "# note" = .ok none ∧ stepped.session.lastLine = some "s" ∧
      ¬ stepped.session.Repeats "# note" stepped.console ∧
      (stepped.session.executeLine "# note" stepped.console).session.reader.ip = 1 ∧
      (stepped.session.executeLine "s" stepped.console).session.reader.ip = 2 := by
  intro stepped
  have remembers : stepped.session.lastLine = some "s" := by decide +kernel
  refine ⟨parse_note, remembers, ?_, by decide +kernel, by decide +kernel⟩
  rw [repeats_iff_lineMeant, lineMeant?_eq_lastLine_iff, remembers]
  decide +kernel

end OpcodeTrace.Session
