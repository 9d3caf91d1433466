import OpcodeTrace.Proofs.Session.Line
import OpcodeTrace.Proofs.Text.Lines

/-! Runs of several lines, one after another. The end of the input is no line. -/

namespace OpcodeTrace.Session

variable {State : Type}

def Outcome.goesOn (outcome : Outcome State) : Bool :=
  outcome.failure.isNone && outcome.session.running

theorem Outcome.goesOn_iff (outcome : Outcome State) :
    outcome.goesOn ↔ outcome.failure = none ∧ outcome.session.running := by
  simp [goesOn]

/-! ## Going on -/

def Outcome.andThen (outcome : Outcome State) (next : Session → State → Outcome State) :
    Outcome State :=
  if outcome.goesOn then next outcome.session outcome.console else outcome

namespace Outcome

variable {outcome : Outcome State} {first second : Session → State → Outcome State}

theorem andThen_of_goesOn (goesOn : outcome.goesOn) (next : Session → State → Outcome State) :
    outcome.andThen next = next outcome.session outcome.console :=
  if_pos goesOn

theorem andThen_of_ended (ended : ¬ outcome.goesOn) (next : Session → State → Outcome State) :
    outcome.andThen next = outcome :=
  if_neg ended

theorem andThen_andThen (outcome : Outcome State) (first second : Session → State → Outcome State) :
    (outcome.andThen first).andThen second =
      outcome.andThen fun session console => (first session console).andThen second := by
  by_cases goesOn : outcome.goesOn
  · rw [andThen_of_goesOn goesOn, andThen_of_goesOn goesOn]
  · rw [andThen_of_ended goesOn, andThen_of_ended goesOn, andThen_of_ended goesOn]

theorem andThen_congr (same : outcome.goesOn →
    first outcome.session outcome.console = second outcome.session outcome.console) :
    outcome.andThen first = outcome.andThen second := by
  by_cases goesOn : outcome.goesOn
  · rw [andThen_of_goesOn goesOn, andThen_of_goesOn goesOn, same goesOn]
  · rw [andThen_of_ended goesOn, andThen_of_ended goesOn]

/-- Ends the session at the end of its input. -/
def closed (outcome : Outcome State) : Outcome State :=
  outcome.andThen fun session console =>
    { session := { session with running := false }, console, failure := none }

theorem closed_andThen (outcome : Outcome State) (next : Session → State → Outcome State) :
    (outcome.andThen next).closed =
      outcome.andThen fun session console => (next session console).closed :=
  outcome.andThen_andThen next _

@[simp] theorem closed_failure (outcome : Outcome State) :
    outcome.closed.failure = outcome.failure := by
  by_cases goesOn : outcome.goesOn
  · rw [closed, andThen_of_goesOn goesOn, ((goesOn_iff _).mp goesOn).1]
  · rw [closed, andThen_of_ended goesOn]

@[simp] theorem closed_console (outcome : Outcome State) :
    outcome.closed.console = outcome.console := by
  rw [closed, andThen]
  split <;> rfl

end Outcome

variable [Console State]

def Outcome.prompted (outcome : Outcome State) : Outcome State :=
  outcome.andThen fun session console =>
    let (console, failure) := session.showPrompt console
    { session, console, failure }

/-- Executes lines, and leaves the session as it is behind the last one. -/
def through (session : Session) (console : State) : List (List UInt8) → Outcome State
  | [] => { session, console, failure := none }
  | line :: lines =>
      (session.runLine console line).andThen fun session console => session.through console lines

def reach (session : Session) (input : List UInt8) (console : State) : Outcome State :=
  (session.start console).andThen fun session console =>
    session.through console (Lines.split input)

/-! ## One line -/

theorem Outcome.prompted_of_goesOn {outcome : Outcome State} (goesOn : outcome.goesOn) :
    outcome.prompted =
      { session := outcome.session
        console := (outcome.session.showPrompt outcome.console).1
        failure := (outcome.session.showPrompt outcome.console).2 } :=
  andThen_of_goesOn goesOn _

theorem Outcome.prompted_of_ended {outcome : Outcome State} (ended : ¬ outcome.goesOn) :
    outcome.prompted = outcome :=
  andThen_of_ended ended _

@[simp] theorem Outcome.prompted_session (outcome : Outcome State) :
    outcome.prompted.session = outcome.session := by
  rw [prompted, andThen]
  split <;> rfl

theorem start_eq_prompted (session : Session) (console : State) :
    session.start console =
      Outcome.prompted
        { session := { session with running := true }, console, failure := none } := rfl

@[simp] theorem start_session (session : Session) (console : State) :
    (session.start console).session = { session with running := true } := rfl

theorem start_console (session : Session) (console : State) :
    (session.start console).console = (session.showPrompt console).1 := rfl

theorem runLine_of_undecodable (session : Session) (console : State) {line : List UInt8}
    (reads : Lines.text? line = none) :
    session.runLine console line = { session, console, failure := some .invalidText } := by
  rw [runLine, reads]

theorem runLine_of_text (session : Session) (console : State) {line : List UInt8} {text : String}
    (reads : Lines.text? line = some text) :
    session.runLine console line = (session.executeLine text console).prompted := by
  rw [runLine, reads]
  dsimp only
  rcases session.executeLine text console with ⟨next, left, _ | failure⟩
  · cases running : next.running <;>
      simp [Outcome.prompted, Outcome.andThen, Outcome.goesOn, running]
  · rfl

theorem runLine_session_of_text (session : Session) (console : State) {line : List UInt8}
    {text : String} (reads : Lines.text? line = some text) :
    (session.runLine console line).session = (session.executeLine text console).session := by
  rw [session.runLine_of_text console reads, Outcome.prompted_session]

theorem text_of_goesOn {session : Session} {console : State} {line : List UInt8}
    (goesOn : (session.runLine console line).goesOn) : ∃ text, Lines.text? line = some text := by
  cases reads : Lines.text? line with
  | some text => exact ⟨text, rfl⟩
  | none =>
      rw [session.runLine_of_undecodable console reads] at goesOn
      cases goesOn

/-! ## Several lines -/

theorem runLines_cons (session : Session) (console : State) (line : List UInt8)
    (lines : List (List UInt8)) :
    session.runLines console (line :: lines) =
      (session.runLine console line).andThen fun session console =>
        session.runLines console lines := rfl

theorem runLines_eq_closed (session : Session) (console : State) (lines : List (List UInt8)) :
    session.runLines console lines = (session.through console lines).closed := by
  induction lines generalizing session console with
  | nil =>
      rcases session with ⟨reader, prompt, info, count, last, _ | _⟩
      · rfl
      · rfl
  | cons line lines induction =>
      rw [runLines_cons, through, Outcome.closed_andThen]
      exact Outcome.andThen_congr fun _ => induction ..

theorem runLines_append {session : Session} (running : session.running) (console : State)
    (first second : List (List UInt8)) :
    session.runLines console (first ++ second) =
      (session.through console first).andThen fun session console =>
        session.runLines console second := by
  induction first generalizing session console with
  | nil =>
      have goesOn : ({ session, console, failure := none } : Outcome State).goesOn := by
        rw [Outcome.goesOn_iff]
        exact ⟨rfl, running⟩
      rw [through, Outcome.andThen_of_goesOn goesOn, List.nil_append]
  | cons line first induction =>
      -- A line that goes on leaves the session running, as the induction needs it.
      rw [List.cons_append, runLines_cons, through, Outcome.andThen_andThen]
      apply Outcome.andThen_congr
      intro goesOn
      exact induction ((Outcome.goesOn_iff _).mp goesOn).2 _

/-! ## Inputs -/

theorem goesOn_start_iff (session : Session) (console : State) :
    (session.start console).goesOn ↔ (session.start console).failure = none := by
  rw [Outcome.goesOn_iff, start_session]
  simp

theorem run_eq (session : Session) (input : List UInt8) (console : State) :
    session.run input console =
      (session.start console).andThen fun session console =>
        session.runLines console (Lines.split input) := by
  simp only [run, Outcome.andThen, Outcome.goesOn, start_session, Bool.and_true]

theorem run_eq_closed (session : Session) (input : List UInt8) (console : State) :
    session.run input console = (session.reach input console).closed := by
  rw [run_eq, reach, Outcome.closed_andThen]
  exact Outcome.andThen_congr fun _ => runLines_eq_closed ..

theorem run_append (session : Session) {first : List UInt8}
    (seam : first = [] ∨ Lines.Ended first) (second : List UInt8) (console : State) :
    session.run (first ++ second) console =
      (session.reach first console).andThen fun session console =>
        session.runLines console (Lines.split second) := by
  rw [run_eq, Lines.split_append seam, reach, Outcome.andThen_andThen]
  exact Outcome.andThen_congr fun _ => runLines_append rfl _ _ _

end OpcodeTrace.Session
