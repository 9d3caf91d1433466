import OpcodeTrace.Console.Bounded
import OpcodeTrace.Proofs.Session.Script

/-! The mark of a running session, during a run and behind it. -/

namespace OpcodeTrace.Session

variable {State : Type} [Console State]

def meansQuit (session : Session) (line : List UInt8) : Bool :=
  (Lines.text? line).any fun text => session.commandMeant? text = some .quit

/-- One of the lines is reached and means to quit. -/
def comesToQuit (session : Session) (console : State) : List (List UInt8) → Bool
  | [] => false
  | line :: lines =>
      let outcome := session.runLine console line
      session.meansQuit line ||
        (outcome.goesOn && outcome.session.comesToQuit outcome.console lines)

def quits (session : Session) (input : List UInt8) (console : State) : Bool :=
  let started := session.start console
  started.goesOn && started.session.comesToQuit started.console (Lines.split input)

/-! ## The mark on the way -/

theorem runLine_running {session : Session} (running : session.running) (console : State)
    (line : List UInt8) :
    (session.runLine console line).session.running = !session.meansQuit line := by
  cases reads : Lines.text? line with
  | none =>
      rw [session.runLine_of_undecodable console reads, meansQuit, reads]
      exact running
  | some text =>
      rw [session.runLine_session_of_text console reads, executeLine_running, meansQuit, reads]
      by_cases quit : session.commandMeant? text = some .quit
      · simp [quit]
      · simp [quit, running]

theorem through_running {session : Session} (running : session.running) (console : State)
    (lines : List (List UInt8)) :
    (session.through console lines).session.running = !session.comesToQuit console lines := by
  induction lines generalizing session console with
  | nil => exact running
  | cons line lines induction =>
      have marked := runLine_running running console line
      rw [through, comesToQuit]
      by_cases goesOn : (session.runLine console line).goesOn
      · have stays := (Outcome.goesOn_iff _).mp goesOn
        have noQuit : session.meansQuit line = false := by simpa [stays.2] using marked
        rw [Outcome.andThen_of_goesOn goesOn, induction stays.2]
        simp [noQuit, goesOn]
      · rw [Outcome.andThen_of_ended goesOn, marked]
        simp [goesOn]

theorem reach_running (session : Session) (input : List UInt8) (console : State) :
    (session.reach input console).session.running = !session.quits input console := by
  rw [quits, reach]
  by_cases goesOn : (session.start console).goesOn
  · rw [Outcome.andThen_of_goesOn goesOn, through_running rfl, goesOn, Bool.true_and]
  · rw [Outcome.andThen_of_ended goesOn, start_session]
    simp [goesOn]

/-! ## The mark behind a run -/

/-- A run that succeeds takes the mark away. A run that fails leaves it, unless it fails at a command
to quit. -/
theorem run_running_iff (session : Session) (input : List UInt8) (console : State) :
    (session.run input console).session.running ↔
      (session.run input console).failure.isSome ∧ session.quits input console = false := by
  have reached := session.reach_running input console
  rw [run_eq_closed, Outcome.closed_failure, Outcome.closed]
  by_cases goesOn : (session.reach input console).goesOn
  · have succeeds := ((Outcome.goesOn_iff _).mp goesOn).1
    simp [Outcome.andThen_of_goesOn goesOn, succeeds]
  · rw [Outcome.andThen_of_ended goesOn, reached]
    cases quit : session.quits input console with
    | true => simp
    | false =>
        -- The session is running, so that only a failure can have ended the run.
        rw [quit] at reached
        simpa [Outcome.goesOn, reached, Option.isSome_iff_ne_none] using goesOn

/-- The first prompt does not fit on the stream. The run is over, and the session still counts as
running. -/
theorem running_on_full_stream :
    let session := Session.new (Trace.ofBytes #[0]) {}
    let console : BoundedConsole := { out := { room := some 0 } }
    (session.run [] console).failure = some .full ∧
      (session.run [] console).session.running = true :=
  ⟨by decide +kernel, by decide +kernel⟩

end OpcodeTrace.Session
