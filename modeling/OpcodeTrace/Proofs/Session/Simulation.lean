import OpcodeTrace.Proofs.Console.Simulation
import OpcodeTrace.Proofs.Session.Script

/-! A session learns nothing of its console but which operations fail. -/

namespace OpcodeTrace

variable {Left Right : Type}

namespace Session

structure Executed.Agree (related : Left → Right → Prop) (left : Executed Left)
    (right : Executed Right) : Prop where
  session : left.session = right.session
  answers : Console.Agree related (left.console, left.error) (right.console, right.error)

structure Outcome.Agree (related : Left → Right → Prop) (left : Outcome Left)
    (right : Outcome Right) : Prop where
  session : left.session = right.session
  answers : Console.Agree related (left.console, left.failure) (right.console, right.failure)

variable {related : Left → Right → Prop}

theorem Executed.Agree.console {left : Executed Left} {right : Executed Right}
    (agree : Executed.Agree related left right) : related left.console right.console :=
  agree.answers.similar

variable {left : Outcome Left} {right : Outcome Right}

theorem Outcome.Agree.console (agree : Outcome.Agree related left right) :
    related left.console right.console :=
  agree.answers.similar

theorem Outcome.Agree.failure (agree : Outcome.Agree related left right) :
    left.failure = right.failure :=
  agree.answers.same

theorem Outcome.Agree.goesOn (agree : Outcome.Agree related left right) :
    left.goesOn = right.goesOn := by
  rw [Outcome.goesOn, Outcome.goesOn, agree.session, agree.failure]

theorem Outcome.Agree.andThen (agree : Outcome.Agree related left right)
    {first : Session → Left → Outcome Left} {second : Session → Right → Outcome Right}
    (next : ∀ session {left right}, related left right →
      Outcome.Agree related (first session left) (second session right)) :
    Outcome.Agree related (left.andThen first) (right.andThen second) := by
  rw [Outcome.andThen, Outcome.andThen, agree.goesOn, agree.session]
  split
  · exact next _ agree.console
  · exact agree

theorem Outcome.Agree.closed (agree : Outcome.Agree related left right) :
    Outcome.Agree related left.closed right.closed :=
  agree.andThen fun _ _ _ similar => ⟨rfl, .intro similar none⟩

end Session

namespace Console.Simulation

open Session

variable [Console Left] [Console Right] {related : Left → Right → Prop} {left : Left}
  {right : Right}

/-! ## Commands -/

theorem deliver_texts (simulation : Simulation related) (similar : related left right)
    (texts : List String) :
    Agree related (Session.deliver left (.texts texts)) (Session.deliver right (.texts texts)) := by
  have agree := simulation.printAndFlush similar texts
  rw [Session.deliver, Session.deliver]
  generalize Console.printAndFlush left texts = leftPrinted at agree ⊢
  generalize Console.printAndFlush right texts = rightPrinted at agree ⊢
  rcases agree with ⟨next, failure⟩
  exact .intro next _

theorem deliver (simulation : Simulation related) (similar : related left right) (reply : Reply) :
    Agree related (Session.deliver left reply) (Session.deliver right reply) := by
  cases reply with
  | texts texts => exact simulation.deliver_texts similar texts
  | document text =>
      have agree := simulation.print similar text
      rw [Session.deliver, Session.deliver]
      generalize Console.print left text = leftPrinted at agree ⊢
      generalize Console.print right text = rightPrinted at agree ⊢
      rcases agree with ⟨next, _ | failure⟩
      · exact simulation.deliver_texts next ["\n"]
      · exact .intro next _

theorem execute (simulation : Simulation related) (similar : related left right)
    (session : Session) (command : Command) :
    Executed.Agree related (session.execute command left) (session.execute command right) := by
  have recorded := simulation.recordAll similar
    (session.commandEntry command :: (session.perform command).events.map Reader.Event.entry)
  rw [Session.execute, Session.execute]
  cases (session.perform command).reply with
  | error error => exact ⟨rfl, .intro recorded _⟩
  | ok reply => exact ⟨rfl, simulation.deliver recorded reply⟩

theorem settle (simulation : Simulation related) {left : Executed Left} {right : Executed Right}
    (agree : Executed.Agree related left right) :
    Outcome.Agree related (Session.settle left) (Session.settle right) := by
  rcases left with ⟨session, left, error⟩
  rcases right with ⟨other, right, otherError⟩
  obtain rfl : session = other := agree.session
  obtain rfl : error = otherError := agree.answers.same
  have similar : related left right := agree.console
  cases error with
  | none => exact ⟨rfl, .intro similar none⟩
  | some error =>
      cases error with
      | stream failure => exact ⟨rfl, .intro similar _⟩
      | rejected | outOfBounds | document => exact ⟨rfl, simulation.complain similar _⟩

/-! ## Lines -/

theorem dispatch (simulation : Simulation related) (similar : related left right)
    (session : Session) (line : String) :
    Outcome.Agree related (session.dispatch line left) (session.dispatch line right) := by
  rw [Session.dispatch, Session.dispatch]
  cases Command.parse line with
  | error rejection => exact simulation.settle ⟨rfl, .intro similar _⟩
  | ok command =>
      cases command with
      | none => exact ⟨rfl, .intro similar none⟩
      | some command => exact simulation.settle (simulation.execute similar session command)

theorem executeLine (simulation : Simulation related) (similar : related left right)
    (session : Session) (line : String) :
    Outcome.Agree related (session.executeLine line left) (session.executeLine line right) := by
  cases means : session.lineMeant? line with
  | none =>
      rw [executeLine_of_lineMeant_none means, executeLine_of_lineMeant_none means]
      exact ⟨rfl, .intro similar none⟩
  | some meant =>
      rw [executeLine_of_lineMeant means, executeLine_of_lineMeant means]
      exact simulation.dispatch similar _ meant

theorem prompted (simulation : Simulation related) {left : Outcome Left} {right : Outcome Right}
    (agree : Outcome.Agree related left right) :
    Outcome.Agree related left.prompted right.prompted :=
  agree.andThen fun _ _ _ similar => ⟨rfl, simulation.printAndFlush similar _⟩

theorem runLine (simulation : Simulation related) (similar : related left right)
    (session : Session) (line : List UInt8) :
    Outcome.Agree related (session.runLine left line) (session.runLine right line) := by
  cases reads : Lines.text? line with
  | none =>
      rw [runLine_of_undecodable _ _ reads, runLine_of_undecodable _ _ reads]
      exact ⟨rfl, .intro similar _⟩
  | some text =>
      rw [runLine_of_text _ _ reads, runLine_of_text _ _ reads]
      exact simulation.prompted (simulation.executeLine similar session text)

/-! ## Inputs -/

theorem through (simulation : Simulation related) (similar : related left right)
    (session : Session) (lines : List (List UInt8)) :
    Outcome.Agree related (session.through left lines) (session.through right lines) := by
  induction lines generalizing session left right with
  | nil => exact ⟨rfl, .intro similar none⟩
  | cons line lines induction =>
      exact (simulation.runLine similar session line).andThen fun session _ _ similar =>
        induction similar session

theorem runLines (simulation : Simulation related) (similar : related left right)
    (session : Session) (lines : List (List UInt8)) :
    Outcome.Agree related (session.runLines left lines) (session.runLines right lines) := by
  rw [runLines_eq_closed, runLines_eq_closed]
  exact (simulation.through similar session lines).closed

theorem reach (simulation : Simulation related) (similar : related left right)
    (session : Session) (input : List UInt8) :
    Outcome.Agree related (session.reach input left) (session.reach input right) := by
  have started : Outcome.Agree related (session.start left) (session.start right) := by
    rw [start_eq_prompted, start_eq_prompted]
    exact simulation.prompted ⟨rfl, .intro similar none⟩
  exact started.andThen fun session _ _ similar => simulation.through similar session _

theorem run (simulation : Simulation related) (similar : related left right)
    (session : Session) (input : List UInt8) :
    Outcome.Agree related (session.run input left) (session.run input right) := by
  rw [run_eq_closed, run_eq_closed]
  exact (simulation.reach similar session input).closed

end Console.Simulation

end OpcodeTrace
