import OpcodeTrace.Proofs.Session.Answers
import OpcodeTrace.Proofs.Session.Scope

/-! Commands that only list something can be put in anywhere among others. -/

namespace OpcodeTrace.Session

/-- A command to be executed among others. It may have been put in between them. -/
structure Request where
  command : Command
  inserted : Bool := false
deriving DecidableEq, Repr

structure Call where
  request : Request
  out : String
  error : Option CommandError
deriving DecidableEq, Repr

structure Calls where
  calls : List Call
  session : Session

variable {State : Type} [Console State]

def executeAll (session : Session) (console : State) : List Request → Calls
  | [] => { calls := [], session }
  | request :: later =>
      let executed := session.execute request.command ({ console } : Transcribed State)
      let rest := executed.session.executeAll executed.console.console later
      { rest with
        calls := { request, out := executed.console.out, error := executed.error } :: rest.calls }

def Calls.original (calls : Calls) : Calls :=
  { calls with calls := calls.calls.filter fun call => !call.request.inserted }

def callOf (session : Session) (request : Request) : Call where
  request := request
  out := session.answer request.command
  error := (session.refusal? request.command).map .outOfBounds

theorem exists_executeAll_cons_eq (session : Session) {console : State}
    (reliable : Console.Reliable console) (request : Request) (later : List Request) :
    ∃ next : State, Console.Reliable next ∧
      session.executeAll console (request :: later) =
        let rest := (session.perform request.command).session.executeAll next later
        { rest with calls := session.callOf request :: rest.calls } := by
  have transcribed : Console.Reliable ({ console } : Transcribed State).console := reliable
  rcases session.execute_told request.command transcribed with ⟨out, error, still⟩
  rw [String.empty_append] at out
  refine ⟨_, still, ?_⟩
  rw [executeAll, callOf, out, error, execute_session]

theorem executeAll_original (session : Session) {left right : State}
    (leftReliable : Console.Reliable left) (rightReliable : Console.Reliable right)
    {requests : List Request}
    (listings : ∀ request ∈ requests, request.inserted → request.command.lists) :
    session.executeAll left (requests.filter fun request => !request.inserted) =
      (session.executeAll right requests).original := by
  induction requests generalizing session left right with
  | nil => rfl
  | cons request later induction =>
      have listingsLater : ∀ request ∈ later, request.inserted → request.command.lists :=
        fun request member => listings request (List.mem_cons_of_mem _ member)
      rcases session.exists_executeAll_cons_eq rightReliable request later with
        ⟨rightNext, rightStill, rightEqual⟩
      rw [rightEqual]
      by_cases inserted : request.inserted
      · -- The command is left out on the left, and has changed nothing on the right.
        have lists := listings request List.mem_cons_self inserted
        rw [perform_session_of_lists lists]
        have rest := induction session leftReliable rightStill listingsLater
        simp [Calls.original, callOf, inserted, rest]
      · rcases session.exists_executeAll_cons_eq leftReliable request
          (later.filter fun request => !request.inserted) with ⟨leftNext, leftStill, leftEqual⟩
        have rest := induction (session.perform request.command).session leftStill rightStill
          listingsLater
        rw [List.filter_cons_of_pos (by simpa using inserted), leftEqual, rest]
        simp [Calls.original, callOf, inserted]

/-- A command changes its own part of the session and no other, on every console. So listings can be
inserted anywhere without a trace, on a console that does not fail. -/
theorem commands_keep_scope :
    (∀ (session : Session) (command : Command) (console : State),
      session.Keeps (session.execute command console).session ∧
        command.Alters session (session.execute command console).session) ∧
    (∀ (session : Session) (console : State) (requests : List Request),
      Console.Reliable console →
      (∀ request ∈ requests, request.inserted → request.command.lists) →
        session.executeAll console (requests.filter fun request => !request.inserted) =
          (session.executeAll console requests).original) := by
  constructor
  · intro session command console
    rw [execute_session]
    have alters := session.perform_alters command
    exact ⟨keeps_of_alters alters, alters⟩
  · intro session console requests reliable listings
    exact session.executeAll_original reliable reliable listings

/-- One of the listings here is refused. The step counts its landing. -/
theorem commands_keep_scope_of_two_listings :
    let session := Session.new (Trace.ofBytes #[0, 1, 254, 0]) {}
    let console : BoundedConsole := {}
    let requests : List Request := [
      { command := .step },
      { command := .hex {}, inserted := true },
      { command := .raw { start := some 9 }, inserted := true },
      { command := .resume }]
    let original := requests.filter fun request => !request.inserted
    let stepped := (session.execute .step console).session
    original = [{ command := .step }, { command := .resume }] ∧
      session.executeAll console original = (session.executeAll console requests).original ∧
      session.reader.countOf ⟨1⟩ ≤ stepped.reader.countOf ⟨1⟩ := by
  intro session console requests original stepped
  have scopes := @commands_keep_scope BoundedConsole _
  have reliable : Console.Reliable console :=
    ⟨_, BoundedConsole.steady_unlimited, rfl, rfl, rfl⟩
  have listings : ∀ request ∈ requests, request.inserted → request.command.lists := by decide
  have forward : Command.Forward .step session.reader stepped.reader :=
    (scopes.1 session .step console).2.1
  have undisturbed := scopes.2 session console requests reliable listings
  exact ⟨rfl, undisturbed, forward.counts ⟨1⟩ (by decide)⟩

end OpcodeTrace.Session
