import OpcodeTrace.Proofs.Session.Faults
import OpcodeTrace.Proofs.Session.Simulation
import OpcodeTrace.Proofs.Session.Truncation

/-! Answers on a console that never fails. -/

namespace OpcodeTrace

variable {State : Type} [Console State]

theorem Transcribed.printAll_out {transcribed : Transcribed State}
    (reliable : Console.Reliable transcribed.console) (texts : List String) :
    (Console.printAll transcribed texts).1.out = transcribed.out ++ String.join texts := by
  induction texts generalizing transcribed with
  | nil => exact String.append_empty.symm
  | cons text texts induction =>
      have printed := Transcribed.steady_reliable_console.print reliable text
      have told : (Console.print transcribed text).1.out = transcribed.out ++ text := rfl
      rw [Console.printAll]
      generalize Console.print transcribed text = result at printed told ⊢
      rcases result with ⟨next, _ | failure⟩
      · rw [String.join_cons, ← String.append_assoc, ← told]
        exact induction printed.2
      · cases printed.1

theorem Transcribed.printAndFlush_out {transcribed : Transcribed State}
    (reliable : Console.Reliable transcribed.console) (texts : List String) :
    (Console.printAndFlush transcribed texts).1.out = transcribed.out ++ String.join texts := by
  rw [Console.printAndFlush, ← Transcribed.printAll_out reliable texts]
  rcases Console.printAll transcribed texts with ⟨next, _ | failure⟩
  · rfl
  · rfl

namespace Session

theorem deliver_told {transcribed : Transcribed State}
    (reliable : Console.Reliable transcribed.console) (reply : Reply) :
    (deliver transcribed reply).1.out = transcribed.out ++ reply.text ∧
      Console.Reliable (deliver transcribed reply).1.console := by
  have steady : Console.Steady fun told : Transcribed State => Console.Reliable told.console :=
    Transcribed.steady_reliable_console
  cases reply with
  | texts texts =>
      exact ⟨Transcribed.printAndFlush_out reliable texts, (steady.printAndFlush reliable texts).2⟩
  | document text =>
      have printed := steady.print reliable text
      have told : (Console.print transcribed text).1.out = transcribed.out ++ text := rfl
      rw [deliver, Reply.text, ← String.append_assoc, ← told]
      generalize Console.print transcribed text = result at printed ⊢
      rcases result with ⟨next, _ | failure⟩
      · exact ⟨Transcribed.printAndFlush_out printed.2 ["\n"],
          (steady.printAndFlush printed.2 ["\n"]).2⟩
      · cases printed.1

theorem execute_told (session : Session) (command : Command) {transcribed : Transcribed State}
    (reliable : Console.Reliable transcribed.console) :
    (session.execute command transcribed).console.out =
        transcribed.out ++ session.answer command ∧
      (session.execute command transcribed).error =
        (session.refusal? command).map .outOfBounds ∧
      Console.Reliable (session.execute command transcribed).console.console := by
  let entries := session.commandEntry command ::
    (session.perform command).events.map Reader.Event.entry
  have recorded := Transcribed.steady_reliable_console.recordAll reliable entries
  rw [execute, answer, refusal?, ← (transcribed.recordAll_told entries).1]
  cases (session.perform command).reply with
  | ok reply =>
      have told := deliver_told recorded reply
      exact ⟨told.1, (deliver_of_reliable recorded reply).1, told.2⟩
  | error error => exact ⟨String.append_empty.symm, rfl, recorded⟩

theorem execute_reliable (session : Session) (command : Command) {console : State}
    (reliable : Console.Reliable console) :
    Console.Reliable (session.execute command console).console := by
  let transcribed : Transcribed State := { console }
  have agree := Transcribed.simulation_console.execute (rfl : transcribed.console = console)
    session command
  rw [← agree.console]
  exact (session.execute_told command (reliable : Console.Reliable transcribed.console)).2.2

def printed (session : Session) (command : Command) (console : State) : String :=
  (session.execute command ({ console } : Transcribed State)).console.out

theorem printed_of_reliable (session : Session) (command : Command) {console : State}
    (reliable : Console.Reliable console) :
    session.printed command console = session.answer command := by
  have transcribed : Console.Reliable ({ console } : Transcribed State).console := reliable
  rw [printed, (session.execute_told command transcribed).1, String.empty_append]

end Session

end OpcodeTrace
