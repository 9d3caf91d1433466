import OpcodeTrace.Proofs.Console.Offering
import OpcodeTrace.Proofs.Session.Line

/-! A stream that fills up cuts an answer short, and that is all. -/

namespace OpcodeTrace.Session

def Reply.text : Reply → String
  | .texts pieces => String.join pieces
  | .document text => text ++ "\n"

/-- The answer to a command. A command that asks for a place outside the trace has none. -/
def answer (session : Session) (command : Command) : String :=
  match (session.perform command).reply with
  | .ok reply => reply.text
  | .error _ => ""

def answerTo (session : Session) (line : String) : String :=
  match session.commandMeant? line with
  | some command => session.answer command
  | none => ""

/-! ## What the stream for answers is offered -/

theorem deliver_out (console : BoundedConsole) (reply : Reply) :
    (deliver console reply).1.out = console.out.offer reply.text.toUTF8.data := by
  cases reply with
  | texts texts => exact console.printAndFlush_out texts
  | document text =>
      rw [deliver, Reply.text, BoundedStream.offer_text_append, ← BoundedConsole.print_out]
      rcases printed : Console.print console text with ⟨next, _ | failure⟩
      · exact next.printAndFlush_out ["\n"]
      · have fails : (Console.print console text).2 = some failure := by rw [printed]
        have full := BoundedConsole.room_of_print_fails fails
        rw [printed] at full
        exact (BoundedStream.offer_of_full full _).symm

theorem execute_out (session : Session) (command : Command) (console : BoundedConsole) :
    (session.execute command console).console.out =
      console.out.offer (session.answer command).toUTF8.data := by
  rw [execute, answer]
  cases (session.perform command).reply with
  | ok reply =>
      dsimp only
      rw [deliver_out, BoundedConsole.recordAll_out]
  | error error => exact (console.recordAll_out _).trans console.out.offer_empty.symm

theorem settle_out (executed : Executed BoundedConsole) :
    (settle executed).console.out = executed.console.out := by
  rcases executed with ⟨session, console, _ | error⟩
  · rfl
  · cases error <;> rfl

theorem dispatch_out (session : Session) (line : String) (console : BoundedConsole) :
    (session.dispatch line console).console.out =
      match (Command.parse line).toOption.join with
      | some command => console.out.offer (session.answer command).toUTF8.data
      | none => console.out := by
  rw [dispatch]
  cases Command.parse line with
  | error rejection => exact settle_out _
  | ok command =>
      cases command with
      | none => rfl
      | some command => exact (settle_out _).trans (session.execute_out command console)

theorem answer_of_lastLine (session : Session) (command : Command) (last : Option String) :
    { session with lastLine := last }.answer command = session.answer command := by
  rw [answer, answer, perform_of_lastLine]

theorem executeLine_out (session : Session) (line : String) (console : BoundedConsole) :
    (session.executeLine line console).console.out =
      console.out.offer (session.answerTo line).toUTF8.data := by
  rw [answerTo, commandMeant?]
  cases means : session.lineMeant? line with
  | none =>
      rw [executeLine_of_lineMeant_none means]
      exact console.out.offer_empty.symm
  | some meant =>
      rw [executeLine_of_lineMeant means, dispatch_out, Option.bind_some]
      cases (Command.parse meant).toOption.join with
      | none => exact console.out.offer_empty.symm
      | some command =>
          dsimp only
          rw [answer_of_lastLine]

/-! ## Two streams -/

/-- A stream with room for so many bytes takes as many of what a stream without a limit takes, and the
session does not see the difference. Flushing may fail on either, and so may complaints. -/
theorem executeLine_truncated (session : Session) (line : String) {free cut : BoundedConsole}
    {limit : Nat} (unlimited : free.out.room = none) (limited : cut.out.room = some limit) :
    let whole := session.executeLine line free
    let part := session.executeLine line cut
    part.session = whole.session ∧
      ∃ told, whole.console.out.taken = free.out.taken ++ told ∧
        part.console.out.taken = cut.out.taken ++ told.extract 0 limit := by
  intro whole part
  refine ⟨?_, (session.answerTo line).toUTF8.data, ?_, ?_⟩
  · rw [executeLine_session, executeLine_session]
  · rw [executeLine_out, BoundedStream.offer, unlimited]
  · rw [executeLine_out, BoundedStream.offer, limited]

/-- The limit lies within the second row of the dump here. -/
theorem executeLine_truncated_in_dump :
    let session := Session.new (Trace.ofBytes (Array.replicate 20 254)) {}
    let free : BoundedConsole := {}
    let cut : BoundedConsole := { out := { room := some 50, refusesFlush := true } }
    let whole := session.executeLine "hex 0 20" free
    let part := session.executeLine "hex 0 20" cut
    free.out.room = none ∧ cut.out.room = some 50 ∧
      part.session = whole.session ∧
      ∃ told, whole.console.out.taken = free.out.taken ++ told ∧
        part.console.out.taken = cut.out.taken ++ told.extract 0 50 := by
  intro session free cut whole part
  exact ⟨rfl, rfl, session.executeLine_truncated "hex 0 20" rfl rfl⟩

end OpcodeTrace.Session
