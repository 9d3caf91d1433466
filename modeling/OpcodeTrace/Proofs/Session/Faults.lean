import OpcodeTrace.Proofs.Console.Transcribed
import OpcodeTrace.Proofs.Session.Line

/-! Faulty lines. What is wrong with a line is found out before anything is changed and before
anything is printed. -/

namespace OpcodeTrace

def refusalIn? {Value : Type} : Except OutOfBounds Value → Option OutOfBounds
  | .ok _ => none
  | .error error => some error

theorem refusalIn?_eq_some_iff {Value : Type} {result : Except OutOfBounds Value}
    {error : OutOfBounds} : refusalIn? result = some error ↔ result = .error error := by
  cases result <;> simp [refusalIn?]

@[simp] theorem refusalIn?_map {Value Other : Type} (result : Except OutOfBounds Value)
    (change : Value → Other) : refusalIn? (result.map change) = refusalIn? result := by
  cases result <;> rfl

def Trace.outside? (trace : Trace) (place : UInt64) : Option OutOfBounds :=
  if place.toNat < trace.bytes.size then none else some { offset := place, size := trace.size }

theorem Trace.refusalIn?_slice (trace : Trace) (offset count : UInt64) :
    refusalIn? (trace.slice offset count) = trace.outside? offset := by
  rw [slice, outside?]
  split <;> rfl

theorem Reader.refusalIn?_disassemble (reader : Reader) (offset count : UInt64) :
    refusalIn? (reader.disassemble offset count) = reader.trace.outside? offset := by
  rw [disassemble, refusalIn?_map, Trace.disassemble, Trace.outside?]
  split <;> rfl

theorem Reader.refusalIn?_flag (reader : Reader) (offset : UInt64) (value : Bool) :
    refusalIn? (reader.flag offset value) = reader.trace.outside? offset := by
  rw [flag, Trace.outside?, ← reader.size_flags]
  split <;> rfl

/-- The place of the trace that a command asks for, if the reader stands at `ip`. -/
def Command.place? (ip : UInt64) : Command → Option UInt64
  | .setBreakpoint offset | .clearBreakpoint offset => some offset
  | .disassemble window | .raw window | .hex window => some (window.start.getD ip)
  | _ => none

namespace Session

variable {State : Type}

/-! ## What is wrong with a line -/

def refusal? (session : Session) (command : Command) : Option OutOfBounds :=
  refusalIn? (session.perform command).reply

/-- What is wrong with a line to be executed, the streams apart. -/
def fault? (session : Session) (line : String) : Option CommandError :=
  match Command.parse line with
  | .error rejection => some (.rejected rejection)
  | .ok none => none
  | .ok (some command) => (session.refusal? command).map .outOfBounds

theorem refusal?_eq (session : Session) (command : Command) :
    session.refusal? command =
      (command.place? session.reader.ip).bind session.reader.trace.outside? := by
  have ofChange (change : Except OutOfBounds Reader) :
      refusalIn? (session.performChange change).reply = refusalIn? change := by
    cases change <;> rfl
  cases command with
  | counts json => cases json <;> rfl
  | setBreakpoint offset => exact (ofChange _).trans (session.reader.refusalIn?_flag offset true)
  | clearBreakpoint offset => exact (ofChange _).trans (session.reader.refusalIn?_flag offset false)
  | disassemble window =>
      have refused := session.reader.refusalIn?_disassemble (session.resolve window).1
        (session.resolve window).2
      refine Eq.trans ?_ refused
      rw [refusal?, perform]
      dsimp only
      cases session.reader.disassemble (session.resolve window).1 (session.resolve window).2 <;> rfl
  | raw window => exact (refusalIn?_map _ _).trans (session.reader.trace.refusalIn?_slice _ _)
  | hex window => exact (refusalIn?_map _ _).trans (session.reader.trace.refusalIn?_slice _ _)
  | info template => cases template <;> rfl
  | step | resume | finish | breakpoints | jump | reset | prompt | help | quit => rfl

theorem refusal?_of_lastLine (session : Session) (command : Command) (last : Option String) :
    { session with lastLine := last }.refusal? command = session.refusal? command := by
  rw [refusal?, refusal?, perform_of_lastLine]

theorem fault?_of_lastLine (session : Session) (line : String) (last : Option String) :
    { session with lastLine := last }.fault? line = session.fault? line := by
  simp only [fault?, refusal?_of_lastLine]

theorem perform_of_refusal {session : Session} {command : Command} {error : OutOfBounds}
    (refused : session.refusal? command = some error) :
    session.perform command = { session, reply := .error error } := by
  have ofChange {change : Except OutOfBounds Reader}
      (refused : (session.performChange change).reply = .error error) :
      session.performChange change = { session, reply := .error error } := by
    cases change with
    | ok reader => cases refused
    | error other => exact congrArg (Performance.mk session []) refused
  have replies := refusalIn?_eq_some_iff.mp refused
  cases command with
  | counts json => cases json <;> cases replies
  | setBreakpoint offset => exact ofChange replies
  | clearBreakpoint offset => exact ofChange replies
  | disassemble window =>
      dsimp only [perform] at replies ⊢
      split at replies
      · cases replies
      · exact congrArg (Performance.mk session []) replies
  | raw window => exact congrArg (Performance.mk session []) replies
  | hex window => exact congrArg (Performance.mk session []) replies
  | info template => cases template <;> cases replies
  | step | resume | finish | breakpoints | jump | reset | prompt | help | quit => cases replies

variable [Console State]

/-! ## Complaining about a fault -/

theorem execute_of_refusal {session : Session} {command : Command} {error : OutOfBounds}
    (refused : session.refusal? command = some error) (console : State) :
    session.execute command console =
      { session
        console := Console.recordAll console [session.commandEntry command]
        error := some (.outOfBounds error) } := by
  rw [execute, perform_of_refusal refused]
  rfl

theorem exists_dispatch_of_fault {session : Session} {line : String} {error : CommandError}
    (faulty : session.fault? line = some error) (console : State) :
    ∃ entries, session.dispatch line console =
      let complained := Console.complain (Console.recordAll console entries) error.complaint
      { session, console := complained.1, failure := complained.2 } := by
  rw [fault?] at faulty
  rw [dispatch]
  cases reads : Command.parse line with
  | error rejection =>
      rw [reads] at faulty
      cases faulty
      exact ⟨[], rfl⟩
  | ok command =>
      rw [reads] at faulty
      cases command with
      | none => cases faulty
      | some command =>
          rcases Option.map_eq_some_iff.mp faulty with ⟨place, refused, rfl⟩
          refine ⟨[session.commandEntry command], ?_⟩
          dsimp only
          rw [execute_of_refusal refused]
          rfl

/-! ## Consoles that never fail -/

def complaintAbout : Option CommandError → String
  | some error => error.complaint
  | none => ""

def complaintTo (session : Session) (line : String) : String :=
  complaintAbout ((session.lineMeant? line).bind session.fault?)

theorem deliver_of_reliable {transcribed : Transcribed State}
    (reliable : Console.Reliable transcribed.console) (reply : Reply) :
    (deliver transcribed reply).2 = none ∧
      (deliver transcribed reply).1.err = transcribed.err := by
  have steady : Console.Steady fun told : Transcribed State => Console.Reliable told.console :=
    Transcribed.steady_reliable_console
  cases reply with
  | texts texts =>
      have printed := steady.printAndFlush reliable texts
      refine ⟨?_, transcribed.printAndFlush_err texts⟩
      exact congrArg (Option.map CommandError.stream) printed.1
  | document text =>
      have printed := steady.print reliable text
      have kept : (Console.print transcribed text).1.err = transcribed.err := rfl
      rw [deliver, ← kept]
      generalize Console.print transcribed text = result at printed ⊢
      rcases result with ⟨next, _ | failure⟩
      · have ended := steady.printAndFlush printed.2 ["\n"]
        refine ⟨?_, next.printAndFlush_err ["\n"]⟩
        exact congrArg (Option.map CommandError.stream) ended.1
      · cases printed.1

theorem execute_of_reliable {session : Session} {command : Command}
    (granted : session.refusal? command = none) {transcribed : Transcribed State}
    (reliable : Console.Reliable transcribed.console) :
    (session.execute command transcribed).error = none ∧
      (session.execute command transcribed).console.err = transcribed.err := by
  let entries := session.commandEntry command ::
    (session.perform command).events.map Reader.Event.entry
  rw [refusal?] at granted
  rw [execute, ← (transcribed.recordAll_told entries).2]
  cases replies : (session.perform command).reply with
  | error error =>
      rw [replies] at granted
      cases granted
  | ok reply =>
      have recorded := Transcribed.steady_reliable_console.recordAll reliable entries
      exact deliver_of_reliable recorded reply

theorem dispatch_of_reliable (session : Session) (line : String)
    {transcribed : Transcribed State} (reliable : Console.Reliable transcribed.console) :
    (session.dispatch line transcribed).failure = none ∧
      (session.dispatch line transcribed).console.err =
        transcribed.err ++ complaintAbout (session.fault? line) := by
  cases faulty : session.fault? line with
  | some error =>
      rcases exists_dispatch_of_fault faulty transcribed with ⟨entries, complained⟩
      have recorded := Transcribed.steady_reliable_console.recordAll reliable entries
      rw [complained]
      refine ⟨(Transcribed.steady_reliable_console.complain recorded _).1, ?_⟩
      exact congrArg (· ++ error.complaint) (transcribed.recordAll_told entries).2
  | none =>
      rw [fault?] at faulty
      rw [dispatch, complaintAbout, String.append_empty]
      cases reads : Command.parse line with
      | error rejection =>
          rw [reads] at faulty
          cases faulty
      | ok command =>
          rw [reads] at faulty
          cases command with
          | none => exact ⟨rfl, rfl⟩
          | some command =>
              have executed := session.execute_of_reliable (Option.map_eq_none_iff.mp faulty) reliable
              dsimp only
              rw [settle, executed.1]
              exact ⟨rfl, executed.2⟩

theorem executeLine_of_reliable (session : Session) (line : String)
    {transcribed : Transcribed State} (reliable : Console.Reliable transcribed.console) :
    (session.executeLine line transcribed).failure = none ∧
      (session.executeLine line transcribed).console.err =
        transcribed.err ++ session.complaintTo line := by
  rw [complaintTo]
  cases means : session.lineMeant? line with
  | none =>
      rw [executeLine_of_lineMeant_none means]
      exact ⟨rfl, String.append_empty.symm⟩
  | some meant =>
      have dispatched := dispatch_of_reliable { session with lastLine := some meant } meant reliable
      rwa [fault?_of_lastLine, ← executeLine_of_lineMeant means] at dispatched

/-! ## Rejected lines -/

/-- The line is no command, or executing its command fails for a place outside the trace. -/
inductive Rejects (session : Session) (line : String) (console : State) : CommandError → Prop
  | unread {rejection : Command.Rejection} (fails : Command.parse line = .error rejection) :
      Rejects session line console (.rejected rejection)
  | refused {command : Command} {error : OutOfBounds}
      (reads : Command.parse line = .ok (some command))
      (fails : (session.execute command console).error = some (.outOfBounds error)) :
      Rejects session line console (.outOfBounds error)

theorem of_deliver_fails {console : State} {reply : Reply} {error : CommandError}
    (fails : (deliver console reply).2 = some error) :
    ∃ failure, error = .document failure ∨ error = .stream failure := by
  have ofFlush {result : State × Option Failure}
      (fails : result.2.map CommandError.stream = some error) :
      ∃ failure, error = .document failure ∨ error = .stream failure := by
    rcases Option.map_eq_some_iff.mp fails with ⟨failure, _, rfl⟩
    exact ⟨failure, .inr rfl⟩
  cases reply with
  | texts texts => exact ofFlush fails
  | document text =>
      rw [deliver] at fails
      rcases printed : Console.print console text with ⟨next, _ | failure⟩ <;> rw [printed] at fails
      · exact ofFlush fails
      · exact ⟨failure, .inl (Option.some.inj fails).symm⟩

theorem refusal_of_execute {session : Session} {command : Command} {console : State}
    {error : OutOfBounds}
    (fails : (session.execute command console).error = some (.outOfBounds error)) :
    session.refusal? command = some error := by
  rw [execute] at fails
  rw [refusal?]
  cases replies : (session.perform command).reply with
  | ok reply =>
      rw [replies] at fails
      rcases of_deliver_fails fails with ⟨failure, equal | equal⟩ <;> cases equal
  | error other =>
      rw [replies] at fails
      cases fails
      rfl

theorem fault_of_rejects {session : Session} {line : String} {console : State}
    {error : CommandError} (rejects : session.Rejects line console error) :
    session.fault? line = some error := by
  cases rejects with
  | unread fails => rw [fault?, fails]
  | refused reads fails =>
      rw [fault?, reads]
      exact congrArg (Option.map CommandError.outOfBounds) (refusal_of_execute fails)

def lineTranscript (session : Session) (line : String) (console : State) : Transcribed State :=
  (session.executeLine line ({ console } : Transcribed State)).console

theorem complaint_of_known {error : CommandError}
    (known : ∀ name, error ≠ .rejected (.unknown name)) :
    error.complaint = "Error: " ++ error.message ++ "\n" := by
  cases error with
  | rejected rejection =>
      cases rejection with
      | unknown name => exact absurd rfl (known name)
      | unclosedQuote | arity | malformed => rfl
  | outOfBounds | document | stream => rfl

/-- A line that is rejected is complained about and remembered, and nothing else comes of it, as long
as the complaint itself does not fail. Nothing is printed. -/
theorem executeLine_of_rejects {session : Session} {line : String} {console : State}
    {error : CommandError} (filled : ¬ Blank.isBlankText line)
    (rejects : session.Rejects line console error) (heard : Console.TakesComplaints console) :
    let outcome := session.executeLine line console
    let told := session.lineTranscript line console
    outcome.failure = none ∧
      outcome.session = { session with lastLine := some line } ∧
      told.out = "" ∧
      (∀ name, error = .rejected (.unknown name) →
        told.err = "Command " ++ name ++ " not found" ++ "\n") ∧
      ((∀ name, error ≠ .rejected (.unknown name)) →
        told.err = "Error: " ++ error.message ++ "\n") := by
  intro outcome told
  have means := session.lineMeant?_of_not_blank filled
  have faulty : { session with lastLine := some line }.fault? line = some error := by
    rw [fault?_of_lastLine, fault_of_rejects rejects]
  have complains : outcome.failure = none ∧
      outcome.session = { session with lastLine := some line } := by
    rcases exists_dispatch_of_fault faulty console with ⟨entries, complained⟩
    rw [show outcome = _ from (executeLine_of_lineMeant means console).trans complained]
    exact ⟨heard.complain_recordAll entries _, rfl⟩
  have tells : told.out = "" ∧ told.err = error.complaint := by
    let silent : Transcribed State := { console }
    rcases exists_dispatch_of_fault faulty silent with ⟨entries, complained⟩
    have recorded := silent.recordAll_told entries
    have executed := (executeLine_of_lineMeant means silent).trans complained
    rw [show told = _ from congrArg Outcome.console executed]
    exact ⟨recorded.1, congrArg (· ++ error.complaint) recorded.2⟩
  refine ⟨complains.1, complains.2, tells.1, ?_, ?_⟩
  · rintro name rfl
    exact tells.2
  · intro known
    rw [tells.2, complaint_of_known known]

theorem executeLine_of_rejects_bogus_and_hex :
    let session := Session.new (Trace.ofBytes #[0, 65, 72]) {}
    let console : BoundedConsole := { out := { room := some 0, refusesFlush := true } }
    let unknown : CommandError := .rejected (.unknown "bogus")
    let outside : CommandError := .outOfBounds { offset := 20, size := 3 }
    session.Rejects "bogus 1" console unknown ∧ session.Rejects "hex 20 1" console outside ∧
      Console.TakesComplaints console ∧
      (session.executeLine "bogus 1" console).session =
        { session with lastLine := some "bogus 1" } ∧
      (session.lineTranscript "bogus 1" console).err = "Command bogus not found\n" ∧
      (session.executeLine "hex 20 1" console).session =
        { session with lastLine := some "hex 20 1" } ∧
      (session.lineTranscript "hex 20 1" console).err =
        "Error: offset 20 is outside the trace (3 bytes)\n" := by
  intro session console unknown outside
  have heard : Console.TakesComplaints console :=
    ⟨_, BoundedConsole.attentive_unlimited, rfl⟩
  have rejectsUnknown : session.Rejects "bogus 1" console unknown := by
    have words : Words.split "bogus 1" = some ["bogus", "1"] := by decide +kernel
    apply Rejects.unread
    rw [Command.parse, words]
    rfl
  have rejectsOutside : session.Rejects "hex 20 1" console outside := by
    let window : Window := { start := some 20, count := some 1 }
    have words : Words.split "hex 20 1" = some ["hex", "20", "1"] := by decide +kernel
    have reads : Command.parse "hex 20 1" = .ok (some (.hex window)) := by
      rw [Command.parse, words]
      rfl
    exact .refused reads (by decide +kernel)
  have complainsUnknown := executeLine_of_rejects (by decide +kernel) rejectsUnknown heard
  have complainsOutside := executeLine_of_rejects (by decide +kernel) rejectsOutside heard
  refine ⟨rejectsUnknown, rejectsOutside, heard, complainsUnknown.2.1, ?_, complainsOutside.2.1, ?_⟩
  · rw [complainsUnknown.2.2.2.1 "bogus" rfl]
    decide +kernel
  · rw [complainsOutside.2.2.2.2 (fun name => by simp [outside])]
    decide +kernel

end Session

end OpcodeTrace
