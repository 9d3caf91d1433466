import OpcodeTrace.Console.Bounded
import OpcodeTrace.Proofs.Console.Watched
import OpcodeTrace.Proofs.Session.Line

/-! A failure of a stream ends a session, and what is wrong with a command does not. A JSON
document that a stream fails to take counts as both. -/

namespace OpcodeTrace

def CommandError.failure? : CommandError → Option Failure
  | rejected _ => none
  | outOfBounds _ => none
  | document failure => some failure
  | stream failure => some failure

/-- The failure of a stream behind an error that is complained about. -/
def CommandError.lost? : CommandError → Option Failure
  | document failure => some failure
  | _ => none

theorem Reader.counted_new (trace : Trace) : (Reader.new trace).counted = [] := by
  rw [counted, List.filterMap_eq_nil_iff]
  intro value _
  exact if_pos (Vector.getElem_replicate _)

namespace Session

variable {State : Type}

def Executed.watchedFrom (executed : Executed State) (watched : Watched State) :
    Executed (Watched State) where
  session := executed.session
  console := watched.note (executed.error.bind CommandError.failure?) executed.console
  error := executed.error

/-- What a line gives on a watched console if it gives `outcome` on the console itself and a failure
has been lost before. -/
def Outcome.watchedFrom (outcome : Outcome State) (watched : Watched State)
    (lost : Option Failure) : Outcome (Watched State) where
  session := outcome.session
  console :=
    { console := outcome.console
      failures := watched.failures ++ lost.toList ++ outcome.failure.toList }
  failure := outcome.failure

def Outcome.unwatched (outcome : Outcome (Watched State)) : Outcome State where
  session := outcome.session
  console := outcome.console.console
  failure := outcome.failure

theorem idle_watchedFrom (session : Session) (watched : Watched State) :
    ({ session, console := watched.console, failure := none } : Outcome State).watchedFrom
      watched none = { session, console := watched, failure := none } := by
  have same : (watched.note none watched.console).note none watched.console = watched := by
    rw [Watched.note_none_note, Watched.note_none]
  exact congrArg (Outcome.mk session · none) same

variable [Console State]

/-- Prints the JSON document of the counts, after the command for it has been recorded. -/
def printDocument (session : Session) (console : State) : State × Option Failure :=
  Console.print (Console.record console (session.commandEntry (.counts true)))
    (Reader.countsDocument session.reader.counted)

def documentFailure? (session : Session) (command : Option Command) (console : State) :
    Option Failure :=
  if command = some (.counts true) then (session.printDocument console).2 else none

/-- A line asks for a JSON document that the stream for answers fails to take, and the other stream
takes the complaint about it. -/
def SwallowsFailure (session : Session) (line : String) (console : State) : Prop :=
  ∃ failure,
    session.documentFailure? (session.commandMeant? line) console = some failure ∧
    (Console.complain (session.printDocument console).1
      (CommandError.document failure).complaint).2 = none

def failuresAt (session : Session) (line : String) (console : State) : List Failure :=
  (session.executeLine line ({ console } : Watched State)).console.failures

def Surfaces (session : Session) (line : String) (console : State) : Prop :=
  session.failuresAt line console ≠ [] ↔ (session.executeLine line console).failure.isSome

/-! ## What a watched console notes -/

theorem deliver_watched (watched : Watched State) (reply : Reply) :
    deliver watched reply =
      let (console, error) := deliver watched.console reply
      (watched.note (error.bind CommandError.failure?) console, error) := by
  cases reply with
  | texts texts =>
      rw [deliver, deliver, watched.printAndFlush_eq_noting]
      rcases Console.printAndFlush watched.console texts with ⟨console, _ | failure⟩
      · rfl
      · rfl
  | document text =>
      rw [deliver, deliver, watched.print_eq_noting]
      rcases Console.print watched.console text with ⟨console, _ | failure⟩
      · dsimp only [Watched.noting]
        rw [Watched.printAndFlush_eq_noting, Watched.note_console, Watched.noting,
          Watched.note_none_note]
        rcases Console.printAndFlush console ["\n"] with ⟨next, _ | failure⟩
        · rfl
        · rfl
      · rfl

theorem execute_watched (session : Session) (command : Command) (watched : Watched State) :
    session.execute command watched =
      (session.execute command watched.console).watchedFrom watched := by
  rw [execute, execute, Watched.recordAll_eq_note]
  cases (session.perform command).reply with
  | ok reply =>
      dsimp only
      rw [deliver_watched]
      dsimp only
      rw [Watched.note_none_note]
      rfl
  | error error => rfl

theorem settle_watched (executed : Executed State) (watched : Watched State) :
    settle (executed.watchedFrom watched) =
      (settle executed).watchedFrom watched (executed.error.bind CommandError.lost?) := by
  rcases executed with ⟨session, console, _ | error⟩
  · exact congrArg (Outcome.mk session · none) (watched.note_none_note none console console).symm
  · cases error with
    | rejected rejection => rfl
    | outOfBounds error => rfl
    | document failure => rfl
    | stream failure =>
        exact congrArg (Outcome.mk session · (some failure))
          (watched.note_none_note (some failure) console console).symm

/-! ## The failure that is lost -/

theorem texts_of_perform {session : Session} {command : Command} {reply : Reply}
    (other : command ≠ .counts true) (answers : (session.perform command).reply = .ok reply) :
    ∃ texts, reply = .texts texts := by
  have ofMap {Value : Type} {result : Except OutOfBounds Value} {texts : Value → List String}
      (mapped : (result.map fun value => Reply.texts (texts value)) = .ok reply) :
      ∃ texts, reply = .texts texts := by
    cases result with
    | ok value => exact ⟨texts value, (Except.ok.inj mapped).symm⟩
    | error error => cases mapped
  have ofChange {change : Except OutOfBounds Reader}
      (changed : (session.performChange change).reply = .ok reply) :
      ∃ texts, reply = .texts texts := by
    cases change with
    | ok reader => exact ⟨[], (Except.ok.inj changed).symm⟩
    | error error => cases changed
  cases command with
  | counts json =>
      cases json with
      | false => exact ⟨_, (Except.ok.inj answers).symm⟩
      | true => exact absurd rfl other
  | setBreakpoint offset => exact ofChange answers
  | clearBreakpoint offset => exact ofChange answers
  | disassemble window =>
      dsimp only [perform] at answers
      split at answers
      · exact ⟨_, (Except.ok.inj answers).symm⟩
      · cases answers
  | raw window => exact ofMap answers
  | hex window => exact ofMap answers
  | info template =>
      cases template with
      | none => exact ⟨_, (Except.ok.inj answers).symm⟩
      | some template => exact ⟨_, (Except.ok.inj answers).symm⟩
  | _ => exact ⟨_, (Except.ok.inj answers).symm⟩

theorem lost?_map_stream (failure : Option Failure) :
    (failure.map CommandError.stream).bind CommandError.lost? = none := by
  cases failure with
  | none => rfl
  | some failure => rfl

theorem lost?_deliver_document (console : State) (text : String) :
    (deliver console (.document text)).2.bind CommandError.lost? =
      (Console.print console text).2 := by
  rw [deliver]
  rcases Console.print console text with ⟨console, _ | failure⟩
  · exact lost?_map_stream _
  · rfl

theorem lost?_execute (session : Session) (command : Command) (console : State) :
    (session.execute command console).error.bind CommandError.lost? =
      session.documentFailure? (some command) console := by
  by_cases asks : command = .counts true
  · subst asks
    rw [documentFailure?, if_pos rfl]
    exact lost?_deliver_document _ _
  · rw [documentFailure?, if_neg fun same => asks (Option.some.inj same), execute]
    cases answers : (session.perform command).reply with
    | ok reply =>
        rcases texts_of_perform asks answers with ⟨texts, rfl⟩
        exact lost?_map_stream _
    | error error => rfl

/-! ## Lines -/

theorem dispatch_watched (session : Session) (line : String) (watched : Watched State) :
    session.dispatch line watched =
      (session.dispatch line watched.console).watchedFrom watched
        (session.documentFailure? (Command.parse line).toOption.join watched.console) := by
  rw [dispatch, dispatch]
  cases Command.parse line with
  | ok command =>
      cases command with
      | none =>
          exact (session.idle_watchedFrom watched).symm
      | some command =>
          dsimp only
          rw [execute_watched, settle_watched, lost?_execute]
          rfl
  | error rejection =>
      have settled := settle_watched
        { session, console := watched.console, error := some (.rejected rejection) } watched
      rw [Executed.watchedFrom, Option.bind_some, CommandError.failure?, Watched.note_none]
        at settled
      exact settled

theorem executeLine_watched (session : Session) (line : String) (watched : Watched State) :
    session.executeLine line watched =
      (session.executeLine line watched.console).watchedFrom watched
        (session.documentFailure? (session.commandMeant? line) watched.console) := by
  rw [executeLine, executeLine, commandMeant?, lineMeant?]
  by_cases blank : Blank.isBlankText line
  · rw [if_pos blank, if_pos blank, if_pos blank]
    cases session.lastLine with
    | none => exact (session.idle_watchedFrom watched).symm
    | some last => exact session.dispatch_watched last watched
  · rw [if_neg blank, if_neg blank, if_neg blank]
    exact dispatch_watched { session with lastLine := some line } line watched

theorem deliver_document_of_failure {console : State} {text : String} {failure : Failure}
    (fails : (Console.print console text).2 = some failure) :
    deliver console (.document text) =
      ((Console.print console text).1, some (.document failure)) := by
  rw [deliver]
  rcases printed : Console.print console text with ⟨next, result⟩
  rw [printed] at fails
  cases (show result = some failure from fails)
  rfl

theorem execute_counts_of_failure {session : Session} {console : State} {failure : Failure}
    (fails : (session.printDocument console).2 = some failure) :
    session.execute (.counts true) console =
      { session
        console := (session.printDocument console).1
        error := some (.document failure) } := by
  have delivered := deliver_document_of_failure fails
  exact congrArg (fun result : State × Option CommandError =>
    ({ session, console := result.1, error := result.2 } : Executed State)) delivered

theorem failure_of_documentFailure {session : Session} {line : String} {console : State}
    {failure : Failure}
    (fails : session.documentFailure? (session.commandMeant? line) console = some failure) :
    (session.executeLine line console).failure =
      (Console.complain (session.printDocument console).1
        (CommandError.document failure).complaint).2 := by
  rw [documentFailure?] at fails
  split at fails
  · next meant =>
      let entered := { session with lastLine := session.lineMeant? line }
      have executed : entered.execute (.counts true) console =
          { session := entered
            console := (session.printDocument console).1
            error := some (.document failure) } := execute_counts_of_failure fails
      rw [executeLine_of_commandMeant meant, executed]
      rfl
  · cases fails

/-! ## Which failures surface -/

theorem failuresAt_eq (session : Session) (line : String) (console : State) :
    session.failuresAt line console =
      (session.documentFailure? (session.commandMeant? line) console).toList ++
        (session.executeLine line console).failure.toList := by
  rw [failuresAt, executeLine_watched]
  rfl

theorem surfaces_iff_not_swallowsFailure (session : Session) (line : String) (console : State) :
    session.Surfaces line console ↔ ¬ session.SwallowsFailure line console := by
  rw [Surfaces, failuresAt_eq]
  cases fails : session.documentFailure? (session.commandMeant? line) console with
  | none =>
      have keeps : ¬ session.SwallowsFailure line console := by
        rintro ⟨failure, swallowed, _⟩
        rw [fails] at swallowed
        cases swallowed
      cases (session.executeLine line console).failure with
      | none => simp [keeps]
      | some failure => simp [keeps]
  | some failure =>
      have complains := failure_of_documentFailure fails
      constructor
      · rintro surfaces ⟨other, swallowed, taken⟩
        rw [fails] at swallowed
        cases swallowed
        rw [complains, taken] at surfaces
        simp at surfaces
      · intro keeps
        rw [complains]
        cases taken : (Console.complain (session.printDocument console).1
          (CommandError.document failure).complaint).2 with
        | none =>
            apply absurd _ keeps
            exact ⟨failure, fails, taken⟩
        | some next => simp

theorem runLine_of_failure {session : Session} {line : String} {console : State}
    {bytes : List UInt8} (reads : Lines.text? bytes = some line)
    (fails : (session.executeLine line console).failure.isSome) :
    session.runLine console bytes = session.executeLine line console := by
  rw [runLine, reads]
  dsimp only
  rcases executed : session.executeLine line console with ⟨next, left, _ | failure⟩
  · rw [executed] at fails
    cases fails
  · rfl

theorem runLines_of_failure {session : Session} {line : String} {console : State}
    {bytes : List UInt8} (reads : Lines.text? bytes = some line)
    (fails : (session.executeLine line console).failure.isSome) (lines : List (List UInt8)) :
    session.runLines console (bytes :: lines) = session.executeLine line console := by
  have ends : (session.executeLine line console).failure.isNone = false := by
    rw [← Option.not_isSome, fails]
    rfl
  rw [runLines, runLine_of_failure reads fails, ends, Bool.false_and]
  rfl

/-- Watching changes nothing. A line fails exactly if a stream fails meanwhile, unless it swallows
the failure at a document. It fails with a failure of a stream, and a run ends there. -/
theorem surfaces_iff (session : Session) (line : String) (console : State) :
    (session.executeLine line ({ console } : Watched State)).unwatched =
      session.executeLine line console ∧
    (session.Surfaces line console ↔ ¬ session.SwallowsFailure line console) ∧
    (∀ failure, (session.executeLine line console).failure = some failure →
      failure ∈ session.failuresAt line console) ∧
    (∀ bytes lines, Lines.text? bytes = some line →
      (session.executeLine line console).failure.isSome →
      session.runLines console (bytes :: lines) = session.executeLine line console) := by
  refine ⟨?_, session.surfaces_iff_not_swallowsFailure line console, ?_, ?_⟩
  · rw [executeLine_watched]
    rfl
  · intro failure fails
    rw [failuresAt_eq, fails]
    exact List.mem_append_right _ (List.mem_singleton.mpr rfl)
  · intro bytes lines reads fails
    exact runLines_of_failure reads fails lines

theorem document_swallowed_on_full_stream :
    let session := Session.new (Trace.ofBytes #[0]) {}
    let console : BoundedConsole := { out := { room := some 0 } }
    session.failuresAt "counts json" console = [.full] ∧
      (session.executeLine "counts json" console).failure = none ∧
      ¬ session.Surfaces "counts json" console := by
  intro session console
  have meant : session.commandMeant? "counts json" = some (.counts true) := by decide +kernel
  have fails :
      session.documentFailure? (session.commandMeant? "counts json") console = some .full := by
    have empty : session.reader.counted = [] := Reader.counted_new _
    rw [meant, documentFailure?, if_pos rfl, printDocument, empty]
    rfl
  have kept : (session.executeLine "counts json" console).failure = none := by
    rw [failure_of_documentFailure fails]
    rfl
  have noted : session.failuresAt "counts json" console = [.full] := by
    rw [failuresAt_eq, fails, kept]
    rfl
  refine ⟨noted, kept, ?_⟩
  intro surfaces
  rw [Surfaces, noted, kept] at surfaces
  have passed := surfaces.mp (List.cons_ne_nil _ _)
  cases passed

end Session

end OpcodeTrace
