import OpcodeTrace.Session.Run

/-! The line that is meant by a line, and what becomes of a session that executes it. The console
decides only whether the answer arrives. -/

namespace OpcodeTrace.Session

variable {State : Type}

/-- The line that is executed for a line of the input. -/
def lineMeant? (session : Session) (line : String) : Option String :=
  if Blank.isBlankText line then session.lastLine else some line

def commandMeant? (session : Session) (line : String) : Option Command :=
  (session.lineMeant? line).bind fun meant => (Command.parse meant).toOption.join

theorem lineMeant?_of_blank (session : Session) {line : String} (blank : Blank.isBlankText line) :
    session.lineMeant? line = session.lastLine :=
  if_pos blank

theorem lineMeant?_of_not_blank (session : Session) {line : String}
    (filled : ¬ Blank.isBlankText line) : session.lineMeant? line = some line :=
  if_neg filled

theorem lineMeant?_of_lastLine {session : Session} {last : String}
    (remembers : session.lastLine = some last) : session.lineMeant? last = some last := by
  by_cases blank : Blank.isBlankText last
  · rw [session.lineMeant?_of_blank blank, remembers]
  · exact session.lineMeant?_of_not_blank blank

theorem lastLine_of_lineMeant_none {session : Session} {line : String}
    (means : session.lineMeant? line = none) : session.lastLine = none := by
  by_cases blank : Blank.isBlankText line
  · rw [← session.lineMeant?_of_blank blank, means]
  · rw [session.lineMeant?_of_not_blank blank] at means
    cases means

/-! ## What a command leaves alone -/

theorem perform_disassemble_session (session : Session) (window : Window) :
    (session.perform (.disassemble window)).session = session := by
  dsimp only [perform]
  split <;> rfl

theorem exists_perform_session_eq (session : Session) (command : Command) :
    ∃ reader prompt info, (session.perform command).session =
      { session with
        reader, prompt, info
        running := if command = .quit then false else session.running } := by
  have changes (change : Except OutOfBounds Reader) :
      ∃ reader, (session.performChange change).session = { session with reader } := by
    cases change with
    | ok reader => exact ⟨reader, rfl⟩
    | error => exact ⟨session.reader, rfl⟩
  cases command with
  | counts json => cases json <;> exact ⟨_, _, _, rfl⟩
  | setBreakpoint offset =>
      rcases changes (session.reader.setBreakpoint offset) with ⟨reader, equal⟩
      exact ⟨reader, _, _, equal⟩
  | clearBreakpoint offset =>
      rcases changes (session.reader.clearBreakpoint offset) with ⟨reader, equal⟩
      exact ⟨reader, _, _, equal⟩
  | disassemble window => exact ⟨_, _, _, session.perform_disassemble_session window⟩
  | info template => cases template <;> exact ⟨_, _, _, rfl⟩
  | step | resume | finish | breakpoints | jump | reset | raw | hex | prompt | help | quit =>
      exact ⟨_, _, _, rfl⟩

@[simp] theorem perform_lastLine (session : Session) (command : Command) :
    (session.perform command).session.lastLine = session.lastLine := by
  rcases session.exists_perform_session_eq command with ⟨reader, prompt, info, equal⟩
  rw [equal]

theorem perform_running (session : Session) (command : Command) :
    (session.perform command).session.running =
      if command = .quit then false else session.running := by
  rcases session.exists_perform_session_eq command with ⟨reader, prompt, info, equal⟩
  rw [equal]

theorem perform_of_lastLine (session : Session) (command : Command) (last : Option String) :
    { session with lastLine := last }.perform command =
      { session.perform command with
        session := { (session.perform command).session with lastLine := last } } := by
  have changes (change : Except OutOfBounds Reader) :
      { session with lastLine := last }.performChange change =
        { session.performChange change with
          session := { (session.performChange change).session with lastLine := last } } := by
    cases change <;> rfl
  cases command with
  | counts json => cases json <;> rfl
  | setBreakpoint offset => exact changes (session.reader.setBreakpoint offset)
  | clearBreakpoint offset => exact changes (session.reader.clearBreakpoint offset)
  | disassemble window =>
      have resolved : { session with lastLine := last }.resolve window = session.resolve window :=
        rfl
      dsimp only [perform]
      rw [resolved]
      cases session.reader.disassemble (session.resolve window).1 (session.resolve window).2 <;> rfl
  | info template => cases template <;> rfl
  | step | resume | finish | breakpoints | jump | reset | raw | hex | prompt | help | quit => rfl

/-! ## What becomes of the session -/

variable [Console State]

@[simp] theorem execute_session (session : Session) (command : Command) (console : State) :
    (session.execute command console).session = (session.perform command).session := by
  rw [execute]
  cases (session.perform command).reply <;> rfl

@[simp] theorem settle_session (executed : Executed State) :
    (settle executed).session = executed.session := by
  rcases executed with ⟨session, console, _ | error⟩
  · rfl
  · cases error <;> rfl

theorem dispatch_session (session : Session) (line : String) (console : State) :
    (session.dispatch line console).session =
      match (Command.parse line).toOption.join with
      | some command => (session.perform command).session
      | none => session := by
  rw [dispatch]
  cases Command.parse line with
  | error rejection => exact settle_session _
  | ok command =>
      cases command with
      | none => rfl
      | some command => exact (settle_session _).trans (session.execute_session command console)

/-! ## Executing the line that is meant -/

theorem executeLine_of_lineMeant_none {session : Session} {line : String}
    (means : session.lineMeant? line = none) (console : State) :
    session.executeLine line console = { session, console, failure := none } := by
  rw [lineMeant?] at means
  rw [executeLine]
  by_cases blank : Blank.isBlankText line
  · rw [if_pos blank] at means ⊢
    rw [means]
  · rw [if_neg blank] at means
    cases means

theorem executeLine_of_lineMeant {session : Session} {line meant : String}
    (means : session.lineMeant? line = some meant) (console : State) :
    session.executeLine line console =
      { session with lastLine := some meant }.dispatch meant console := by
  rw [lineMeant?] at means
  rw [executeLine]
  by_cases blank : Blank.isBlankText line
  · rw [if_pos blank] at means ⊢
    rw [means]
    exact congrArg (fun last => Session.dispatch { session with lastLine := last } meant console)
      means
  · rw [if_neg blank] at means ⊢
    rw [Option.some.inj means]

theorem executeLine_congr {session : Session} {first second : String}
    (same : session.lineMeant? first = session.lineMeant? second) (console : State) :
    session.executeLine first console = session.executeLine second console := by
  cases means : session.lineMeant? second with
  | none =>
      rw [executeLine_of_lineMeant_none means, executeLine_of_lineMeant_none (same.trans means)]
  | some meant =>
      rw [executeLine_of_lineMeant means, executeLine_of_lineMeant (same.trans means)]

theorem dispatch_of_parse {line : String} {command : Command}
    (parsed : (Command.parse line).toOption.join = some command) (session : Session)
    (console : State) : session.dispatch line console = settle (session.execute command console) := by
  rw [dispatch]
  cases read : Command.parse line with
  | error rejection =>
      rw [read] at parsed
      cases parsed
  | ok found =>
      rw [read] at parsed
      cases (show found = some command from parsed)
      rfl

theorem executeLine_of_commandMeant {session : Session} {line : String} {command : Command}
    (meant : session.commandMeant? line = some command) (console : State) :
    session.executeLine line console =
      settle ({ session with lastLine := session.lineMeant? line }.execute command console) := by
  rcases Option.bind_eq_some_iff.mp meant with ⟨text, means, parsed⟩
  rw [executeLine_of_lineMeant means, means]
  exact dispatch_of_parse parsed _ console

theorem executeLine_session (session : Session) (line : String) (console : State) :
    (session.executeLine line console).session =
      match session.commandMeant? line with
      | some command =>
          ({ session with lastLine := session.lineMeant? line }.perform command).session
      | none => { session with lastLine := session.lineMeant? line } := by
  rw [commandMeant?]
  cases means : session.lineMeant? line with
  | none =>
      have unchanged : session = { session with lastLine := none } := by
        rw [← lastLine_of_lineMeant_none means]
      rw [executeLine_of_lineMeant_none means]
      exact unchanged
  | some meant =>
      rw [executeLine_of_lineMeant means]
      exact dispatch_session _ meant console

@[simp] theorem executeLine_lastLine (session : Session) (line : String) (console : State) :
    (session.executeLine line console).session.lastLine = session.lineMeant? line := by
  rw [executeLine_session]
  split
  · exact perform_lastLine _ _
  · rfl

theorem executeLine_running (session : Session) (line : String) (console : State) :
    (session.executeLine line console).session.running =
      if session.commandMeant? line = some .quit then false else session.running := by
  rw [executeLine_session]
  cases session.commandMeant? line with
  | none => simp
  | some command => simp [perform_running]

end OpcodeTrace.Session
