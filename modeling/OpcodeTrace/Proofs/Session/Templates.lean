import OpcodeTrace.Proofs.Session.Faults
import OpcodeTrace.Proofs.Session.Joining

/-! The templates of a session and the length of its listings are seen in its answers alone. -/

namespace OpcodeTrace.Session

variable {Left Right : Type}

/-- The sessions differ in their templates and in the length of their listings at most. -/
structure Alike (left right : Session) : Prop where
  reader : left.reader = right.reader
  lastLine : left.lastLine = right.lastLine
  running : left.running = right.running

namespace Alike

variable {left right : Session}

/-! ## Commands -/

theorem performChange (alike : left.Alike right)
    {leftChange rightChange : Except OutOfBounds Reader} (same : leftChange = rightChange) :
    (left.performChange leftChange).session.Alike (right.performChange rightChange).session := by
  subst same
  cases leftChange with
  | ok reader => exact ⟨rfl, alike.lastLine, alike.running⟩
  | error error => exact alike

theorem performRun (alike : left.Alike right) {leftRun rightRun : Reader.Run}
    (same : leftRun = rightRun) :
    (left.performRun leftRun).session.Alike (right.performRun rightRun).session :=
  ⟨congrArg Reader.Run.reader same, alike.lastLine, alike.running⟩

theorem perform (alike : left.Alike right) (command : Command) :
    (left.perform command).session.Alike (right.perform command).session := by
  have sameReader := alike.reader
  cases command with
  | step => exact alike.performRun (congrArg Reader.step sameReader)
  | resume => exact alike.performRun (congrArg Reader.resume sameReader)
  | finish => exact alike.performRun (congrArg Reader.runToReturn sameReader)
  | counts json => cases json <;> exact alike
  | setBreakpoint offset => exact alike.performChange (congrArg (·.setBreakpoint offset) sameReader)
  | clearBreakpoint offset =>
      exact alike.performChange (congrArg (·.clearBreakpoint offset) sameReader)
  | jump target => exact alike.performChange (congrArg (Except.ok <| ·.jump target) sameReader)
  | reset => exact alike.performChange (congrArg (Except.ok <| ·.reset) sameReader)
  | disassemble window =>
      rw [perform_disassemble_session, perform_disassemble_session]
      exact alike
  | info template =>
      cases template with
      | none => exact alike
      | some template => exact ⟨alike.reader, alike.lastLine, alike.running⟩
  | prompt template => exact ⟨alike.reader, alike.lastLine, alike.running⟩
  | quit => exact ⟨alike.reader, alike.lastLine, rfl⟩
  | breakpoints | raw | hex | help => exact alike

theorem refusal? (alike : left.Alike right) (command : Command) :
    left.refusal? command = right.refusal? command := by
  rw [refusal?_eq, refusal?_eq, alike.reader]

/-! ## Lines -/

theorem fault? (alike : left.Alike right) (line : String) :
    left.fault? line = right.fault? line := by
  simp only [Session.fault?, alike.refusal?]

theorem lineMeant? (alike : left.Alike right) (line : String) :
    left.lineMeant? line = right.lineMeant? line := by
  rw [Session.lineMeant?, Session.lineMeant?, alike.lastLine]

theorem commandMeant? (alike : left.Alike right) (line : String) :
    left.commandMeant? line = right.commandMeant? line := by
  rw [Session.commandMeant?, Session.commandMeant?, alike.lineMeant?]

theorem complaintTo (alike : left.Alike right) (line : String) :
    left.complaintTo line = right.complaintTo line := by
  rw [Session.complaintTo, Session.complaintTo, alike.lineMeant?, funext alike.fault?]

theorem remember (alike : left.Alike right) {leftLast rightLast : Option String}
    (same : leftLast = rightLast) :
    Alike { left with lastLine := leftLast } { right with lastLine := rightLast } :=
  ⟨alike.reader, same, alike.running⟩

theorem executeLine_session [Console Left] [Console Right] (alike : left.Alike right)
    (line : String) (leftConsole : Left) (rightConsole : Right) :
    (left.executeLine line leftConsole).session.Alike
      (right.executeLine line rightConsole).session := by
  have remembers := alike.remember (alike.lineMeant? line)
  rw [Session.executeLine_session, Session.executeLine_session, ← alike.commandMeant?]
  cases left.commandMeant? line with
  | none => exact remembers
  | some command => exact remembers.perform command

end Alike

/-! ## Consoles that never fail -/

variable [Console Left] [Console Right]

structure SameComplaints (left : Transcribed Left) (right : Transcribed Right) : Prop where
  leftReliable : Console.Reliable left.console
  rightReliable : Console.Reliable right.console
  err : left.err = right.err

structure Outcome.Alike (left : Outcome (Transcribed Left)) (right : Outcome (Transcribed Right)) :
    Prop where
  session : left.session.Alike right.session
  console : SameComplaints left.console right.console
  failure : left.failure = right.failure

theorem reliable_executeLine (session : Session) (line : String) {transcribed : Transcribed Left}
    (reliable : Console.Reliable transcribed.console) :
    Console.Reliable (session.executeLine line transcribed).console.console := by
  have continues : Transcribed.Continues "" "" transcribed transcribed :=
    ⟨reliable, reliable, String.empty_append.symm, String.empty_append.symm⟩
  have agree := (Transcribed.simulation_continues "" "").executeLine continues session line
  exact agree.console.leftReliable

variable {left right : Session} {leftConsole : Transcribed Left} {rightConsole : Transcribed Right}

theorem Alike.executeLine (alike : left.Alike right)
    (same : SameComplaints leftConsole rightConsole) (line : String) :
    Outcome.Alike (left.executeLine line leftConsole) (right.executeLine line rightConsole) := by
  have leftExecuted := left.executeLine_of_reliable line same.leftReliable
  have rightExecuted := right.executeLine_of_reliable line same.rightReliable
  constructor
  · exact alike.executeLine_session line leftConsole rightConsole
  · refine ⟨reliable_executeLine _ _ same.leftReliable,
      reliable_executeLine _ _ same.rightReliable, ?_⟩
    rw [leftExecuted.2, rightExecuted.2, same.err, alike.complaintTo]
  · exact leftExecuted.1.trans rightExecuted.1.symm

theorem SameComplaints.showPrompt (same : SameComplaints leftConsole rightConsole)
    (left right : Session) :
    SameComplaints (left.showPrompt leftConsole).1 (right.showPrompt rightConsole).1 ∧
      (left.showPrompt leftConsole).2 = (right.showPrompt rightConsole).2 := by
  have leftShown := Transcribed.steady_reliable_console.printAndFlush same.leftReliable
    [left.reader.format left.prompt]
  have rightShown := Transcribed.steady_reliable_console.printAndFlush same.rightReliable
    [right.reader.format right.prompt]
  refine ⟨⟨leftShown.2, rightShown.2, ?_⟩, leftShown.1.trans rightShown.1.symm⟩
  exact (leftConsole.printAndFlush_err _).trans
    (same.err.trans (rightConsole.printAndFlush_err _).symm)

namespace Outcome.Alike

variable {left : Outcome (Transcribed Left)} {right : Outcome (Transcribed Right)}

theorem goesOn (alike : left.Alike right) : left.goesOn = right.goesOn := by
  rw [Outcome.goesOn, Outcome.goesOn, alike.failure, alike.session.running]

theorem andThen (alike : left.Alike right)
    {first : Session → Transcribed Left → Outcome (Transcribed Left)}
    {second : Session → Transcribed Right → Outcome (Transcribed Right)}
    (next : ∀ {left right leftConsole rightConsole}, Session.Alike left right →
      SameComplaints leftConsole rightConsole →
        Outcome.Alike (first left leftConsole) (second right rightConsole)) :
    (left.andThen first).Alike (right.andThen second) := by
  rw [Outcome.andThen, Outcome.andThen, alike.goesOn]
  split
  · exact next alike.session alike.console
  · exact alike

theorem prompted (alike : left.Alike right) : left.prompted.Alike right.prompted :=
  alike.andThen fun sessions same =>
    have shown := same.showPrompt _ _
    ⟨sessions, shown.1, shown.2⟩

theorem closed (alike : left.Alike right) : left.closed.Alike right.closed :=
  alike.andThen fun sessions same => ⟨⟨sessions.reader, sessions.lastLine, rfl⟩, same, rfl⟩

end Outcome.Alike

namespace Alike

theorem runLine (alike : left.Alike right) (same : SameComplaints leftConsole rightConsole)
    (line : List UInt8) :
    Outcome.Alike (left.runLine leftConsole line) (right.runLine rightConsole line) := by
  cases reads : Lines.text? line with
  | none =>
      rw [runLine_of_undecodable _ _ reads, runLine_of_undecodable _ _ reads]
      exact ⟨alike, same, rfl⟩
  | some text =>
      rw [runLine_of_text _ _ reads, runLine_of_text _ _ reads]
      exact (alike.executeLine same text).prompted

theorem through (alike : left.Alike right) (same : SameComplaints leftConsole rightConsole)
    (lines : List (List UInt8)) :
    Outcome.Alike (left.through leftConsole lines) (right.through rightConsole lines) := by
  induction lines generalizing left right leftConsole rightConsole with
  | nil => exact ⟨alike, same, rfl⟩
  | cons line lines induction =>
      exact (alike.runLine same line).andThen induction

theorem reach (alike : left.Alike right) (same : SameComplaints leftConsole rightConsole)
    (input : List UInt8) :
    Outcome.Alike (left.reach input leftConsole) (right.reach input rightConsole) := by
  have started : Outcome.Alike (left.start leftConsole) (right.start rightConsole) := by
    rw [start_eq_prompted, start_eq_prompted]
    exact Outcome.Alike.prompted ⟨⟨alike.reader, alike.lastLine, rfl⟩, same, rfl⟩
  exact started.andThen fun alike same => alike.through same _

theorem run (alike : left.Alike right) (same : SameComplaints leftConsole rightConsole)
    (input : List UInt8) :
    Outcome.Alike (left.run input leftConsole) (right.run input rightConsole) := by
  rw [run_eq_closed, run_eq_closed]
  exact (alike.reach same input).closed

end Alike

/-- On reliable consoles, runs of one input from sessions that differ in their templates and in the
length of their listings at most lead to such sessions again, end alike and complain alike. -/
theorem run_alike (alike : left.Alike right) (input : List UInt8) {first : Left} {second : Right}
    (firstReliable : Console.Reliable first) (secondReliable : Console.Reliable second) :
    (left.run input first).session.reader = (right.run input second).session.reader ∧
      (left.run input first).session.lastLine = (right.run input second).session.lastLine ∧
      (left.run input first).session.running = (right.run input second).session.running ∧
      (left.run input first).failure = (right.run input second).failure ∧
      (left.transcript input first).err = (right.transcript input second).err := by
  have silent : SameComplaints ({ console := first } : Transcribed Left)
      ({ console := second } : Transcribed Right) :=
    ⟨firstReliable, secondReliable, rfl⟩
  have told := alike.run silent input
  have sessions := told.session
  have failures := told.failure
  rw [(left.agree_transcribed input first).session,
    (right.agree_transcribed input second).session] at sessions
  rw [(left.agree_transcribed input first).failure,
    (right.agree_transcribed input second).failure] at failures
  exact ⟨sessions.reader, sessions.lastLine, sessions.running, failures, told.console.err⟩

/-- The script steps, sets a template, prints a listing twice, and is complained about twice. -/
theorem run_alike_of_listing_script :
    let trace := Trace.ofBytes #[0, 65, 72]
    let left := Session.new trace {}
    let right := Session.new trace { prompt := "[ip]>", info := "", defaultCount := 1 }
    let console : BoundedConsole := {}
    let input := "s\nhex 20\nprompt '>'\ndis\n\nbogus\n".toUTF8.toList
    left.Alike right ∧ Console.Reliable console ∧
      (left.transcript input console).out ≠ (right.transcript input console).out ∧
      (left.run input console).session.reader = (right.run input console).session.reader ∧
      (left.run input console).session.lastLine = (right.run input console).session.lastLine ∧
      (left.run input console).session.running = (right.run input console).session.running ∧
      (left.run input console).failure = (right.run input console).failure ∧
      (left.transcript input console).err = (right.transcript input console).err := by
  intro trace left right console input
  have alike : left.Alike right := ⟨rfl, rfl, rfl⟩
  have reliable : Console.Reliable console :=
    ⟨_, BoundedConsole.steady_unlimited, rfl, rfl, rfl⟩
  have answersDiffer :
      (left.transcript input console).out ≠ (right.transcript input console).out := by
    decide +kernel
  exact ⟨alike, reliable, answersDiffer, run_alike alike input reliable reliable⟩

end OpcodeTrace.Session
