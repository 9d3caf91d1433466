import OpcodeTrace.Proofs.Console.Transcribed
import OpcodeTrace.Proofs.Session.Quitting
import OpcodeTrace.Proofs.Session.Simulation

/-! An input can be given in two parts, as long as the seam is not within a line. Between the
parts the prompt is shown once more. -/

namespace OpcodeTrace.Session

variable {State : Type} [Console State]

/-! ## The prompt at the seam -/

def Outcome.AtPrompt (outcome : Outcome (Transcribed State)) : Prop :=
  ∃ before, outcome.console.out =
    before ++ outcome.session.reader.format outcome.session.prompt

theorem exists_showPrompt_eq {session : Session} {console : Transcribed State}
    (succeeds : (session.showPrompt console).2 = none) :
    ∃ left, (session.showPrompt console).1 =
      { console with
        console := left
        out := console.out ++ session.reader.format session.prompt } :=
  Transcribed.exists_printAndFlush_eq succeeds

theorem Outcome.atPrompt_prompted {outcome : Outcome (Transcribed State)}
    (goesOn : outcome.prompted.goesOn) : outcome.prompted.AtPrompt := by
  by_cases continues : outcome.goesOn
  · rw [prompted_of_goesOn continues] at goesOn ⊢
    rcases exists_showPrompt_eq ((goesOn_iff _).mp goesOn).1 with ⟨left, shown⟩
    refine ⟨outcome.console.out, ?_⟩
    rw [shown]
  · rw [prompted_of_ended continues] at goesOn
    exact absurd goesOn continues

theorem through_atPrompt {session : Session} {console : Transcribed State}
    {lines : List (List UInt8)}
    (begins : Outcome.AtPrompt { session, console, failure := none })
    (goesOn : (session.through console lines).goesOn) :
    (session.through console lines).AtPrompt := by
  induction lines generalizing session console with
  | nil => exact begins
  | cons line lines induction =>
      -- Whatever a line prints, the prompt for the next one comes last.
      rw [through] at goesOn ⊢
      by_cases continues : (session.runLine console line).goesOn
      · rw [Outcome.andThen_of_goesOn continues] at goesOn ⊢
        rcases text_of_goesOn continues with ⟨text, reads⟩
        apply induction _ goesOn
        rw [session.runLine_of_text console reads] at continues ⊢
        exact Outcome.atPrompt_prompted continues
      · rw [Outcome.andThen_of_ended continues] at goesOn
        exact absurd goesOn continues

theorem reach_atPrompt {session : Session} {input : List UInt8} {console : Transcribed State}
    (goesOn : (session.reach input console).goesOn) :
    (session.reach input console).AtPrompt := by
  rw [reach] at goesOn ⊢
  by_cases continues : (session.start console).goesOn
  · rw [Outcome.andThen_of_goesOn continues] at goesOn ⊢
    apply through_atPrompt _ goesOn
    rw [start_eq_prompted] at continues ⊢
    exact Outcome.atPrompt_prompted continues
  · rw [Outcome.andThen_of_ended continues] at goesOn
    exact absurd goesOn continues

/-! ## Going on in a second run -/

def transcript (session : Session) (input : List UInt8) (console : State) : Transcribed State :=
  (session.run input ({ console } : Transcribed State)).console

theorem exists_run_eq (session : Session) (input : List UInt8) {console : State}
    (reliable : Console.Reliable console) :
    ∃ shown, Console.Reliable shown ∧
      session.run input ({ console } : Transcribed State) =
        { session with running := true }.runLines
          { console := shown, out := session.reader.format session.prompt }
          (Lines.split input) := by
  let begins : Transcribed State := { console }
  have steady : (session.showPrompt begins).2 = none ∧
      Console.Reliable (session.showPrompt begins).1.console :=
    Transcribed.steady_reliable_console.printAndFlush reliable _
  rcases exists_showPrompt_eq steady.1 with ⟨shown, equal⟩
  have goesOn : (session.start begins).goesOn :=
    (goesOn_start_iff session begins).mpr steady.1
  refine ⟨shown, ?_, ?_⟩
  · rw [equal] at steady
    exact steady.2
  · rw [run_eq, Outcome.andThen_of_goesOn goesOn, start_session, start_console, equal,
      String.empty_append]

theorem exists_transcript_out_eq (session : Session) (input : List UInt8) {console : State}
    (reliable : Console.Reliable console) :
    ∃ after, (session.transcript input console).out =
      session.reader.format session.prompt ++ after := by
  rcases session.exists_run_eq input reliable with ⟨shown, stays, runs⟩
  have continues : Transcribed.Continues (session.reader.format session.prompt) ""
      ({ console := shown, out := session.reader.format session.prompt } : Transcribed State)
      { console := shown } :=
    ⟨stays, stays, String.append_empty.symm, rfl⟩
  have agree := (Transcribed.simulation_continues _ _).runLines continues
    { session with running := true } (Lines.split input)
  rw [transcript, runs]
  exact ⟨_, agree.console.out⟩

theorem continues_run {reached : Outcome (Transcribed State)} {before : String}
    (goesOn : reached.goesOn) (reliable : Console.Reliable reached.console.console)
    (prompted : reached.console.out =
      before ++ reached.session.reader.format reached.session.prompt)
    (input : List UInt8) {later : State} (laterReliable : Console.Reliable later) :
    Outcome.Agree (Transcribed.Continues before reached.console.err)
      (reached.session.runLines reached.console (Lines.split input))
      (reached.closed.session.run input ({ console := later } : Transcribed State)) := by
  have running := ((Outcome.goesOn_iff _).mp goesOn).2
  rcases reached.closed.session.exists_run_eq input laterReliable with ⟨shown, stays, runs⟩
  have again : { reached.closed.session with running := true } = reached.session := by
    rw [Outcome.closed, Outcome.andThen_of_goesOn goesOn, ← running]
  have samePrompt : reached.closed.session.reader.format reached.closed.session.prompt =
      reached.session.reader.format reached.session.prompt := by
    rw [← again]
  rw [runs, again, samePrompt]
  -- From here on both execute the same lines, on transcripts that differ by `before` alone.
  apply (Transcribed.simulation_continues before reached.console.err).runLines
  exact ⟨reliable, stays, prompted, String.append_empty.symm⟩

/-! ## The whole and its parts -/

theorem reliable_reach (session : Session) (input : List UInt8) {console : State}
    (reliable : Console.Reliable console) :
    Console.Reliable
      (session.reach input ({ console } : Transcribed State)).console.console := by
  have continues : Transcribed.Continues "" "" ({ console } : Transcribed State) { console } :=
    ⟨reliable, reliable, rfl, rfl⟩
  have agree := (Transcribed.simulation_continues "" "").reach continues session input
  exact agree.console.leftReliable

theorem agree_transcribed (session : Session) (input : List UInt8) (console : State) :
    Outcome.Agree (fun (transcribed : Transcribed State) console => transcribed.console = console)
      (session.run input ({ console } : Transcribed State)) (session.run input console) :=
  Transcribed.simulation_console.run rfl session input

theorem goesOn_reach_eq {session : Session} {input : List UInt8} {console : State}
    (succeeds : (session.run input console).failure = none) :
    (session.reach input console).goesOn = !session.quits input console := by
  rw [run_eq_closed, Outcome.closed_failure] at succeeds
  simp [Outcome.goesOn, succeeds, reach_running]

theorem run_append_of_ended {session : Session} {first : List UInt8}
    (seam : first = [] ∨ Lines.Ended first) (second : List UInt8) {console : State}
    (ended : ¬ (session.reach first console).goesOn) :
    session.run (first ++ second) console = session.run first console := by
  rw [run_append session seam, Outcome.andThen_of_ended ended, run_eq_closed, Outcome.closed,
    Outcome.andThen_of_ended ended]

theorem exists_continues_run_append {session : Session} {first : List UInt8}
    (seam : first = [] ∨ Lines.Ended first) (second : List UInt8) {console later : State}
    (reliable : Console.Reliable console) (laterReliable : Console.Reliable later)
    (goesOn : (session.reach first ({ console } : Transcribed State)).goesOn) :
    let begun := session.run first ({ console } : Transcribed State)
    ∃ before,
      begun.console.out = before ++ begun.session.reader.format begun.session.prompt ∧
      Outcome.Agree (Transcribed.Continues before begun.console.err)
        (session.run (first ++ second) ({ console } : Transcribed State))
        (begun.session.run second ({ console := later } : Transcribed State)) := by
  intro begun
  have equal : begun = (session.reach first ({ console } : Transcribed State)).closed :=
    session.run_eq_closed first _
  rcases reach_atPrompt goesOn with ⟨before, prompted⟩
  have agree := continues_run goesOn (session.reliable_reach first reliable) prompted second
    laterReliable
  refine ⟨before, ?_, ?_⟩
  · rw [equal, Outcome.closed, Outcome.andThen_of_goesOn goesOn]
    exact prompted
  · rw [run_append session seam, Outcome.andThen_of_goesOn goesOn, equal, Outcome.closed_console]
    exact agree

/-- On reliable consoles, a run of a joined input is like a run of its first part and then of its
second part, but for the prompt between them. If the first part quits, it is like a run of that part
alone. -/
theorem run_joined (session : Session) {first : List UInt8}
    (seam : first = [] ∨ Lines.Ended first) (second : List UInt8) {console later : State}
    (reliable : Console.Reliable console) (laterReliable : Console.Reliable later)
    (succeeds : (session.run first console).failure = none) :
    let begun := session.run first console
    let ended := begun.session.run second later
    let whole := session.run (first ++ second) console
    let begunText := session.transcript first console
    let endedText := begun.session.transcript second later
    let wholeText := session.transcript (first ++ second) console
    let prompt := begun.session.reader.format begun.session.prompt
    (session.quits first console = false →
      whole.session = ended.session ∧
      whole.failure = ended.failure ∧
      wholeText.err = begunText.err ++ endedText.err ∧
      ∃ before after,
        begunText.out = before ++ prompt ∧
        endedText.out = prompt ++ after ∧
        wholeText.out = before ++ prompt ++ after) ∧
    (session.quits first console = true → whole = begun ∧ wholeText = begunText) := by
  intro begun ended whole begunText endedText wholeText prompt
  have goesOn := goesOn_reach_eq succeeds
  have toldGoesOn :
      (session.reach first ({ console } : Transcribed State)).goesOn =
        (session.reach first console).goesOn :=
    (Transcribed.simulation_console.reach rfl session first).goesOn
  constructor
  · intro stays
    rw [stays] at goesOn
    rcases exists_continues_run_append seam second reliable laterReliable
      (toldGoesOn.trans goesOn) with ⟨before, prompted, agree⟩
    rw [(session.agree_transcribed first console).session] at prompted agree
    rcases begun.session.exists_transcript_out_eq second laterReliable with ⟨after, shows⟩
    have wholeErased := session.agree_transcribed (first ++ second) console
    have endedErased := begun.session.agree_transcribed second later
    refine ⟨?_, ?_, agree.console.err, before, after, prompted, shows, ?_⟩
    · exact wholeErased.session.symm.trans (agree.session.trans endedErased.session)
    · exact wholeErased.failure.symm.trans (agree.failure.trans endedErased.failure)
    · have joined : wholeText.out = before ++ endedText.out := agree.console.out
      rw [joined, shows, String.append_assoc]
  · intro quit
    rw [quit] at goesOn
    have ended : ¬ (session.reach first console).goesOn := by simp [goesOn]
    have toldEnded : ¬ (session.reach first ({ console } : Transcribed State)).goesOn := by
      rwa [toldGoesOn]
    refine ⟨run_append_of_ended seam second ended, ?_⟩
    exact congrArg Outcome.console (run_append_of_ended seam second toldEnded)

/-- The second part starts with a blank line here, which repeats a line of the first part, and ends
with a byte that is no text. Behind the other first part, which quits, none of it is read. -/
theorem run_joined_of_step_and_of_quit :
    let session := Session.new (Trace.ofBytes #[0, 65, 72]) {}
    let console : BoundedConsole := {}
    let stepped := "bogus\ns\n".toUTF8.toList
    let quitting := "s\nq\n".toUTF8.toList
    let second := "\n".toUTF8.toList ++ [255]
    let begun := session.run stepped console
    let ended := begun.session.run second console
    let whole := session.run (stepped ++ second) console
    let begunText := session.transcript stepped console
    let endedText := begun.session.transcript second console
    let wholeText := session.transcript (stepped ++ second) console
    let prompt := begun.session.reader.format begun.session.prompt
    Console.Reliable console ∧
      (Lines.Ended stepped ∧ begun.failure = none ∧ session.quits stepped console = false ∧
        whole.session = ended.session ∧
        whole.failure = ended.failure ∧
        wholeText.err = begunText.err ++ endedText.err ∧
        ∃ before after,
          begunText.out = before ++ prompt ∧
          endedText.out = prompt ++ after ∧
          wholeText.out = before ++ prompt ++ after) ∧
      (Lines.Ended quitting ∧ (session.run quitting console).failure = none ∧
        session.quits quitting console = true ∧
        session.run (quitting ++ second) console = session.run quitting console ∧
        session.transcript (quitting ++ second) console = session.transcript quitting console) := by
  intro session console stepped quitting second begun ended whole begunText endedText wholeText
    prompt
  have reliable : Console.Reliable console :=
    ⟨_, BoundedConsole.steady_unlimited, rfl, rfl, rfl⟩
  have endedStepped : Lines.Ended stepped := by
    rw [Lines.Ended]
    decide +kernel
  have endedQuitting : Lines.Ended quitting := by
    rw [Lines.Ended]
    decide +kernel
  have succeedsStepped : begun.failure = none := by decide +kernel
  have succeedsQuitting : (session.run quitting console).failure = none := by decide +kernel
  have stays : session.quits stepped console = false := by decide +kernel
  have quits : session.quits quitting console = true := by decide +kernel
  have joined := session.run_joined (.inr endedStepped) second reliable reliable succeedsStepped
  have hidden := session.run_joined (.inr endedQuitting) second reliable reliable succeedsQuitting
  exact ⟨reliable, ⟨endedStepped, succeedsStepped, stays, joined.1 stays⟩,
    endedQuitting, succeedsQuitting, quits, hidden.2 quits⟩

end OpcodeTrace.Session
