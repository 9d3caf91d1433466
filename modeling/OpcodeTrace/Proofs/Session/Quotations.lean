import OpcodeTrace.Proofs.Session.Answers
import OpcodeTrace.Proofs.Text.Quoted

/-! Templates are shown without loss. -/

namespace OpcodeTrace.Session

variable {State : Type} [Console State]

/-! ## Answers about templates -/

theorem answer_info_none (session : Session) :
    session.answer (.info none) = Quoted.quote session.info ++ "\n" :=
  String.empty_append

theorem answer_info_some (session : Session) (template : String) :
    session.answer (.info (some template)) =
      "info string set to " ++ Quoted.quote template ++ "\n" :=
  String.empty_append

theorem answer_prompt (session : Session) (template : String) :
    session.answer (.prompt template) = "prompt set to " ++ Quoted.quote template ++ "\n" :=
  String.empty_append

theorem info_execute_info (session : Session) (template : String) (console : State) :
    (session.execute (.info (some template)) console).session.info = template := by
  rw [execute_session]
  rfl

/-! ## Showing a template -/

/-- The template that is set is the one that is shown next, in one line, and it can be told from what
is printed. Setting it prints the same quotation. -/
theorem templates_shown (session : Session) (console : State) :
    let informed (template : String) := session.execute (.info (some template)) console
    let shown (template : String) :=
      (informed template).session.printed (.info none) (informed template).console
    (∀ template, (informed template).session.info = template) ∧
      (Console.Reliable console →
        (∀ template, ∃ quotation, Quoted.Shows quotation template ∧
          shown template = quotation ++ "\n" ∧
          session.printed (.info (some template)) console =
            "info string set to " ++ quotation ++ "\n" ∧
          session.printed (.prompt template) console = "prompt set to " ++ quotation ++ "\n") ∧
        Function.Injective shown) := by
  intro informed shown
  have set (template : String) : (informed template).session.info = template :=
    session.info_execute_info template console
  refine ⟨set, fun reliable => ?_⟩
  have shows (template : String) : shown template = Quoted.quote template ++ "\n" := by
    have still := session.execute_reliable (.info (some template)) reliable
    rw [← set template, ← answer_info_none]
    exact printed_of_reliable _ _ still
  refine ⟨fun template => ⟨Quoted.quote template, Quoted.shows_quote template, shows template, ?_, ?_⟩,
    ?_⟩
  · rw [printed_of_reliable _ _ reliable, answer_info_some]
  · rw [printed_of_reliable _ _ reliable, answer_prompt]
  · intro one other alike
    rw [shows, shows, String.append_left_inj] at alike
    exact (Quoted.shows_quote one).unique (alike ▸ Quoted.shows_quote other)

/-- The first template spells the escape of the second one, and they are shown apart. -/
theorem templates_shown_of_spelled_escape :
    let session := Session.new (Trace.ofBytes #[0]) {}
    let console : BoundedConsole := {}
    let informed (template : String) := session.execute (.info (some template)) console
    let shown (template : String) :=
      (informed template).session.printed (.info none) (informed template).console
    (informed "\\t\"").session.info = "\\t\"" ∧
      Quoted.Shows "\"\\\\t\\\"\"" "\\t\"" ∧
      shown "\\t\"" = "\"\\\\t\\\"\"\n" ∧
      shown "\\t\"" ≠ shown "\t\"" := by
  intro session console informed shown
  have reliable : Console.Reliable console := ⟨_, BoundedConsole.steady_unlimited, rfl, rfl, rfl⟩
  obtain ⟨set, told⟩ := session.templates_shown console
  obtain ⟨shows, injective⟩ := told reliable
  obtain ⟨quotation, spells, printed, _⟩ := shows "\\t\""
  have answer : shown "\\t\"" = "\"\\\\t\\\"\"\n" := by
    decide +kernel
  have same : quotation = "\"\\\\t\\\"\"" := by
    rw [← String.append_left_inj "\n", ← printed]
    exact answer.trans (by decide)
  refine ⟨set _, same ▸ spells, answer, fun alike => ?_⟩
  exact absurd (injective alike) (by decide)

end OpcodeTrace.Session
