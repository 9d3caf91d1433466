import OpcodeTrace.Console.Basic

/-! Consoles that can't be told apart by any operation. -/

namespace OpcodeTrace.Console

variable {Left Right Result : Type}

inductive Agree (related : Left → Right → Prop) : Left × Result → Right × Result → Prop
  | intro {left : Left} {right : Right} (similar : related left right) (result : Result) :
      Agree related (left, result) (right, result)

section

variable {related : Left → Right → Prop} {left : Left × Result} {right : Right × Result}

theorem Agree.of_eq (similar : related left.1 right.1) (same : left.2 = right.2) :
    Agree related left right := by
  rcases left with ⟨left, result⟩
  rcases right with ⟨right, other⟩
  cases (show result = other from same)
  exact .intro similar result

theorem Agree.similar (agree : Agree related left right) : related left.1 right.1 := by
  cases agree
  assumption

theorem Agree.same (agree : Agree related left right) : left.2 = right.2 := by
  cases agree
  rfl

end

variable [Console Left] [Console Right]

/-- A relation that every operation keeps, with the same failures on both sides. -/
structure Simulation (related : Left → Right → Prop) : Prop where
  print : ∀ {left right}, related left right → ∀ text,
    Agree related (Console.print left text) (Console.print right text)
  flush : ∀ {left right}, related left right →
    Agree related (Console.flush left) (Console.flush right)
  complain : ∀ {left right}, related left right → ∀ text,
    Agree related (Console.complain left text) (Console.complain right text)
  record : ∀ {left right}, related left right → ∀ entry,
    related (Console.record left entry) (Console.record right entry)

namespace Simulation

variable {related : Left → Right → Prop}

theorem printAll (simulation : Simulation related) {left : Left} {right : Right}
    (similar : related left right) (texts : List String) :
    Agree related (Console.printAll left texts) (Console.printAll right texts) := by
  induction texts generalizing left right with
  | nil => exact .intro similar none
  | cons text texts induction =>
      have agree := simulation.print similar text
      rw [Console.printAll, Console.printAll]
      generalize Console.print left text = leftPrinted at agree ⊢
      generalize Console.print right text = rightPrinted at agree ⊢
      rcases agree with ⟨next, _ | failure⟩
      · exact induction next
      · exact .intro next _

theorem printAndFlush (simulation : Simulation related) {left : Left} {right : Right}
    (similar : related left right) (texts : List String) :
    Agree related (Console.printAndFlush left texts) (Console.printAndFlush right texts) := by
  have agree := simulation.printAll similar texts
  rw [Console.printAndFlush, Console.printAndFlush]
  generalize Console.printAll left texts = leftPrinted at agree ⊢
  generalize Console.printAll right texts = rightPrinted at agree ⊢
  rcases agree with ⟨next, _ | failure⟩
  · exact simulation.flush next
  · exact .intro next _

theorem recordAll (simulation : Simulation related) {left : Left} {right : Right}
    (similar : related left right) (entries : List Log.Entry) :
    related (Console.recordAll left entries) (Console.recordAll right entries) := by
  induction entries generalizing left right with
  | nil => exact similar
  | cons entry entries induction => exact induction (simulation.record similar entry)

end Simulation

end OpcodeTrace.Console
