import OpcodeTrace.Console.Basic

/-! Consoles that note the failures of their operations as they happen, so that no failure escapes
notice, whatever is made of it. -/

namespace OpcodeTrace

/-- A console and the failures of all its operations so far. -/
structure Watched (State : Type) where
  console : State
  failures : List Failure := []

namespace Watched

variable {State : Type}

def note (watched : Watched State) (failure : Option Failure) (console : State) : Watched State where
  console := console
  failures := watched.failures ++ failure.toList

/-- What an operation gives on a watched console if it gives `result` on the console itself. -/
def noting (watched : Watched State) (result : State × Option Failure) :
    Watched State × Option Failure :=
  (watched.note result.2 result.1, result.2)

@[simp] theorem note_console (watched : Watched State) (failure : Option Failure)
    (console : State) : (watched.note failure console).console = console := rfl

theorem note_none (watched : Watched State) (console : State) :
    watched.note none console = { watched with console } := by
  rw [note, Option.toList_none, List.append_nil]

theorem note_none_note (watched : Watched State) (failure : Option Failure)
    (console next : State) :
    (watched.note none console).note failure next = watched.note failure next := by
  rw [note_none]
  rfl

variable [Console State]

instance : Console (Watched State) where
  print watched text := watched.noting (Console.print watched.console text)
  flush watched := watched.noting (Console.flush watched.console)
  complain watched text := watched.noting (Console.complain watched.console text)
  record watched entry := watched.note none (Console.record watched.console entry)

/-! ## Several operations

Printing stops at the first failure and tells it, so no more than that one is noted. -/

theorem print_eq_noting (watched : Watched State) (text : String) :
    Console.print watched text = watched.noting (Console.print watched.console text) := rfl

theorem flush_eq_noting (watched : Watched State) :
    Console.flush watched = watched.noting (Console.flush watched.console) := rfl

theorem printAll_eq_noting (watched : Watched State) (texts : List String) :
    Console.printAll watched texts = watched.noting (Console.printAll watched.console texts) := by
  induction texts generalizing watched with
  | nil =>
      rw [Console.printAll, Console.printAll, noting, note_none]
  | cons text texts induction =>
      rw [Console.printAll, Console.printAll, print_eq_noting]
      rcases Console.print watched.console text with ⟨console, _ | failure⟩
      · have later := induction (watched.note none console)
        rw [noting, note_none_note] at later
        exact later
      · rfl

theorem printAndFlush_eq_noting (watched : Watched State) (texts : List String) :
    Console.printAndFlush watched texts =
      watched.noting (Console.printAndFlush watched.console texts) := by
  rw [Console.printAndFlush, Console.printAndFlush, printAll_eq_noting]
  rcases Console.printAll watched.console texts with ⟨console, _ | failure⟩
  · have flushed := (watched.note none console).flush_eq_noting
    rw [noting, note_none_note] at flushed
    exact flushed
  · rfl

theorem recordAll_eq_note (watched : Watched State) (entries : List Log.Entry) :
    Console.recordAll watched entries =
      watched.note none (Console.recordAll watched.console entries) := by
  induction entries generalizing watched with
  | nil => rw [note_none]; rfl
  | cons entry entries induction =>
      have later := induction (watched.note none (Console.record watched.console entry))
      rw [note_none_note] at later
      exact later

end Watched

end OpcodeTrace
