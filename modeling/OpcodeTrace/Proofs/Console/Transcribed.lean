import OpcodeTrace.Console.Bounded
import OpcodeTrace.Proofs.Console.Simulation

/-! Consoles on which nothing fails, and consoles that keep what they are told. To a session,
consoles that never fail are all alike. -/

namespace OpcodeTrace

variable {State : Type} [Console State]

namespace Console

/-- A condition under which no operation fails, and which every operation keeps. -/
structure Steady (condition : State → Prop) : Prop where
  print : ∀ {console}, condition console → ∀ text,
    (Console.print console text).2 = none ∧ condition (Console.print console text).1
  flush : ∀ {console}, condition console →
    (Console.flush console).2 = none ∧ condition (Console.flush console).1
  complain : ∀ {console}, condition console → ∀ text,
    (Console.complain console text).2 = none ∧ condition (Console.complain console text).1
  record : ∀ {console}, condition console → ∀ entry, condition (Console.record console entry)

/-- No operation on the console fails, whatever is done on it before. -/
def Reliable (console : State) : Prop :=
  ∃ condition : State → Prop, Steady condition ∧ condition console

theorem steady_reliable : Steady fun console : State => Reliable console where
  print := by
    rintro console ⟨condition, steady, holds⟩ text
    have printed := steady.print holds text
    exact ⟨printed.1, condition, steady, printed.2⟩
  flush := by
    rintro console ⟨condition, steady, holds⟩
    have flushed := steady.flush holds
    exact ⟨flushed.1, condition, steady, flushed.2⟩
  complain := by
    rintro console ⟨condition, steady, holds⟩ text
    have complained := steady.complain holds text
    exact ⟨complained.1, condition, steady, complained.2⟩
  record := by
    rintro console ⟨condition, steady, holds⟩ entry
    exact ⟨condition, steady, steady.record holds entry⟩

theorem Steady.printAll {condition : State → Prop} (steady : Steady condition) {console : State}
    (holds : condition console) (texts : List String) :
    (Console.printAll console texts).2 = none ∧ condition (Console.printAll console texts).1 := by
  induction texts generalizing console with
  | nil => exact ⟨rfl, holds⟩
  | cons text texts induction =>
      have printed := steady.print holds text
      rw [Console.printAll]
      generalize Console.print console text = result at printed ⊢
      rcases result with ⟨next, _ | failure⟩
      · exact induction printed.2
      · cases printed.1

theorem Steady.printAndFlush {condition : State → Prop} (steady : Steady condition)
    {console : State} (holds : condition console) (texts : List String) :
    (Console.printAndFlush console texts).2 = none ∧
      condition (Console.printAndFlush console texts).1 := by
  have printed := steady.printAll holds texts
  rw [Console.printAndFlush]
  generalize Console.printAll console texts = result at printed ⊢
  rcases result with ⟨next, _ | failure⟩
  · exact steady.flush printed.2
  · cases printed.1

theorem Steady.recordAll {condition : State → Prop} (steady : Steady condition) {console : State}
    (holds : condition console) (entries : List Log.Entry) :
    condition (Console.recordAll console entries) := by
  induction entries generalizing console with
  | nil => exact holds
  | cons entry entries induction => exact induction (steady.record holds entry)

/-- A condition under which no complaint fails, and which every operation keeps. The stream for answers
may fail. -/
structure Attentive (condition : State → Prop) : Prop where
  print : ∀ {console}, condition console → ∀ text, condition (Console.print console text).1
  flush : ∀ {console}, condition console → condition (Console.flush console).1
  complain : ∀ {console}, condition console → ∀ text,
    (Console.complain console text).2 = none ∧ condition (Console.complain console text).1
  record : ∀ {console}, condition console → ∀ entry, condition (Console.record console entry)

def TakesComplaints (console : State) : Prop :=
  ∃ condition : State → Prop, Attentive condition ∧ condition console

theorem TakesComplaints.complain_recordAll {console : State} (heard : TakesComplaints console)
    (entries : List Log.Entry) (text : String) :
    (Console.complain (Console.recordAll console entries) text).2 = none := by
  rcases heard with ⟨condition, attentive, holds⟩
  induction entries generalizing console with
  | nil => exact (attentive.complain holds text).1
  | cons entry entries induction => exact induction (attentive.record holds entry)

end Console

/-- Two streams that take everything, and of which the first one can be flushed. -/
def BoundedConsole.Unlimited (console : BoundedConsole) : Prop :=
  console.out.room = none ∧ console.out.refusesFlush = false ∧ console.err.room = none

theorem BoundedConsole.steady_unlimited : Console.Steady BoundedConsole.Unlimited where
  print := by
    rintro ⟨⟨taken, room, refuses⟩, err, log⟩ ⟨rfl, rfl, errRoom⟩ text
    exact ⟨rfl, rfl, rfl, errRoom⟩
  flush := by
    rintro ⟨⟨taken, room, refuses⟩, err, log⟩ ⟨rfl, rfl, errRoom⟩
    exact ⟨rfl, rfl, rfl, errRoom⟩
  complain := by
    rintro ⟨out, ⟨taken, room, refuses⟩, log⟩ ⟨outRoom, accepts, rfl⟩ text
    exact ⟨rfl, outRoom, accepts, rfl⟩
  record := by
    rintro console unlimited entry
    exact unlimited

theorem BoundedConsole.attentive_unlimited :
    Console.Attentive fun console : BoundedConsole => console.err.room = none where
  print := fun unlimited _ => unlimited
  flush := fun unlimited => unlimited
  complain := by
    rintro ⟨out, ⟨taken, room, refuses⟩, log⟩ rfl text
    exact ⟨rfl, rfl⟩
  record := fun unlimited _ => unlimited

structure Transcribed (State : Type) where
  console : State
  out : String := ""
  err : String := ""

namespace Transcribed

instance : Console (Transcribed State) where
  print transcribed text :=
    let (console, failure) := Console.print transcribed.console text
    ({ transcribed with console, out := transcribed.out ++ text }, failure)
  flush transcribed :=
    let (console, failure) := Console.flush transcribed.console
    ({ transcribed with console }, failure)
  complain transcribed text :=
    let (console, failure) := Console.complain transcribed.console text
    ({ transcribed with console, err := transcribed.err ++ text }, failure)
  record transcribed entry :=
    { transcribed with console := Console.record transcribed.console entry }

theorem simulation_console :
    Console.Simulation fun (transcribed : Transcribed State) console =>
      transcribed.console = console where
  print := by
    rintro transcribed _ rfl text
    exact .of_eq rfl rfl
  flush := by
    rintro transcribed _ rfl
    exact .of_eq rfl rfl
  complain := by
    rintro transcribed _ rfl text
    exact .of_eq rfl rfl
  record := by
    rintro transcribed _ rfl entry
    rfl

/-- One transcript is the other one behind some earlier texts, and both consoles are reliable. -/
structure Continues (out err : String) (left right : Transcribed State) : Prop where
  leftReliable : Console.Reliable left.console
  rightReliable : Console.Reliable right.console
  out : left.out = out ++ right.out
  err : left.err = err ++ right.err

/-- What is said next on reliable consoles depends neither on them nor on what has been said. -/
theorem simulation_continues (out err : String) :
    Console.Simulation fun left right : Transcribed State => Continues out err left right where
  print := by
    intro left right continues text
    have leftPrinted := Console.steady_reliable.print continues.leftReliable text
    have rightPrinted := Console.steady_reliable.print continues.rightReliable text
    apply Console.Agree.of_eq
    · refine ⟨leftPrinted.2, rightPrinted.2, ?_, continues.err⟩
      change left.out ++ text = out ++ (right.out ++ text)
      rw [continues.out, String.append_assoc]
    · exact leftPrinted.1.trans rightPrinted.1.symm
  flush := by
    intro left right continues
    have leftFlushed := Console.steady_reliable.flush continues.leftReliable
    have rightFlushed := Console.steady_reliable.flush continues.rightReliable
    apply Console.Agree.of_eq
    · exact ⟨leftFlushed.2, rightFlushed.2, continues.out, continues.err⟩
    · exact leftFlushed.1.trans rightFlushed.1.symm
  complain := by
    intro left right continues text
    have leftComplained := Console.steady_reliable.complain continues.leftReliable text
    have rightComplained := Console.steady_reliable.complain continues.rightReliable text
    apply Console.Agree.of_eq
    · refine ⟨leftComplained.2, rightComplained.2, continues.out, ?_⟩
      change left.err ++ text = err ++ (right.err ++ text)
      rw [continues.err, String.append_assoc]
    · exact leftComplained.1.trans rightComplained.1.symm
  record := by
    intro left right continues entry
    exact ⟨Console.steady_reliable.record continues.leftReliable entry,
      Console.steady_reliable.record continues.rightReliable entry, continues.out, continues.err⟩

theorem steady_reliable_console :
    Console.Steady fun transcribed : Transcribed State =>
      Console.Reliable transcribed.console where
  print := Console.steady_reliable.print
  flush := Console.steady_reliable.flush
  complain := Console.steady_reliable.complain
  record := Console.steady_reliable.record

theorem exists_printAndFlush_eq {transcribed : Transcribed State} {text : String}
    (succeeds : (Console.printAndFlush transcribed [text]).2 = none) :
    ∃ console, (Console.printAndFlush transcribed [text]).1 =
      { transcribed with console, out := transcribed.out ++ text } := by
  rw [Console.printAndFlush, Console.printAll] at succeeds ⊢
  rcases printed : Console.print transcribed text with ⟨next, _ | failure⟩
  · have told : { transcribed with
        console := (Console.print transcribed.console text).1
        out := transcribed.out ++ text } = next :=
      congrArg Prod.fst printed
    subst told
    exact ⟨_, rfl⟩
  · rw [printed] at succeeds
    cases succeeds

/-! ## What answers and entries leave alone -/

theorem printAll_err (transcribed : Transcribed State) (texts : List String) :
    (Console.printAll transcribed texts).1.err = transcribed.err := by
  induction texts generalizing transcribed with
  | nil => rfl
  | cons text texts induction =>
      have kept : (Console.print transcribed text).1.err = transcribed.err := rfl
      rw [Console.printAll, ← kept]
      rcases Console.print transcribed text with ⟨next, _ | failure⟩
      · exact induction next
      · rfl

theorem printAndFlush_err (transcribed : Transcribed State) (texts : List String) :
    (Console.printAndFlush transcribed texts).1.err = transcribed.err := by
  rw [Console.printAndFlush, ← transcribed.printAll_err texts]
  rcases Console.printAll transcribed texts with ⟨next, _ | failure⟩
  · rfl
  · rfl

theorem recordAll_told (transcribed : Transcribed State) (entries : List Log.Entry) :
    (Console.recordAll transcribed entries).out = transcribed.out ∧
      (Console.recordAll transcribed entries).err = transcribed.err := by
  induction entries generalizing transcribed with
  | nil => exact ⟨rfl, rfl⟩
  | cons entry entries induction => exact induction (Console.record transcribed entry)

end Transcribed

end OpcodeTrace
