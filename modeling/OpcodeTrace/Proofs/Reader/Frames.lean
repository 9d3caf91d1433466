import OpcodeTrace.Proofs.Reader.Operation

/-! What frames show, leave and tell. -/

namespace OpcodeTrace.Reader

variable {Answer : Type}

/-- What inspections show if each question is put to a copy of the reader of its own. The copy
stands `here`, or on the target of the innermost frame that is open. -/
def seenFrom (reader : Reader) (here : UInt64) : List (Inspection Answer) → List (Finding Answer)
  | [] => []
  | .ask question :: later =>
      .answer here (question (reader.jump here)) :: reader.seenFrom here later
  | .within target inner :: later =>
      .within here here (reader.seenFrom target inner) :: reader.seenFrom here later

def pushedEntry (saved target : UInt64) : Log.Entry where
  level := .trace
  source := "trace_reader::frame"
  message := s!"Pushed IP frame {saved} -> {target}"

def poppedEntry (saved : UInt64) : Log.Entry where
  level := .trace
  source := "trace_reader::frame"
  message := s!"Popped IP frame, restoring {saved}"

/-- What inspections that start `here` tell the log. Questions tell nothing, whatever is asked and
whatever comes of it. -/
def told (here : UInt64) : List (Inspection Answer) → List Log.Entry
  | [] => []
  | .ask _ :: later => told here later
  | .within target inner :: later =>
      pushedEntry here target :: told target inner ++ poppedEntry here :: told here later

/-- The log is a balanced sequence of brackets, told while the reader stands `here`. -/
inductive Bracketed : UInt64 → List Log.Entry → Prop
  | nothing (here : UInt64) : Bracketed here []
  | frame {here target : UInt64} {inner later : List Log.Entry}
      (inside : Bracketed target inner) (rest : Bracketed here later) :
      Bracketed here (pushedEntry here target :: inner ++ poppedEntry here :: later)

theorem bracketed_told (here : UInt64) (inspections : List (Inspection Answer)) :
    Bracketed here (told here inspections) := by
  fun_induction told here inspections with
  | case1 here => exact .nothing here
  | case2 here question later induction => exact induction
  | case3 here target inner later innerInduction induction =>
      exact .frame innerInduction induction

theorem pop_of_inspect (reader : Reader) (here target : UInt64)
    (inner : List (Inspection Answer)) :
    let frame := (reader.jump here).pushFrame target
    { frame with reader := (frame.reader.inspect inner).reader }.pop = reader.jump here := by
  intro frame
  rw [inspect_reader]
  rfl

theorem inspect_findings (reader : Reader) (here : UInt64)
    (inspections : List (Inspection Answer)) :
    ((reader.jump here).inspect inspections).findings = reader.seenFrom here inspections := by
  fun_induction seenFrom reader here inspections with
  | case1 here => rw [inspect]
  | case2 here question later induction =>
      rw [inspect]
      dsimp only
      rw [induction]
      rfl
  | case3 here target inner later innerInduction induction =>
      have popped := reader.pop_of_inspect here target inner
      rw [inspect]
      dsimp only at popped ⊢
      rw [popped, induction]
      exact congrArg (fun found => Finding.within here here found :: _) innerInduction

theorem inspect_told (reader : Reader) (here : UInt64) (inspections : List (Inspection Answer)) :
    ((reader.jump here).inspect inspections).events.map Event.entry = told here inspections := by
  fun_induction told here inspections with
  | case1 here => rw [inspect, List.map_nil]
  | case2 here question later induction =>
      rw [inspect]
      exact induction
  | case3 here target inner later innerInduction induction =>
      have popped := reader.pop_of_inspect here target inner
      have insideTold : (((reader.jump here).pushFrame target).reader.inspect inner).events.map
          Event.entry = told target inner := innerInduction
      rw [inspect]
      dsimp only at popped ⊢
      rw [popped]
      simp only [List.map_append, List.map_cons, insideTold, induction,
        List.append_assoc, List.singleton_append]
      rfl

/-- Frames and questions in any tree answer as copies of the reader do, leave the reader as it was
and tell the log of each frame: when it is pushed, what is told inside it, when it is popped. -/
theorem inspect_seenFrom (reader : Reader) (inspections : List (Inspection Answer)) :
    let inspected := reader.inspect inspections
    let log := inspected.events.map Event.entry
    inspected.findings = reader.seenFrom reader.ip inspections ∧
      inspected.reader = reader ∧
      log = told reader.ip inspections ∧
      Bracketed reader.ip log := by
  intro inspected log
  have findings := reader.inspect_findings reader.ip inspections
  have entries : log = told reader.ip inspections := reader.inspect_told reader.ip inspections
  have balanced : Bracketed reader.ip log := entries ▸ bracketed_told reader.ip inspections
  exact ⟨findings, reader.inspect_reader inspections, entries, balanced⟩

/-- Behind the trace, and in a frame inside that frame, back on its first byte. -/
theorem inspect_seenFrom_of_nested_frames :
    let reader := (Reader.new (Trace.ofBytes #[0, 1])).jump 1
    let inspections : List (Inspection (Except OutOfBounds Opcode)) :=
      [.within 5 [.ask current, .within 0 [.ask current], .ask current], .ask current]
    let inspected := reader.inspect inspections
    inspected.findings =
        [.within 1 1
          [.answer 5 (.error { offset := 5, size := 2 }),
            .within 5 5 [.answer 0 (.ok ⟨0⟩)],
            .answer 5 (.error { offset := 5, size := 2 })],
          .answer 1 (.ok ⟨1⟩)] ∧
      inspected.reader = reader ∧
      (inspected.events.map Event.entry).map Log.Entry.render =
        ["TRACE trace_reader::frame: Pushed IP frame 1 -> 5",
          "TRACE trace_reader::frame: Pushed IP frame 5 -> 0",
          "TRACE trace_reader::frame: Popped IP frame, restoring 5",
          "TRACE trace_reader::frame: Popped IP frame, restoring 1"] := by
  intro reader inspections inspected
  obtain ⟨findings, same, entries, -⟩ := inspect_seenFrom reader inspections
  refine ⟨findings.trans ?_, same, (congrArg (List.map Log.Entry.render) entries).trans ?_⟩
  · simp only [inspections, seenFrom]
    rfl
  · simp only [inspections, told]
    decide +kernel

end OpcodeTrace.Reader
