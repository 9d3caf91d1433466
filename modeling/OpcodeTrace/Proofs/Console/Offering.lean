import OpcodeTrace.Console.Bounded

/-! What a bounded stream takes of all that it is offered. It makes no difference whether it is
offered the whole at once or in pieces. -/

namespace OpcodeTrace

namespace BoundedStream

def offer (stream : BoundedStream) (bytes : Array UInt8) : BoundedStream :=
  match stream.room with
  | none => { stream with taken := stream.taken ++ bytes }
  | some room =>
      { stream with
        taken := stream.taken ++ bytes.extract 0 room
        room := some (room - bytes.size) }

theorem write_fst (stream : BoundedStream) (text : String) :
    (stream.write text).1 = stream.offer text.toUTF8.data := by
  rcases stream with ⟨taken, _ | room, refuses⟩
  · rfl
  · rfl

theorem room_of_write_fails {stream : BoundedStream} {text : String} {failure : Failure}
    (fails : (stream.write text).2 = some failure) : (stream.write text).1.room = some 0 := by
  rcases stream with ⟨taken, _ | room, refuses⟩
  · cases fails
  · rw [write] at fails ⊢
    dsimp only at fails ⊢
    split at fails
    · cases fails
    · next exceeds => rw [Nat.sub_eq_zero_of_le (Nat.le_of_not_le exceeds)]

@[simp] theorem offer_empty (stream : BoundedStream) : stream.offer #[] = stream := by
  rcases stream with ⟨taken, _ | room, refuses⟩
  · simp [offer]
  · simp [offer]

theorem offer_of_full {stream : BoundedStream} (full : stream.room = some 0)
    (bytes : Array UInt8) : stream.offer bytes = stream := by
  rcases stream with ⟨taken, room, refuses⟩
  cases full
  simp [offer]

theorem offer_append (stream : BoundedStream) (first second : Array UInt8) :
    stream.offer (first ++ second) = (stream.offer first).offer second := by
  rcases stream with ⟨taken, _ | room, refuses⟩
  · simp [offer]
  · simp [offer, Array.extract_append, Nat.sub_sub]

theorem offer_text_append (stream : BoundedStream) (first second : String) :
    stream.offer (first ++ second).toUTF8.data =
      (stream.offer first.toUTF8.data).offer second.toUTF8.data := by
  rw [← offer_append]
  simp

end BoundedStream

namespace BoundedConsole

theorem print_out (console : BoundedConsole) (text : String) :
    (Console.print console text).1.out = console.out.offer text.toUTF8.data :=
  console.out.write_fst text

theorem room_of_print_fails {console : BoundedConsole} {text : String} {failure : Failure}
    (fails : (Console.print console text).2 = some failure) :
    (Console.print console text).1.out.room = some 0 :=
  BoundedStream.room_of_write_fails fails

@[simp] theorem flush_out (console : BoundedConsole) :
    (Console.flush console).1.out = console.out := rfl

@[simp] theorem recordAll_out (console : BoundedConsole) (entries : List Log.Entry) :
    (Console.recordAll console entries).out = console.out := by
  induction entries generalizing console with
  | nil => rfl
  | cons entry entries induction => exact induction (Console.record console entry)

theorem printAll_out (console : BoundedConsole) (texts : List String) :
    (Console.printAll console texts).1.out =
      console.out.offer (String.join texts).toUTF8.data := by
  induction texts generalizing console with
  | nil => exact console.out.offer_empty.symm
  | cons text texts induction =>
      rw [Console.printAll, String.join_cons, BoundedStream.offer_text_append, ← print_out]
      rcases printed : Console.print console text with ⟨next, _ | failure⟩
      · exact induction next
      · -- The rest is not printed, and there is no room for it.
        have full : next.out.room = some 0 := by
          have fails : (Console.print console text).2 = some failure := by rw [printed]
          simpa only [printed] using room_of_print_fails fails
        exact (BoundedStream.offer_of_full full _).symm

theorem printAndFlush_out (console : BoundedConsole) (texts : List String) :
    (Console.printAndFlush console texts).1.out =
      console.out.offer (String.join texts).toUTF8.data := by
  rw [← printAll_out, Console.printAndFlush]
  rcases Console.printAll console texts with ⟨next, _ | failure⟩
  · exact next.flush_out
  · rfl

end BoundedConsole

end OpcodeTrace
