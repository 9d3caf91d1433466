import OpcodeTrace.Proofs.Listing.Framed
import OpcodeTrace.Proofs.Listing.Tiling

/-! Listings that start at different offsets are the same behind the first byte that is not
decoded to the terminator, since only an entry on the byte before can cover it. -/

namespace OpcodeTrace

namespace Trace

theorem next_le_of_ordinary {trace : Trace} {place : UInt64} (ordinary : ¬ trace.TerminatesAt place)
    {entry : Instruction} (shows : entry.Shows trace) (upTo : entry.offset.toNat ≤ place.toNat) :
    entry.next.toNat ≤ place.toNat + 1 := by
  have ends := Instruction.toNat_next shows
  by_cases terminates : entry.opcode.isTerminator
  · have different : entry.offset ≠ place := by
      rintro rfl
      exact ordinary ⟨entry.opcode, opcodeAt_of_shows shows, terminates⟩
    have before := Nat.lt_of_le_of_ne upTo fun same => different (UInt64.toNat_inj.mp same)
    rw [if_pos terminates] at ends
    omega
  · rw [if_neg terminates] at ends
    omega

theorem exists_before_of_ordinary {trace : Trace} {place behind : UInt64}
    (ordinary : ¬ trace.TerminatesAt place) (follows : behind.toNat = place.toNat + 1)
    (inside : behind.toNat < trace.bytes.size) {start : UInt64}
    (upTo : start.toNat ≤ place.toNat) :
    ∃ before : List Instruction, (∀ entry ∈ before, entry.offset.toNat ≤ place.toNat) ∧
      ∀ more, trace.instructionsFrom (before.length + more) start =
        before ++ trace.instructionsFrom more behind := by
  -- The induction is on the bytes between the start and the byte that is no terminator.
  induction distance : place.toNat - start.toNat using Nat.strongRecOn generalizing start with
  | ind distance induction =>
      have here : start.toNat < trace.bytes.size := by omega
      let first : Instruction := { offset := start, raw := trace.bytes[start.toNat] }
      have shows : first.Shows trace := ⟨here, rfl⟩
      have forward : start.toNat < first.next.toNat := Instruction.offset_lt_next shows
      have reaches := next_le_of_ordinary ordinary shows upTo
      have split (more : Nat) : trace.instructionsFrom (more + 1) start =
          first :: trace.instructionsFrom more first.next :=
        trace.instructionsFrom_of_inside more here
      rcases Nat.le_succ_iff.mp reaches with short | lands
      · rcases induction (place.toNat - first.next.toNat) (by omega) short rfl with
          ⟨before, bounded, rest⟩
        refine ⟨first :: before, ?_, ?_⟩
        · intro entry member
          rcases List.mem_cons.mp member with rfl | later
          · exact upTo
          · exact bounded entry later
        · intro more
          rw [List.length_cons, Nat.succ_add, split, rest, List.cons_append]
      · have goesOn : first.next = behind := UInt64.toNat_inj.mp (lands.trans follows.symm)
        refine ⟨[first], ?_, ?_⟩
        · intro entry member
          rw [List.mem_singleton.mp member]
          exact upTo
        · intro more
          rw [List.length_singleton, Nat.add_comm, split, goesOn, List.singleton_append]

theorem mem_instructionsFrom_self {trace : Trace} {count : Nat} {offset : UInt64}
    (wanted : 0 < count) (inside : offset.toNat < trace.bytes.size) :
    { offset, raw := trace.bytes[offset.toNat] } ∈ trace.instructionsFrom count offset := by
  cases count with
  | zero => exact absurd wanted (Nat.lt_irrefl 0)
  | succ count =>
      rw [trace.instructionsFrom_of_inside count inside]
      exact List.mem_cons_self

theorem toNat_succ {trace : Trace} {place : UInt64} (inside : place.toNat + 1 < trace.bytes.size) :
    (place + 1).toNat = place.toNat + 1 := by
  have bound := trace.size_lt
  rw [UInt64.toNat_add, UInt64.toNat_one]
  omega

end Trace

namespace Reader

def Listing.behind (listing : Listing) (place : UInt64) : List Instruction :=
  listing.instructions.filter fun entry => place < entry.offset

theorem exists_behind_eq {reader : Reader} {place : UInt64}
    (inside : place.toNat + 1 < reader.trace.bytes.size)
    (ordinary : ¬ reader.trace.TerminatesAt place) {start : UInt64} (upTo : start ≤ place) :
    ∃ listing, reader.disassemble start reader.size = .ok listing ∧
      listing.behind place = reader.trace.instructionsFrom reader.trace.bytes.size (place + 1) := by
  have before : start.toNat ≤ place.toNat := UInt64.le_iff_toNat_le.mp upTo
  have follows := Trace.toNat_succ inside
  have here : start.toNat < reader.trace.bytes.size := by omega
  rcases Trace.exists_before_of_ordinary ordinary follows (follows ▸ inside) before with
    ⟨passed, upToPlace, rest⟩
  refine ⟨_, reader.disassemble_of_inside here reader.size, ?_⟩
  have wanted : reader.size.toNat = reader.trace.bytes.size := reader.trace.toNat_size
  -- The count does not matter: it is enough from the start, and also from the next offset.
  have enough : reader.trace.instructionsFrom reader.size.toNat start =
      passed ++ reader.trace.instructionsFrom reader.trace.bytes.size (place + 1) := by
    rw [← rest]
    apply Trace.instructionsFrom_eq_of_enough <;> omega
  rw [Listing.behind, listing, enough, List.filter_append]
  have passedNothing : passed.filter (fun entry => place < entry.offset) = [] := by
    refine List.filter_eq_nil_iff.mpr fun entry member => ?_
    have near := upToPlace entry member
    simp only [decide_eq_true_eq, UInt64.lt_iff_toNat_lt]
    omega
  have restAll : (reader.trace.instructionsFrom reader.trace.bytes.size (place + 1)).filter
      (fun entry => place < entry.offset) =
        reader.trace.instructionsFrom reader.trace.bytes.size (place + 1) := by
    refine List.filter_eq_self.mpr fun entry member => ?_
    have far := Trace.offset_le_of_mem_instructionsFrom member
    simp only [decide_eq_true_eq, UInt64.lt_iff_toNat_lt]
    omega
  rw [passedNothing, restAll, List.nil_append]

/-- Behind a byte that is no terminator, all listings that start up to it have an entry at the next
offset, and are the same from there on. -/
theorem disassemble_synchronises (reader : Reader) {place : UInt64}
    (inside : place.toNat + 1 < reader.trace.bytes.size)
    (ordinary : ¬ reader.trace.TerminatesAt place) :
    (∀ start ≤ place, ∃ listing, reader.disassemble start reader.size = .ok listing ∧
      ∃ entry ∈ listing.instructions, entry.offset = place + 1) ∧
    ∀ left ≤ place, ∀ right ≤ place, ∃ leftListing rightListing,
      reader.disassemble left reader.size = .ok leftListing ∧
      reader.disassemble right reader.size = .ok rightListing ∧
      leftListing.behind place = rightListing.behind place := by
  constructor
  · intro start upTo
    rcases exists_behind_eq inside ordinary upTo with ⟨listing, listed, behind⟩
    have follows : (place + 1).toNat < reader.trace.bytes.size := Trace.toNat_succ inside ▸ inside
    have first := Trace.mem_instructionsFrom_self (Nat.zero_lt_of_lt inside) follows
    rw [← behind] at first
    exact ⟨listing, listed, _, (List.mem_filter.mp first).1, rfl⟩
  · intro left leftUpTo right rightUpTo
    rcases exists_behind_eq inside ordinary leftUpTo with ⟨leftListing, leftListed, leftBehind⟩
    rcases exists_behind_eq inside ordinary rightUpTo with ⟨rightListing, rightListed, rightBehind⟩
    exact ⟨leftListing, rightListing, leftListed, rightListed, leftBehind.trans rightBehind.symm⟩

/-- Three sentinels in a row, and then a byte that is no terminator. A listing from the first one takes
this byte for an operand, and a listing from the second one does not. Both go on at offset 4. -/
theorem disassemble_synchronises_behind_sentinels :
    let reader := new (Trace.ofBytes #[254, 254, 254, 0, 1])
    (3 : UInt64).toNat + 1 < reader.trace.bytes.size ∧ ¬ reader.trace.TerminatesAt 3 ∧
      (reader.trace.instructionsFrom 5 0).map Instruction.offset = [0, 2, 4] ∧
      (reader.trace.instructionsFrom 5 1).map Instruction.offset = [1, 3, 4] ∧
      ∃ leftListing rightListing,
        reader.disassemble 0 reader.size = .ok leftListing ∧
        reader.disassemble 1 reader.size = .ok rightListing ∧
        leftListing.behind 3 = rightListing.behind 3 := by
  intro reader
  have inside : (3 : UInt64).toNat + 1 < reader.trace.bytes.size := by decide
  have ordinary : ¬ reader.trace.TerminatesAt 3 := by
    rintro ⟨opcode, stands, terminates⟩
    rw [← Except.ok.inj stands] at terminates
    exact absurd terminates (by decide)
  have synchronises := reader.disassemble_synchronises inside ordinary
  exact ⟨inside, ordinary, by decide, by decide, synchronises.2 0 (by decide) 1 (by decide)⟩

end Reader

end OpcodeTrace
