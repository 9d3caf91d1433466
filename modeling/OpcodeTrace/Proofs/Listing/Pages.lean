import Mathlib.Data.List.Chain
import OpcodeTrace.Proofs.Listing.Framed
import OpcodeTrace.Proofs.Listing.Tiling

/-! Listings without gaps, which can be asked for in pages. -/

namespace OpcodeTrace

/-- The bytes that an entry fills. A byte that is no instruction fills one. -/
def Instruction.width (entry : Instruction) : Nat :=
  if entry.opcode.isTerminator then 2 else 1

namespace Trace

/-- The entries tile the trace from an offset on. There are so many of them, or fewer if they come to
the end of the trace. -/
structure Tiles (trace : Trace) (offset : UInt64) (count : Nat) (entries : List Instruction) :
    Prop where
  begins : ∀ first ∈ entries.head?, first.offset = offset
  adjoins : entries.IsChain fun earlier later =>
    later.offset.toNat = earlier.offset.toNat + earlier.width
  holds : ∀ entry ∈ entries, entry.offset.toNat < trace.bytes.size ∧
    trace.byte entry.offset = .ok entry.raw ∧ trace.opcodeAt entry.offset = .ok entry.opcode
  bounded : entries.length ≤ count
  fills : entries.length = count ∨
    ∃ last ∈ entries.getLast?, trace.bytes.size ≤ last.offset.toNat + last.width

def resumesAt (offset : UInt64) (entries : List Instruction) : UInt64 :=
  (entries.getLast?.map Instruction.next).getD offset

@[simp] theorem resumesAt_nil (offset : UInt64) : resumesAt offset [] = offset := rfl

@[simp] theorem resumesAt_cons (offset : UInt64) (first : Instruction) (rest : List Instruction) :
    resumesAt offset (first :: rest) = resumesAt first.next rest := by
  cases rest with
  | nil => rfl
  | cons second rest =>
      rw [resumesAt, resumesAt, List.getLast?_cons_cons]
      rfl

/-! ## Tiles -/

theorem offset_of_mem_head? {trace : Trace} {count : Nat} {offset : UInt64} {first : Instruction}
    (leads : first ∈ (trace.instructionsFrom count offset).head?) : first.offset = offset := by
  cases listing : trace.instructionsFrom count offset with
  | nil =>
      rw [listing] at leads
      cases leads
  | cons head rest =>
      rw [listing] at leads
      cases leads
      exact (of_instructionsFrom_eq_cons listing).1

theorem isChain_instructionsFrom (trace : Trace) (count : Nat) (offset : UInt64) :
    (trace.instructionsFrom count offset).IsChain fun earlier later =>
      later.offset.toNat = earlier.offset.toNat + earlier.width := by
  induction count generalizing offset with
  | zero => exact .nil
  | succ count induction =>
      by_cases inside : offset.toNat < trace.bytes.size
      · let first : Instruction := { offset, raw := trace.bytes[offset.toNat] }
        have shows : first.Shows trace := ⟨inside, rfl⟩
        rw [instructionsFrom_of_inside trace count inside]
        refine List.isChain_cons.mpr ⟨?_, induction _⟩
        intro second leads
        rw [offset_of_mem_head? leads]
        exact Instruction.toNat_next shows
      · rw [instructionsFrom_of_outside trace _ (Nat.le_of_not_lt inside)]
        exact .nil

theorem length_instructionsFrom_le_count (trace : Trace) (count : Nat) (offset : UInt64) :
    (trace.instructionsFrom count offset).length ≤ count := by
  induction count generalizing offset with
  | zero => exact Nat.le_refl 0
  | succ count induction =>
      by_cases inside : offset.toNat < trace.bytes.size
      · rw [instructionsFrom_of_inside trace count inside, List.length_cons]
        exact Nat.succ_le_succ (induction _)
      · rw [instructionsFrom_of_outside trace _ (Nat.le_of_not_lt inside)]
        exact Nat.zero_le _

theorem exists_last_of_inside {trace : Trace} {count : Nat} {offset : UInt64} (wanted : 0 < count)
    (inside : offset.toNat < trace.bytes.size) :
    ∃ last, (trace.instructionsFrom count offset).getLast? = some last := by
  cases ends : (trace.instructionsFrom count offset).getLast? with
  | some last => exact ⟨last, rfl⟩
  | none =>
      have outside := outside_of_instructionsFrom_eq_nil wanted (List.getLast?_eq_none_iff.mp ends)
      exact absurd inside (Nat.not_lt.mpr outside)

theorem tiles_instructionsFrom {trace : Trace} {count : Nat} {offset : UInt64}
    (inside : offset.toNat < trace.bytes.size) :
    trace.Tiles offset count (trace.instructionsFrom count offset) where
  begins _ leads := offset_of_mem_head? leads
  adjoins := trace.isChain_instructionsFrom count offset
  holds entry member := by
    have shows := shows_of_mem_instructionsFrom member
    refine ⟨shows.1, ?_, opcodeAt_of_shows shows⟩
    rcases shows with ⟨there, shown⟩
    rw [byte, dif_pos there, shown]
  bounded := trace.length_instructionsFrom_le_count count offset
  fills := by
    have bounded := trace.length_instructionsFrom_le_count count offset
    rcases Nat.lt_or_eq_of_le bounded with short | full
    · right
      rcases exists_last_of_inside (Nat.zero_lt_of_lt short) inside with ⟨last, ends⟩
      have outside := outside_of_length_instructionsFrom_lt short ends
      rw [Instruction.toNat_next (shows_of_mem_instructionsFrom (List.mem_of_getLast? ends))]
        at outside
      exact ⟨last, ends, outside⟩
    · exact .inl full

/-! ## One page and the next -/

theorem instructionsFrom_add (trace : Trace) (first second : Nat) (offset : UInt64) :
    trace.instructionsFrom (first + second) offset =
      trace.instructionsFrom first offset ++
        trace.instructionsFrom second (resumesAt offset (trace.instructionsFrom first offset)) := by
  induction first generalizing offset with
  | zero => rw [Nat.zero_add, instructionsFrom, resumesAt_nil, List.nil_append]
  | succ first induction =>
      by_cases inside : offset.toNat < trace.bytes.size
      · rw [Nat.succ_add, instructionsFrom_of_inside trace _ inside,
          instructionsFrom_of_inside trace _ inside, resumesAt_cons, List.cons_append, induction]
      · have outside := Nat.le_of_not_lt inside
        rw [instructionsFrom_of_outside trace _ outside, instructionsFrom_of_outside trace _ outside,
          resumesAt_nil, instructionsFrom_of_outside trace _ outside, List.append_nil]

end Trace

namespace Reader

def Listing.append (page following : Listing) : Listing where
  instructions := page.instructions ++ following.instructions
  events := page.events ++ following.events

structure ListsInPages (reader : Reader) (offset : UInt64) : Prop where
  refuses : reader.trace.bytes.size ≤ offset.toNat →
    ∀ count, reader.disassemble offset count = .error { offset, size := reader.size }
  tiles : offset.toNat < reader.trace.bytes.size →
    ∀ count, ∃ listing, reader.disassemble offset count = .ok listing ∧
      reader.trace.Tiles offset count.toNat listing.instructions
  /-- The pages are not empty, and together they are no longer than a listing can be. -/
  pages : offset.toNat < reader.trace.bytes.size →
    ∀ first second : UInt64, 0 < first → first.toNat + second.toNat < UInt64.size →
      ∃ page last, reader.disassemble offset first = .ok page ∧
        page.instructions.getLast? = some last ∧
        last.next.toNat = last.offset.toNat + last.width ∧
        (reader.trace.bytes.size ≤ last.next.toNat →
          reader.disassemble offset (first + second) = .ok page) ∧
        (last.next.toNat < reader.trace.bytes.size →
          ∃ following, reader.disassemble last.next second = .ok following ∧
            reader.disassemble offset (first + second) = .ok (page.append following))
  /-- Made in frames, the listing is the same, and the reader is left as it was. -/
  unmoved : ∀ count, reader.survey offset count = reader.surveyed (reader.disassemble offset count)

theorem listing_append (reader : Reader) (page following : List Instruction) :
    reader.listing (page ++ following) =
      (reader.listing page).append (reader.listing following) := by
  simp only [listing, Listing.append, List.flatMap_append]

theorem disassemble_listsInPages (reader : Reader) (offset : UInt64) :
    reader.ListsInPages offset := by
  constructor
  · intro outside count
    rw [disassemble, Trace.disassemble, if_neg (Nat.not_lt.mpr outside)]
    rfl
  · intro inside count
    exact ⟨_, reader.disassemble_of_inside inside count, Trace.tiles_instructionsFrom inside⟩
  · intro inside first second wanted fits
    have sum : (first + second).toNat = first.toNat + second.toNat := by
      rw [UInt64.toNat_add]
      exact Nat.mod_eq_of_lt fits
    rcases Trace.exists_last_of_inside (UInt64.lt_iff_toNat_lt.mp wanted) inside with ⟨last, ends⟩
    have shows := Trace.shows_of_mem_instructionsFrom (List.mem_of_getLast? ends)
    have resumes : Trace.resumesAt offset (reader.trace.instructionsFrom first.toNat offset) =
        last.next := by
      rw [Trace.resumesAt, ends]
      rfl
    refine ⟨_, last, reader.disassemble_of_inside inside first, ends,
      Instruction.toNat_next shows, ?_, ?_⟩
    · intro outside
      rw [reader.disassemble_of_inside inside, sum, Trace.instructionsFrom_add, resumes,
        Trace.instructionsFrom_of_outside _ _ outside, List.append_nil]
    · intro goesOn
      refine ⟨_, reader.disassemble_of_inside goesOn second, ?_⟩
      rw [reader.disassemble_of_inside inside, sum, Trace.instructionsFrom_add, resumes,
        listing_append]
  · exact reader.survey_eq offset

end Reader

end OpcodeTrace
