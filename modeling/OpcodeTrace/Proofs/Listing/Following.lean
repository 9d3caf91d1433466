import OpcodeTrace.Proofs.Listing.Walk
import OpcodeTrace.Proofs.Reader.Step

/-! Listing and stepping walk a trace on their own, but over the same instructions. They part at a
byte that is no instruction. -/

namespace OpcodeTrace.Reader

/-- So many steps lead to the entry at this place of a listing. None of them finishes, and together
they count the entries behind the first one, up to this one. -/
structure Reaches (reader : Reader) (entries : List Instruction) (index : Nat)
    (listed : index < entries.length) : Prop where
  goesOn : ∀ earlier < index, (advance^[earlier] reader).step.status ≠ .finished
  ip : (advance^[index] reader).ip = entries[index].offset
  counts : ∀ opcode, ((advance^[index] reader).countOf opcode).toNat =
    ((reader.countOf opcode).toNat +
      (entries.take (index + 1)).tail.countP fun entry => entry.opcode = opcode) % UInt64.size

structure Follows (reader : Reader) (count : Nat) (entries : List Instruction) : Prop where
  reaches : ∀ index (listed : index < entries.length),
    (∀ entry ∈ entries.take index, entry.decodes) → reader.Reaches entries index listed
  givesUp : ∀ index (listed : index < entries.length),
    (∀ entry ∈ entries.take index, entry.decodes) → ¬ entries[index].decodes →
      (advance^[index] reader).FinishesAt reader.trace.bytes.size
  runsOut : (∀ entry ∈ entries, entry.decodes) → entries.length < count →
    ∃ last span, entries.getLast? = some last ∧ last.opcode.span? = some span ∧
      (advance^[entries.length - 1] reader).FinishesAt (last.offset.toNat + span.toNat)

/-! ## From one entry to the next -/

theorem opcode_of_shows {reader : Reader} {entry : Instruction} (stands : entry.offset = reader.ip)
    (shows : entry.Shows reader.trace) :
    ∃ inside : reader.ip.toNat < reader.trace.bytes.size,
      Opcode.decode reader.trace.bytes[reader.ip.toNat] = entry.opcode := by
  rcases entry with ⟨offset, raw⟩
  dsimp only at stands
  subst stands
  rcases shows with ⟨inside, shown⟩
  exact ⟨inside, congrArg Opcode.decode shown⟩

theorem step_of_entry {reader : Reader} {entry : Instruction} (stands : entry.offset = reader.ip)
    (shows : entry.Shows reader.trace) (decodes : entry.decodes) :
    reader.step = (reader.jump entry.next).land := by
  rcases opcode_of_shows stands shows with ⟨inside, decoded⟩
  rcases Option.isSome_iff_exists.mp decodes with ⟨span, spans⟩
  rw [Instruction.next_of_span spans, stands]
  exact reader.step_of_span inside (decoded ▸ spans)

theorem land_of_entry (reader : Reader) {entry : Instruction} (stands : entry.offset = reader.ip)
    (shows : entry.Shows reader.trace) :
    reader.land.status ≠ .finished ∧ reader.land.reader = reader.countLanding entry.opcode := by
  rcases opcode_of_shows stands shows with ⟨inside, decoded⟩
  rw [reader.land_of_inside inside, decoded]
  refine ⟨?_, rfl⟩
  dsimp only
  split <;> simp

theorem step_of_listing {reader : Reader} {count : Nat} {first second : Instruction}
    {rest : List Instruction}
    (listing : reader.trace.instructionsFrom count reader.ip = first :: second :: rest)
    (decodes : first.decodes) :
    reader.step.status ≠ .finished ∧
      reader.advance = (reader.jump second.offset).countLanding second.opcode ∧
      ∃ fewer, reader.trace.instructionsFrom fewer second.offset = second :: rest := by
  rcases Trace.of_instructionsFrom_eq_cons listing with ⟨stands, shows, fewer, _, later⟩
  rcases Trace.of_instructionsFrom_eq_cons later with ⟨secondOffset, secondShows, _⟩
  have step := step_of_entry stands shows decodes
  rw [← secondOffset] at step later
  have lands := (reader.jump second.offset).land_of_entry rfl secondShows
  refine ⟨step ▸ lands.1, ?_, fewer, later⟩
  rw [advance, step]
  exact lands.2

theorem reaches_of_listing {reader : Reader} {count : Nat} {entries : List Instruction}
    (listing : reader.trace.instructionsFrom count reader.ip = entries) {index : Nat}
    (listed : index < entries.length) (decode : ∀ entry ∈ entries.take index, entry.decodes) :
    reader.Reaches entries index listed := by
  induction index generalizing reader count entries with
  | zero =>
      cases entries with
      | nil => cases listed
      | cons first rest =>
          refine ⟨fun earlier bound => absurd bound (Nat.not_lt_zero earlier), ?_, ?_⟩
          · exact (Trace.of_instructionsFrom_eq_cons listing).1.symm
          · intro opcode
            exact (Nat.mod_eq_of_lt (reader.countOf opcode).toNat_lt).symm
  | succ index induction =>
      match entries with
      | [] => cases listed
      | [_] => exact absurd (Nat.lt_of_succ_lt_succ listed) (Nat.not_lt_zero index)
      | first :: second :: rest =>
          have firstDecodes := decode first (List.mem_cons_self ..)
          rcases step_of_listing listing firstDecodes with ⟨goesOn, advanced, fewer, later⟩
          have moved : reader.advance.ip = second.offset := congrArg ip advanced
          have laterListing :
              reader.advance.trace.instructionsFrom fewer reader.advance.ip = second :: rest := by
            rw [advance_trace, moved]
            exact later
          have laterReaches := induction laterListing (Nat.lt_of_succ_lt_succ listed)
            fun entry member => decode entry (List.mem_cons_of_mem _ member)
          refine ⟨?_, laterReaches.ip, ?_⟩
          · intro earlier bound
            cases earlier with
            | zero => exact goesOn
            | succ earlier => exact laterReaches.goesOn earlier (Nat.lt_of_succ_lt_succ bound)
          · intro opcode
            have landed : reader.advance.countOf opcode =
                if second.opcode = opcode then reader.countOf opcode + 1
                else reader.countOf opcode := by
              rw [advanced]
              exact (reader.jump second.offset).countOf_countLanding second.opcode opcode
            have counted := laterReaches.counts opcode
            simp only [List.take_succ_cons, List.tail_cons, List.countP_cons] at counted ⊢
            rw [Function.iterate_succ_apply, counted, landed]
            by_cases same : second.opcode = opcode
            · simp only [same, if_true, UInt64.toNat_add, UInt64.toNat_one, decide_true, UInt64.size]
              omega
            · simp only [same, if_false, decide_false, Bool.false_eq_true, Nat.add_zero]

/-! ## Where a listing and the steps part -/

theorem finishesAt_of_entry {reader : Reader} {entry : Instruction}
    (stands : entry.offset = reader.ip) (shows : entry.Shows reader.trace)
    (undecodable : ¬ entry.decodes) : reader.FinishesAt reader.trace.bytes.size := by
  rcases opcode_of_shows stands shows with ⟨inside, decoded⟩
  exact finishesAt_of_undecodable inside
    (decoded ▸ Option.not_isSome_iff_eq_none.mp undecodable)

theorem finishesAt_of_last {reader : Reader} {last : Instruction} {span : UInt64}
    (stands : last.offset = reader.ip) (shows : last.Shows reader.trace)
    (spans : last.opcode.span? = some span) (outside : reader.trace.bytes.size ≤ last.next.toNat) :
    reader.FinishesAt (last.offset.toNat + span.toNat) := by
  rcases opcode_of_shows stands shows with ⟨inside, decoded⟩
  have spansHere := decoded ▸ spans
  rw [Instruction.next_of_span spans, stands, toNat_ip_add_span inside spansHere] at outside
  rw [stands]
  exact finishesAt_of_span inside spansHere outside

theorem follows_of_listing {reader : Reader} {count : Nat} {entries : List Instruction}
    (inside : reader.ip.toNat < reader.trace.bytes.size)
    (listing : reader.trace.instructionsFrom count reader.ip = entries) :
    reader.Follows count entries := by
  have shows : ∀ entry ∈ entries, ∀ index, entry.Shows (advance^[index] reader).trace := by
    intro entry member index
    rw [iterate_advance_trace]
    rw [← listing] at member
    exact Trace.shows_of_mem_instructionsFrom member
  constructor
  · intro index listed decode
    exact reaches_of_listing listing listed decode
  · intro index listed decode undecodable
    have reached := reaches_of_listing listing listed decode
    have parts := finishesAt_of_entry reached.ip.symm
      (shows _ (List.getElem_mem listed) index) undecodable
    rwa [iterate_advance_trace] at parts
  · intro decode short
    have filled : entries ≠ [] := by
      intro empty
      rw [empty] at listing short
      exact absurd (Trace.outside_of_instructionsFrom_eq_nil short listing)
        (Nat.not_le_of_lt inside)
    have listed : entries.length - 1 < entries.length :=
      Nat.sub_lt (List.length_pos_iff.mpr filled) Nat.one_pos
    have ends : entries.getLast? = some entries[entries.length - 1] := by
      rw [List.getLast?_eq_getElem?, List.getElem?_eq_getElem listed]
    have outside : ∀ last, entries.getLast? = some last →
        reader.trace.bytes.size ≤ last.next.toNat := by
      rw [← listing] at short ⊢
      exact fun last => Trace.outside_of_length_instructionsFrom_lt short
    have member := List.getElem_mem listed
    have reached := reaches_of_listing listing listed
      fun entry earlier => decode entry (List.mem_of_mem_take earlier)
    rcases Option.isSome_iff_exists.mp (decode _ member) with ⟨span, spans⟩
    refine ⟨_, span, ends, spans, ?_⟩
    apply finishesAt_of_last reached.ip.symm (shows _ member _) spans
    rw [iterate_advance_trace]
    exact outside _ ends

theorem follows_disassemble (reader : Reader) (count : UInt64)
    (inside : reader.ip.toNat < reader.trace.bytes.size) :
    ∃ listing, reader.disassemble reader.ip count = .ok listing ∧
      reader.Follows count.toNat listing.instructions := by
  rw [disassemble, Trace.disassemble, if_pos inside]
  exact ⟨_, rfl, follows_of_listing inside rfl⟩

/-- The second entry of this listing is the terminator with its operand, the third does not
decode. -/
theorem follows_disassemble_past_operand :
    let reader := new (Trace.ofBytes #[0, 254, 7, 200, 65])
    ∃ listing, reader.disassemble reader.ip 10 = .ok listing ∧
      reader.Follows 10 listing.instructions := by
  intro reader
  exact reader.follows_disassemble 10 (by decide)

end OpcodeTrace.Reader
