import OpcodeTrace.Proofs.Session.Answers
import OpcodeTrace.Proofs.Text.Hexadecimal
import OpcodeTrace.Proofs.Text.Numeral
import OpcodeTrace.Proofs.Text.Printed

/-! Dumps in decimal and in hexadecimal are read back as the bytes that they show. -/

namespace OpcodeTrace

def Trace.part (trace : Trace) (start stop : Nat) : List UInt8 :=
  (trace.bytes.toList.take stop).drop start

theorem Trace.slice_eq_part {trace : Trace} {start : UInt64}
    (inside : start.toNat < trace.bytes.size) (count : UInt64) :
    trace.slice start count =
      .ok (trace.part start.toNat (min (start.toNat + count.toNat) trace.bytes.size)) := by
  rw [slice, if_pos inside, part, Array.toList_extract, List.extract_eq_take_drop,
    ← List.drop_take, ← Array.length_toList, ← List.take_eq_take_min]

theorem Trace.length_part_lt (trace : Trace) (start stop : Nat) (inside : start < trace.bytes.size) :
    start + (trace.part start stop).length < UInt64.size := by
  have bound := trace.size_lt
  rw [part, List.length_drop, List.length_take, Array.length_toList]
  change _ < 0x10000000000000000
  omega

namespace Session

/-! ## Decimal dumps -/

def ShowsDecimal (text : String) (bytes : List UInt8) : Prop :=
  ∃ lines, Printed.HasLines text lines ∧
    List.Forall₂ (fun line byte => Decimal.Spelled line.toList byte.toNat) lines bytes

theorem unbroken_render (number : Nat) : Printed.Unbroken (Decimal.render number) := by
  intro newline
  rw [Decimal.render, String.toList_ofList] at newline
  exact absurd (Decimal.isDigit_of_mem_digits newline) (by decide)

theorem showsDecimal_decimalLines (bytes : List UInt8) :
    ShowsDecimal (String.join (bytes.map fun byte => decimalLine byte.toNat)) bytes := by
  refine ⟨bytes.map fun byte => Decimal.render byte.toNat, ?_, ?_⟩
  · apply Printed.hasLines_join_map
    intro byte _
    exact unbroken_render byte.toNat
  · induction bytes with
    | nil => exact .nil
    | cons byte bytes induction =>
        have digits : (Decimal.render byte.toNat).toList = Decimal.digits byte.toNat :=
          String.toList_ofList
        exact .cons (digits ▸ Decimal.spelled_digits byte.toNat) induction

/-! ## Hexadecimal dumps -/

/-- A row of a hexadecimal dump: the digits of its offset, and those of its bytes. -/
structure HexRow where
  offset : List Char
  digits : List Char

namespace HexRow

def line (row : HexRow) : String :=
  String.ofList (row.offset ++ [':', ' '] ++ row.digits)

def width? (row : HexRow) : Option Nat :=
  (Hexadecimal.bytes? row.digits).map List.length

structure Show (rows : List HexRow) (start : Nat) (bytes : List UInt8) : Prop where
  offsets : ∀ index (inside : index < rows.length),
    Hexadecimal.value? rows[index].offset = some (start + 16 * index)
  padded : ∀ row ∈ rows, 8 ≤ row.offset.length ∧
    (8 < row.offset.length → row.offset.head? ≠ some '0')
  full : ∀ row ∈ rows.dropLast, row.width? = some 16
  last : ∀ row ∈ rows.getLast?, ∃ width, row.width? = some width ∧ 1 ≤ width ∧ width ≤ 16
  spelled : Hexadecimal.bytes? (rows.flatMap HexRow.digits) = some bytes

def ofBytes (start : Nat) (bytes : List UInt8) : HexRow where
  offset := Hexadecimal.paddedDigits 8 start
  digits := Hexadecimal.ofBytes bytes

theorem width?_ofBytes (start : Nat) (bytes : List UInt8) :
    (ofBytes start bytes).width? = some bytes.length := by
  rw [width?, ofBytes, Hexadecimal.bytes?_ofBytes]
  rfl

theorem padded_ofBytes (start : Nat) (bytes : List UInt8) :
    8 ≤ (ofBytes start bytes).offset.length ∧
      (8 < (ofBytes start bytes).offset.length →
        (ofBytes start bytes).offset.head? ≠ some '0') := by
  refine ⟨?_, Hexadecimal.head?_paddedDigits_ne (by decide)⟩
  rw [ofBytes, Hexadecimal.paddedDigits, List.length_leftpad]
  exact Nat.le_max_left ..

theorem unbroken_ofBytes (start : Nat) (bytes : List UInt8) :
    Printed.Unbroken (ofBytes start bytes).line := by
  intro newline
  rw [line, String.toList_ofList, List.mem_append, List.mem_append] at newline
  rcases newline with (offset | separator) | digit
  · exact absurd (Hexadecimal.isSome_digitValue?_of_mem_paddedDigits offset) (by decide)
  · exact absurd separator (by decide)
  · exact absurd (Hexadecimal.isSome_digitValue?_of_mem_ofBytes digit) (by decide)

theorem show_nil (start : Nat) : Show [] start [] where
  offsets := by simp
  padded := by simp
  full := by simp
  last := by simp
  spelled := rfl

theorem show_single (start : Nat) {bytes : List UInt8} (filled : bytes ≠ [])
    (fits : bytes.length ≤ 16) : Show [ofBytes start bytes] start bytes where
  offsets := by
    intro index inside
    cases Nat.lt_one_iff.mp inside
    exact Hexadecimal.value?_paddedDigits 8 start
  padded := by
    intro row member
    cases List.mem_singleton.mp member
    exact padded_ofBytes start bytes
  full := by simp
  last := by
    intro row last
    cases last
    exact ⟨bytes.length, width?_ofBytes start bytes, List.length_pos_iff.mpr filled, fits⟩
  spelled := by
    rw [List.flatMap_singleton]
    exact Hexadecimal.bytes?_ofBytes bytes

theorem Show.ne_nil {rows : List HexRow} {start : Nat} {bytes : List UInt8}
    (shows : Show rows start bytes) (filled : bytes ≠ []) : rows ≠ [] := by
  intro none
  subst none
  exact filled (Option.some.inj shows.spelled).symm

theorem Show.cons {rows : List HexRow} {start : Nat} {bytes later : List UInt8}
    (full : bytes.length = 16) (filled : later ≠ []) (rest : Show rows (start + 16) later) :
    Show (ofBytes start bytes :: rows) start (bytes ++ later) where
  offsets := by
    intro index inside
    cases index with
    | zero => exact Hexadecimal.value?_paddedDigits 8 start
    | succ index =>
        have spelled := rest.offsets index (Nat.lt_of_succ_lt_succ inside)
        rw [List.getElem_cons_succ, spelled, Option.some_inj]
        omega
  padded := List.forall_mem_cons.mpr ⟨padded_ofBytes start bytes, rest.padded⟩
  full := by
    rw [List.dropLast_cons_of_ne_nil (rest.ne_nil filled), List.forall_mem_cons, width?_ofBytes,
      full]
    exact ⟨rfl, rest.full⟩
  last := by
    rw [List.getLast?_cons_of_ne_nil (rest.ne_nil filled)]
    exact rest.last
  spelled := by
    rw [List.flatMap_cons, ofBytes, Hexadecimal.bytes?_ofBytes_append, rest.spelled]
    rfl

end HexRow

/-- The text shows the bytes in rows, the first one with the start for its offset. -/
def ShowsHex (text : String) (start : Nat) (bytes : List UInt8) : Prop :=
  ∃ rows : List HexRow, Printed.HasLines text (rows.map HexRow.line) ∧
    HexRow.Show rows start bytes

theorem hexRows_nil (offset : UInt64) : hexRows offset [] = [] := by
  rw [hexRows]
  rfl

theorem hexRows_of_filled (offset : UInt64) {bytes : List UInt8} (filled : bytes ≠ []) :
    hexRows offset bytes = ((HexRow.ofBytes offset.toNat (bytes.take 16)).line ++ "\n") ::
      hexRows (offset + 16) (bytes.drop 16) := by
  rw [hexRows, if_neg (by simpa using filled)]
  dsimp only
  rw [String.ofList_append]
  rfl

theorem exists_hexRows_eq (offset : UInt64) (bytes : List UInt8)
    (fits : offset.toNat + bytes.length < UInt64.size) :
    ∃ rows : List HexRow, hexRows offset bytes = rows.map (fun row => row.line ++ "\n") ∧
      (∀ row ∈ rows, Printed.Unbroken row.line) ∧ HexRow.Show rows offset.toNat bytes := by
  induction length : bytes.length using Nat.strongRecOn generalizing offset bytes with
  | _ length induction =>
      subst length
      by_cases empty : bytes = []
      · rw [empty, hexRows_nil]
        exact ⟨[], rfl, by simp, HexRow.show_nil _⟩
      rw [hexRows_of_filled offset empty]
      by_cases short : bytes.length ≤ 16
      · rw [List.take_of_length_le short, List.drop_eq_nil_of_le short, hexRows_nil]
        exact ⟨[.ofBytes offset.toNat bytes], rfl,
          List.forall_mem_singleton.mpr (HexRow.unbroken_ofBytes _ _),
          HexRow.show_single _ empty short⟩
      · have next : (offset + 16).toNat = offset.toNat + 16 := by
          rw [UInt64.toNat_add]
          change _ < 0x10000000000000000 at fits
          change (offset.toNat + 16) % 0x10000000000000000 = _
          omega
        have rest : (bytes.drop 16).length + 16 = bytes.length := by
          rw [List.length_drop]
          omega
        have full : (bytes.take 16).length = 16 := List.length_take_of_le (by omega)
        have filled : bytes.drop 16 ≠ [] := List.length_pos_iff.mp (by omega)
        rcases induction _ (by omega) (offset + 16) (bytes.drop 16) (by omega) rfl with
          ⟨rows, printed, unbroken, shows⟩
        refine ⟨.ofBytes offset.toNat (bytes.take 16) :: rows, ?_, ?_, ?_⟩
        · rw [printed, List.map_cons]
        · exact List.forall_mem_cons.mpr ⟨HexRow.unbroken_ofBytes _ _, unbroken⟩
        · have whole := HexRow.Show.cons full filled (next ▸ shows)
          rwa [List.take_append_drop] at whole

theorem showsHex_hexRows (offset : UInt64) (bytes : List UInt8)
    (fits : offset.toNat + bytes.length < UInt64.size) :
    ShowsHex (String.join (hexRows offset bytes)) offset.toNat bytes := by
  rcases exists_hexRows_eq offset bytes fits with ⟨rows, printed, unbroken, shows⟩
  refine ⟨rows, ?_, shows⟩
  rw [printed]
  exact Printed.hasLines_join_map unbroken

/-! ## Dumps of a session -/

variable {State : Type} [Console State]

theorem answer_of_slice {session : Session} {command : Command} {start count : UInt64}
    {texts : List UInt8 → List String}
    (replies : (session.perform command).reply =
      (session.reader.trace.slice start count).map fun bytes => .texts (texts bytes))
    (inside : start.toNat < session.reader.trace.bytes.size) :
    session.answer command =
      String.join (texts (session.reader.trace.part start.toNat
        (min (start.toNat + count.toNat) session.reader.trace.bytes.size))) := by
  rw [answer, replies, Trace.slice_eq_part inside]
  rfl

/-- Both dumps show the same bytes of the trace, as many as were asked for, or fewer where the trace
ends. A dump that would start outside the trace is refused and prints nothing. -/
theorem dumps_faithful (session : Session) (window : Window) (console : State) :
    let trace := session.reader.trace
    let start := window.start.getD session.reader.ip
    let count := window.count.getD session.defaultCount
    let raw := session.execute (.raw window) ({ console } : Transcribed State)
    let hex := session.execute (.hex window) ({ console } : Transcribed State)
    raw.session = session ∧ hex.session = session ∧
      (trace.bytes.size ≤ start.toNat →
        let refusal := some (CommandError.outOfBounds { offset := start, size := trace.size })
        raw.error = refusal ∧ raw.console.out = "" ∧
          hex.error = refusal ∧ hex.console.out = "") ∧
      (start.toNat < trace.bytes.size → Console.Reliable console →
        let bytes := trace.part start.toNat (min (start.toNat + count.toNat) trace.bytes.size)
        raw.error = none ∧ ShowsDecimal raw.console.out bytes ∧
          hex.error = none ∧ ShowsHex hex.console.out start.toNat bytes) := by
  intro trace start count raw hex
  have refusesRaw : session.refusal? (.raw window) = trace.outside? start :=
    session.refusal?_eq (.raw window)
  have refusesHex : session.refusal? (.hex window) = trace.outside? start :=
    session.refusal?_eq (.hex window)
  refine ⟨session.execute_session _ _, session.execute_session _ _, ?_, ?_⟩
  · intro outside refusal
    have beyond : trace.outside? start = some { offset := start, size := trace.size } :=
      if_neg (Nat.not_lt.mpr outside)
    rw [beyond] at refusesRaw refusesHex
    have silent (command : Command) :=
      (({ console } : Transcribed State).recordAll_told [session.commandEntry command]).1
    dsimp only [raw, hex]
    rw [execute_of_refusal refusesRaw, execute_of_refusal refusesHex]
    exact ⟨rfl, silent _, rfl, silent _⟩
  · intro inside reliable bytes
    have within : trace.outside? start = none := if_pos inside
    have ends := trace.length_part_lt start.toNat
      (min (start.toNat + count.toNat) trace.bytes.size) inside
    rw [within] at refusesRaw refusesHex
    have transcribed : Console.Reliable ({ console } : Transcribed State).console := reliable
    rcases session.execute_told (.raw window) transcribed with ⟨printsRaw, errorRaw, _⟩
    rcases session.execute_told (.hex window) transcribed with ⟨printsHex, errorHex, _⟩
    rw [refusesRaw] at errorRaw
    rw [refusesHex] at errorHex
    have repliesRaw : (session.perform (.raw window)).reply = (trace.slice start count).map
        fun bytes => .texts (bytes.map fun byte => decimalLine byte.toNat) := rfl
    have repliesHex : (session.perform (.hex window)).reply = (trace.slice start count).map
        fun bytes => .texts (hexRows start bytes) := rfl
    rw [answer_of_slice repliesRaw inside, String.empty_append] at printsRaw
    rw [answer_of_slice repliesHex inside, String.empty_append] at printsHex
    refine ⟨errorRaw, ?_, errorHex, ?_⟩
    · exact printsRaw ▸ showsDecimal_decimalLines bytes
    · exact printsHex ▸ showsHex_hexRows start bytes ends

/-- The seventeen bytes here fill a row and one byte more. Their end would wrap around if it were not
cut off at the end of the trace. -/
theorem dumps_faithful_of_unaligned_start :
    let session := Session.new (Trace.ofBytes (Array.replicate 20 254)) {}
    let inside : Window := { start := some 3, count := some 0xffffffffffffffff }
    let outside : Window := { start := some 20 }
    let console : BoundedConsole := {}
    let raw := session.execute (.raw inside) ({ console } : Transcribed BoundedConsole)
    let hex := session.execute (.hex inside) ({ console } : Transcribed BoundedConsole)
    let refused := session.execute (.hex outside) ({ console } : Transcribed BoundedConsole)
    (raw.error = none ∧ ShowsDecimal raw.console.out (List.replicate 17 254) ∧
      hex.error = none ∧ ShowsHex hex.console.out 3 (List.replicate 17 254)) ∧
      refused.error = some (.outOfBounds { offset := 20, size := 20 }) ∧
        refused.console.out = "" := by
  intro session inside outside console
  have shown := (session.dumps_faithful inside console).2.2.2 (by decide)
    ⟨_, BoundedConsole.steady_unlimited, rfl, rfl, rfl⟩
  have refuses := (session.dumps_faithful outside console).2.2.1 (by decide)
  have part : session.reader.trace.part (inside.start.getD session.reader.ip).toNat
      (min ((inside.start.getD session.reader.ip).toNat +
        (inside.count.getD session.defaultCount).toNat) session.reader.trace.bytes.size) =
      List.replicate 17 254 := by decide
  have size : session.reader.trace.size = 20 := by decide
  rw [part] at shown
  rw [size] at refuses
  exact ⟨shown, refuses.2.2⟩

end Session

end OpcodeTrace
