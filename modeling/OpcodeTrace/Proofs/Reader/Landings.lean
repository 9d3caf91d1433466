import Mathlib.Algebra.BigOperators.Fin
import OpcodeTrace.Proofs.Opcode.Decoding
import OpcodeTrace.Proofs.Reader.Operation

/-! The history behind the counts. It is read off the single steps that an operation is made of,
without a look at the counts. -/

namespace OpcodeTrace.Reader

variable {Answer : Type}

/-! ## Landings -/

def landing? (reader : Reader) : Option Opcode :=
  if reader.step.status = .finished then none else reader.step.reader.current.toOption

def steps (reader : Reader) : Operation Answer → List Reader
  | .step => [reader]
  | .resume => reader.runOnSteps
  | .runToReturn => reader.runToReturnSteps
  | .jump _ | .setBreakpoint _ | .clearBreakpoint _ | .clearBreakpoints => []
  | .resetCounts | .reset | .disassemble _ _ | .inspect _ => []

def landings (reader : Reader) (operation : Operation Answer) : List Opcode :=
  (reader.steps operation).filterMap landing?

def Operation.forgets : Operation Answer → Bool
  | .resetCounts | .reset => true
  | .step | .resume | .runToReturn | .jump _ | .setBreakpoint _ | .clearBreakpoint _
  | .clearBreakpoints | .disassemble _ _ | .inspect _ => false

/-- The landings through some operations since the counts were last forgotten. If they are not
forgotten at all, the known landings come first. -/
def landingsSince (reader : Reader) (known : List Opcode) : List (Operation Answer) → List Opcode
  | [] => known
  | operation :: later =>
      (reader.operate operation).reader.landingsSince
        (if operation.forgets then [] else known ++ reader.landings operation) later

def allLandings (reader : Reader) : List (Operation Answer) → List Opcode
  | [] => []
  | operation :: later =>
      reader.landings operation ++ (reader.operate operation).reader.allLandings later

/-! ## One step -/

theorem landing_of_span {reader : Reader} {span : UInt64}
    (step : reader.step = (reader.jump (reader.ip + span)).land)
    (lands : (reader.ip + span).toNat < reader.trace.bytes.size) :
    reader.landing? = some (Opcode.decode reader.trace.bytes[(reader.ip + span).toNat]) := by
  have landed := (reader.jump (reader.ip + span)).land_of_inside lands
  have goesOn : reader.step.status ≠ .finished := by
    rw [step, landed]
    dsimp only
    split <;> simp
  rw [landing?, if_neg goesOn, step, landed]
  exact congrArg Except.toOption (current_of_inside _ lands)

theorem landing_cases (reader : Reader) :
    (reader.landing? = none ∧ reader.advance.counts = reader.counts) ∨
    (∃ raw, reader.landing? = some (Opcode.decode raw) ∧
      reader.advance.counts = (reader.countLanding (Opcode.decode raw)).counts) := by
  rcases reader.step_cases with ⟨_, step⟩ | ⟨_, _, step⟩ | ⟨_, span, _, step⟩
  · simp [landing?, advance, step]
  · simp [landing?, advance, step, jump]
  · by_cases lands : (reader.ip + span).toNat < reader.trace.bytes.size
    · right
      refine ⟨_, landing_of_span step lands, ?_⟩
      rw [advance, step, (reader.jump (reader.ip + span)).land_of_inside lands]
      rfl
    · left
      have landed := (reader.jump (reader.ip + span)).land_of_outside (Nat.le_of_not_lt lands)
      rw [landing?, advance, step, landed]
      exact ⟨if_pos rfl, rfl⟩

theorem countOf_congr {left right : Reader} (same : left.counts = right.counts) (opcode : Opcode) :
    left.countOf opcode = right.countOf opcode := by
  simp only [countOf, same]

theorem countOf_advance (reader : Reader) (opcode : Opcode) :
    reader.advance.countOf opcode =
      reader.countOf opcode + .ofNat (reader.landing?.toList.count opcode) := by
  rcases reader.landing_cases with ⟨lands, counts⟩ | ⟨raw, lands, counts⟩
  · rw [countOf_congr counts, lands]
    simp
  · rw [countOf_congr counts, countOf_countLanding, lands]
    by_cases same : Opcode.decode raw = opcode <;> simp [same]

theorem ne_sentinel_of_landing {reader : Reader} {opcode : Opcode}
    (lands : reader.landing? = some opcode) : opcode.value ≠ Opcode.sentinel := by
  rcases reader.landing_cases with ⟨nowhere, _⟩ | ⟨raw, landed, _⟩
  · rw [nowhere] at lands
    cases lands
  · rw [landed] at lands
    cases lands
    exact Opcode.value_decode_ne_sentinel raw

/-! ## Many steps -/

theorem landings_of_cons (reader : Reader) (later : List Reader) :
    (reader :: later).filterMap landing? =
      reader.landing?.toList ++ later.filterMap landing? := by
  cases lands : reader.landing? <;> simp [lands]

theorem countOf_of_stepsThrough {first last : Reader} {stepped : List Reader}
    (through : StepsThrough first stepped last) (opcode : Opcode) :
    last.countOf opcode =
      first.countOf opcode + .ofNat ((stepped.filterMap landing?).count opcode) := by
  induction through with
  | rest reader => simp
  | @step reader last later _ induction =>
      rw [induction, countOf_advance, landings_of_cons, List.count_append, UInt64.ofNat_add,
        UInt64.add_assoc]

theorem countOf_operate (reader : Reader) {operation : Operation Answer}
    (keeps : ¬ operation.forgets) (opcode : Opcode) :
    (reader.operate operation).reader.countOf opcode =
      reader.countOf opcode + .ofNat ((reader.landings operation).count opcode) := by
  have unstepped (same : (reader.operate operation).reader.counts = reader.counts)
      (still : reader.steps operation = []) :
      (reader.operate operation).reader.countOf opcode =
        reader.countOf opcode + .ofNat ((reader.landings operation).count opcode) := by
    simp [countOf_congr same, landings, still]
  cases operation with
  | step => exact countOf_of_stepsThrough (.step (.rest reader.advance)) opcode
  | resume => exact countOf_of_stepsThrough reader.stepsThrough_runOn opcode
  | runToReturn => exact countOf_of_stepsThrough reader.stepsThrough_runToReturn opcode
  | jump target => exact unstepped rfl rfl
  | setBreakpoint offset =>
      have same := congrArg counts (reader.clearBreakpoints_changed_flag offset true)
      exact unstepped same rfl
  | clearBreakpoint offset =>
      have same := congrArg counts (reader.clearBreakpoints_changed_flag offset false)
      exact unstepped same rfl
  | clearBreakpoints => exact unstepped rfl rfl
  | resetCounts => exact absurd rfl keeps
  | reset => exact absurd rfl keeps
  | disassemble offset count =>
      exact unstepped (congrArg counts (reader.changed_map_self _)) rfl
  | inspect inspections => exact unstepped (congrArg counts (reader.inspect_reader inspections)) rfl

theorem countOf_of_noCounts {reader : Reader} (forgot : reader.counts = noCounts)
    (opcode : Opcode) : reader.countOf opcode = 0 := by
  simp [countOf, forgot, noCounts]

theorem counts_of_forgets (reader : Reader) {operation : Operation Answer}
    (forgets : operation.forgets) : (reader.operate operation).reader.counts = noCounts := by
  cases operation with
  | resetCounts => rfl
  | reset => rfl
  | step | resume | runToReturn | jump | setBreakpoint | clearBreakpoint | clearBreakpoints
  | disassemble | inspect => cases forgets

/-! ## The history -/

def Remembers (reader : Reader) (landed : List Opcode) : Prop :=
  ∀ opcode, reader.countOf opcode = .ofNat (landed.count opcode)

theorem remembers_operate {reader : Reader} {known : List Opcode}
    (remembers : reader.Remembers known) (operation : Operation Answer) :
    (reader.operate operation).reader.Remembers
      (if operation.forgets then [] else known ++ reader.landings operation) := by
  intro opcode
  by_cases forgets : operation.forgets
  · rw [if_pos forgets, countOf_of_noCounts (reader.counts_of_forgets forgets)]
    rfl
  · rw [if_neg forgets, reader.countOf_operate forgets, remembers opcode, List.count_append,
      UInt64.ofNat_add]

theorem remembers_after {reader : Reader} {known : List Opcode}
    (remembers : reader.Remembers known) (operations : List (Operation Answer)) :
    (reader.after operations).Remembers (reader.landingsSince known operations) := by
  induction operations generalizing reader known with
  | nil => exact remembers
  | cons operation later induction => exact induction (remembers_operate remembers operation)

theorem remembers_new (trace : Trace) : (new trace).Remembers [] :=
  fun opcode => countOf_of_noCounts rfl opcode

theorem ne_sentinel_of_mem_landingsSince {reader : Reader} {known : List Opcode}
    {operations : List (Operation Answer)}
    (apart : ∀ opcode ∈ known, opcode.value ≠ Opcode.sentinel) :
    ∀ opcode ∈ reader.landingsSince known operations, opcode.value ≠ Opcode.sentinel := by
  induction operations generalizing reader known with
  | nil => exact apart
  | cons operation later induction =>
      apply induction
      intro opcode member
      split at member
      · cases member
      · rcases List.mem_append.mp member with isKnown | isNew
        · exact apart opcode isKnown
        · rcases List.mem_filterMap.mp isNew with ⟨_, _, lands⟩
          exact ne_sentinel_of_landing lands

/-! ## The list of the counts -/

theorem mem_counted_iff (reader : Reader) (entry : Count) :
    entry ∈ reader.counted ↔
      entry.count ≠ 0 ∧ entry.count = reader.countOf entry.opcode := by
  rcases entry with ⟨⟨value⟩, count⟩
  simp only [counted, List.mem_filterMap, List.mem_range]
  constructor
  · rintro ⟨number, _, listed⟩
    split at listed
    · cases listed
    · next counts =>
      cases listed
      exact ⟨counts, rfl⟩
  · rintro ⟨counts, rfl⟩
    have same : value.toNat.toUInt8 = value := UInt8.ofNat_toNat
    refine ⟨value.toNat, value.toNat_lt, ?_⟩
    rw [same, if_neg counts]

theorem pairwise_counted (reader : Reader) :
    reader.counted.Pairwise fun earlier later => earlier.opcode.value < later.opcode.value := by
  apply List.pairwise_filterMap.mpr
  apply List.pairwise_lt_range.imp_of_mem
  intro low high lowInside highInside ordered first firstListed second secondListed
  dsimp only at firstListed secondListed
  split at firstListed
  · cases firstListed
  · split at secondListed
    · cases secondListed
    · cases firstListed
      cases secondListed
      rw [List.mem_range] at lowInside highInside
      change low.toUInt8 < high.toUInt8
      rw [UInt8.lt_iff_toNat_lt, Nat.toUInt8_eq, Nat.toUInt8_eq, UInt8.toNat_ofNat',
        UInt8.toNat_ofNat', Nat.mod_eq_of_lt lowInside, Nat.mod_eq_of_lt highInside]
      exact ordered

/-! ## Exact counts -/

structure CountsExactly (reader : Reader) (landed : List Opcode) : Prop where
  each : ∀ opcode, (reader.countOf opcode).toNat = landed.count opcode
  total : (reader.counts.toList.map UInt64.toNat).sum = landed.length
  neverSentinel : reader.countOf ⟨Opcode.sentinel⟩ = 0
  listed : ∀ entry, entry ∈ reader.counted ↔
    entry.count ≠ 0 ∧ entry.count = reader.countOf entry.opcode
  ascending : reader.counted.Pairwise fun earlier later =>
    earlier.opcode.value < later.opcode.value

theorem sum_toList_toNat {size : Nat} (values : Vector UInt64 size) :
    (values.toList.map UInt64.toNat).sum = ∑ index : Fin size, values[index].toNat := by
  have entries : values.toList.map UInt64.toNat = List.ofFn fun index => values[index].toNat := by
    apply List.ext_getElem <;> simp
  rw [entries, List.sum_ofFn]

theorem sum_counts {reader : Reader} {landed : List Opcode}
    (each : ∀ opcode, (reader.countOf opcode).toNat = landed.count opcode) :
    (reader.counts.toList.map UInt64.toNat).sum = landed.length := by
  let position (opcode : Opcode) : Fin 256 := opcode.value.toFin
  have injective : Function.Injective position := by
    intro first second equal
    cases first
    cases second
    exact congrArg Opcode.mk (UInt8.toFin_inj.mp equal)
  have counted (index : Fin 256) :
      reader.counts[index].toNat = (landed.map position).count index := by
    have positioned := List.count_map_of_injective landed position injective ⟨.ofFin index⟩
    exact (each ⟨.ofFin index⟩).trans positioned.symm
  have all (index : Fin 256) (_ : index ∈ (landed.map position : Multiset (Fin 256))) :
      index ∈ Finset.univ := Finset.mem_univ index
  calc
    (reader.counts.toList.map UInt64.toNat).sum
      = ∑ index : Fin 256, (landed.map position).count index := by
        rw [sum_toList_toNat]
        exact Finset.sum_congr rfl fun index _ => counted index
    _ = (landed.map position).length := by
        simpa only [Multiset.coe_count, Multiset.coe_card] using Multiset.sum_count_eq_card all
    _ = landed.length := List.length_map _

/-- As long as fewer than 2^64 landings are to be remembered, the counts are the history of the
reader, whatever was done to it. -/
theorem countsExactly_after (trace : Trace) (operations : List (Operation Answer))
    (few : ((new trace).landingsSince [] operations).length < UInt64.size) :
    ((new trace).after operations).CountsExactly ((new trace).landingsSince [] operations) := by
  have remembers := remembers_after (remembers_new trace) operations
  have each (opcode : Opcode) : (((new trace).after operations).countOf opcode).toNat =
      ((new trace).landingsSince [] operations).count opcode := by
    have fits := Nat.lt_of_le_of_lt (List.count_le_length (a := opcode)) few
    rw [remembers opcode, UInt64.toNat_ofNat_of_lt' fits]
  refine ⟨each, sum_counts each, ?_, mem_counted_iff _, pairwise_counted _⟩
  have apart : ⟨Opcode.sentinel⟩ ∉ (new trace).landingsSince [] operations := fun member =>
    ne_sentinel_of_mem_landingsSince (by simp) _ member rfl
  rw [remembers, List.count_eq_zero.mpr apart]
  rfl

/-- The run lands on the undecodable byte, and the step off it lands nowhere. After the reset a jump
leads to the operand of the terminator, and only the landings from there on are remembered. -/
theorem countsExactly_after_reset_and_jump :
    let trace := Trace.ofBytes #[0, 65, 254, 65, 72, 200, 1]
    let operations : List (Operation Unit) :=
      [.setBreakpoint 4, .resume, .resetCounts, .jump 2, .step, .inspect [.within 5 []], .step,
        .step, .jump 3, .step]
    ((new trace).landingsSince [] operations).length < UInt64.size ∧
      (new trace).landingsSince [] operations = [⟨72⟩, ⟨200⟩, ⟨72⟩] ∧
      ((new trace).after operations).CountsExactly
        ((new trace).landingsSince [] operations) := by
  intro trace operations
  have landed : (new trace).landingsSince [] operations = [⟨72⟩, ⟨200⟩, ⟨72⟩] := by
    simp only [operations, landingsSince, operate, inspect_reader]
    decide +kernel
  have few : ((new trace).landingsSince [] operations).length < UInt64.size := by
    rw [landed]
    decide
  exact ⟨few, landed, countsExactly_after trace operations few⟩

end OpcodeTrace.Reader
