import MinimalMpegTS.Lib.Transducer
import MinimalMpegTS.Proofs.Fields
import MinimalMpegTS.Proofs.Reassembly

/-!
# Runs of the section accumulator

The demultiplexer hands what `getSection` returns to the parsers as it is. In every state that any
bytes lead to, the latched length is the one of the bytes in the buffer, so the section is a slice
of the buffer and as long as its own length field says.
-/

namespace MinimalMpegTS

namespace PSIAccumulator

inductive Operation
  | addData (data : List UInt8) (payloadUnitStart : Bool)
  | getSection
  | reset
  deriving DecidableEq

/-- One operation, with the section that it returns. -/
def operate (acc : PSIAccumulator) : Operation → PSIAccumulator × Option (List UInt8)
  | .addData data payloadUnitStart => ((acc.addData data payloadUnitStart).1, none)
  | .getSection => acc.getSection
  | .reset => (acc.reset, none)

/-- The 12 bits of the length field of a section. -/
def lengthField (data : List UInt8) : Nat :=
  (data.getD 1 0).toNat % 2 ^ 4 * 256 + (data.getD 2 0).toNat

lemma sectionSize_eq {data : List UInt8} (h : 3 ≤ data.length) :
    sectionSize data = 3 + lengthField data := by
  match data, h with
  | _ :: byte1 :: byte2 :: _, _ =>
    have hmask : (0x0F : UInt8).toNat = 2 ^ 4 - 1 := rfl
    have hfield := PSIParser.toNat_fieldOf hmask byte1 byte2
    exact congrArg (3 + ·) hfield

/-- What holds of an accumulator between two operations. -/
structure WellFormed (acc : PSIAccumulator) : Prop where
  unsynced : acc.synced = false → acc.buffer = [] ∧ acc.complete = false
  expected : acc.expectedLength ≠ 0 →
    3 ≤ acc.buffer.length ∧ acc.expectedLength = 3 + lengthField acc.buffer
  complete : acc.complete = true →
    3 ≤ acc.expectedLength ∧ acc.expectedLength ≤ acc.buffer.length

/-- The accumulator is idle, or holds the bytes since the start of a section. -/
def Holds (acc : PSIAccumulator) : Prop := acc = {} ∨ ∃ data, acc = held data

lemma holds_append {acc : PSIAccumulator} (h : Holds acc) (data : List UInt8) :
    Holds (acc.append data).1 := by
  obtain rfl | ⟨front, rfl⟩ := h
  · exact .inl rfl
  · rw [append_held]
    exact .inr ⟨front ++ data, rfl⟩

lemma holds_operate {acc : PSIAccumulator} (h : Holds acc) (operation : Operation) :
    Holds (operate acc operation).1 := by
  cases operation with
  | addData data payloadUnitStart =>
    show Holds (acc.addData data payloadUnitStart).1
    unfold addData
    cases payloadUnitStart with
    | false => exact holds_append h data
    | true =>
      have hstart : Holds { acc.reset with synced := true } := .inr ⟨[], rfl⟩
      rw [if_pos rfl]
      cases data with
      | nil => exact holds_append hstart []
      | cons pointer rest =>
        dsimp only
        split
        · exact holds_append hstart _
        · exact .inl rfl
  | getSection =>
    show Holds acc.getSection.1
    unfold getSection
    split
    · exact h
    · exact .inl rfl
  | reset => exact .inl rfl

lemma wellFormed_held (data : List UInt8) : (held data).WellFormed := by
  have hthree : sectionSize data ≠ 0 → 3 ≤ data.length := by
    intro hsize
    by_contra hlt
    exact hsize (sectionSize_short (by omega))
  constructor
  · intro hsynced
    cases hsynced
  · intro hexpected
    have hlength := hthree hexpected
    exact ⟨hlength, sectionSize_eq hlength⟩
  · intro hcomplete
    have hwhole : Complete data := of_decide_eq_true hcomplete
    exact ⟨three_le_sectionSize (hthree (by have := hwhole.1; omega)), hwhole.2⟩

lemma Holds.wellFormed {acc : PSIAccumulator} (h : Holds acc) : acc.WellFormed := by
  obtain rfl | ⟨data, rfl⟩ := h
  · constructor
    · intro _
      exact ⟨rfl, rfl⟩
    · intro hexpected
      exact absurd rfl hexpected
    · intro hcomplete
      cases hcomplete
  · exact wellFormed_held data

lemma WellFormed.getSection {acc acc' : PSIAccumulator} (h : acc.WellFormed) {data : List UInt8}
    (hsection : acc.getSection = (acc', some data)) :
    data <+: acc.buffer ∧ data.length = acc.expectedLength ∧ data.length = 3 + lengthField data := by
  unfold PSIAccumulator.getSection at hsection
  split at hsection
  · cases hsection
  next hcomplete =>
  obtain ⟨hthree, hle⟩ := h.complete (by simpa using hcomplete)
  obtain ⟨-, hexpected⟩ := h.expected (by omega)
  obtain rfl : acc.buffer.take acc.expectedLength = data :=
    Option.some.inj (congrArg Prod.snd hsection)
  have hlength : (acc.buffer.take acc.expectedLength).length = acc.expectedLength := by
    rw [List.length_take, Nat.min_eq_left hle]
  have hbyte : ∀ i < 3, (acc.buffer.take acc.expectedLength).getD i 0 = acc.buffer.getD i 0 :=
    fun i hi => getD_of_take (by rw [List.take_take, Nat.min_self]) (Nat.lt_of_lt_of_le hi hthree)
  refine ⟨List.take_prefix _ _, hlength, ?_⟩
  unfold lengthField at hexpected ⊢
  rw [hlength, hbyte 1 (by decide), hbyte 2 (by decide)]
  exact hexpected

/-- Any operations leave the accumulator well formed, and the section that they make ready has the
size of its own length field. -/
theorem wellFormed_operations (operations : List Operation) :
    (Transducer.final operate {} operations).WellFormed ∧
      ∀ acc data, (Transducer.final operate {} operations).getSection = (acc, some data) →
        data <+: (Transducer.final operate {} operations).buffer ∧
          data.length = 3 + lengthField data := by
  have hidle : Holds {} := .inl rfl
  have hholds := Transducer.invariant Holds (fun _ operation h => holds_operate h operation) hidle
    operations
  refine ⟨hholds.wellFormed, ?_⟩
  intro acc data hsection
  obtain ⟨hslice, -, hlength⟩ := hholds.wellFormed.getSection hsection
  exact ⟨hslice, hlength⟩

/-- A section cut in two, with two bytes behind it. -/
theorem wellFormed_operations_sample :
    ([0x42, 0x30, 0x02, 1, 2] : List UInt8) <+: (Transducer.final operate {}
        [.addData [0, 0x42, 0x30] true, .addData [0x02, 1, 2, 0xFF, 0xFF] false]).buffer ∧
      ([0x42, 0x30, 0x02, 1, 2] : List UInt8).length = 3 + lengthField [0x42, 0x30, 0x02, 1, 2] := by
  have hsection : (Transducer.final operate {} [.addData [0, 0x42, 0x30] true,
      .addData [0x02, 1, 2, 0xFF, 0xFF] false]).getSection =
        ({}, some [0x42, 0x30, 0x02, 1, 2]) := by decide
  exact (wellFormed_operations _).2 _ _ hsection

end PSIAccumulator

end MinimalMpegTS
