import MinimalMpegTS.Proofs.PESHeaders

/-!
# PES packet objects used again

`parseHeader` assigns the fields that the bytes have something for and leaves the others as they
were. What a packet object held before stays in it where the new header has no optional part, or
announces no timestamp.
-/

namespace MinimalMpegTS

namespace PESParser

/-- A header without what its first six bytes say. -/
def optionalPart (header : PESHeader) : PESHeader :=
  { header with startCode := 0, streamId := 0, packetLength := 0, hasOptionalFields := false }

/-- The header object holds nothing that these bytes do not overwrite. -/
def NothingStale (header : PESHeader) (data : List UInt8) : Prop :=
  if lacksOptionalFields (data.getD 3 0) then optionalPart header = {}
  else (announcesPts (data.getD 7 0) = false → header.pts = none) ∧
    (announcesDts (data.getD 7 0) = false → header.dts = none)

lemma basicFrom_eq_iff (header : PESHeader) (data : List UInt8) :
    basicFrom header data = basicFrom {} data ↔ optionalPart header = {} := by
  unfold basicFrom optionalPart
  simp only [PESHeader.mk.injEq, true_and]

lemma ite_eq_ite_iff {announced : Bool} {value stale : Option Timestamp} :
    ((if announced then value else stale) = if announced then value else none) ↔
      (announced = false → stale = none) := by
  cases announced <;> simp

lemma headerFrom_eq_iff (header : PESHeader) (data : List UInt8) :
    headerFrom header data = headerFrom {} data ↔ NothingStale header data := by
  unfold NothingStale headerFrom
  cases hlacks : lacksOptionalFields (data.getD 3 0) with
  | true => exact basicFrom_eq_iff header data
  | false =>
    have hpts := @ite_eq_ite_iff (announcesPts (data.getD 7 0)) (some (timestampAt data 9)) header.pts
    have hdts := @ite_eq_ite_iff (announcesDts (data.getD 7 0)) (some (timestampAt data 14)) header.dts
    simp only [Bool.false_eq_true, if_false]
    rw [← hpts, ← hdts]
    unfold flagsFrom basicFrom
    simp only [PESHeader.mk.injEq, true_and]

/-- A packet object used again is filled like a fresh one exactly if it holds nothing that the bytes
do not overwrite. -/
theorem reused_packet_iff {packet found : PESPacket} {data : List UInt8}
    (h : parsePacket packet data = some (found, true)) :
    parsePacket {} data = some (found, true) ↔ NothingStale packet.header data := by
  have hfits : HeaderFits data := by
    by_contra hnot
    obtain ⟨rejected, hrejected⟩ := parsePacket_of_not_fits hnot packet
    rw [h] at hrejected
    cases hrejected
  rw [parsePacket_of_fits hfits] at h ⊢
  obtain ⟨rfl, -⟩ := Prod.mk.inj (Option.some.inj h)
  rw [← headerFrom_eq_iff]
  constructor
  · intro heq
    exact (congrArg PESPacket.header (Prod.mk.inj (Option.some.inj heq)).1).symm
  · intro heq
    rw [heq]

/-- A header with a PTS over one with another PTS. -/
theorem reused_packet_overwritten : parsePacket {}
      [0, 0, 1, 0xE0, 0, 0, 0x80, 0x80, 5, 0x21, 0, 1, 0, 1, 7] =
    some (⟨headerFrom { pts := some ⟨5⟩ } [0, 0, 1, 0xE0, 0, 0, 0x80, 0x80, 5, 0x21, 0, 1, 0, 1, 7],
      [7], true⟩, true) := by
  have h : parsePacket { header := { pts := some ⟨5⟩ } }
      [0, 0, 1, 0xE0, 0, 0, 0x80, 0x80, 5, 0x21, 0, 1, 0, 1, 7] =
      some (⟨headerFrom { pts := some ⟨5⟩ } [0, 0, 1, 0xE0, 0, 0, 0x80, 0x80, 5, 0x21, 0, 1, 0, 1, 7],
        [7], true⟩, true) := by decide
  exact (reused_packet_iff h).mpr ⟨by decide, by decide⟩

/-- A packet with a PTS, and behind it one without timestamps in the same object. -/
theorem reused_packet_stale : ∃ first second fresh,
    parsePacket {} [0, 0, 1, 0xE0, 0, 0, 0x80, 0x80, 5, 0x21, 0, 1, 0, 3, 7] = some (first, true) ∧
      parsePacket first [0, 0, 1, 0xE0, 0, 0, 0x80, 0, 0, 8] = some (second, true) ∧
      parsePacket {} [0, 0, 1, 0xE0, 0, 0, 0x80, 0, 0, 8] = some (fresh, true) ∧
      second.header.pts = some ⟨1⟩ ∧ fresh.header.pts = none :=
  ⟨_, _, _, rfl, rfl, rfl, rfl, rfl⟩

end PESParser

end MinimalMpegTS
