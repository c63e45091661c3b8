import MinimalMpegTS.Lib.Transducer
import MinimalMpegTS.Proofs.PacketLayout

/-!
# Packet objects used again

`parse` sets the presence flags, the payload and the fields that a packet announces, and clears
nothing else. What an object shows after a packet is what a fresh one shows exactly if the object
held nothing that the packet leaves as it was.
-/

namespace MinimalMpegTS

namespace TSPacket

/-- The bytes of one packet. -/
abbrev PacketBuffer := { data : List UInt8 // data.length = mpegtsPacketSize }

/-- What the accessors of a packet object show. -/
structure Observations where
  header : TSPacketHeader
  hasPayload : Bool
  payloadSize : Nat
  payloadBytes : List UInt8
  hasAdaptation : Bool
  adaptationField : Option TSAdaptationField
  privateData : Option (List UInt8)
  privateDataLength : Nat

def observations (self : TSPacket) : Observations where
  header := self.header
  hasPayload := self.hasPayload
  payloadSize := self.payloadSize
  payloadBytes := self.payloadBytes
  hasAdaptation := self.hasAdaptation
  adaptationField := self.getAdaptationField
  privateData := self.getPrivateData
  privateDataLength := self.getPrivateDataLength

/-- The object after the next packet, and whether that was accepted. -/
def parseNext (self : TSPacket) (buffer : PacketBuffer) : TSPacket × Bool :=
  (parse self buffer.val).getD (self, false)

/-- If the packet is accepted, the object shows what a fresh one shows. -/
def ShownAfresh (self : TSPacket) (buffer : PacketBuffer) : Prop :=
  ∀ packet, parse self buffer.val = some (packet, true) →
    ∃ fresh, parse {} buffer.val = some (fresh, true) ∧ packet.observations = fresh.observations

/-! ### What a packet leaves as it was -/

/-- The part of an adaptation field that an accepted one leaves as it was. -/
def staleField (field : TSAdaptationField) (data : List UInt8) : TSAdaptationField :=
  if value data 4 = 0 then { field with length := 0 }
  else if bit data 5 1 then { pcrBase := field.pcrBase, pcrExtension := field.pcrExtension }
  else
    { pcrBase := field.pcrBase
      pcrExtension := field.pcrExtension
      privateDataLength := field.privateDataLength
      privateData := field.privateData }

/-- The object holds nothing that an accepted packet with these bytes leaves as it was. -/
structure NothingStale (object : TSPacket) (data : List UInt8) : Prop where
  payload : bit data 3 4 = false → object.hasPayload = false ∧ object.payloadSize = 0
  adaptation : bit data 3 5 = false → object.hasAdaptation = false
  field : bit data 3 5 = true → staleField object.adaptationField data = {}

lemma fieldOver_eq_iff (field : TSAdaptationField) (data : List UInt8) :
    fieldOver field data = fieldFrom data ↔ staleField field data = {} := by
  rw [← fieldOver_fresh]
  unfold fieldOver staleField
  by_cases hempty : value data 4 = 0
  · have hbyte : data.getD 4 0 = 0 := UInt8.toNat_inj.mp hempty
    rw [if_pos hempty, if_pos hempty, if_pos hempty, hbyte]
  rw [if_neg hempty, if_neg hempty, if_neg hempty]
  unfold flagsOver
  by_cases hprivate : bit data 5 1 = true
  · rw [if_pos hprivate, if_pos hprivate, if_pos hprivate]
    simp only [TSAdaptationField.mk.injEq, true_and, and_true]
  · rw [if_neg hprivate, if_neg hprivate, if_neg hprivate]
    simp only [TSAdaptationField.mk.injEq, true_and]

lemma nothingStale_of_shown {self : TSPacket} {data : List UInt8}
    (h : (packetOver self data).observations = (packetFrom data).observations) :
    NothingStale self data := by
  have hhasPayload : (bit data 3 4 || self.hasPayload) = bit data 3 4 :=
    congrArg Observations.hasPayload h
  have hsize : (if bit data 3 4 then mpegtsPacketSize - payloadStart data else self.payloadSize) =
      if bit data 3 4 then mpegtsPacketSize - payloadStart data else 0 :=
    congrArg Observations.payloadSize h
  have hhasAdaptation : (bit data 3 5 || self.hasAdaptation) = bit data 3 5 :=
    congrArg Observations.hasAdaptation h
  have hfield : (packetOver self data).getAdaptationField = (packetFrom data).getAdaptationField :=
    congrArg Observations.adaptationField h
  constructor
  · intro hpayload
    rw [hpayload] at hhasPayload hsize
    exact ⟨hhasPayload, hsize⟩
  · intro hadaptation
    rwa [hadaptation] at hhasAdaptation
  · intro hadaptation
    unfold getAdaptationField packetOver packetFrom at hfield
    rw [hadaptation] at hfield
    exact (fieldOver_eq_iff _ _).mp (Option.some.inj hfield)

namespace NothingStale

variable {self : TSPacket} {data : List UInt8}

lemma payload_over (h : NothingStale self data) :
    (packetOver self data).hasPayload = (packetFrom data).hasPayload ∧
      (packetOver self data).payloadSize = (packetFrom data).payloadSize ∧
      (packetOver self data).payloadBytes = (packetFrom data).payloadBytes := by
  unfold payloadBytes packetOver packetFrom
  cases hbit : bit data 3 4 with
  | true => exact ⟨rfl, rfl, rfl⟩
  | false =>
    obtain ⟨hhas, hsize⟩ := h.payload hbit
    rw [hhas]
    exact ⟨rfl, hsize, rfl⟩

lemma adaptation_over (h : NothingStale self data) :
    (packetOver self data).hasAdaptation = (packetFrom data).hasAdaptation ∧
      (packetOver self data).getAdaptationField = (packetFrom data).getAdaptationField ∧
      (packetOver self data).getPrivateData = (packetFrom data).getPrivateData ∧
      (packetOver self data).getPrivateDataLength = (packetFrom data).getPrivateDataLength := by
  unfold getAdaptationField getPrivateData getPrivateDataLength packetOver packetFrom
  cases hbit : bit data 3 5 with
  | true =>
    have hsame := (fieldOver_eq_iff self.adaptationField data).mpr (h.field hbit)
    simp only [if_true, hsame, Bool.true_or]
    exact ⟨trivial, trivial, trivial, trivial⟩
  | false =>
    rw [h.adaptation hbit]
    exact ⟨rfl, rfl, rfl, rfl⟩

end NothingStale

/-- The object shows what a fresh one shows exactly if it held nothing that the packet leaves. -/
theorem observations_over_iff (self : TSPacket) (data : List UInt8) :
    (packetOver self data).observations = (packetFrom data).observations ↔
      NothingStale self data := by
  constructor
  · exact nothingStale_of_shown
  · intro h
    obtain ⟨hhas, hsize, hbytes⟩ := h.payload_over
    obtain ⟨hhasAdaptation, hfield, hprivate, hlength⟩ := h.adaptation_over
    unfold observations
    rw [hhas, hsize, hbytes, hhasAdaptation, hfield, hprivate, hlength]
    rfl

/-! ### Runs -/

lemma shownAfresh_iff (self : TSPacket) (buffer : PacketBuffer) :
    ShownAfresh self buffer ↔ (WellFormed buffer.val → NothingStale self buffer.val) := by
  obtain ⟨packet, ok, hparse, hok, hpacket⟩ := parse_over buffer.property self
  obtain ⟨fresh, okFresh, hfresh, hokFresh, hobject⟩ := parse_from buffer.property
  unfold ShownAfresh
  rw [hparse, hfresh]
  constructor
  · intro h hwell
    obtain rfl := hok.mpr hwell
    obtain ⟨found, hfound, hshown⟩ := h packet rfl
    obtain ⟨rfl, rfl⟩ := Prod.mk.inj (Option.some.inj hfound)
    rw [hpacket rfl, hobject rfl] at hshown
    exact (observations_over_iff self buffer.val).mp hshown
  · intro h found hfound
    obtain ⟨rfl, rfl⟩ := Prod.mk.inj (Option.some.inj hfound)
    have hwell := hok.mp rfl
    obtain rfl := hokFresh.mpr hwell
    refine ⟨fresh, rfl, ?_⟩
    rw [hpacket rfl, hobject rfl]
    exact (observations_over_iff self buffer.val).mpr (h hwell)

/-- The packets parsed with one object are all shown as by fresh ones exactly if none of those that
are accepted leaves something in the object as it was. -/
theorem all_shownAfresh_iff (self : TSPacket) (buffers : List PacketBuffer) :
    (∀ front buffer back, buffers = front ++ buffer :: back →
      ShownAfresh (Transducer.final parseNext self front) buffer) ↔
    Transducer.Along parseNext
      (fun object buffer => WellFormed buffer.val → NothingStale object buffer.val) self buffers := by
  rw [Transducer.along_iff_forall]
  constructor
  · intro h front buffer back hsplit
    exact (shownAfresh_iff _ buffer).mp (h front buffer back hsplit)
  · intro h front buffer back hsplit
    exact (shownAfresh_iff _ buffer).mpr (h front buffer back hsplit)

/-- A packet with a payload only. -/
def payloadBuffer : PacketBuffer :=
  ⟨[0x47, 0x01, 0x00, 0x10] ++ List.replicate 184 0xAA, rfl⟩

/-- A packet with an adaptation field only. -/
def adaptationBuffer : PacketBuffer :=
  ⟨[0x47, 0x01, 0x00, 0x20, 183, 0x00] ++ List.replicate 182 0xFF, rfl⟩

/-- Behind a packet with a payload, one without payload still shows the payload of the first. -/
theorem stale_payload_shown :
    ¬∀ front buffer back, [payloadBuffer, adaptationBuffer] = front ++ buffer :: back →
      ShownAfresh (Transducer.final parseNext {} front) buffer := by
  intro h
  have hused : (parse (Transducer.final parseNext {} [payloadBuffer]) adaptationBuffer.val).map
      (fun result => (result.1.hasPayload, result.2)) = some (true, true) := by decide +kernel
  have hfresh : (parse {} adaptationBuffer.val).map (fun result => result.1.hasPayload) =
      some false := by decide +kernel
  obtain ⟨⟨packet, ok⟩, hparse, hpair⟩ := Option.map_eq_some_iff.mp hused
  obtain ⟨hhas, rfl⟩ := Prod.mk.inj hpair
  obtain ⟨fresh, hparseFresh, hshown⟩ := h [payloadBuffer] adaptationBuffer [] rfl packet hparse
  have hsame : packet.hasPayload = fresh.hasPayload := congrArg Observations.hasPayload hshown
  rw [hparseFresh] at hfresh
  have hnone : fresh.hasPayload = false := Option.some.inj hfresh
  rw [hhas, hnone] at hsame
  cases hsame

end TSPacket

end MinimalMpegTS
