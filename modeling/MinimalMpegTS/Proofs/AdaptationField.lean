import MinimalMpegTS.Proofs.Views
import MinimalMpegTS.Proofs.PacketLayout

/-!
# What a received packet consists of

The payload and the private data of an accepted packet lie within the packet, so their lengths are
the sizes that the packet object reports. The clock reference of an adaptation field is skipped: an
accepted packet object always holds the reference that it was constructed with.
-/

namespace MinimalMpegTS

namespace TSPacket

/-- The adaptation field that parsing leaves in a fresh packet object. -/
structure FieldOf (data : List UInt8) (field : TSAdaptationField) : Prop where
  length : data[4]? = some field.length
  fits : 5 + field.length.toNat ≤ mpegtsPacketSize
  pcrBase : field.pcrBase = 0
  pcrExtension : field.pcrExtension = 0
  pcrFlag : field.pcrFlag = true →
    ∃ flags, data[5]? = some flags ∧ bitAt flags 4 = true ∧ 7 ≤ field.length.toNat
  privateData : field.transportPrivateDataFlag = true → ∃ bytes, field.privateData = some bytes ∧
    field.privateDataLength.toNat ≤ bytes.length

/-- What an accepted packet object holds. -/
structure ParsedFrom (data : List UInt8) (packet : TSPacket) : Prop where
  field : packet.hasAdaptation = true → FieldOf data packet.adaptationField
  payload : packet.hasPayload = true →
    ∃ bytes, packet.payloadData = some bytes ∧ packet.payloadSize = bytes.length

lemma fieldFrom_flags (data : List UInt8) :
    (fieldFrom data).pcrFlag = (value data 4 != 0 && bit data 5 4) ∧
      (fieldFrom data).transportPrivateDataFlag = (value data 4 != 0 && bit data 5 1) ∧
      (fieldFrom data).pcrBase = 0 ∧ (fieldFrom data).pcrExtension = 0 := by
  unfold fieldFrom
  split
  · next hempty =>
    rw [hempty]
    exact ⟨rfl, rfl, rfl, rfl⟩
  next hempty =>
  rw [bne_iff_ne.mpr hempty, Bool.true_and, Bool.true_and]
  split
  · exact ⟨rfl, rfl, rfl, rfl⟩
  · exact ⟨rfl, rfl, rfl, rfl⟩

lemma FieldFits.fieldOf {data : List UInt8} (hdata : data.length = mpegtsPacketSize)
    (h : FieldFits data) : FieldOf data (fieldFrom data) := by
  have hle := h.le
  have hlength := toNat_length_fieldFrom data
  obtain ⟨hpcrFlag, hprivateFlag, hbase, hextension⟩ := fieldFrom_flags data
  refine ⟨?_, ?_, hbase, hextension, ?_, ?_⟩
  · rw [getElem?_position hdata (by decide), ← UInt8.toNat_inj.mp hlength]
  · rw [hlength]
    unfold mpegtsPacketSize
    omega
  · intro hflag
    rw [hpcrFlag, Bool.and_eq_true, bne_iff_ne] at hflag
    obtain ⟨hempty, hpcr⟩ := hflag
    refine ⟨data.getD 5 0, getElem?_position hdata (by decide), ?_, ?_⟩
    · rwa [bitAt_getD data 5 (by decide)]
    · rw [hlength]
      obtain hnil | ⟨_, hall⟩ := h
      · exact absurd hnil hempty
      · unfold optionalSize at hall
        rw [if_pos hpcr] at hall
        omega
  · intro hflag
    rw [hprivateFlag, Bool.and_eq_true, bne_iff_ne] at hflag
    obtain ⟨hempty, hprivate⟩ := hflag
    have hfrom : fieldFrom data = { flagsFrom data with
        privateDataLength := data.getD (6 + optionalSize data) 0
        privateData := some (data.drop (7 + optionalSize data)) } := by
      unfold fieldFrom
      rw [if_neg hempty, if_pos hprivate]
    rw [hfrom]
    refine ⟨data.drop (7 + optionalSize data), rfl, ?_⟩
    show privateLength data ≤ _
    rw [List.length_drop, hdata]
    unfold mpegtsPacketSize
    obtain hnil | ⟨_, hall⟩ := h
    · exact absurd hnil hempty
    · rw [if_pos hprivate] at hall
      omega

/-- An accepted packet object holds what lies within the packet. -/
theorem accept_parsedFrom {data : List UInt8} {packet : TSPacket}
    (hdata : data.length = mpegtsPacketSize) (h : accept data = some packet) :
    ParsedFrom data packet := by
  obtain ⟨hformed, rfl⟩ := accept_from hdata h
  constructor
  · intro hfield
    have hfield : bit data 3 5 = true := hfield
    have hfrom : (packetFrom data).adaptationField = fieldFrom data := if_pos hfield
    rw [hfrom]
    exact (hformed.field hfield).fieldOf hdata
  · intro hpayload
    have hsize : (packetFrom data).payloadSize = mpegtsPacketSize - payloadStart data := if_pos hpayload
    refine ⟨data.drop (payloadStart data), if_pos hpayload, ?_⟩
    rw [hsize, List.length_drop, hdata]

/-! ### Sizes -/

lemma length_payloadBytes {packet : TSPacket} (h : packet.Received) (hpayload : packet.hasPayload = true) :
    packet.payloadBytes.length = packet.payloadSize := by
  obtain ⟨data, hdata, haccept⟩ := h
  obtain ⟨bytes, hbytes, hsize⟩ := (accept_parsedFrom hdata haccept).payload hpayload
  unfold payloadBytes
  rw [if_pos hpayload, hbytes, hsize, Option.getD_some, List.take_length]

lemma length_privateBytes {packet : TSPacket} (h : packet.Received) :
    packet.privateBytes.length = packet.getPrivateDataLength := by
  obtain ⟨data, hdata, haccept⟩ := h
  have hparsed := accept_parsedFrom hdata haccept
  unfold privateBytes getPrivateData getPrivateDataLength
  by_cases hprivate : (packet.hasAdaptation && packet.adaptationField.transportPrivateDataFlag) = true
  · obtain ⟨hadaptation, hflag⟩ := Bool.and_eq_true_iff.mp hprivate
    obtain ⟨bytes, hbytes, hle⟩ := (hparsed.field hadaptation).privateData hflag
    rw [if_pos hprivate, if_pos hprivate, hbytes, Option.getD_some, List.length_take_of_le hle]
  · rw [if_neg hprivate, if_neg hprivate]
    rfl

end TSPacket

end MinimalMpegTS
