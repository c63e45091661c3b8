import MinimalMpegTS.Lib.History
import MinimalMpegTS.Proofs.AdaptationField
import MinimalMpegTS.Proofs.Agreement
import MinimalMpegTS.Proofs.Fields

/-!
# The two ways to read a clock reference

`extractPCR` reads the 48 bits of a PCR field: 33 bits of the base, 6 reserved bits and 9 bits of
the extension. The packet parser skips them, so the demultiplexer tracks the reference 0 for every
packet with the PCR flag. The two agree exactly where 0 is what the field says, or where the field
is rejected and the last reference of the PID is 0 already.
-/

namespace MinimalMpegTS

open MPEGTSDemuxer

/-! ### The bits of the field -/

/-- The PCR that the 48 bits of a field stand for. -/
def clockReference (bits : Nat) : PCR := ⟨UInt64.ofNat (bits / 2 ^ 15), UInt16.ofNat (bits % 2 ^ 9)⟩

lemma base_toNat (byte0 byte1 byte2 byte3 byte4 byte5 : UInt8) :
    ((byte0.toUInt64 <<< 25) ||| (byte1.toUInt64 <<< 17) ||| (byte2.toUInt64 <<< 9) |||
      (byte3.toUInt64 <<< 1) ||| ((byte4 >>> 7).toUInt64 &&& 0x01)).toNat =
      bigEndian [byte0, byte1, byte2, byte3, byte4, byte5] / 2 ^ 15 := by
  have h0 := byte0.toNat_lt
  have h1 := byte1.toNat_lt
  have h2 := byte2.toNat_lt
  have h3 := byte3.toNat_lt
  have h4 := byte4.toNat_lt
  have h5 := byte5.toNat_lt
  have hshift : ∀ (byte : UInt8) (k : UInt64), k.toNat ≤ 56 →
      (byte.toUInt64 <<< k).toNat = byte.toNat * 2 ^ k.toNat := by
    intro byte k hk
    have hbyte : byte.toUInt64.toNat < 256 := byte.toNat_lt
    rw [toNat_shiftLeft hbyte hk, UInt8.toNat_toUInt64]
  have hlow : ((byte4 >>> 7).toUInt64 &&& 0x01).toNat = byte4.toNat / 2 ^ 7 := by
    have hshiftRight : (byte4 >>> 7).toNat = byte4.toNat / 2 ^ 7 := by
      rw [UInt8.toNat_shiftRight, Nat.shiftRight_eq_div_pow]
      rfl
    rw [UInt64.toNat_and, UInt8.toNat_toUInt64, hshiftRight]
    show byte4.toNat / 2 ^ 7 &&& (2 ^ 1 - 1) = byte4.toNat / 2 ^ 7
    rw [Nat.and_two_pow_sub_one_eq_mod]
    omega
  have e0 : (25 : UInt64).toNat = 25 := rfl
  have e1 : (17 : UInt64).toNat = 17 := rfl
  have e2 : (9 : UInt64).toNat = 9 := rfl
  have e3 : (1 : UInt64).toNat = 1 := rfl
  rw [UInt64.toNat_or, UInt64.toNat_or, UInt64.toNat_or, UInt64.toNat_or, hshift byte0 25 (by decide),
    hshift byte1 17 (by decide), hshift byte2 9 (by decide), hshift byte3 1 (by decide), hlow, e0, e1,
    e2, e3]
  -- each part lies below the lowest bit of the parts before it
  rw [or_eq_add (b := byte1.toNat * 2 ^ 17) 25 (by omega) (by omega),
    or_eq_add (b := byte2.toNat * 2 ^ 9) 17 (by omega) (by omega),
    or_eq_add (b := byte3.toNat * 2 ^ 1) 9 (by omega) (by omega),
    or_eq_add (b := byte4.toNat / 2 ^ 7) 1 (by omega) (by omega)]
  unfold bigEndian
  simp only [List.foldl_cons, List.foldl_nil]
  omega

lemma extension_toNat (byte0 byte1 byte2 byte3 byte4 byte5 : UInt8) :
    (((byte4 &&& 0x01).toUInt16 <<< 8) ||| byte5.toUInt16).toNat =
      bigEndian [byte0, byte1, byte2, byte3, byte4, byte5] % 2 ^ 9 := by
  have h5 := byte5.toNat_lt
  have hmask : (0x01 : UInt8).toNat = 2 ^ 1 - 1 := rfl
  have hfield := PSIParser.toNat_fieldOf hmask byte4 byte5
  unfold PSIParser.fieldOf at hfield
  rw [hfield]
  unfold bigEndian
  simp only [List.foldl_cons, List.foldl_nil]
  omega

lemma bigEndian_lt (byte0 byte1 byte2 byte3 byte4 byte5 : UInt8) :
    bigEndian [byte0, byte1, byte2, byte3, byte4, byte5] < 2 ^ 48 := by
  have h0 := byte0.toNat_lt
  have h1 := byte1.toNat_lt
  have h2 := byte2.toNat_lt
  have h3 := byte3.toNat_lt
  have h4 := byte4.toNat_lt
  have h5 := byte5.toNat_lt
  unfold bigEndian
  simp only [List.foldl_cons, List.foldl_nil]
  omega

lemma exists_bytes {field : List UInt8} (h : 7 ≤ field.length) :
    ∃ flags byte0 byte1 byte2 byte3 byte4 byte5 rest,
      field = flags :: byte0 :: byte1 :: byte2 :: byte3 :: byte4 :: byte5 :: rest := by
  match field, h with
  | flags :: byte0 :: byte1 :: byte2 :: byte3 :: byte4 :: byte5 :: rest, _ =>
    exact ⟨flags, byte0, byte1, byte2, byte3, byte4, byte5, rest, rfl⟩

private lemma flag_bits : ∀ n < 256, bitAt (UInt8.ofNat n) 4 = true →
    UInt8.ofNat n &&& 0x10 ≠ 0 := by decide +kernel

lemma isValid_clockReference {bits : Nat} (h : bits < 2 ^ 48) :
    (clockReference bits).isValid = decide (bits % 2 ^ 9 < 300) := by
  have hbase : (UInt64.ofNat (bits / 2 ^ 15)).toNat = bits / 2 ^ 15 := by
    apply UInt64.toNat_ofNat_of_lt'
    show bits / 2 ^ 15 < 2 ^ 64
    omega
  have hextension : (UInt16.ofNat (bits % 2 ^ 9)).toNat = bits % 2 ^ 9 := by
    apply UInt16.toNat_ofNat_of_lt'
    show bits % 2 ^ 9 < 2 ^ 16
    omega
  have hlimit : ((1 : UInt64) <<< 33).toNat = 2 ^ 33 := by decide
  have hlow : UInt64.ofNat (bits / 2 ^ 15) < (1 : UInt64) <<< 33 := by
    rw [UInt64.lt_iff_toNat_lt, hbase, hlimit]
    omega
  have hext : UInt16.ofNat (bits % 2 ^ 9) < 300 ↔ bits % 2 ^ 9 < 300 := by
    rw [UInt16.lt_iff_toNat_lt, hextension]
    rfl
  unfold PCR.isValid clockReference
  dsimp only
  rw [decide_eq_true hlow, Bool.true_and]
  exact decide_eq_decide.mpr hext

/-- `extractPCR` returns the reference that the field holds, if its extension is below 300. -/
theorem extractPCR_eq {field : List UInt8} {length : Nat} {flags : UInt8} (hfield : 7 ≤ field.length)
    (hlength : 6 ≤ length) (hflags : field[0]? = some flags) (hflag : bitAt flags 4 = true) :
    extractPCR (some field) length =
      some (if bigEndian ((field.drop 1).take 6) % 2 ^ 9 < 300 then
        some (clockReference (bigEndian ((field.drop 1).take 6))) else none) := by
  obtain ⟨first, byte0, byte1, byte2, byte3, byte4, byte5, rest, rfl⟩ := exists_bytes hfield
  obtain rfl : first = flags := by simpa using hflags
  have hmask : first &&& 0x10 ≠ 0 := by
    have hbits := flag_bits first.toNat first.toNat_lt
    rw [UInt8.ofNat_toNat] at hbits
    exact hbits hflag
  have hvalid := isValid_clockReference (bigEndian_lt byte0 byte1 byte2 byte3 byte4 byte5)
  have hpcr : (⟨(byte0.toUInt64 <<< 25) ||| (byte1.toUInt64 <<< 17) ||| (byte2.toUInt64 <<< 9) |||
      (byte3.toUInt64 <<< 1) ||| ((byte4 >>> 7).toUInt64 &&& 0x01),
      ((byte4 &&& 0x01).toUInt16 <<< 8) ||| byte5.toUInt16⟩ : PCR) =
        clockReference (bigEndian [byte0, byte1, byte2, byte3, byte4, byte5]) := by
    unfold clockReference
    rw [← base_toNat, ← extension_toNat, UInt64.ofNat_toNat, UInt16.ofNat_toNat]
  have htake : ((first :: byte0 :: byte1 :: byte2 :: byte3 :: byte4 :: byte5 :: rest).drop 1).take 6 =
      [byte0, byte1, byte2, byte3, byte4, byte5] := rfl
  rw [htake]
  unfold extractPCR
  dsimp only
  rw [if_neg (by omega)]
  simp only [List.getElem?_cons_zero, List.getElem?_cons_succ, Option.bind_eq_bind, Option.bind_some,
    if_neg hmask]
  rw [hpcr, hvalid]
  by_cases hlt : bigEndian [byte0, byte1, byte2, byte3, byte4, byte5] % 2 ^ 9 < 300
  · rw [decide_eq_true hlt, if_pos hlt]
    rfl
  · rw [decide_eq_false hlt, if_neg hlt]
    rfl

/-! ### The encoding of a PCR -/

/-- The flags byte and the field of a PCR: its base, six reserved bits and its extension. -/
def encodePCR (flags : UInt8) (base : BitVec 33) (reserved : BitVec 6) (extension : BitVec 9) :
    List UInt8 :=
  flags :: bigEndianBytes 6 (base ++ reserved ++ extension).toNat

/-- `extractPCR` inverts the encoding, and rejects the extensions from 300 on. -/
theorem extractPCR_encodePCR (flags : UInt8) (base : BitVec 33) (reserved : BitVec 6)
    (extension : BitVec 9) (rest : List UInt8) (hflag : bitAt flags 4 = true) :
    extractPCR (some (encodePCR flags base reserved extension ++ rest))
        (encodePCR flags base reserved extension ++ rest).length =
      some (if extension.toNat < 300 then
        some ⟨UInt64.ofNat base.toNat, UInt16.ofNat extension.toNat⟩ else none) := by
  have hbits : (base ++ reserved ++ extension).toNat =
      (base.toNat * 2 ^ 6 + reserved.toNat) * 2 ^ 9 + extension.toNat := by
    rw [toNat_append, toNat_append]
  have hreserved := reserved.isLt
  have hextension := extension.isLt
  have hlength : (encodePCR flags base reserved extension ++ rest).length = 7 + rest.length := by
    rw [List.length_append]
    rfl
  have hfield : ((encodePCR flags base reserved extension ++ rest).drop 1).take 6 =
      bigEndianBytes 6 (base ++ reserved ++ extension).toNat := rfl
  have hvalue : bigEndian (bigEndianBytes 6 (base ++ reserved ++ extension).toNat) =
      (base ++ reserved ++ extension).toNat := by
    rw [bigEndian_bigEndianBytes]
    exact Nat.mod_eq_of_lt (base ++ reserved ++ extension).isLt
  have hbase : (base ++ reserved ++ extension).toNat / 2 ^ 15 = base.toNat := by omega
  have hlow : (base ++ reserved ++ extension).toNat % 2 ^ 9 = extension.toNat := by omega
  rw [extractPCR_eq (by omega) (by omega) rfl hflag, hfield, hvalue]
  unfold clockReference
  rw [hbase, hlow]

theorem extractPCR_example :
    extractPCR (some (encodePCR 0x10 0x155555555 0x3F 299 ++ [0xFF])) 8 =
      some (some ⟨0x155555555, 299⟩) :=
  extractPCR_encodePCR 0x10 0x155555555 0x3F 299 [0xFF] (by decide)

/-! ### The tracker -/

lemma samples_updateStatistics (tracker : PCRTracker) :
    tracker.updateStatistics.samples = tracker.samples := by
  unfold PCRTracker.updateStatistics
  split
  · rfl
  · dsimp only
    split <;> rfl

lemma samples_checkInterval (tracker : PCRTracker) (sample : PCRSample) :
    (tracker.checkInterval sample).samples = tracker.samples := by
  unfold PCRTracker.checkInterval
  split
  · rfl
  · dsimp only
    split <;> split <;> rfl

lemma samples_addPCR (tracker : PCRTracker) (pcr : PCR) (packetNumber : UInt64) (cc : UInt8) :
    (tracker.addPCR pcr packetNumber cc).samples =
      History.push PCRTracker.maxSamples tracker.samples ⟨pcr, packetNumber, cc⟩ := by
  unfold PCRTracker.addPCR
  rw [samples_updateStatistics]
  dsimp only
  rw [samples_checkInterval]
  rfl

lemma getLastPCR_addPCR (tracker : PCRTracker) (pcr : PCR) (packetNumber : UInt64) (cc : UInt8) :
    (tracker.addPCR pcr packetNumber cc).getLastPCR = some pcr := by
  unfold PCRTracker.getLastPCR
  rw [samples_addPCR, History.getLast?_push (by decide)]
  rfl

/-- The demultiplexer after a packet has been processed. -/
def MPEGTSDemuxer.afterPacket (self : MPEGTSDemuxer) (packet : TSPacket) : MPEGTSDemuxer :=
  { self with toPacketState := self.toPacketState.processPacket packet }

lemma pcrManager_processPacket (s : PacketState) (packet : TSPacket) :
    (s.processPacket packet).pcrManager = (s.readTables packet).pcrManager :=
  (PacketState.addPacketToStorage_sameTables (s.readTables packet) packet).pcrManager

lemma getLastPCR_afterPacket (d : MPEGTSDemuxer) {data : List UInt8} {packet : TSPacket}
    (hdata : data.length = mpegtsPacketSize) (haccept : TSPacket.accept data = some packet)
    (hadaptation : packet.hasAdaptation = true) (hflag : packet.adaptationField.pcrFlag = true) :
    (d.afterPacket packet).getLastPCR packet.header.pid = some ⟨0, 0⟩ := by
  have hfield := (TSPacket.accept_parsedFrom hdata haccept).field hadaptation
  have hpcr : (d.toPacketState.readTables packet).pcrManager = d.pcrManager.addPCR packet.header.pid
      ⟨0, 0⟩ (d.toPacketState.processPSIPacket packet).totalPacketsProcessed
      packet.header.continuityCounter := by
    have hvalid : (true && (⟨0, 0⟩ : PCR).isValid) = true := by decide
    unfold PacketState.readTables PacketState.processPCR TSPacket.getAdaptationField
    rw [if_pos hadaptation]
    dsimp only
    rw [hflag, hfield.pcrBase, hfield.pcrExtension, if_pos hvalid,
      PacketState.processPSIPacket_pcrManager]
  unfold getLastPCR afterPacket
  dsimp only
  rw [pcrManager_processPacket, hpcr]
  unfold PCRManager.getTracker PCRManager.addPCR
  rw [AList.lookup_insert]
  exact getLastPCR_addPCR _ _ _ _

/-! ### Agreement -/

/-- The 48 bits of the PCR field of a packet. -/
def pcrBits (data : List UInt8) : Nat := bigEndian ((data.drop 6).take 6)

/-- After the packet with these bytes has been processed, the last reference of its PID is the one
that `extractPCR` reads off its adaptation field, or what it was before if `extractPCR` rejects it. -/
def DecodersAgree (d : MPEGTSDemuxer) (data : List UInt8) (packet : TSPacket) : Prop :=
  match extractPCR (some (data.drop 5)) packet.adaptationField.length.toNat with
  | none => False
  | some none => (d.afterPacket packet).getLastPCR packet.header.pid = d.getLastPCR packet.header.pid
  | some (some pcr) => (d.afterPacket packet).getLastPCR packet.header.pid = some pcr

lemma clockReference_eq_zero_iff {bits : Nat} (h : bits < 2 ^ 48) :
    clockReference bits = ⟨0, 0⟩ ↔ bits / 2 ^ 15 = 0 ∧ bits % 2 ^ 9 = 0 := by
  unfold clockReference
  rw [PCR.mk.injEq, ← UInt64.toNat_inj, ← UInt16.toNat_inj, UInt64.toNat_ofNat', UInt16.toNat_ofNat',
    UInt64.toNat_zero, UInt16.toNat_zero]
  omega

/-- The two decoders agree on a packet exactly if its PCR field holds the reference 0, or holds a
rejected one after the last reference of the PID was 0. -/
theorem decoders_agree_iff (d : MPEGTSDemuxer) {data : List UInt8} {packet : TSPacket}
    (hdata : data.length = mpegtsPacketSize) (haccept : TSPacket.accept data = some packet)
    {field : TSAdaptationField} (hfield : packet.getAdaptationField = some field)
    (hflag : field.pcrFlag = true) :
    DecodersAgree d data packet ↔
      (pcrBits data / 2 ^ 15 = 0 ∧ pcrBits data % 2 ^ 9 = 0) ∨
        (300 ≤ pcrBits data % 2 ^ 9 ∧ d.getLastPCR packet.header.pid = some ⟨0, 0⟩) := by
  obtain ⟨hadaptation, rfl⟩ : packet.hasAdaptation = true ∧ packet.adaptationField = field := by
    unfold TSPacket.getAdaptationField at hfield
    split at hfield
    · next hadaptation => exact ⟨hadaptation, Option.some.inj hfield⟩
    · cases hfield
  obtain ⟨flags, hflags, hbit, hlength⟩ :=
    ((TSPacket.accept_parsedFrom hdata haccept).field hadaptation).pcrFlag hflag
  have hlast := getLastPCR_afterPacket d hdata haccept hadaptation hflag
  have hfieldLength : 7 ≤ (data.drop 5).length := by
    rw [List.length_drop, hdata]
    decide
  have hextract := extractPCR_eq hfieldLength (Nat.le_of_succ_le hlength)
    (by rw [List.getElem?_drop]; exact hflags) hbit
  have hbits : bigEndian (((data.drop 5).drop 1).take 6) = pcrBits data := by
    rw [List.drop_drop]
    rfl
  have hlt : pcrBits data < 2 ^ 48 := by
    obtain ⟨first, byte0, byte1, byte2, byte3, byte4, byte5, rest, hfield⟩ :=
      exists_bytes hfieldLength
    rw [← hbits, hfield]
    exact bigEndian_lt byte0 byte1 byte2 byte3 byte4 byte5
  rw [hbits] at hextract
  unfold DecodersAgree
  rw [hextract, hlast]
  by_cases hvalid : pcrBits data % 2 ^ 9 < 300
  · rw [if_pos hvalid]
    dsimp only
    rw [Option.some.injEq, eq_comm, clockReference_eq_zero_iff hlt]
    omega
  · rw [if_neg hvalid]
    dsimp only
    rw [eq_comm (a := some _)]
    constructor
    · intro hzero
      exact .inr ⟨by omega, hzero⟩
    · rintro (⟨_, hzero⟩ | ⟨_, hzero⟩)
      · omega
      · exact hzero

/-- The bytes of a packet of PID 0x100 with an adaptation field that holds a PCR. -/
def clockPacket (pcrField : List UInt8) : List UInt8 :=
  [0x47, 0x01, 0x00, 0x20, 183, 0x10] ++ pcrField ++ List.replicate 176 0xFF

lemma length_clockPacket {pcrField : List UInt8} (h : pcrField.length = 6) :
    (clockPacket pcrField).length = mpegtsPacketSize := by
  unfold clockPacket
  rw [List.length_append, List.length_append, List.length_replicate, h]
  rfl

theorem decoders_agree_zero : ∃ packet,
    TSPacket.accept (clockPacket [0, 0, 0, 0, 0, 0]) = some packet ∧
      DecodersAgree {} (clockPacket [0, 0, 0, 0, 0, 0]) packet := by
  have haccept : (TSPacket.accept (clockPacket [0, 0, 0, 0, 0, 0])).map
      (fun packet => packet.getAdaptationField.map TSAdaptationField.pcrFlag) = some (some true) := by
    decide +kernel
  obtain ⟨packet, hpacket, hfield⟩ := Option.map_eq_some_iff.mp haccept
  obtain ⟨field, hfield, hflag⟩ := Option.map_eq_some_iff.mp hfield
  refine ⟨packet, hpacket, ?_⟩
  apply (decoders_agree_iff {} (length_clockPacket rfl) hpacket hfield hflag).mpr
  left
  decide +kernel

/-- A field with base 1 is read as 1 by `extractPCR` and tracked as 0 by the demultiplexer. -/
theorem decoders_disagree : ∃ packet,
    TSPacket.accept (clockPacket [0, 0, 0, 0, 0x80, 0]) = some packet ∧
      packet.hasAdaptation = true ∧ packet.adaptationField.pcrFlag = true ∧
      ¬DecodersAgree {} (clockPacket [0, 0, 0, 0, 0x80, 0]) packet := by
  have haccept : (TSPacket.accept (clockPacket [0, 0, 0, 0, 0x80, 0])).map (fun packet =>
      (packet.hasAdaptation, packet.adaptationField.pcrFlag, packet.adaptationField.length)) =
        some (true, true, 183) := by decide +kernel
  have hextract : extractPCR (some ((clockPacket [0, 0, 0, 0, 0x80, 0]).drop 5)) 183 =
      some (some ⟨1, 0⟩) := by decide +kernel
  obtain ⟨packet, hpacket, hfields⟩ := Option.map_eq_some_iff.mp haccept
  obtain ⟨hadaptation, hfields⟩ := Prod.mk.inj hfields
  obtain ⟨hflag, hlength⟩ := Prod.mk.inj hfields
  refine ⟨packet, hpacket, hadaptation, hflag, ?_⟩
  have hlast := getLastPCR_afterPacket {} (length_clockPacket rfl) hpacket hadaptation hflag
  have hsize : packet.adaptationField.length.toNat = 183 := by
    rw [hlength]
    rfl
  have hne : (some ⟨0, 0⟩ : Option PCR) ≠ some ⟨1, 0⟩ := by decide
  unfold DecodersAgree
  rw [hsize, hextract, hlast]
  exact hne

end MinimalMpegTS
