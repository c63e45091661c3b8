import MinimalMpegTS.Model.PacketGenerator
import MinimalMpegTS.Proofs.PacketLayout
import MinimalMpegTS.Proofs.Reading

/-!
# Generated packets

The generator of the tests writes packets that the parser reads back, whatever the configuration. No
window inside a generated packet continues it, so the sync search always goes from one packet to the
next.
-/

namespace MinimalMpegTS

open TSPacket PacketGenerator

/-! ### The layout -/

/-- The adaptation field of the packets of a configuration. -/
def adaptationBytes (config : GeneratorConfig) : List UInt8 :=
  if config.includeAdaptation then
    if config.includePrivateData then [10, 0x02, 8, 1, 2, 3, 4, 5, 6, 7, 8] else [1, 0]
  else []

/-- The private data of the packets of a configuration. -/
def privateBytesOf (config : GeneratorConfig) : List UInt8 :=
  if config.includeAdaptation && config.includePrivateData then [1, 2, 3, 4, 5, 6, 7, 8] else []

def payloadBytesOf (config : GeneratorConfig) : List UInt8 :=
  List.replicate (184 - (adaptationBytes config).length) config.payloadPattern

lemma length_adaptationBytes (config : GeneratorConfig) : (adaptationBytes config).length ≤ 11 := by
  unfold adaptationBytes
  split
  · split <;> decide
  · decide

lemma generatePacket_eq (config : GeneratorConfig) : generatePacket config =
    generateHeader config ++ (adaptationBytes config ++ payloadBytesOf config) := by
  have hsize : ∀ n, mpegtsPacketSize - (4 + n) = 184 - n := by
    intro n
    unfold mpegtsPacketSize
    omega
  unfold generatePacket payloadBytesOf adaptationBytes generateAdaptationField
  rw [List.append_assoc]
  dsimp only
  rw [hsize]
  cases config.includeAdaptation <;> cases config.includePrivateData <;> rfl

lemma length_generatePacket (config : GeneratorConfig) :
    (generatePacket config).length = mpegtsPacketSize := by
  have hle := length_adaptationBytes config
  rw [generatePacket_eq, List.length_append, List.length_append]
  unfold payloadBytesOf generateHeader mpegtsPacketSize
  rw [List.length_replicate]
  simp only [List.length_cons, List.length_nil]
  omega

private lemma second_byte : ∀ n < 32, ∀ b : Bool,
    ((if b then (0x00 : UInt8) ||| 0x40 else 0x00) ||| UInt8.ofNat n).toNat =
      (if b then 64 else 0) + n := by
  decide

private lemma fourth_byte : ∀ n < 256, ∀ b : Bool,
    (((0x00 : UInt8) ||| ((if b then (0x03 : UInt8) else 0x01) <<< 4)) ||| (UInt8.ofNat n &&& 0x0F)).toNat =
      (if b then 48 else 16) + n % 16 := by
  decide +kernel

lemma header_values (config : GeneratorConfig) (back : List UInt8) :
    value (generateHeader config ++ back) 0 = 71 ∧
      value (generateHeader config ++ back) 1 =
        (if config.setPusi then 64 else 0) + config.pid.toNat / 256 % 32 ∧
      value (generateHeader config ++ back) 2 = config.pid.toNat % 256 ∧
      value (generateHeader config ++ back) 3 =
        (if config.includeAdaptation then 48 else 16) + config.startingCc.toNat % 16 := by
  have hhigh : ((config.pid >>> 8) &&& 0x1F).toUInt8 = UInt8.ofNat (config.pid.toNat / 256 % 32) := by
    have hshift : (config.pid >>> 8).toNat = config.pid.toNat / 256 := by
      rw [UInt16.toNat_shiftRight, Nat.shiftRight_eq_div_pow]
      rfl
    have hmask : (0x1F : UInt16).toNat = 2 ^ 5 - 1 := rfl
    apply UInt8.toNat_inj.mp
    rw [UInt16.toNat_toUInt8, UInt16.toNat_and, hshift, hmask, Nat.and_two_pow_sub_one_eq_mod,
      UInt8.toNat_ofNat']
  have hlow : ((config.pid &&& 0xFF).toUInt8).toNat = config.pid.toNat % 256 := by
    have hmask : (0xFF : UInt16).toNat = 2 ^ 8 - 1 := rfl
    rw [UInt16.toNat_toUInt8, UInt16.toNat_and, hmask, Nat.and_two_pow_sub_one_eq_mod, Nat.mod_mod]
  have hfourth := fourth_byte config.startingCc.toNat config.startingCc.toNat_lt config.includeAdaptation
  rw [UInt8.ofNat_toNat] at hfourth
  refine ⟨rfl, ?_, hlow, hfourth⟩
  rw [← second_byte _ (Nat.mod_lt _ (by decide)), ← hhigh]
  rfl

/-! ### Reading back -/

/-- The packet object that a generated packet is parsed into. -/
def generatedTSPacket (config : GeneratorConfig) : TSPacket where
  header :=
    { syncByte := mpegtsSyncByte
      payloadUnitStart := config.setPusi
      pid := config.pid % 8192
      adaptationControl := if config.includeAdaptation then .adaptationPayload else .payloadOnly
      continuityCounter := config.startingCc % 16 }
  adaptationField :=
    if config.includeAdaptation then
      if config.includePrivateData then
        { length := 10
          transportPrivateDataFlag := true
          privateDataLength := 8
          privateData := some ([1, 2, 3, 4, 5, 6, 7, 8] ++ payloadBytesOf config) }
      else { length := 1 }
    else {}
  payloadData := some (payloadBytesOf config)
  payloadSize := (payloadBytesOf config).length
  hasAdaptation := config.includeAdaptation
  hasPayload := true
  valid := true

private lemma second_bits : ∀ n < 32, ∀ b : Bool,
    ((if b then 64 else 0) + n).testBit 7 = false ∧ ((if b then 64 else 0) + n).testBit 6 = b ∧
      ((if b then 64 else 0) + n).testBit 5 = false := by
  decide

private lemma fourth_bits : ∀ n < 16, ∀ b : Bool,
    ((if b then 48 else 16) + n).testBit 5 = b ∧ ((if b then 48 else 16) + n).testBit 4 = true ∧
      AdaptationFieldControl.ofBits (UInt8.ofNat (((if b then 48 else 16) + n) / 16 % 4)) =
        if b then .adaptationPayload else .payloadOnly := by
  decide

lemma headerFrom_generated (config : GeneratorConfig) (back : List UInt8) :
    headerFrom (generateHeader config ++ back) = (generatedTSPacket config).header := by
  obtain ⟨-, h1, h2, h3⟩ := header_values config back
  obtain ⟨b7, b6, b5⟩ := second_bits (config.pid.toNat / 256 % 32) (Nat.mod_lt _ (by decide))
    config.setPusi
  obtain ⟨-, -, hcontrol⟩ := fourth_bits (config.startingCc.toNat % 16) (Nat.mod_lt _ (by decide))
    config.includeAdaptation
  have hpid : UInt16.ofNat (((if config.setPusi then 64 else 0) + config.pid.toNat / 256 % 32) % 32 * 256 +
      config.pid.toNat % 256) = config.pid % 8192 := by
    have hbits : ((if config.setPusi then 64 else 0) + config.pid.toNat / 256 % 32) % 32 * 256 +
        config.pid.toNat % 256 = config.pid.toNat % 8192 := by
      split <;> omega
    apply UInt16.toNat_inj.mp
    rw [hbits, UInt16.toNat_mod]
    exact Nat.mod_eq_of_lt (by omega)
  have hscrambling : ((if config.includeAdaptation then 48 else 16) + config.startingCc.toNat % 16) / 64 =
      0 := by
    split <;> omega
  have hcounter : ((if config.includeAdaptation then 48 else 16) + config.startingCc.toNat % 16) % 16 =
      config.startingCc.toNat % 16 := by
    split <;> omega
  have hcc : UInt8.ofNat (config.startingCc.toNat % 16) = config.startingCc % 16 := by
    apply UInt8.toNat_inj.mp
    rw [UInt8.toNat_mod]
    exact Nat.mod_eq_of_lt (by omega)
  unfold headerFrom bit
  rw [h1, h2, h3, b7, b6, b5, hpid, hscrambling, hcontrol, hcounter, hcc]
  rfl

lemma control_generated (config : GeneratorConfig) (back : List UInt8) :
    bit (generateHeader config ++ back) 3 5 = config.includeAdaptation ∧
      bit (generateHeader config ++ back) 3 4 = true := by
  obtain ⟨-, -, -, h3⟩ := header_values config back
  obtain ⟨b5, b4, -⟩ := fourth_bits (config.startingCc.toNat % 16) (Nat.mod_lt _ (by decide))
    config.includeAdaptation
  unfold bit
  rw [h3, b5, b4]
  exact ⟨rfl, rfl⟩

lemma field_generated {config : GeneratorConfig} (hadaptation : config.includeAdaptation = true)
    (byte0 byte1 byte2 byte3 : UInt8) (back : List UInt8) :
    let data := byte0 :: byte1 :: byte2 :: byte3 :: (adaptationBytes config ++ back)
    FieldFits data ∧ 5 + value data 4 = 4 + (adaptationBytes config).length ∧
      fieldFrom data =
        if config.includePrivateData then
          { length := 10
            transportPrivateDataFlag := true
            privateDataLength := 8
            privateData := some ([1, 2, 3, 4, 5, 6, 7, 8] ++ back) }
        else { length := 1 } := by
  by_cases hprivate : config.includePrivateData = true
  · have hbytes : adaptationBytes config = [10, 0x02, 8, 1, 2, 3, 4, 5, 6, 7, 8] := by
      unfold adaptationBytes
      rw [if_pos hadaptation, if_pos hprivate]
    rw [hbytes, if_pos hprivate]
    intro data
    have h4 : value data 4 = 10 := rfl
    have h5 : ∀ k, bit data 5 k = Nat.testBit 2 k := fun _ => rfl
    have hsize : optionalSize data = 0 := by
      unfold optionalSize
      rw [h5, h5, h5]
      decide
    have hlength : privateLength data = 8 := by
      unfold privateLength
      rw [hsize]
      rfl
    refine ⟨.inr ⟨by omega, ?_⟩, by rw [h4]; rfl, ?_⟩
    · rw [hsize, hlength, h5, h4]
      decide
    · unfold fieldFrom flagsFrom
      simp only [h5, h4, hsize]
      rfl
  · have hbytes : adaptationBytes config = [1, 0] := by
      unfold adaptationBytes
      rw [if_pos hadaptation, if_neg hprivate]
    rw [hbytes, if_neg hprivate]
    intro data
    have h4 : value data 4 = 1 := rfl
    have h5 : ∀ k, bit data 5 k = Nat.testBit 0 k := fun _ => rfl
    have hsize : optionalSize data = 0 := by
      unfold optionalSize
      rw [h5, h5, h5]
      decide
    refine ⟨.inr ⟨by omega, ?_⟩, by rw [h4]; rfl, ?_⟩
    · rw [hsize, h5, h4, if_neg (by decide)]
    · unfold fieldFrom flagsFrom
      simp only [h5, h4, hsize]
      rfl

lemma wellFormed_generatePacket (config : GeneratorConfig) : WellFormed (generatePacket config) := by
  rw [generatePacket_eq]
  obtain ⟨h0, h1, -, h3⟩ := header_values config (adaptationBytes config ++ payloadBytesOf config)
  obtain ⟨b7, -, -⟩ := second_bits (config.pid.toNat / 256 % 32) (Nat.mod_lt _ (by decide)) config.setPusi
  constructor
  · exact h0
  · unfold bit
    rw [h1, b7]
  · rw [h3]
    split <;> omega
  · intro hfield
    rw [(control_generated config _).1] at hfield
    exact (field_generated hfield _ _ _ _ _).1

lemma packetFrom_generatePacket (config : GeneratorConfig) :
    packetFrom (generatePacket config) = generatedTSPacket config := by
  have hlength := length_generatePacket config
  rw [generatePacket_eq] at hlength ⊢
  obtain ⟨hfield, hpayload⟩ := control_generated config (adaptationBytes config ++ payloadBytesOf config)
  have hstart : payloadStart (generateHeader config ++ (adaptationBytes config ++ payloadBytesOf config)) =
      4 + (adaptationBytes config).length := by
    unfold payloadStart
    rw [hfield]
    split
    · next hadaptation => exact (field_generated hadaptation _ _ _ _ _).2.1
    · next hadaptation =>
      unfold adaptationBytes
      rw [if_neg hadaptation]
      rfl
  have hdrop : (generateHeader config ++ (adaptationBytes config ++ payloadBytesOf config)).drop
      (4 + (adaptationBytes config).length) = payloadBytesOf config := by
    have hheader : (generateHeader config).length = 4 := rfl
    rw [← List.append_assoc, ← hheader, ← List.length_append, List.drop_left]
  have hsize : mpegtsPacketSize - (4 + (adaptationBytes config).length) =
      (payloadBytesOf config).length := by
    unfold payloadBytesOf mpegtsPacketSize
    rw [List.length_replicate]
    omega
  unfold packetFrom
  rw [headerFrom_generated, hfield, hpayload, if_pos rfl, if_pos rfl, hstart, hdrop, hsize]
  unfold generatedTSPacket
  congr 1
  split
  · next hadaptation => exact (field_generated hadaptation _ _ _ _ _).2.2
  · rfl

/-- A generated packet is accepted and read back as it was configured. -/
theorem accept_generatePacket (config : GeneratorConfig) :
    accept (generatePacket config) = some (generatedTSPacket config) := by
  obtain ⟨packet, ok, hparse, hok, hpacket⟩ := parse_from (length_generatePacket config)
  have haccepted := hok.mpr (wellFormed_generatePacket config)
  have hobject := hpacket haccepted
  subst haccepted hobject
  unfold accept
  rw [hparse, packetFrom_generatePacket]
  rfl

/-! ### Inside a generated packet -/

lemma value_append_left {front : List UInt8} (back : List UInt8) {position : Nat}
    (h : position < front.length) : value (front ++ back) position = value front position := by
  unfold value
  rw [List.getD_append _ _ _ _ h]

lemma value_append_right (front back : List UInt8) (position : Nat) :
    value (front ++ back) (front.length + position) = value back position := by
  unfold value
  rw [List.getD_append_right _ _ _ _ (Nat.le_add_right _ _), Nat.add_sub_cancel_left]

lemma value_packetAt (buffer : List UInt8) (pos : Nat) {k : Nat} (hk : k < mpegtsPacketSize) :
    value (packetAt buffer pos) k = value buffer (pos + k) := by
  unfold value packetAt
  rw [List.getD_eq_getElem?_getD, List.getElem?_take_of_lt hk, List.getElem?_drop,
    ← List.getD_eq_getElem?_getD]

lemma value_adaptation (config : GeneratorConfig) (back : List UInt8) {k : Nat}
    (hk : k < (adaptationBytes config).length) :
    value (generatePacket config ++ back) (4 + k) ≠ 71 := by
  have hposition : 4 + k = (generateHeader config).length + k := rfl
  have hnone : ∀ byte ∈ adaptationBytes config, byte.toNat ≠ 71 := by
    unfold adaptationBytes
    split
    · split <;> decide +kernel
    · intro byte hbyte
      cases hbyte
  rw [generatePacket_eq, List.append_assoc, List.append_assoc, hposition, value_append_right,
    value_append_left _ hk]
  unfold value
  rw [List.getD_eq_getElem _ _ hk]
  exact hnone _ (List.getElem_mem hk)

lemma value_payload (config : GeneratorConfig) (back : List UInt8) {k : Nat}
    (hle : 4 + (adaptationBytes config).length ≤ k) (hlt : k < mpegtsPacketSize) :
    value (generatePacket config ++ back) k = config.payloadPattern.toNat := by
  have hposition : k = (generateHeader config ++ adaptationBytes config).length +
      (k - (4 + (adaptationBytes config).length)) := by
    have hheader : (generateHeader config).length = 4 := rfl
    rw [List.length_append, hheader]
    omega
  have hsmall : k - (4 + (adaptationBytes config).length) < 184 - (adaptationBytes config).length := by
    unfold mpegtsPacketSize at hlt
    omega
  have hlength : (payloadBytesOf config).length = 184 - (adaptationBytes config).length :=
    List.length_replicate
  rw [generatePacket_eq, ← List.append_assoc, List.append_assoc, hposition, value_append_right,
    value_append_left _ (by rwa [hlength])]
  unfold value payloadBytesOf
  rw [List.getD_eq_getElem?_getD, List.getElem?_replicate, if_pos hsmall, Option.getD_some]

/-- The values of the bytes of a generated packet and of the header of the next one behind it. -/
structure GeneratedBytes (stream : List UInt8) (config : GeneratorConfig) : Prop where
  first : value stream 1 = (if config.setPusi then 64 else 0) + config.pid.toNat / 256 % 32
  second : value stream 2 = config.pid.toNat % 256
  third : value stream 3 = (if config.includeAdaptation then 48 else 16) + config.startingCc.toNat % 16
  adaptation : ∀ k < (adaptationBytes config).length, value stream (4 + k) ≠ 71
  payload : ∀ k, 4 + (adaptationBytes config).length ≤ k → k < 188 →
    value stream k = config.payloadPattern.toNat
  nextSync : value stream 188 = 71
  nextFirst : value stream 189 = (if config.setPusi then 64 else 0) + config.pid.toNat / 256 % 32
  nextSecond : value stream 190 = config.pid.toNat % 256

lemma generatedBytes (config : GeneratorConfig) (back : List UInt8) :
    GeneratedBytes (generatePacket config ++ (generatePacket (nextConfig config) ++ back)) config := by
  obtain ⟨-, h1, h2, h3⟩ := header_values config
    (adaptationBytes config ++ payloadBytesOf config ++ (generatePacket (nextConfig config) ++ back))
  have hfront : generateHeader config ++ (adaptationBytes config ++ payloadBytesOf config ++
      (generatePacket (nextConfig config) ++ back)) =
        generatePacket config ++ (generatePacket (nextConfig config) ++ back) := by
    rw [generatePacket_eq config]
    simp only [List.append_assoc]
  obtain ⟨n0, n1, n2, -⟩ := header_values (nextConfig config)
    (adaptationBytes (nextConfig config) ++ payloadBytesOf (nextConfig config) ++ back)
  have hnext : generateHeader (nextConfig config) ++ (adaptationBytes (nextConfig config) ++
      payloadBytesOf (nextConfig config) ++ back) = generatePacket (nextConfig config) ++ back := by
    rw [generatePacket_eq (nextConfig config)]
    simp only [List.append_assoc]
  rw [hfront] at h1 h2 h3
  rw [hnext] at n0 n1 n2
  have hbehind : ∀ k, value (generatePacket config ++ (generatePacket (nextConfig config) ++ back))
      (188 + k) = value (generatePacket (nextConfig config) ++ back) k := by
    intro k
    have hvalue := value_append_right (generatePacket config) (generatePacket (nextConfig config) ++ back) k
    rwa [length_generatePacket] at hvalue
  exact ⟨h1, h2, h3, fun k hk => value_adaptation config _ hk,
    fun k hle hlt => value_payload config _ hle hlt, (hbehind 0).trans n0, (hbehind 1).trans n1,
    (hbehind 2).trans n2⟩

/-- The PID of what would be read as a header at a position. -/
def pidAt (stream : List UInt8) (j : Nat) : Nat := value stream (j + 1) % 32 * 256 + value stream (j + 2)

namespace GeneratedBytes

variable {stream : List UInt8} {config : GeneratorConfig} (h : GeneratedBytes stream config)
include h

lemma pidAt_in_header {j : Nat} (hpos : 0 < j) (hlt : j < 4) (hsync : value stream j = 71)
    (hcontrol : value stream (j + 3) / 16 % 4 ≠ 0) : pidAt stream j ≠ config.pid.toNat % 8192 := by
  intro hpid
  have h1 := h.first
  have h2 := h.second
  have h3 := h.third
  have hshort := length_adaptationBytes config
  have hcounter : config.startingCc.toNat % 16 < 16 := Nat.mod_lt _ (by decide)
  unfold pidAt at hpid
  obtain rfl | rfl | rfl : j = 1 ∨ j = 2 ∨ j = 3 := by omega
  · simp only [Nat.reduceAdd] at hpid
    have hseven : config.pid.toNat / 256 % 32 = 7 := by
      split at h1 <;> omega
    have hbits : value stream 2 % 32 = 7 := by
      split at h3 <;> omega
    split at h3 <;> omega
  · simp only [Nat.reduceAdd] at hpid hcontrol
    have hbyte := value_lt stream 4
    by_cases hempty : (adaptationBytes config).length = 0
    · have h4 := h.payload 4 (by omega) (by omega)
      have h5 := h.payload 5 (by omega) (by omega)
      omega
    · have h4 : value stream 4 ≠ 71 := h.adaptation 0 (by omega)
      omega
  · split at h3 <;> omega

lemma pidAt_at_end {j : Nat} (hle : 185 ≤ j) (hlt : j < 188) (hsync : value stream j = 71)
    (hcontrol : value stream (j + 3) / 16 % 4 ≠ 0) : pidAt stream j ≠ config.pid.toNat % 8192 := by
  intro hpid
  have n0 := h.nextSync
  have n1 := h.nextFirst
  have n2 := h.nextSecond
  have hshort := length_adaptationBytes config
  have hfirst := h.payload j (by omega) hlt
  have hparts : config.pid.toNat % 8192 = config.pid.toNat / 256 % 32 * 256 + config.pid.toNat % 256 := by
    omega
  have hhigh : config.pid.toNat / 256 % 32 < 32 := Nat.mod_lt _ (by decide)
  have hlow : config.pid.toNat % 256 < 256 := Nat.mod_lt _ (by decide)
  unfold pidAt at hpid
  rw [hparts] at hpid
  clear hparts
  -- from here on only the two parts of the PID count
  generalize config.pid.toNat / 256 % 32 = high at *
  generalize config.pid.toNat % 256 = low at *
  obtain rfl | rfl | rfl : j = 185 ∨ j = 186 ∨ j = 187 := by omega
  · simp only [Nat.reduceAdd] at hcontrol
    omega
  · have hsecond := h.payload 187 (by omega) (by omega)
    simp only [Nat.reduceAdd] at hpid hcontrol
    split at n1 <;> omega
  · simp only [Nat.reduceAdd] at hpid hcontrol
    split at n1 <;> omega

end GeneratedBytes

lemma inner_header (config : GeneratorConfig) (back : List UInt8) {j : Nat} (hpos : 0 < j)
    (hlt : j < mpegtsPacketSize)
    (hsync : value (generatePacket config ++ (generatePacket (nextConfig config) ++ back)) j = 71)
    (hcontrol : value (generatePacket config ++ (generatePacket (nextConfig config) ++ back)) (j + 3) /
      16 % 4 ≠ 0) :
    pidAt (generatePacket config ++ (generatePacket (nextConfig config) ++ back)) j ≠
      config.pid.toNat % 8192 := by
  have hbytes := generatedBytes config back
  by_cases hheader : j < 4
  · exact hbytes.pidAt_in_header hpos hheader hsync hcontrol
  by_cases hfield : j < 4 + (adaptationBytes config).length
  · have hbyte := hbytes.adaptation (j - 4) (by omega)
    rw [Nat.add_sub_of_le (by omega)] at hbyte
    exact absurd hsync hbyte
  by_cases hwithin : j + 3 < 188
  · -- four bytes of the pattern
    have hfirst := hbytes.payload j (by omega) hlt
    have hfourth := hbytes.payload (j + 3) (by omega) hwithin
    omega
  · exact hbytes.pidAt_at_end (by omega) hlt hsync hcontrol

/-! ### The search behind a generated packet -/

lemma belongs_nextConfig (config : GeneratorConfig) :
    belongsToSameIteration (generatedTSPacket config) (generatedTSPacket (nextConfig config)) = true := by
  have hcounter : (config.startingCc % 16 + 1) % 16 = (config.startingCc + 1) % 16 % 16 := by
    apply UInt8.toNat_inj.mp
    simp only [UInt8.toNat_mod, UInt8.toNat_add, UInt8.reduceToNat]
    omega
  unfold belongsToSameIteration
  dsimp only [generatedTSPacket, nextConfig]
  rw [hcounter, bne_self_eq_false, bne_self_eq_false]
  rfl

lemma pid_of_belongs {p1 p2 : TSPacket} (hpayload : p1.hasPayload = true)
    (h : belongsToSameIteration p1 p2 = true) : p1.header.pid = p2.header.pid := by
  unfold belongsToSameIteration at h
  rw [Bool.and_eq_true, hpayload] at h
  simpa using h.2

lemma no_inner_candidate (config : GeneratorConfig) (back : List UInt8) {j : Nat} (hpos : 0 < j)
    (hlt : j < mpegtsPacketSize) :
    candidateAt (generatePacket config ++ (generatePacket (nextConfig config) ++ back))
      [generatedTSPacket config] j = none := by
  cases hcandidate : candidateAt (generatePacket config ++ (generatePacket (nextConfig config) ++ back))
      [generatedTSPacket config] j with
  | none => rfl
  | some candidate =>
    obtain ⟨haccept, hbelongs⟩ := candidateAt_some hcandidate
    have hlength : (packetAt (generatePacket config ++ (generatePacket (nextConfig config) ++ back)) j).length =
        mpegtsPacketSize := by
      unfold packetAt
      rw [List.length_take_of_le]
      simp only [List.length_drop, List.length_append, length_generatePacket]
      omega
    obtain ⟨hformed, rfl⟩ := accept_from hlength haccept
    have hpid := congrArg UInt16.toNat (pid_of_belongs rfl hbelongs)
    have hsync := hformed.sync
    have hcontrol := hformed.control
    rw [value_packetAt _ _ (by decide)] at hsync hcontrol
    have hread : (packetFrom (packetAt (generatePacket config ++
        (generatePacket (nextConfig config) ++ back)) j)).header.pid.toNat =
          pidAt (generatePacket config ++ (generatePacket (nextConfig config) ++ back)) j := by
      unfold pidAt
      rw [← value_packetAt _ _ (by decide : 1 < mpegtsPacketSize),
        ← value_packetAt _ _ (by decide : 2 < mpegtsPacketSize)]
      have hlow := value_lt (packetAt (generatePacket config ++
        (generatePacket (nextConfig config) ++ back)) j) 2
      apply UInt16.toNat_ofNat_of_lt'
      unfold UInt16.size
      omega
    have hsent : (generatedTSPacket config).header.pid.toNat = config.pid.toNat % 8192 := UInt16.toNat_mod _ _
    rw [hread, hsent] at hpid
    exact absurd hpid.symm (inner_header config back hpos hlt hsync hcontrol)

lemma candidateAt_behind (front buffer : List UInt8) (candidates : List TSPacket) (j : Nat) :
    candidateAt (front ++ buffer) candidates (front.length + j) = candidateAt buffer candidates j := by
  unfold candidateAt packetAt
  rw [List.getElem?_append_right (Nat.le_add_right _ _), Nat.add_sub_cancel_left,
    List.drop_length_add_append]

lemma accept_behind (front : List UInt8) (config : GeneratorConfig) (back : List UInt8) :
    accept (packetAt (front ++ (generatePacket config ++ back)) front.length) =
      some (generatedTSPacket config) := by
  rw [InputState.packetAt_packet rfl (length_generatePacket config), accept_generatePacket]

/-- Three packets of a sequence are a sync position. -/
theorem isSyncPosition_generated (front : List UInt8) (config : GeneratorConfig) (back : List UInt8) :
    isSyncPosition (front ++ (generatePacket config ++ (generatePacket (nextConfig config) ++
      (generatePacket (nextConfig (nextConfig config)) ++ back)))) front.length = true := by
  set second := nextConfig config
  set third := nextConfig second
  set buffer := front ++ (generatePacket config ++ (generatePacket second ++
    (generatePacket third ++ back))) with hbuffer
  have h1 : accept (packetAt buffer front.length) = some (generatedTSPacket config) :=
    accept_behind front config _
  have h2 : accept (packetAt buffer (front.length + mpegtsPacketSize)) =
      some (generatedTSPacket second) := by
    have h := accept_behind (front ++ generatePacket config) second (generatePacket third ++ back)
    rwa [List.append_assoc, List.length_append, length_generatePacket] at h
  have h3 : accept (packetAt buffer (front.length + mpegtsPacketSize + mpegtsPacketSize)) =
      some (generatedTSPacket third) := by
    have h := accept_behind (front ++ generatePacket config ++ generatePacket second) third back
    rwa [List.append_assoc, List.append_assoc, List.length_append, List.length_append,
      length_generatePacket, length_generatePacket] at h
  have hlength : front.length + mpegtsPacketSize * 3 ≤ buffer.length := by
    rw [hbuffer]
    simp only [List.length_append, length_generatePacket]
    omega
  have hlimit : front.length + mpegtsPacketSize * 3 ≤ searchLimit buffer front.length := by
    unfold searchLimit
    rw [le_min_iff]
    exact ⟨by omega, hlength⟩
  have hpos := packetSize_pos
  rw [isSyncPosition_iff]
  refine ⟨_, _, _, _, _, candidateAt_first h1, ⟨?_, ?_, (candidateAt_next h2 rfl).trans
    (if_pos (belongs_nextConfig config)), ?_⟩, le_rfl, by omega, (candidateAt_next h3 rfl).trans
    (if_pos (belongs_nextConfig second)), ?_⟩
  · omega
  · omega
  · intro j hle hlt
    have hj : j = front.length + (j - front.length) := by omega
    rw [hj, hbuffer, candidateAt_behind]
    exact no_inner_candidate config _ (by omega) (by omega)
  · intro j hle hlt
    omega

end MinimalMpegTS
