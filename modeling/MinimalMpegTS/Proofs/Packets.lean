import MinimalMpegTS.Model.Packet

/-!
# Packets without an adaptation field

`plainPacket` writes the header of a packet that carries a payload only, and `accept_plainPacket`
reads it back.
-/

namespace MinimalMpegTS

/-- The bytes of a packet with a payload and no adaptation field. -/
def plainPacket (pid : UInt16) (cc : UInt8) (payloadUnitStart : Bool) (payload : List UInt8) :
    List UInt8 :=
  mpegtsSyncByte :: ((if payloadUnitStart then (0x40 : UInt8) else 0) ||| (pid >>> 8).toUInt8) ::
    pid.toUInt8 :: (0x10 ||| cc) :: payload

/-- The packet object that such a packet is parsed into. -/
def plainTSPacket (pid : UInt16) (cc : UInt8) (payloadUnitStart : Bool) (payload : List UInt8) :
    TSPacket :=
  { header :=
      { syncByte := mpegtsSyncByte
        payloadUnitStart := payloadUnitStart
        pid := pid
        adaptationControl := .payloadOnly
        continuityCounter := cc }
    payloadData := some payload
    payloadSize := 184
    hasPayload := true
    valid := true }

@[simp] lemma length_plainPacket (pid : UInt16) (cc : UInt8) (b : Bool) (payload : List UInt8) :
    (plainPacket pid cc b payload).length = 4 + payload.length := by
  simp only [plainPacket, List.length_cons]
  omega

private lemma high_bits : ∀ n < 32, ∀ b : Bool,
    ((if b then (0x40 : UInt8) else 0) ||| UInt8.ofNat n) &&& 0x1F = UInt8.ofNat n ∧
    bitAt ((if b then (0x40 : UInt8) else 0) ||| UInt8.ofNat n) 7 = false ∧
    bitAt ((if b then (0x40 : UInt8) else 0) ||| UInt8.ofNat n) 6 = b ∧
    bitAt ((if b then (0x40 : UInt8) else 0) ||| UInt8.ofNat n) 5 = false := by decide

private lemma low_bits : ∀ n < 16,
    ((0x10 : UInt8) ||| UInt8.ofNat n) >>> 6 &&& 0x03 = 0 ∧
    ((0x10 : UInt8) ||| UInt8.ofNat n) >>> 4 &&& 0x03 = 1 ∧
    ((0x10 : UInt8) ||| UInt8.ofNat n) &&& 0x0F = UInt8.ofNat n := by decide

private lemma pid_bytes {pid : UInt16} (hpid : pid < 8192) :
    (pid >>> 8).toUInt8.toUInt16 <<< 8 ||| pid.toUInt8.toUInt16 = pid := by
  apply UInt16.toNat_inj.mp
  have h : pid.toNat < 8192 := hpid
  have hor := Nat.shiftLeft_add_eq_or_of_lt (b := pid.toNat % 256) (i := 8) (by omega)
    (pid.toNat / 256)
  simp [Nat.shiftRight_eq_div_pow, Nat.shiftLeft_eq] at *
  rw [Nat.mod_eq_of_lt (a := pid.toNat / 256) (by omega),
    Nat.mod_eq_of_lt (a := pid.toNat / 256 * 256) (by omega), ← hor]
  omega

/-- A plain packet is accepted. -/
theorem accept_plainPacket {pid : UInt16} {cc : UInt8} (hpid : pid < 8192) (hcc : cc < 16) (b : Bool)
    (payload : List UInt8) :
    TSPacket.accept (plainPacket pid cc b payload) = some (plainTSPacket pid cc b payload) := by
  have hp : pid.toNat < 8192 := hpid
  have hhigh : (pid >>> 8).toUInt8 = UInt8.ofNat (pid.toNat / 256) := by
    apply UInt8.toNat_inj.mp
    simp [Nat.shiftRight_eq_div_pow]
  have hlow : cc = UInt8.ofNat cc.toNat := (UInt8.ofNat_toNat).symm
  have hpidBytes := pid_bytes hpid
  obtain ⟨h1, h2, h3, h4⟩ := high_bits (pid.toNat / 256) (by omega) b
  obtain ⟨l1, l2, l3⟩ := low_bits cc.toNat hcc
  rw [← hhigh] at h1 h2 h3 h4
  rw [← hlow] at l1 l2 l3
  have hheader : TSPacket.parseHeader {} (plainPacket pid cc b payload) =
      some ({ header := (plainTSPacket pid cc b payload).header }, true) := by
    unfold TSPacket.parseHeader plainPacket plainTSPacket
    simpa [h1, h2, h3, h4, l1, l2, l3, AdaptationFieldControl.ofBits, -UInt8.toUInt16_and,
      -UInt8.toUInt16_or] using hpidBytes
  unfold TSPacket.accept TSPacket.parse
  rw [hheader]
  rfl

@[simp] lemma payloadBytes_plainTSPacket (pid : UInt16) (cc : UInt8) (b : Bool) (payload : List UInt8) :
    (plainTSPacket pid cc b payload).payloadBytes = payload.take 184 := rfl

/-- Three packets of one PID. -/
def threePackets : List UInt8 :=
  plainPacket 0x100 0 true (List.replicate 184 0xAA) ++
    plainPacket 0x100 1 false (List.replicate 184 0xAA) ++
    plainPacket 0x100 2 false (List.replicate 184 0xAA)

end MinimalMpegTS
