import MinimalMpegTS.Proofs.PATSections
import MinimalMpegTS.Proofs.PMTSections

/-!
# One or two wrong bits

The register of the CRC does not come back to where a single bit started within the bits of the
longest section. So a section with one or two wrong bits, wherever they are, does not pass
`verifyCRC32`, and the table parsers accept none unless its length field is hit.
-/

namespace MinimalMpegTS

namespace PSIParser

/-- A step of the register by a zero, as a number. -/
def stepZero (crc : Nat) : Nat :=
  bif Nat.blt crc (2 ^ 31) then 2 * crc else Nat.xor (2 * crc % 2 ^ 32) 0x04C11DB7

lemma toNat_stepBit (crc : BitVec 32) :
    (CRC.stepBit crcPolynomial crc false).toNat = stepZero crc.toNat := by
  have hlt := crc.isLt
  have hmsb : crc.msb = !(Nat.blt crc.toNat (2 ^ 31)) := by
    rw [BitVec.msb_eq_decide, Bool.eq_iff_iff, decide_eq_true_eq, Bool.not_eq_true',
      Bool.eq_false_iff, ne_eq, Nat.blt_eq, Nat.not_lt]
  unfold CRC.stepBit stepZero
  rw [hmsb, Bool.xor_false]
  cases hblt : Nat.blt crc.toNat (2 ^ 31) with
  | true =>
    have hlow : crc.toNat < 2 ^ 31 := Nat.blt_eq.mp hblt
    simp only [Bool.not_true, Bool.false_eq_true, if_false, cond_true, BitVec.toNat_shiftLeft, Nat.shiftLeft_eq]
    omega
  | false =>
    simp only [Bool.not_false, if_true, cond_false, BitVec.toNat_xor, BitVec.toNat_shiftLeft, Nat.shiftLeft_eq]
    rw [pow_one, Nat.mul_comm]
    rfl

lemma toNat_run_zeros (crc : BitVec 32) (n : Nat) :
    (CRC.run crcPolynomial crc (List.replicate n false)).toNat = stepZero^[n] crc.toNat := by
  induction n generalizing crc with
  | zero => rfl
  | succ n ih =>
    rw [List.replicate_succ, CRC.run_cons, ih, toNat_stepBit, Function.iterate_succ_apply]

private lemma walk_crcPolynomial :
    ((CRC.walk stepZero 0x80000000 15 0x04C11DB7).bind (CRC.walk stepZero 0x80000000 4)).isSome =
      true := by
  decide +kernel

lemma order_crcPolynomial {n : Nat} (h : n < 8 * (3 + 4095)) :
    CRC.run crcPolynomial crcPolynomial (List.replicate n false) ≠ BitVec.twoPow 32 31 := by
  intro heq
  have hnat : stepZero^[n] 0x04C11DB7 = 0x80000000 := by
    have hrun := congrArg BitVec.toNat heq
    rw [toNat_run_zeros] at hrun
    exact hrun
  exact CRC.walk_bind_avoids walk_crcPolynomial n h hnat

/-- The number of bits in which byte strings differ. -/
def bitErrors (data data' : List UInt8) : Nat :=
  (List.zipWith xor (messageBits data) (messageBits data')).count true

lemma bitErrors_ne_zero {data data' : List UInt8} (hlen : data.length = data'.length)
    (hne : data ≠ data') : bitErrors data data' ≠ 0 := by
  intro hzero
  refine hne (messageBits_injective hlen (CRC.eq_of_zipWith_zeros ?_ hzero))
  rw [length_messageBits, length_messageBits, hlen]

/-- A section of any length that gets one or two wrong bits does not pass the check. -/
theorem bit_errors_detected {data data' : List UInt8}
    (hvalid : verifyCRC32 data data.length = some true) (hlen : data'.length = data.length)
    (hsize : data.length ≤ 3 + 4095) (hne : data ≠ data') (htwo : bitErrors data data' ≤ 2) :
    verifyCRC32 data' data'.length = some false := by
  obtain ⟨ok, hok⟩ := exists_verifyCRC32 (le_refl data'.length)
  cases ok with
  | false => exact hok
  | true =>
    obtain ⟨_, hzero⟩ := (verifyCRC32_iff data).mp hvalid
    obtain ⟨_, hzero'⟩ := (verifyCRC32_iff data').mp hok
    have hbits : (messageBits data).length = (messageBits data').length := by
      rw [length_messageBits, length_messageBits, hlen]
    refine absurd (hzero.trans hzero'.symm) (CRC.run_ne_of_errors (by decide) hbits
      (bitErrors_ne_zero hlen.symm hne) htwo ?_)
    intro n hn
    rw [length_messageBits] at hn
    exact order_crcPolynomial (by omega)

lemma lengthField_le (data : List UInt8) : lengthField data ≤ 4095 := by
  have hlow := (data.getD 2 0).toNat_lt
  unfold lengthField
  rw [toNat_fieldOf (k := 4) rfl]
  omega

/-- One or two wrong bits in a section make the parsers reject it, if its length field is intact. -/
theorem bit_errors_rejected {data data' : List UInt8}
    (hvalid : verifyCRC32 data data.length = some true) (hsection : data.length = 3 + lengthField data)
    (hlen : data'.length = data.length) (hfield : lengthField data' = lengthField data)
    (hne : data ≠ data') (htwo : bitErrors data data' ≤ 2) :
    (∀ pat pat', parsePAT pat data' ≠ some (pat', true)) ∧
      ∀ pmt pmt', parsePMT pmt data' ≠ some (pmt', true) := by
  have hsize := lengthField_le data
  have hfalse := bit_errors_detected hvalid hlen (by omega) hne htwo
  have hreject : ∀ {tableId used header size}, 8 ≤ data'.length →
      ¬AcceptedSection tableId used data' header size := by
    intro tableId used header size height haccepted
    obtain ⟨_, hlength, _⟩ := parseSectionHeader_fields height haccepted.parse
    have hchecksum := haccepted.checksum
    rw [hlength, hfield, ← hsection, ← hlen, hfalse] at hchecksum
    cases hchecksum
  constructor
  · intro pat pat' hparse
    obtain ⟨size, haccepted⟩ := parsePAT_accepted hparse
    exact hreject haccepted.length haccepted.toAcceptedSection
  · intro pmt pmt' hparse
    obtain ⟨size, haccepted⟩ := parsePMT_accepted hparse
    exact hreject (by have hlength := haccepted.length; omega) haccepted.toAcceptedSection

/-- A PAT with one program. -/
def sentPAT : List UInt8 :=
  [0x00, 0xB0, 0x0D, 0x00, 0x01, 0xC1, 0x00, 0x00, 0x00, 0x01, 0xF0, 0x00, 0x2A, 0xB1, 0x04, 0xB2]

/-- The same PAT with a wrong bit in its transport stream id and another one in the PID. -/
def damagedPAT : List UInt8 :=
  [0x00, 0xB0, 0x0D, 0x01, 0x01, 0xC1, 0x00, 0x00, 0x00, 0x01, 0xF0, 0x80, 0x2A, 0xB1, 0x04, 0xB2]

theorem bit_errors_rejected_sample :
    (∀ pat pat', parsePAT pat damagedPAT ≠ some (pat', true)) ∧
      ∀ pmt pmt', parsePMT pmt damagedPAT ≠ some (pmt', true) := by
  have hvalid : verifyCRC32 sentPAT sentPAT.length = some true := by decide +kernel
  have hsection : sentPAT.length = 3 + lengthField sentPAT := by decide +kernel
  have hfield : lengthField damagedPAT = lengthField sentPAT := by decide +kernel
  have htwo : bitErrors sentPAT damagedPAT ≤ 2 := by decide +kernel
  have hlen : damagedPAT.length = sentPAT.length := rfl
  exact bit_errors_rejected hvalid hsection hlen hfield (by decide) htwo

end PSIParser

end MinimalMpegTS
