import MinimalMpegTS.Lib.CRC
import MinimalMpegTS.Proofs.Fields

/-!
# The CRC of a section

The table of the code holds what eight steps of the bit-by-bit CRC do to each byte, so
`calculateCRC32` is CRC-32/MPEG-2. `verifyCRC32` accepts the sections that clear its register. A
section that is changed within four consecutive bytes leaves another register, so it is rejected.
-/

namespace MinimalMpegTS

namespace PSIParser

/-- The polynomial of CRC-32/MPEG-2 below its leading term. -/
def crcPolynomial : BitVec 32 := 0x04C11DB7#32

/-- The bits of a byte string, the highest bit of each byte first. -/
def messageBits (data : List UInt8) : List Bool := data.flatMap (fun byte => CRC.bits byte.toBitVec)

/-- CRC-32/MPEG-2, bit by bit. -/
def crc32Mpeg2 (data : List UInt8) : BitVec 32 :=
  CRC.run crcPolynomial 0xFFFFFFFF#32 (messageBits data)

lemma messageBits_append (front back : List UInt8) :
    messageBits (front ++ back) = messageBits front ++ messageBits back := List.flatMap_append

lemma length_messageBits (data : List UInt8) : (messageBits data).length = 8 * data.length := by
  induction data with
  | nil => rfl
  | cons byte data ih =>
    have hcons : messageBits (byte :: data) = CRC.bits byte.toBitVec ++ messageBits data := rfl
    rw [hcons, List.length_append, ih, CRC.length_bits, List.length_cons]
    omega

lemma messageBits_injective {front back : List UInt8} (hlen : front.length = back.length)
    (h : messageBits front = messageBits back) : front = back := by
  induction front generalizing back with
  | nil => exact (List.eq_nil_of_length_eq_zero hlen.symm).symm
  | cons byte front ih =>
    cases back with
    | nil => cases hlen
    | cons byte' back =>
      have hsplit : CRC.bits byte.toBitVec ++ messageBits front =
          CRC.bits byte'.toBitVec ++ messageBits back := h
      obtain ⟨hbyte, hrest⟩ := List.append_inj hsplit (by simp)
      rw [UInt8.toBitVec_inj.mp (CRC.bits_injective hbyte), ih (Nat.succ.inj hlen) hrest]

/-! ### The table -/

private lemma crc32Table_eq : ∀ n < 256, (crc32Table.getD n 0).toBitVec =
    CRC.run crcPolynomial 0#32 (CRC.bits (BitVec.ofNat 8 n)) := by decide +kernel

lemma toBitVec_index (crc : UInt32) (byte : UInt8) :
    (((crc >>> 24) ^^^ byte.toUInt32) &&& 0xFF).toNat < 256 ∧
      BitVec.ofNat 8 (((crc >>> 24) ^^^ byte.toUInt32) &&& 0xFF).toNat =
        CRC.top 8 crc.toBitVec ^^^ byte.toBitVec := by
  constructor
  · rw [UInt32.toNat_and]
    exact Nat.lt_of_le_of_lt Nat.and_le_right (by decide)
  · apply BitVec.eq_of_toNat_eq
    have hhigh : crc.toNat >>> 24 % 2 ^ 8 < 2 ^ 8 := Nat.mod_lt _ (by decide)
    have hbyte : byte.toNat < 2 ^ 8 := byte.toNat_lt
    have hmask : ((crc.toNat >>> 24 ^^^ byte.toNat) &&& 255) % 2 ^ 8 =
        crc.toNat >>> 24 % 2 ^ 8 ^^^ byte.toNat := by
      show ((_ &&& (2 ^ 8 - 1)) % 2 ^ 8) = _
      rw [Nat.and_two_pow_sub_one_eq_mod, Nat.mod_mod, Nat.xor_mod_two_pow,
        Nat.mod_eq_of_lt hbyte]
    simpa only [CRC.top, BitVec.toNat_ofNat, UInt32.toNat_and, UInt32.toNat_xor,
      UInt32.toNat_shiftRight, UInt8.toNat_toUInt32, UInt32.reduceToNat, Nat.reduceMod,
      Nat.reduceSub, BitVec.toNat_xor, BitVec.toNat_setWidth, BitVec.toNat_ushiftRight,
      UInt32.toNat_toBitVec, UInt8.toNat_toBitVec] using hmask

lemma crc_step (crc : UInt32) (byte : UInt8) :
    ((crc <<< 8) ^^^ crc32Table.getD (((crc >>> 24) ^^^ byte.toUInt32) &&& 0xFF).toNat 0).toBitVec =
      CRC.run crcPolynomial crc.toBitVec (CRC.bits byte.toBitVec) := by
  obtain ⟨hlt, hindex⟩ := toBitVec_index crc byte
  rw [CRC.run_top _ _ (by simp), CRC.length_bits, CRC.zipWith_bits, UInt32.toBitVec_xor,
    crc32Table_eq _ hlt, hindex]
  rfl

/-- The table-driven CRC is the bit-by-bit one. -/
theorem calculateCRC32_eq (data : List UInt8) : (calculateCRC32 data).toBitVec = crc32Mpeg2 data := by
  have hrun : ∀ crc : UInt32, (data.foldl (fun (crc : UInt32) (byte : UInt8) => (crc <<< 8) ^^^
      crc32Table.getD (((crc >>> 24) ^^^ byte.toUInt32) &&& 0xFF).toNat 0) crc).toBitVec =
        CRC.run crcPolynomial crc.toBitVec (messageBits data) := by
    induction data with
    | nil => exact fun _ => rfl
    | cons byte data ih =>
      intro crc
      have hcons : messageBits (byte :: data) = CRC.bits byte.toBitVec ++ messageBits data := rfl
      rw [List.foldl_cons, ih, crc_step, hcons, CRC.run_append]
  exact hrun 0xFFFFFFFF

/-! ### Verification -/

lemma toBitVec_wordOf (byte0 byte1 byte2 byte3 : UInt8) : (wordOf byte0 byte1 byte2 byte3).toBitVec =
    byte0.toBitVec ++ byte1.toBitVec ++ byte2.toBitVec ++ byte3.toBitVec := by
  apply BitVec.eq_of_toNat_eq
  refine (toNat_wordOf byte0 byte1 byte2 byte3).trans (Eq.symm ?_)
  refine (toNat_append _ _).trans ?_
  rw [toNat_append, toNat_append]
  simp only [UInt8.toNat_toBitVec]
  omega

lemma bits_wordOf (byte0 byte1 byte2 byte3 : UInt8) :
    CRC.bits (wordOf byte0 byte1 byte2 byte3).toBitVec = messageBits [byte0, byte1, byte2, byte3] := by
  rw [toBitVec_wordOf]
  refine (CRC.bits_append _ _).trans ?_
  rw [CRC.bits_append, CRC.bits_append]
  simp [messageBits]

lemma verifyCRC32_append (front : List UInt8) (byte0 byte1 byte2 byte3 : UInt8) (back : List UInt8) :
    verifyCRC32 (front ++ byte0 :: byte1 :: byte2 :: byte3 :: back) (front.length + 4) =
      some (calculateCRC32 front == wordOf byte0 byte1 byte2 byte3) := by
  unfold verifyCRC32
  rw [if_neg (by omega), Nat.add_sub_cancel, readWord32_append, List.take_left]
  rfl

lemma exists_word {data : List UInt8} {n : Nat} (h : n + 4 ≤ data.length) :
    ∃ front byte0 byte1 byte2 byte3 back,
      data = front ++ byte0 :: byte1 :: byte2 :: byte3 :: back ∧ front.length = n := by
  have hdrop : 4 ≤ (data.drop n).length := by
    rw [List.length_drop]
    omega
  match hback : data.drop n, hdrop with
  | byte0 :: byte1 :: byte2 :: byte3 :: back, _ =>
    refine ⟨data.take n, byte0, byte1, byte2, byte3, back, ?_, ?_⟩
    · rw [← hback, List.take_append_drop]
    · rw [List.length_take]
      omega

lemma exists_verifyCRC32 {data : List UInt8} {length : Nat} (h : length ≤ data.length) :
    ∃ ok, verifyCRC32 data length = some ok := by
  by_cases hshort : length < 4
  · unfold verifyCRC32
    rw [if_pos hshort]
    exact ⟨false, rfl⟩
  · have hroom : length - 4 + 4 ≤ data.length := by omega
    obtain ⟨front, byte0, byte1, byte2, byte3, back, rfl, hfront⟩ := exists_word hroom
    obtain rfl : length = front.length + 4 := by omega
    exact ⟨_, verifyCRC32_append front byte0 byte1 byte2 byte3 back⟩

lemma sizeSub_of_verifyCRC32 {data : List UInt8} {length : Nat}
    (h : verifyCRC32 data length = some true) : sizeSub length 4 + 4 = length := by
  have hfour : 4 ≤ length := by
    by_contra hlt
    unfold verifyCRC32 at h
    rw [if_pos (by omega)] at h
    cases h
  unfold sizeSub
  rw [if_pos hfour]
  omega

/-- A section is accepted if and only if it clears the register. -/
theorem verifyCRC32_iff (data : List UInt8) :
    verifyCRC32 data data.length = some true ↔ 4 ≤ data.length ∧ crc32Mpeg2 data = 0#32 := by
  by_cases hshort : data.length < 4
  · unfold verifyCRC32
    rw [if_pos hshort]
    simp [hshort]
  · have hroom : data.length - 4 + 4 ≤ data.length := by omega
    obtain ⟨front, byte0, byte1, byte2, byte3, back, rfl, hfront⟩ := exists_word hroom
    obtain rfl : back = [] := by
      simp only [List.length_append, List.length_cons] at hfront
      exact List.eq_nil_of_length_eq_zero (by omega)
    have hlen : (front ++ [byte0, byte1, byte2, byte3]).length = front.length + 4 := by simp
    unfold crc32Mpeg2
    rw [hlen, verifyCRC32_append, messageBits_append, CRC.run_append, ← bits_wordOf,
      CRC.run_bits_eq_zero_iff (by decide), Option.some.injEq, beq_iff_eq,
      eq_comm (a := calculateCRC32 _), ← UInt32.toBitVec_inj, calculateCRC32_eq]
    simp [crc32Mpeg2]

/-- The code's CRC is CRC-32/MPEG-2, and a section that ends with its CRC is accepted. -/
theorem crc32_mpeg2 (data : List UInt8) : (calculateCRC32 data).toBitVec = crc32Mpeg2 data ∧
    verifyCRC32 (data ++ wordBytes (calculateCRC32 data))
      (data ++ wordBytes (calculateCRC32 data)).length = some true := by
  constructor
  · exact calculateCRC32_eq data
  · have hlen : (data ++ wordBytes (calculateCRC32 data)).length = data.length + 4 := by
      simp [wordBytes]
    rw [hlen]
    unfold wordBytes
    rw [verifyCRC32_append, wordOf_wordBytes, beq_self_eq_true]

/-! ### Corruption -/

lemma eq_of_crc32_eq {front window window' back : List UInt8} (hlen : window.length = window'.length)
    (hshort : window.length ≤ 4)
    (h : crc32Mpeg2 (front ++ window ++ back) = crc32Mpeg2 (front ++ window' ++ back)) :
    window = window' := by
  have hodd : crcPolynomial.getLsbD 0 = true := by decide
  unfold crc32Mpeg2 at h
  simp only [messageBits_append, CRC.run_append] at h
  have hwindow := CRC.run_injective hodd _ h
  apply messageBits_injective hlen
  apply CRC.eq_of_run_eq hodd _ _ hwindow
  · rw [length_messageBits, length_messageBits, hlen]
  · rw [length_messageBits]
    omega

/-- A change within four consecutive bytes is detected, wherever these lie in the section. -/
theorem short_corruption_detected {data data' : List UInt8} {start : Nat}
    (hvalid : verifyCRC32 data data.length = some true) (hlen : data'.length = data.length)
    (hwindow : ∀ i, i < start ∨ start + 4 ≤ i → data'[i]? = data[i]?) (hne : data' ≠ data) :
    verifyCRC32 data' data'.length = some false := by
  have hsplit : ∀ bytes : List UInt8, bytes =
      bytes.take start ++ (bytes.drop start).take 4 ++ bytes.drop (start + 4) := by
    intro bytes
    rw [List.append_assoc, ← List.drop_drop, List.take_append_drop, List.take_append_drop]
  have hfront : data'.take start = data.take start := by
    apply List.ext_getElem?
    intro i
    by_cases hi : i < start
    · rw [List.getElem?_take_of_lt hi, List.getElem?_take_of_lt hi, hwindow i (.inl hi)]
    · rw [List.getElem?_take_eq_none (by omega), List.getElem?_take_eq_none (by omega)]
  have hback : data'.drop (start + 4) = data.drop (start + 4) := by
    apply List.ext_getElem?
    intro i
    rw [List.getElem?_drop, List.getElem?_drop, hwindow _ (.inr (by omega))]
  obtain ⟨ok, hok⟩ := exists_verifyCRC32 (le_refl data'.length)
  cases ok with
  | false => exact hok
  | true =>
    obtain ⟨_, hzero⟩ := (verifyCRC32_iff data).mp hvalid
    obtain ⟨_, hzero'⟩ := (verifyCRC32_iff data').mp hok
    rw [hsplit data] at hzero
    rw [hsplit data', hfront, hback, ← hzero] at hzero'
    have hmiddle := eq_of_crc32_eq (by simp [hlen]) (by simp) hzero'
    refine absurd ?_ hne
    rw [hsplit data', hfront, hback, hmiddle, ← hsplit data]

/-- The change begins in the data and ends in the CRC. -/
theorem short_corruption_sample :
    verifyCRC32 [0x00, 0xB0, 0x0D, 0x00, 0x10, 0xB8, 0x65, 0x4C] 8 = some true ∧
      verifyCRC32 [0x00, 0xB0, 0x0D, 0x01, 0x10, 0xB8, 0x00, 0x4C] 8 = some false := by
  have hvalid : verifyCRC32 [0x00, 0xB0, 0x0D, 0x00, 0x10, 0xB8, 0x65, 0x4C] 8 = some true := by
    decide +kernel
  have hwindow : ∀ i, i < 3 ∨ 3 + 4 ≤ i →
      ([0x00, 0xB0, 0x0D, 0x01, 0x10, 0xB8, 0x00, 0x4C] : List UInt8)[i]? =
        ([0x00, 0xB0, 0x0D, 0x00, 0x10, 0xB8, 0x65, 0x4C] : List UInt8)[i]? := by
    intro i hi
    match i with
    | 0 | 1 | 2 | 7 => rfl
    | 3 | 4 | 5 | 6 => omega
    | i + 8 => rfl
  exact ⟨hvalid, short_corruption_detected hvalid rfl hwindow (by decide)⟩

end PSIParser

end MinimalMpegTS
