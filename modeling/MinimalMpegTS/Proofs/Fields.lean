import MinimalMpegTS.Model.PSI

/-!
# Fields of several bytes

What the parsers make of the bytes of a field, as arithmetic on the values of the bytes.
-/

namespace MinimalMpegTS

lemma or_eq_add {a b : Nat} (k : Nat) (ha : 2 ^ k ∣ a) (hb : b < 2 ^ k) : a ||| b = a + b := by
  obtain ⟨c, rfl⟩ := ha
  have h := Nat.shiftLeft_add_eq_or_of_lt hb c
  rw [Nat.shiftLeft_eq, Nat.mul_comm] at h
  exact h.symm

lemma toNat_append {j k : Nat} (x : BitVec j) (y : BitVec k) :
    (x ++ y).toNat = x.toNat * 2 ^ k + y.toNat := by
  rw [BitVec.toNat_append, Nat.shiftLeft_eq, or_eq_add k (Dvd.intro_left _ rfl) y.isLt]

lemma exists_append {j k : Nat} (x : BitVec (j + k)) : ∃ (high : BitVec j) (low : BitVec k),
    high ++ low = x := by
  have hx := x.isLt
  rw [Nat.pow_add] at hx
  have hhigh : x.toNat / 2 ^ k < 2 ^ j := Nat.div_lt_of_lt_mul (by rwa [Nat.mul_comm])
  refine ⟨BitVec.ofNat j (x.toNat / 2 ^ k), BitVec.ofNat k x.toNat, ?_⟩
  apply BitVec.eq_of_toNat_eq
  rw [toNat_append, BitVec.toNat_ofNat, BitVec.toNat_ofNat, Nat.mod_eq_of_lt hhigh]
  exact Nat.div_add_mod' x.toNat (2 ^ k)

lemma toNat_and_mask {mask : UInt8} {k : Nat} (hmask : mask.toNat = 2 ^ k - 1) (byte : UInt8) :
    (byte &&& mask).toNat = byte.toNat % 2 ^ k := by
  rw [UInt8.toNat_and, hmask, Nat.and_two_pow_sub_one_eq_mod]

private lemma bitAt_seven_ofNat : ∀ n < 256, bitAt (UInt8.ofNat n) 7 = decide (128 ≤ n) := by
  decide +kernel

lemma bitAt_seven (byte : UInt8) : bitAt byte 7 = decide (128 ≤ byte.toNat) := by
  have h := bitAt_seven_ofNat byte.toNat byte.toNat_lt
  rwa [UInt8.ofNat_toNat] at h

/-! ### Numbers as bytes -/

/-- The number that a list of bytes is, with the highest byte first. -/
def bigEndian (bytes : List UInt8) : Nat := bytes.foldl (fun n byte => n * 256 + byte.toNat) 0

/-- The lowest `count` bytes of a number, the highest one first. -/
def bigEndianBytes : Nat → Nat → List UInt8
  | 0, _ => []
  | count + 1, n => UInt8.ofNat (n / 256 ^ count) :: bigEndianBytes count n

lemma length_bigEndianBytes (count n : Nat) : (bigEndianBytes count n).length = count := by
  induction count with
  | zero => rfl
  | succ count ih => rw [bigEndianBytes, List.length_cons, ih]

private lemma foldl_bigEndianBytes (count n high : Nat) :
    (bigEndianBytes count n).foldl (fun n byte => n * 256 + byte.toNat) high =
      high * 256 ^ count + n % 256 ^ count := by
  induction count generalizing high with
  | zero => simp [bigEndianBytes, Nat.mod_one]
  | succ count ih =>
    have hbyte : (UInt8.ofNat (n / 256 ^ count)).toNat = n / 256 ^ count % 256 := by
      rw [UInt8.toNat_ofNat']
    have hsplit : n % 256 ^ (count + 1) = n % 256 ^ count + 256 ^ count * (n / 256 ^ count % 256) := by
      rw [pow_succ, Nat.mod_mul]
    rw [bigEndianBytes, List.foldl_cons, ih, hbyte, hsplit, pow_succ]
    ring

lemma bigEndian_bigEndianBytes (count n : Nat) : bigEndian (bigEndianBytes count n) = n % 256 ^ count := by
  have h := foldl_bigEndianBytes count n 0
  rwa [Nat.zero_mul, Nat.zero_add] at h

lemma toNat_shiftLeft {v k : UInt64} (hv : v.toNat < 256) (hk : k.toNat ≤ 56) :
    (v <<< k).toNat = v.toNat * 2 ^ k.toNat := by
  have hpow : 2 ^ k.toNat ≤ 2 ^ 56 := Nat.pow_le_pow_right (by decide) hk
  have hmul : v.toNat * 2 ^ k.toNat ≤ 255 * 2 ^ 56 := Nat.mul_le_mul (by omega) hpow
  have hmod : k.toNat % 64 = k.toNat := Nat.mod_eq_of_lt (by omega)
  rw [UInt64.toNat_shiftLeft, Nat.shiftLeft_eq, hmod, Nat.mod_eq_of_lt (by omega)]

/-! ### Bytes of a buffer -/

lemma getElem?_getD {data : List UInt8} {i : Nat} (h : i < data.length) :
    data[i]? = some (data.getD i 0) := by
  rw [List.getD_eq_getElem?_getD, List.getElem?_eq_getElem h, Option.getD_some]

lemma getD_of_take {a b : List UInt8} {n i : Nat} (h : b.take n = a.take n) (hi : i < n) :
    b.getD i 0 = a.getD i 0 := by
  have hread : (b.take n)[i]? = (a.take n)[i]? := by rw [h]
  rw [List.getElem?_take_of_lt hi, List.getElem?_take_of_lt hi] at hread
  rw [List.getD_eq_getElem?_getD, List.getD_eq_getElem?_getD, hread]

lemma getD_set_ne {a : List UInt8} {i j : Nat} (h : i ≠ j) (x : UInt8) :
    (a.set i x).getD j 0 = a.getD j 0 := by
  rw [List.getD_eq_getElem?_getD, List.getElem?_set_ne h, ← List.getD_eq_getElem?_getD]

namespace PSIParser

/-! ### Words -/

/-- The word that four bytes are read as. -/
def wordOf (byte0 byte1 byte2 byte3 : UInt8) : UInt32 :=
  (byte0.toUInt32 <<< 24) ||| (byte1.toUInt32 <<< 16) ||| (byte2.toUInt32 <<< 8) ||| byte3.toUInt32

/-- The bytes of a word, the highest one first. -/
def wordBytes (word : UInt32) : List UInt8 :=
  [(word >>> 24).toUInt8, (word >>> 16).toUInt8, (word >>> 8).toUInt8, word.toUInt8]

lemma toNat_wordOf (byte0 byte1 byte2 byte3 : UInt8) : (wordOf byte0 byte1 byte2 byte3).toNat =
    byte0.toNat * 2 ^ 24 + byte1.toNat * 2 ^ 16 + byte2.toNat * 2 ^ 8 + byte3.toNat := by
  have h0 := byte0.toNat_lt
  have h1 := byte1.toNat_lt
  have h2 := byte2.toNat_lt
  have h3 := byte3.toNat_lt
  unfold wordOf
  simp only [UInt32.toNat_or, UInt32.toNat_shiftLeft, UInt8.toNat_toUInt32, Nat.shiftLeft_eq,
    UInt32.reduceToNat, Nat.reduceMod]
  rw [Nat.mod_eq_of_lt (a := byte0.toNat * 2 ^ 24) (by omega),
    Nat.mod_eq_of_lt (a := byte1.toNat * 2 ^ 16) (by omega),
    Nat.mod_eq_of_lt (a := byte2.toNat * 2 ^ 8) (by omega),
    or_eq_add (b := byte1.toNat * 2 ^ 16) 24 (by omega) (by omega),
    or_eq_add (b := byte2.toNat * 2 ^ 8) 16 (by omega) (by omega),
    or_eq_add (b := byte3.toNat) 8 (by omega) (by omega)]

lemma wordOf_wordBytes (word : UInt32) : wordOf (word >>> 24).toUInt8 (word >>> 16).toUInt8
    (word >>> 8).toUInt8 word.toUInt8 = word := by
  have hword := word.toNat_lt
  apply UInt32.toNat_inj.mp
  simp only [toNat_wordOf, UInt32.toNat_toUInt8, UInt32.toNat_shiftRight, Nat.shiftRight_eq_div_pow,
    UInt32.reduceToNat, Nat.reduceMod]
  omega

lemma wordBytes_wordOf (byte0 byte1 byte2 byte3 : UInt8) :
    wordBytes (wordOf byte0 byte1 byte2 byte3) = [byte0, byte1, byte2, byte3] := by
  have h0 := byte0.toNat_lt
  have h1 := byte1.toNat_lt
  have h2 := byte2.toNat_lt
  have h3 := byte3.toNat_lt
  unfold wordBytes
  congr 1
  · apply UInt8.toNat_inj.mp
    simp only [toNat_wordOf, UInt32.toNat_toUInt8, UInt32.toNat_shiftRight, UInt32.reduceToNat,
      Nat.reduceMod, Nat.shiftRight_eq_div_pow]
    omega
  congr 1
  · apply UInt8.toNat_inj.mp
    simp only [toNat_wordOf, UInt32.toNat_toUInt8, UInt32.toNat_shiftRight, UInt32.reduceToNat,
      Nat.reduceMod, Nat.shiftRight_eq_div_pow]
    omega
  congr 1
  · apply UInt8.toNat_inj.mp
    simp only [toNat_wordOf, UInt32.toNat_toUInt8, UInt32.toNat_shiftRight, UInt32.reduceToNat,
      Nat.reduceMod, Nat.shiftRight_eq_div_pow]
    omega
  congr 1
  apply UInt8.toNat_inj.mp
  simp only [toNat_wordOf, UInt32.toNat_toUInt8]
  omega

lemma readWord32_append (front : List UInt8) (byte0 byte1 byte2 byte3 : UInt8) (back : List UInt8) :
    readWord32 (front ++ byte0 :: byte1 :: byte2 :: byte3 :: back) front.length =
      some (wordOf byte0 byte1 byte2 byte3) := by
  unfold readWord32
  simp [wordOf]

/-! ### Fields of two bytes -/

/-- The field that two bytes are read as. -/
def fieldOf (mask byte0 byte1 : UInt8) : UInt16 := ((byte0 &&& mask).toUInt16 <<< 8) ||| byte1.toUInt16

lemma toNat_fieldOf {mask : UInt8} {k : Nat} (hmask : mask.toNat = 2 ^ k - 1) (byte0 byte1 : UInt8) :
    (fieldOf mask byte0 byte1).toNat = byte0.toNat % 2 ^ k * 256 + byte1.toNat := by
  have h1 := byte1.toNat_lt
  have hlow := toNat_and_mask hmask byte0
  have hle : byte0.toNat % 2 ^ k < 256 := hlow ▸ (byte0 &&& mask).toNat_lt
  unfold fieldOf
  simp only [UInt16.toNat_or, UInt16.toNat_shiftLeft, UInt8.toNat_toUInt16, hlow, Nat.shiftLeft_eq,
    UInt16.reduceToNat, Nat.reduceMod]
  rw [Nat.mod_eq_of_lt (by omega), or_eq_add 8 (by omega) (by omega)]

/-- Two bytes, the higher one first. -/
def halfword (x : BitVec 16) : List UInt8 := [UInt8.ofNat (x.toNat / 256), UInt8.ofNat x.toNat]

lemma exists_halfword (byte0 byte1 : UInt8) : ∃ x, halfword x = [byte0, byte1] := by
  have h0 := byte0.toNat_lt
  have h1 := byte1.toNat_lt
  refine ⟨BitVec.ofNat 16 (byte0.toNat * 256 + byte1.toNat), ?_⟩
  have hhigh : UInt8.ofNat ((byte0.toNat * 256 + byte1.toNat) % 2 ^ 16 / 256) = byte0 := by
    apply UInt8.toNat_inj.mp
    rw [UInt8.toNat_ofNat']
    omega
  have hlow : UInt8.ofNat ((byte0.toNat * 256 + byte1.toNat) % 2 ^ 16) = byte1 := by
    apply UInt8.toNat_inj.mp
    rw [UInt8.toNat_ofNat']
    omega
  unfold halfword
  rw [BitVec.toNat_ofNat, hhigh, hlow]

lemma fieldOf_halfword {mask : UInt8} {k : Nat} (hmask : mask.toNat = 2 ^ k - 1) (hk : k ≤ 8)
    (x : BitVec 16) : fieldOf mask (UInt8.ofNat (x.toNat / 256)) (UInt8.ofNat x.toNat) =
      UInt16.ofNat (x.toNat % 2 ^ (k + 8)) := by
  have hx := x.isLt
  apply UInt16.toNat_inj.mp
  rw [toNat_fieldOf hmask, UInt8.toNat_ofNat', UInt8.toNat_ofNat', UInt16.toNat_ofNat']
  interval_cases k <;> omega

lemma getElem?_of_drop {data tail : List UInt8} {offset : Nat} (h : data.drop offset = tail) (i : Nat) :
    data[offset + i]? = tail[i]? := by
  rw [← h, List.getElem?_drop]

lemma readField16_of_drop {data back : List UInt8} {offset : Nat} {byte0 byte1 : UInt8}
    (h : data.drop offset = byte0 :: byte1 :: back) (mask : UInt8) :
    readField16 mask data offset = some (fieldOf mask byte0 byte1) := by
  have h0 : data[offset]? = some byte0 := getElem?_of_drop h 0
  have h1 : data[offset + 1]? = some byte1 := getElem?_of_drop h 1
  unfold readField16
  rw [h0, h1]
  rfl

lemma readField16_getD {data : List UInt8} {offset : Nat} {mask : UInt8} {value : UInt16}
    (h : readField16 mask data offset = some value) :
    value = fieldOf mask (data.getD offset 0) (data.getD (offset + 1) 0) := by
  obtain ⟨byte0, h0, h⟩ := Option.bind_eq_some_iff.mp h
  obtain ⟨byte1, h1, h⟩ := Option.bind_eq_some_iff.mp h
  rw [List.getD_eq_getElem?_getD, List.getD_eq_getElem?_getD, h0, h1]
  exact (Option.some.inj h).symm

lemma readField16_eq {data : List UInt8} {offset : Nat} {mask : UInt8}
    (h : offset + 2 ≤ data.length) : readField16 mask data offset =
      some (fieldOf mask (data.getD offset 0) (data.getD (offset + 1) 0)) := by
  unfold readField16
  rw [getElem?_getD (by omega : offset < data.length),
    getElem?_getD (by omega : offset + 1 < data.length)]
  rfl

end PSIParser

end MinimalMpegTS
