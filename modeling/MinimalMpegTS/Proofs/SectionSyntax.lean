import MinimalMpegTS.Proofs.Checksum

/-!
# Sections with the long form of the header

The bit layout of a section as ISO 13818-1 defines it: eight bytes of header, a body and the CRC.
What is not 0 or 1 by definition and not read by the parser is a reserved field. The bytes that
pass `verifyCRC32` and announce the long form are the encoding of exactly such a section. The short
form leaves the fields of a header object that it lacks as they were.
-/

namespace MinimalMpegTS

open PSIParser

/-- The long form of a section header, but for the table id and the section length. -/
structure LongHeader where
  reserved : BitVec 3
  tableIdExtension : BitVec 16
  reservedVersion : BitVec 2
  versionNumber : BitVec 5
  currentNextIndicator : Bool
  sectionNumber : UInt8
  lastSectionNumber : UInt8
  deriving DecidableEq

/-- A section whose length fits the length field. -/
structure LongSection where
  tableId : UInt8
  header : LongHeader
  body : List UInt8
  fits : body.length + 9 < 2 ^ 12

/-! ### The header -/

namespace PSIParser

lemma parseSectionHeader_long {byte1 : UInt8} (h : bitAt byte1 7 = true) (header : PSISectionHeader)
    (byte0 byte2 byte3 byte4 byte5 byte6 byte7 : UInt8) (rest : List UInt8) :
    parseSectionHeader header
        (byte0 :: byte1 :: byte2 :: byte3 :: byte4 :: byte5 :: byte6 :: byte7 :: rest) =
      some ({
        tableId := byte0
        sectionSyntaxIndicator := true
        sectionLength := fieldOf 0x0F byte1 byte2
        tableIdExtension := fieldOf 0xFF byte3 byte4
        versionNumber := (byte5 >>> 1) &&& 0x1F
        currentNextIndicator := bitAt byte5 0
        sectionNumber := byte6
        lastSectionNumber := byte7 }, 8) := by
  unfold parseSectionHeader
  rw [if_neg (by simp only [List.length_cons]; omega)]
  have hlong : ¬rest.length + 1 + 1 + 1 + 1 + 1 + 1 + 1 + 1 < 8 := by omega
  simp [readField16, fieldOf, h, hlong]

lemma parseSectionHeader_short {byte1 : UInt8} (h : bitAt byte1 7 = false) (header : PSISectionHeader)
    (byte0 byte2 : UInt8) (rest : List UInt8) :
    parseSectionHeader header (byte0 :: byte1 :: byte2 :: rest) =
      some ({ header with
        tableId := byte0
        sectionSyntaxIndicator := false
        sectionLength := fieldOf 0x0F byte1 byte2 }, 3) := by
  unfold parseSectionHeader
  rw [if_neg (by simp only [List.length_cons]; omega)]
  simp [readField16, fieldOf, h]

/-- The section syntax indicator. -/
def longForm (data : List UInt8) : Bool := bitAt (data.getD 1 0) 7

/-- The section length. -/
def lengthField (data : List UInt8) : Nat := (fieldOf 0x0F (data.getD 1 0) (data.getD 2 0)).toNat

/-- A freshly parsed header over the one that was there before. -/
def headerOver (used fresh : PSISectionHeader) : PSISectionHeader :=
  if fresh.sectionSyntaxIndicator then fresh
  else
    { used with
      tableId := fresh.tableId
      sectionSyntaxIndicator := false
      sectionLength := fresh.sectionLength }

/-- A header without the fields that both of its forms have. -/
def longFields (header : PSISectionHeader) : PSISectionHeader :=
  { header with tableId := 0, sectionSyntaxIndicator := false, sectionLength := 0 }

lemma tableId_headerOver (used fresh : PSISectionHeader) :
    (headerOver used fresh).tableId = fresh.tableId := by
  unfold headerOver
  split <;> rfl

lemma indicator_headerOver (used fresh : PSISectionHeader) :
    (headerOver used fresh).sectionSyntaxIndicator = fresh.sectionSyntaxIndicator := by
  unfold headerOver
  split
  · rfl
  · next hform => exact (Bool.eq_false_of_not_eq_true hform).symm

lemma sectionLength_headerOver (used fresh : PSISectionHeader) :
    (headerOver used fresh).sectionLength = fresh.sectionLength := by
  unfold headerOver
  split <;> rfl

/-- What the header parser makes of these bytes, in a fresh object and over a used one. -/
structure FreshHeader (data : List UInt8) (fresh : PSISectionHeader) (size : Nat) : Prop where
  form : fresh.sectionSyntaxIndicator = longForm data
  short : longForm data = false → longFields fresh = {}
  sectionLength : fresh.sectionLength.toNat = lengthField data
  headerSize : size = if longForm data then 8 else 3
  parse : ∀ used, parseSectionHeader used data = some (headerOver used fresh, size)

lemma exists_freshHeader {data : List UInt8} (hlen : 8 ≤ data.length) :
    ∃ fresh size, FreshHeader data fresh size := by
  match data, hlen with
  | byte0 :: byte1 :: byte2 :: byte3 :: byte4 :: byte5 :: byte6 :: byte7 :: rest, _ =>
    have hlong : longForm (byte0 :: byte1 :: byte2 :: byte3 :: byte4 :: byte5 :: byte6 :: byte7 :: rest) =
        bitAt byte1 7 := rfl
    cases hbit : bitAt byte1 7 with
    | false =>
      rw [hbit] at hlong
      refine ⟨{ tableId := byte0, sectionLength := fieldOf 0x0F byte1 byte2 }, 3, hlong.symm,
        fun _ => rfl, rfl, by rw [hlong]; rfl, ?_⟩
      intro used
      rw [parseSectionHeader_short hbit]
      rfl
    | true =>
      rw [hbit] at hlong
      refine ⟨⟨byte0, true, fieldOf 0x0F byte1 byte2, fieldOf 0xFF byte3 byte4, (byte5 >>> 1) &&& 0x1F,
        bitAt byte5 0, byte6, byte7⟩, 8, hlong.symm, ?_, rfl, by rw [hlong]; rfl, ?_⟩
      · intro hshort
        rw [hlong] at hshort
        cases hshort
      · intro used
        rw [parseSectionHeader_long hbit]
        rfl

lemma parseSectionHeader_fields {data : List UInt8} {header parsed : PSISectionHeader} {size : Nat}
    (hlen : 8 ≤ data.length) (h : parseSectionHeader header data = some (parsed, size)) :
    parsed.sectionSyntaxIndicator = longForm data ∧
      parsed.sectionLength.toNat = lengthField data ∧ size = if longForm data then 8 else 3 := by
  obtain ⟨fresh, size', hfresh⟩ := exists_freshHeader hlen
  rw [hfresh.parse] at h
  obtain ⟨rfl, rfl⟩ := Prod.mk.inj (Option.some.inj h)
  rw [indicator_headerOver, sectionLength_headerOver]
  exact ⟨hfresh.form, hfresh.sectionLength, hfresh.headerSize⟩

/-- What the header and the CRC of an accepted section have passed. -/
structure AcceptedSection (tableId : UInt8) (used : PSISectionHeader) (data : List UInt8)
    (header : PSISectionHeader) (size : Nat) : Prop where
  parse : parseSectionHeader used data = some (header, size)
  headerSize : size ≠ 0
  tableId : header.tableId = tableId
  fits : 3 + header.sectionLength.toNat ≤ data.length
  checksum : verifyCRC32 data (3 + header.sectionLength.toNat) = some true

end PSIParser

namespace LongHeader

def encode (self : LongHeader) (tableId : UInt8) (sectionLength : BitVec 12) : List UInt8 :=
  tableId :: halfword (1#1 ++ self.reserved ++ sectionLength) ++ halfword self.tableIdExtension ++
    [UInt8.ofBitVec (self.reservedVersion ++ self.versionNumber ++
      BitVec.ofBool self.currentNextIndicator), self.sectionNumber, self.lastSectionNumber]

/-- What the parser makes of the header. -/
def parsed (self : LongHeader) (tableId : UInt8) (sectionLength : BitVec 12) : PSISectionHeader where
  tableId := tableId
  sectionSyntaxIndicator := true
  sectionLength := UInt16.ofNat sectionLength.toNat
  tableIdExtension := UInt16.ofNat self.tableIdExtension.toNat
  versionNumber := UInt8.ofNat self.versionNumber.toNat
  currentNextIndicator := self.currentNextIndicator
  sectionNumber := self.sectionNumber
  lastSectionNumber := self.lastSectionNumber

lemma length_encode (self : LongHeader) (tableId : UInt8) (sectionLength : BitVec 12) :
    (self.encode tableId sectionLength).length = 8 := rfl

lemma versionByte (reserved : BitVec 2) (version : BitVec 5) (current : Bool) :
    (UInt8.ofBitVec (reserved ++ version ++ BitVec.ofBool current) >>> 1) &&& 0x1F =
        UInt8.ofNat version.toNat ∧
      bitAt (UInt8.ofBitVec (reserved ++ version ++ BitVec.ofBool current)) 0 = current := by
  revert reserved version current
  decide +kernel

private lemma versionBits : ∀ n < 256, ∃ (reserved : BitVec 2) (version : BitVec 5) (current : Bool),
    UInt8.ofBitVec (reserved ++ version ++ BitVec.ofBool current) = UInt8.ofNat n := by
  intro n hn
  refine ⟨BitVec.ofNat 2 (n / 64), BitVec.ofNat 5 (n / 2), n.testBit 0, ?_⟩
  revert n
  decide +kernel

lemma exists_versionByte (byte : UInt8) : ∃ (reserved : BitVec 2) (version : BitVec 5) (current : Bool),
    UInt8.ofBitVec (reserved ++ version ++ BitVec.ofBool current) = byte := by
  obtain ⟨reserved, version, current, h⟩ := versionBits byte.toNat byte.toNat_lt
  exact ⟨reserved, version, current, h.trans UInt8.ofNat_toNat⟩

lemma lengthField (reserved : BitVec 3) (sectionLength : BitVec 12) : ∃ byte1 byte2,
    halfword (1#1 ++ reserved ++ sectionLength) = [byte1, byte2] ∧ bitAt byte1 7 = true ∧
      fieldOf 0x0F byte1 byte2 = UInt16.ofNat sectionLength.toNat := by
  have hvalue : (1#1 ++ reserved ++ sectionLength).toNat =
      (1 * 2 ^ 3 + reserved.toNat) * 2 ^ 12 + sectionLength.toNat := by
    rw [toNat_append, toNat_append]
    rfl
  have hreserved := reserved.isLt
  have hlength := sectionLength.isLt
  refine ⟨_, _, rfl, ?_, ?_⟩
  · rw [bitAt_seven, decide_eq_true_eq, UInt8.toNat_ofNat', hvalue]
    omega
  · rw [fieldOf_halfword (k := 4) rfl (by decide), hvalue, Nat.mul_add_mod', Nat.mod_eq_of_lt hlength]

lemma parseSectionHeader_encode (self : LongHeader) (tableId : UInt8) (sectionLength : BitVec 12)
    (header : PSISectionHeader) (rest : List UInt8) :
    parseSectionHeader header (self.encode tableId sectionLength ++ rest) =
      some (self.parsed tableId sectionLength, 8) := by
  obtain ⟨byte1, byte2, hbytes, hbit, hlength⟩ := lengthField self.reserved sectionLength
  obtain ⟨hversion, hcurrent⟩ :=
    versionByte self.reservedVersion self.versionNumber self.currentNextIndicator
  have hmask : (0xFF : UInt8).toNat = 2 ^ 8 - 1 := rfl
  have hextension := fieldOf_halfword hmask (le_refl 8) self.tableIdExtension
  unfold encode
  rw [hbytes]
  refine (parseSectionHeader_long hbit header _ _ _ _ _ _ _ _).trans ?_
  rw [hlength, hversion, hcurrent, hextension, Nat.mod_eq_of_lt self.tableIdExtension.isLt]
  rfl

lemma exists_encode {data : List UInt8} {header parsed : PSISectionHeader} {size : Nat}
    (hlen : 8 ≤ data.length) (h : parseSectionHeader header data = some (parsed, size))
    (hlong : parsed.sectionSyntaxIndicator = true) :
    ∃ (self : LongHeader) (tableId : UInt8) (sectionLength : BitVec 12) (rest : List UInt8),
      data = self.encode tableId sectionLength ++ rest ∧ size = 8 ∧
        parsed = self.parsed tableId sectionLength := by
  match data, hlen with
  | byte0 :: byte1 :: byte2 :: byte3 :: byte4 :: byte5 :: byte6 :: byte7 :: rest, _ =>
    cases hbit : bitAt byte1 7 with
    | false =>
      rw [parseSectionHeader_short hbit] at h
      cases h
      cases hlong
    | true =>
      obtain ⟨x, hx⟩ := exists_halfword byte1 byte2
      obtain ⟨flagged, sectionLength, rfl⟩ := exists_append (j := 4) (k := 12) x
      obtain ⟨flag, reserved, rfl⟩ := exists_append (j := 1) (k := 3) flagged
      obtain ⟨extension, hextension⟩ := exists_halfword byte3 byte4
      obtain ⟨reservedVersion, version, current, hversion⟩ := exists_versionByte byte5
      have hflag : flag = 1#1 := by
        have hhigh : UInt8.ofNat ((flag ++ reserved ++ sectionLength).toNat / 256) = byte1 :=
          (List.cons.inj hx).1
        have hreserved := reserved.isLt
        have hlength := sectionLength.isLt
        have hlt := flag.isLt
        rw [← hhigh, bitAt_seven, decide_eq_true_eq, UInt8.toNat_ofNat', toNat_append,
          toNat_append] at hbit
        apply BitVec.eq_of_toNat_eq
        rw [BitVec.toNat_ofNat]
        omega
      subst hflag
      refine ⟨⟨reserved, extension, reservedVersion, version, current, byte6, byte7⟩, byte0,
        sectionLength, rest, ?_⟩
      have hdata : byte0 :: byte1 :: byte2 :: byte3 :: byte4 :: byte5 :: byte6 :: byte7 :: rest =
          encode ⟨reserved, extension, reservedVersion, version, current, byte6, byte7⟩ byte0
            sectionLength ++ rest := by
        unfold encode
        rw [hx, hextension, hversion]
        rfl
      rw [hdata, parseSectionHeader_encode] at h
      cases h
      exact ⟨hdata, rfl, rfl⟩

end LongHeader

/-! ### The section -/

namespace LongSection

def sectionLength (self : LongSection) : BitVec 12 := BitVec.ofNat 12 (self.body.length + 9)

/-- The section without its CRC. -/
def front (self : LongSection) : List UInt8 :=
  self.header.encode self.tableId self.sectionLength ++ self.body

def encode (self : LongSection) : List UInt8 := self.front ++ wordBytes (calculateCRC32 self.front)

/-- What the parser makes of the header. -/
def parsedHeader (self : LongSection) : PSISectionHeader :=
  self.header.parsed self.tableId self.sectionLength

lemma toNat_sectionLength (self : LongSection) :
    self.parsedHeader.sectionLength.toNat = self.body.length + 9 := by
  have hfits := self.fits
  show (UInt16.ofNat (BitVec.ofNat 12 (self.body.length + 9)).toNat).toNat = _
  rw [BitVec.toNat_ofNat, UInt16.toNat_ofNat']
  omega

lemma sizeSub_total (self : LongSection) :
    sizeSub (3 + (self.body.length + 9)) 4 = self.body.length + 8 := by
  unfold sizeSub
  rw [if_pos (by omega)]
  omega

lemma length_front (self : LongSection) : self.front.length = self.body.length + 8 := by
  unfold front
  rw [List.length_append, LongHeader.length_encode, Nat.add_comm]

lemma length_encode (self : LongSection) : self.encode.length = self.body.length + 12 := by
  unfold encode
  rw [List.length_append, length_front]
  rfl

lemma drop_encode (self : LongSection) (rest : List UInt8) : (self.encode ++ rest).drop 8 =
    self.body ++ (wordBytes (calculateCRC32 self.front) ++ rest) := by
  unfold encode
  nth_rewrite 1 [front]
  rw [List.append_assoc, List.append_assoc]
  rfl

lemma parseSectionHeader_encode (self : LongSection) (header : PSISectionHeader) (rest : List UInt8) :
    parseSectionHeader header (self.encode ++ rest) = some (self.parsedHeader, 8) := by
  unfold encode front
  rw [List.append_assoc, List.append_assoc]
  exact self.header.parseSectionHeader_encode _ _ header _

lemma verifyCRC32_encode (self : LongSection) (rest : List UInt8) :
    verifyCRC32 (self.encode ++ rest) (3 + (self.body.length + 9)) = some true := by
  have hlen : 3 + (self.body.length + 9) = self.front.length + 4 := by
    rw [length_front]
    omega
  unfold encode wordBytes
  rw [hlen, List.append_assoc]
  refine (verifyCRC32_append _ _ _ _ _ rest).trans ?_
  rw [wordOf_wordBytes, beq_self_eq_true]

lemma readWord32_encode (self : LongSection) (rest : List UInt8) :
    readWord32 (self.encode ++ rest) (self.body.length + 8) = some (calculateCRC32 self.front) := by
  unfold encode wordBytes
  rw [← length_front, List.append_assoc]
  refine (readWord32_append _ _ _ _ _ rest).trans ?_
  rw [wordOf_wordBytes]

/-- Data that passes the checks and announces the long form starts with an encoded section. -/
theorem exists_encode {data : List UInt8} {header parsed : PSISectionHeader} {size : Nat}
    (h : parseSectionHeader header data = some (parsed, size))
    (hlong : parsed.sectionSyntaxIndicator = true) (hlength : 9 ≤ parsed.sectionLength.toNat)
    (hfits : 3 + parsed.sectionLength.toNat ≤ data.length)
    (hcrc : verifyCRC32 data (3 + parsed.sectionLength.toNat) = some true) :
    ∃ (self : LongSection) (rest : List UInt8), data = self.encode ++ rest ∧ size = 8 ∧
      parsed = self.parsedHeader := by
  obtain ⟨long, tableId, sectionLength, tail, rfl, rfl, rfl⟩ :=
    LongHeader.exists_encode (by omega) h hlong
  have hvalue : (long.parsed tableId sectionLength).sectionLength.toNat = sectionLength.toNat := by
    have hlt := sectionLength.isLt
    show (UInt16.ofNat sectionLength.toNat).toNat = _
    rw [UInt16.toNat_ofNat']
    omega
  rw [hvalue] at hlength hfits hcrc
  rw [List.length_append, LongHeader.length_encode] at hfits
  have hroom : sectionLength.toNat - 9 + 4 ≤ tail.length := by omega
  obtain ⟨body, byte0, byte1, byte2, byte3, rest, rfl, hbody⟩ := exists_word hroom
  have hlt := sectionLength.isLt
  let self : LongSection := ⟨tableId, long, body, by omega⟩
  have hself : self.sectionLength = sectionLength := by
    apply BitVec.eq_of_toNat_eq
    show (BitVec.ofNat 12 (body.length + 9)).toNat = _
    rw [BitVec.toNat_ofNat]
    omega
  have hfront : self.front = long.encode tableId sectionLength ++ body := by
    unfold front
    rw [hself]
  have htotal : 3 + sectionLength.toNat = self.front.length + 4 := by
    rw [length_front]
    show _ = body.length + 8 + 4
    omega
  refine ⟨self, rest, ?_, rfl, ?_⟩
  · rw [← List.append_assoc, ← hfront, htotal, verifyCRC32_append, Option.some.injEq,
      beq_iff_eq] at hcrc
    unfold encode
    rw [hcrc, wordBytes_wordOf, hfront]
    simp
  · unfold parsedHeader
    rw [hself]

end LongSection

end MinimalMpegTS
