import MinimalMpegTS.Proofs.PESHeaders

/-!
# Encoded PES packets

A PES packet as its fields and its bytes, and what the parser makes of the bytes: the fields, as soon
as the whole header is there, and nothing before.
-/

namespace MinimalMpegTS

namespace PESParser

/-! ### Timestamps -/

lemma toNat_timestampOf_bytes (n : Nat) :
    (timestampOf (UInt8.ofNat (n / 256 ^ 4)) (UInt8.ofNat (n / 256 ^ 3)) (UInt8.ofNat (n / 256 ^ 2))
        (UInt8.ofNat (n / 256 ^ 1)) (UInt8.ofNat (n / 256 ^ 0))).value.toNat =
      n / 2 ^ 33 % 2 ^ 3 * 2 ^ 30 + n / 2 ^ 17 % 2 ^ 15 * 2 ^ 15 + n / 2 % 2 ^ 15 := by
  have hhigh : n / 256 ^ 4 % 2 ^ 8 / 2 % 8 = n / 2 ^ 33 % 2 ^ 3 := by omega
  have hmiddle : n / 256 ^ 3 % 2 ^ 8 * 2 ^ 22 + n / 256 ^ 2 % 2 ^ 8 / 2 * 2 ^ 15 =
      n / 2 ^ 17 % 2 ^ 15 * 2 ^ 15 := by omega
  have hlow : n / 256 ^ 1 % 2 ^ 8 * 2 ^ 7 + n / 256 ^ 0 % 2 ^ 8 / 2 = n / 2 % 2 ^ 15 := by omega
  rw [toNat_timestampOf]
  simp only [UInt8.toNat_ofNat']
  rw [hhigh, Nat.add_assoc, Nat.add_assoc, hlow, Nat.add_assoc, ← Nat.add_assoc (_ * 2 ^ 22), hmiddle,
    Nat.add_assoc]

/-- The bits of a timestamp between a mark of four bits and three marker bits. -/
def timestampBits (mark : BitVec 4) (ts : BitVec 33) : BitVec 40 :=
  mark ++ ts.extractLsb' 30 3 ++ 1#1 ++ ts.extractLsb' 15 15 ++ 1#1 ++ ts.extractLsb' 0 15 ++ 1#1

private lemma drop_markers {mark high middle low n : Nat} (hhigh : high < 2 ^ 3)
    (hmiddle : middle < 2 ^ 15) (hlow : low < 2 ^ 15)
    (hn : n = (((((mark * 2 ^ 3 + high) * 2 ^ 1 + 1) * 2 ^ 15 + middle) * 2 ^ 1 + 1) * 2 ^ 15 + low) *
      2 ^ 1 + 1) :
    n / 2 ^ 33 % 2 ^ 3 * 2 ^ 30 + n / 2 ^ 17 % 2 ^ 15 * 2 ^ 15 + n / 2 % 2 ^ 15 =
      high * 2 ^ 30 + middle * 2 ^ 15 + low := by
  omega

lemma toNat_timestampBits (mark : BitVec 4) (ts : BitVec 33) :
    (timestampBits mark ts).toNat / 2 ^ 33 % 2 ^ 3 * 2 ^ 30 +
        (timestampBits mark ts).toNat / 2 ^ 17 % 2 ^ 15 * 2 ^ 15 +
        (timestampBits mark ts).toNat / 2 % 2 ^ 15 = ts.toNat := by
  have hts := ts.isLt
  have hone : (1#1).toNat = 1 := rfl
  have hvalue : (timestampBits mark ts).toNat =
      (((((mark.toNat * 2 ^ 3 + ts.toNat / 2 ^ 30) * 2 ^ 1 + 1) * 2 ^ 15 +
        ts.toNat / 2 ^ 15 % 2 ^ 15) * 2 ^ 1 + 1) * 2 ^ 15 + ts.toNat % 2 ^ 15) * 2 ^ 1 + 1 := by
    unfold timestampBits
    simp only [toNat_append, BitVec.extractLsb'_toNat, Nat.shiftRight_eq_div_pow, hone]
    omega
  have hhigh : ts.toNat / 2 ^ 30 < 2 ^ 3 := by omega
  have hmiddle := Nat.mod_lt (ts.toNat / 2 ^ 15) (Nat.two_pow_pos 15)
  have hlow := Nat.mod_lt ts.toNat (Nat.two_pow_pos 15)
  rw [drop_markers hhigh hmiddle hlow hvalue]
  omega

/-- The five bytes of a timestamp. -/
def timestampBytes (mark : BitVec 4) (ts : BitVec 33) : List UInt8 :=
  bigEndianBytes 5 (timestampBits mark ts).toNat

lemma length_timestampBytes (mark : BitVec 4) (ts : BitVec 33) :
    (timestampBytes mark ts).length = 5 := length_bigEndianBytes 5 _

lemma timestampAt_bytes {data back : List UInt8} {position : Nat} {mark : BitVec 4} {ts : BitVec 33}
    (h : data.drop position = timestampBytes mark ts ++ back) :
    timestampAt data position = ⟨UInt64.ofNat ts.toNat⟩ := by
  have hbyte : ∀ i < 5, data.getD (position + i) 0 = (timestampBytes mark ts).getD i 0 := by
    intro i hi
    have hdrop := PSIParser.getElem?_of_drop h i
    rw [List.getElem?_append_left (by rw [length_timestampBytes]; exact hi)] at hdrop
    rw [List.getD_eq_getElem?_getD, List.getD_eq_getElem?_getD, hdrop]
  have hfirst : data.getD position 0 = (timestampBytes mark ts).getD 0 0 := hbyte 0 (by decide)
  unfold timestampAt
  rw [hfirst, hbyte 1 (by decide), hbyte 2 (by decide), hbyte 3 (by decide), hbyte 4 (by decide)]
  have hvalue := (toNat_timestampOf_bytes _).trans (toNat_timestampBits mark ts)
  exact congrArg Timestamp.mk (UInt64.ofNat_toNat.symm.trans (congrArg UInt64.ofNat hvalue))

end PESParser

/-! ### Packets -/

/-- The flags of a header, with two marker bits in front. -/
structure PESFlags where
  marker : BitVec 2
  scramblingControl : BitVec 2
  priority : Bool
  dataAlignmentIndicator : Bool
  copyright : Bool
  originalOrCopy : Bool
  ptsDtsFlags : BitVec 2
  escrFlag : Bool
  esRateFlag : Bool
  dsmTrickModeFlag : Bool
  additionalCopyInfoFlag : Bool
  crcFlag : Bool
  extensionFlag : Bool
  deriving DecidableEq

namespace PESFlags

def flags1 (self : PESFlags) : UInt8 :=
  UInt8.ofBitVec (self.marker ++ self.scramblingControl ++ BitVec.ofBool self.priority ++
    BitVec.ofBool self.dataAlignmentIndicator ++ BitVec.ofBool self.copyright ++
    BitVec.ofBool self.originalOrCopy)

def flags2 (self : PESFlags) : UInt8 :=
  UInt8.ofBitVec (self.ptsDtsFlags ++ BitVec.ofBool self.escrFlag ++ BitVec.ofBool self.esRateFlag ++
    BitVec.ofBool self.dsmTrickModeFlag ++ BitVec.ofBool self.additionalCopyInfoFlag ++
    BitVec.ofBool self.crcFlag ++ BitVec.ofBool self.extensionFlag)

def hasPts (self : PESFlags) : Bool := self.ptsDtsFlags == 2#2 || self.ptsDtsFlags == 3#2

def hasDts (self : PESFlags) : Bool := self.ptsDtsFlags == 3#2

lemma flags1_bits (marker scrambling : BitVec 2) (priority alignment copyright original : Bool) :
    let byte := UInt8.ofBitVec (marker ++ scrambling ++ BitVec.ofBool priority ++
      BitVec.ofBool alignment ++ BitVec.ofBool copyright ++ BitVec.ofBool original)
    (byte >>> 4) &&& 0x03 = UInt8.ofNat scrambling.toNat ∧ (byte &&& 0x08 != 0) = priority ∧
      (byte &&& 0x04 != 0) = alignment ∧ (byte &&& 0x02 != 0) = copyright ∧
      (byte &&& 0x01 != 0) = original := by
  revert marker scrambling priority alignment copyright original
  decide +kernel

lemma flags2_bits (ptsDts : BitVec 2) (escr esRate trick copyInfo crc extension : Bool) :
    let byte := UInt8.ofBitVec (ptsDts ++ BitVec.ofBool escr ++ BitVec.ofBool esRate ++
      BitVec.ofBool trick ++ BitVec.ofBool copyInfo ++ BitVec.ofBool crc ++ BitVec.ofBool extension)
    (byte >>> 6) &&& 0x03 = UInt8.ofNat ptsDts.toNat ∧
      PESParser.announcesPts byte = (ptsDts == 2#2 || ptsDts == 3#2) ∧
      PESParser.announcesDts byte = (ptsDts == 3#2) ∧ (byte &&& 0x20 != 0) = escr ∧
      (byte &&& 0x10 != 0) = esRate ∧ (byte &&& 0x08 != 0) = trick ∧ (byte &&& 0x04 != 0) = copyInfo ∧
      (byte &&& 0x02 != 0) = crc ∧ (byte &&& 0x01 != 0) = extension := by
  revert ptsDts escr esRate trick copyInfo crc extension
  decide +kernel

lemma flags1_read (self : PESFlags) :
    (self.flags1 >>> 4) &&& 0x03 = UInt8.ofNat self.scramblingControl.toNat ∧
      (self.flags1 &&& 0x08 != 0) = self.priority ∧
      (self.flags1 &&& 0x04 != 0) = self.dataAlignmentIndicator ∧
      (self.flags1 &&& 0x02 != 0) = self.copyright ∧
      (self.flags1 &&& 0x01 != 0) = self.originalOrCopy :=
  flags1_bits _ _ _ _ _ _

lemma flags2_read (self : PESFlags) :
    (self.flags2 >>> 6) &&& 0x03 = UInt8.ofNat self.ptsDtsFlags.toNat ∧
      PESParser.announcesPts self.flags2 = self.hasPts ∧
      PESParser.announcesDts self.flags2 = self.hasDts ∧
      (self.flags2 &&& 0x20 != 0) = self.escrFlag ∧ (self.flags2 &&& 0x10 != 0) = self.esRateFlag ∧
      (self.flags2 &&& 0x08 != 0) = self.dsmTrickModeFlag ∧
      (self.flags2 &&& 0x04 != 0) = self.additionalCopyInfoFlag ∧
      (self.flags2 &&& 0x02 != 0) = self.crcFlag ∧ (self.flags2 &&& 0x01 != 0) = self.extensionFlag :=
  flags2_bits _ _ _ _ _ _ _

lemma hasPts_of_hasDts {self : PESFlags} (h : self.hasDts = true) : self.hasPts = true := by
  unfold hasDts at h
  unfold hasPts
  rw [h, Bool.or_true]

/-- The bytes that `header_data_length` counts: the timestamps announced, and anything behind them. -/
def fieldBytes (self : PESFlags) (pts dts : BitVec 33) (stuffing : List UInt8) : List UInt8 :=
  (if self.hasPts then PESParser.timestampBytes (0#2 ++ self.ptsDtsFlags) pts else []) ++
    ((if self.hasDts then PESParser.timestampBytes 1#4 dts else []) ++ stuffing)

lemma timestamps_read {self : PESFlags} {pts dts : BitVec 33} {stuffing data back : List UInt8}
    (h : data.drop 9 = self.fieldBytes pts dts stuffing ++ back) :
    (self.hasPts = true → PESParser.timestampAt data 9 = ⟨UInt64.ofNat pts.toNat⟩) ∧
      (self.hasDts = true → PESParser.timestampAt data 14 = ⟨UInt64.ofNat dts.toNat⟩) := by
  unfold fieldBytes at h
  constructor
  · intro hpts
    rw [if_pos hpts, List.append_assoc] at h
    exact PESParser.timestampAt_bytes h
  · intro hdts
    rw [if_pos (hasPts_of_hasDts hdts), if_pos hdts, List.append_assoc, List.append_assoc] at h
    have hbehind := congrArg (List.drop 5) h
    rw [List.drop_drop, List.drop_left' (PESParser.length_timestampBytes _ _)] at hbehind
    exact PESParser.timestampAt_bytes hbehind

end PESFlags

/-- The part of a header that most streams have. -/
structure PESFields where
  flags : PESFlags
  pts : BitVec 33
  dts : BitVec 33
  stuffing : List UInt8
  fits : (flags.fieldBytes pts dts stuffing).length ≤ 255

def PESFields.bytes (self : PESFields) : List UInt8 :=
  self.flags.fieldBytes self.pts self.dts self.stuffing

def PESFields.encode (self : PESFields) : List UInt8 :=
  self.flags.flags1 :: self.flags.flags2 :: UInt8.ofNat self.bytes.length :: self.bytes

/-- A PES packet. Its stream id says whether there is an optional part of the header. -/
structure PESContent where
  streamId : UInt8
  packetLength : BitVec 16
  fields : Option PESFields
  payload : List UInt8
  fields_iff : fields.isNone = PESParser.lacksOptionalFields streamId

namespace PESContent

/-- The bytes of the header. -/
def head (self : PESContent) : List UInt8 :=
  0 :: 0 :: 1 :: self.streamId :: (PSIParser.halfword self.packetLength ++
    match self.fields with
    | none => []
    | some fields => fields.encode)

def encode (self : PESContent) : List UInt8 := self.head ++ self.payload

/-- The header that a fresh object is to hold. -/
def header (self : PESContent) : PESHeader :=
  let basic : PESHeader :=
    { startCode := pesStartCode
      streamId := self.streamId
      packetLength := UInt16.ofNat self.packetLength.toNat
      hasOptionalFields := self.fields.isSome }
  match self.fields with
  | none => basic
  | some fields =>
    { basic with
      scramblingControl := UInt8.ofNat fields.flags.scramblingControl.toNat
      priority := fields.flags.priority
      dataAlignmentIndicator := fields.flags.dataAlignmentIndicator
      copyright := fields.flags.copyright
      originalOrCopy := fields.flags.originalOrCopy
      ptsDtsFlags := UInt8.ofNat fields.flags.ptsDtsFlags.toNat
      hasPts := fields.flags.hasPts
      hasDts := fields.flags.hasDts
      escrFlag := fields.flags.escrFlag
      esRateFlag := fields.flags.esRateFlag
      dsmTrickModeFlag := fields.flags.dsmTrickModeFlag
      additionalCopyInfoFlag := fields.flags.additionalCopyInfoFlag
      crcFlag := fields.flags.crcFlag
      extensionFlag := fields.flags.extensionFlag
      headerDataLength := UInt8.ofNat fields.bytes.length
      pts := if fields.flags.hasPts then some ⟨UInt64.ofNat fields.pts.toNat⟩ else none
      dts := if fields.flags.hasDts then some ⟨UInt64.ofNat fields.dts.toNat⟩ else none }

/-- The length field of a bounded packet counts the bytes behind it. -/
def Bounded (self : PESContent) : Prop :=
  self.packetLength ≠ 0 ∧ 6 + self.packetLength.toNat = self.encode.length

section

variable {self : PESContent} {fields : PESFields}

lemma lacks_of_none (h : self.fields = none) :
    PESParser.lacksOptionalFields self.streamId = true := by
  rw [← self.fields_iff, h]
  rfl

lemma lacks_of_some (h : self.fields = some fields) :
    PESParser.lacksOptionalFields self.streamId = false := by
  rw [← self.fields_iff, h]
  rfl

lemma head_of_none (h : self.fields = none) :
    self.head = 0 :: 0 :: 1 :: self.streamId :: PSIParser.halfword self.packetLength := by
  unfold head
  rw [h, List.append_nil]

lemma head_of_some (h : self.fields = some fields) :
    self.head =
      0 :: 0 :: 1 :: self.streamId :: (PSIParser.halfword self.packetLength ++ fields.encode) := by
  unfold head
  rw [h]

lemma toNat_bytesLength (fields : PESFields) :
    (UInt8.ofNat fields.bytes.length).toNat = fields.bytes.length := by
  have hfits : fields.bytes.length ≤ 255 := fields.fits
  rw [UInt8.toNat_ofNat']
  omega

lemma length_head_of_some (h : self.fields = some fields) :
    self.head.length = 9 + fields.bytes.length := by
  have hlength : self.head.length = fields.bytes.length + 9 := by
    rw [head_of_some h]
    rfl
  omega

lemma announcedSize_le (fields : PESFields) :
    PESParser.announcedSize fields.flags.flags2 ≤ fields.bytes.length := by
  obtain ⟨-, hptsFlag, hdtsFlag, -⟩ := fields.flags.flags2_read
  unfold PESParser.announcedSize PESFields.bytes PESFlags.fieldBytes
  rw [hptsFlag, hdtsFlag, List.length_append, List.length_append]
  cases fields.flags.hasPts <;> cases fields.flags.hasDts <;> simp [PESParser.length_timestampBytes]
  omega

/-- The header fits as soon as its bytes are there. -/
theorem headerFits (self : PESContent) (back : List UInt8) :
    PESParser.HeaderFits (self.head ++ back) ∧
      PESParser.headerSize (self.head ++ back) = self.head.length := by
  cases hfields : self.fields with
  | none =>
    have hlacks : PESParser.lacksOptionalFields ((self.head ++ back).getD 3 0) = true := by
      rw [head_of_none hfields]
      exact lacks_of_none hfields
    unfold PESParser.HeaderFits PESParser.headerSize
    rw [if_pos hlacks, head_of_none hfields]
    refine ⟨⟨?_, rfl, .inl (lacks_of_none hfields)⟩, rfl⟩
    exact Nat.le_add_left 6 _
  | some fields =>
    have hlacks : PESParser.lacksOptionalFields ((self.head ++ back).getD 3 0) = false := by
      rw [head_of_some hfields]
      exact lacks_of_some hfields
    have hlength : (self.head ++ back).length = 9 + fields.bytes.length + back.length := by
      rw [List.length_append, length_head_of_some hfields]
    have hdata : ((self.head ++ back).getD 8 0).toNat = fields.bytes.length := by
      rw [head_of_some hfields]
      exact toNat_bytesLength fields
    have hannounced : PESParser.announcedSize ((self.head ++ back).getD 7 0) ≤ fields.bytes.length := by
      rw [head_of_some hfields]
      exact announcedSize_le fields
    have hcode : (self.head ++ back).take 3 = [0, 0, 1] := by
      rw [head_of_some hfields]
      rfl
    unfold PESParser.HeaderFits PESParser.headerSize
    rw [hlacks, hdata, hlength, length_head_of_some hfields]
    exact ⟨⟨by omega, hcode, .inr ⟨by omega, by omega, by omega⟩⟩, rfl⟩

/-- The bytes of a header are read as its fields. -/
theorem headerFrom_head (self : PESContent) (back : List UInt8) :
    PESParser.headerFrom {} (self.head ++ back) = self.header := by
  have hmask : (0xFF : UInt8).toNat = 2 ^ 8 - 1 := rfl
  have hpacketLength := PSIParser.fieldOf_halfword hmask (le_refl 8) self.packetLength
  rw [Nat.mod_eq_of_lt self.packetLength.isLt] at hpacketLength
  unfold header
  cases hfields : self.fields with
  | none =>
    have hthree : (self.head ++ back).getD 3 0 = self.streamId := by
      rw [head_of_none hfields]
      rfl
    have hlength : PSIParser.fieldOf 0xFF ((self.head ++ back).getD 4 0)
        ((self.head ++ back).getD 5 0) = UInt16.ofNat self.packetLength.toNat := by
      rw [head_of_none hfields]
      exact hpacketLength
    unfold PESParser.headerFrom PESParser.basicFrom
    rw [hthree, lacks_of_none hfields, hlength]
    rfl
  | some fields =>
    have hthree : (self.head ++ back).getD 3 0 = self.streamId := by
      rw [head_of_some hfields]
      rfl
    have hlength : PSIParser.fieldOf 0xFF ((self.head ++ back).getD 4 0)
        ((self.head ++ back).getD 5 0) = UInt16.ofNat self.packetLength.toNat := by
      rw [head_of_some hfields]
      exact hpacketLength
    have hsix : (self.head ++ back).getD 6 0 = fields.flags.flags1 := by
      rw [head_of_some hfields]
      rfl
    have hseven : (self.head ++ back).getD 7 0 = fields.flags.flags2 := by
      rw [head_of_some hfields]
      rfl
    have height : (self.head ++ back).getD 8 0 = UInt8.ofNat fields.bytes.length := by
      rw [head_of_some hfields]
      rfl
    have hdrop : (self.head ++ back).drop 9 = fields.bytes ++ back := by
      rw [head_of_some hfields]
      rfl
    obtain ⟨hscrambling, hpriority, halignment, hcopyright, horiginal⟩ := fields.flags.flags1_read
    obtain ⟨hptsDts, hhasPts, hhasDts, hescr, hesRate, htrick, hcopyInfo, hcrc, hextension⟩ :=
      fields.flags.flags2_read
    obtain ⟨hreadPts, hreadDts⟩ := PESFlags.timestamps_read hdrop
    have hpts : (if fields.flags.hasPts then some (PESParser.timestampAt (self.head ++ back) 9)
        else none) = if fields.flags.hasPts then some ⟨UInt64.ofNat fields.pts.toNat⟩ else none :=
      ite_congr rfl (fun h => congrArg some (hreadPts h)) (fun _ => rfl)
    have hdts : (if fields.flags.hasDts then some (PESParser.timestampAt (self.head ++ back) 14)
        else none) = if fields.flags.hasDts then some ⟨UInt64.ofNat fields.dts.toNat⟩ else none :=
      ite_congr rfl (fun h => congrArg some (hreadDts h)) (fun _ => rfl)
    unfold PESParser.headerFrom PESParser.flagsFrom PESParser.basicFrom
    rw [hthree, lacks_of_some hfields, hlength, hsix, hseven, height, hscrambling, hpriority,
      halignment, hcopyright, horiginal, hptsDts, hhasPts, hhasDts, hescr, hesRate, htrick, hcopyInfo,
      hcrc, hextension, hpts, hdts]
    rfl

end

lemma not_headerFits (self : PESContent) {data : List UInt8} (hdata : data <+: self.head)
    (hshort : data.length < self.head.length) : ¬PESParser.HeaderFits data := by
  intro hfits
  obtain ⟨back, hback⟩ := hdata
  have hwhole := (self.headerFits []).2
  rw [List.append_nil] at hwhole
  have hsame : PESParser.headerSize self.head = PESParser.headerSize data := by
    rw [← hback, hfits.headerSize_append]
  have hle := hfits.headerSize_le
  omega

end PESContent

end MinimalMpegTS
