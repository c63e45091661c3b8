import MinimalMpegTS.Model.PES
import MinimalMpegTS.Proofs.Fields

/-!
# PES headers

The headers that `parseHeader` accepts, and what it makes of their bytes. The header length says
where the payload starts, but the timestamps are read wherever there are enough bytes at all.
-/

namespace MinimalMpegTS

namespace PESParser

/-! ### Timestamps -/

/-- The timestamp that five bytes are read as. -/
def timestampOf (byte0 byte1 byte2 byte3 byte4 : UInt8) : Timestamp :=
  ⟨(((byte0 &&& 0x0E).toUInt64 >>> 1) <<< 30) ||| (byte1.toUInt64 <<< 22) |||
    (((byte2 &&& 0xFE).toUInt64 >>> 1) <<< 15) ||| (byte3.toUInt64 <<< 7) |||
    ((byte4 &&& 0xFE).toUInt64 >>> 1)⟩

/-- The timestamp in the five bytes from `position` on. -/
def timestampAt (data : List UInt8) (position : Nat) : Timestamp :=
  timestampOf (data.getD position 0) (data.getD (position + 1) 0) (data.getD (position + 2) 0)
    (data.getD (position + 3) 0) (data.getD (position + 4) 0)

private lemma middle_bits : ∀ n < 256,
    ((UInt8.ofNat n &&& 0x0E).toUInt64 >>> 1).toNat = n / 2 % 8 ∧
      ((UInt8.ofNat n &&& 0xFE).toUInt64 >>> 1).toNat = n / 2 := by decide +kernel

lemma toNat_timestampOf (byte0 byte1 byte2 byte3 byte4 : UInt8) :
    (timestampOf byte0 byte1 byte2 byte3 byte4).value.toNat =
      byte0.toNat / 2 % 8 * 2 ^ 30 + byte1.toNat * 2 ^ 22 + byte2.toNat / 2 * 2 ^ 15 +
        byte3.toNat * 2 ^ 7 + byte4.toNat / 2 := by
  have h1 := byte1.toNat_lt
  have h2 := byte2.toNat_lt
  have h3 := byte3.toNat_lt
  have h4 := byte4.toNat_lt
  have hhigh : ((byte0 &&& 0x0E).toUInt64 >>> 1).toNat = byte0.toNat / 2 % 8 := by
    have h := (middle_bits byte0.toNat byte0.toNat_lt).1
    rwa [UInt8.ofNat_toNat] at h
  have hlow : ∀ byte : UInt8, ((byte &&& 0xFE).toUInt64 >>> 1).toNat = byte.toNat / 2 := by
    intro byte
    have h := (middle_bits byte.toNat byte.toNat_lt).2
    rwa [UInt8.ofNat_toNat] at h
  have e30 : (30 : UInt64).toNat = 30 := rfl
  have e22 : (22 : UInt64).toNat = 22 := rfl
  have e15 : (15 : UInt64).toNat = 15 := rfl
  have e7 : (7 : UInt64).toNat = 7 := rfl
  have hbyte : ∀ byte : UInt8, byte.toUInt64.toNat = byte.toNat := fun _ => rfl
  unfold timestampOf
  dsimp only
  rw [UInt64.toNat_or, UInt64.toNat_or, UInt64.toNat_or, UInt64.toNat_or, hlow byte4,
    toNat_shiftLeft (by rw [hhigh]; omega) (by decide),
    toNat_shiftLeft (by rw [hbyte]; omega) (by decide),
    toNat_shiftLeft (by rw [hlow]; omega) (by decide),
    toNat_shiftLeft (by rw [hbyte]; omega) (by decide), hhigh, hlow byte2, hbyte, hbyte, e30, e22,
    e15, e7]
  -- each part lies below the lowest bit of the parts before it
  rw [or_eq_add (b := byte1.toNat * 2 ^ 22) 30 (by omega) (by omega),
    or_eq_add (b := byte2.toNat / 2 * 2 ^ 15) 22 (by omega) (by omega),
    or_eq_add (b := byte3.toNat * 2 ^ 7) 15 (by omega) (by omega),
    or_eq_add (b := byte4.toNat / 2) 7 (by omega) (by omega)]

lemma extractTimestamp_drop {data : List UInt8} {position : Nat} (h : position + 5 ≤ data.length) :
    extractTimestamp (some (data.drop position)) = some (some (timestampAt data position)) := by
  have hread : ∀ i < 5, (data.drop position)[i]? = some (data.getD (position + i) 0) := by
    intro i hi
    rw [List.getElem?_drop, getElem?_getD (by omega)]
  unfold extractTimestamp
  dsimp only
  rw [hread 0 (by decide), hread 1 (by decide), hread 2 (by decide), hread 3 (by decide),
    hread 4 (by decide)]
  rfl

def announcesPts (flags2 : UInt8) : Bool :=
  (flags2 >>> 6) &&& 0x03 == 0x02 || (flags2 >>> 6) &&& 0x03 == 0x03

def announcesDts (flags2 : UInt8) : Bool := (flags2 >>> 6) &&& 0x03 == 0x03

/-- The number of bytes of the timestamps that the flags announce. -/
def announcedSize (flags2 : UInt8) : Nat :=
  (if announcesPts flags2 then 5 else 0) + if announcesDts flags2 then 5 else 0

lemma announcesPts_of_announcesDts {flags2 : UInt8} (h : announcesDts flags2 = true) :
    announcesPts flags2 = true := by
  unfold announcesDts at h
  unfold announcesPts
  rw [h, Bool.or_true]

lemma parseDts_short {header : PESHeader} {data : List UInt8} {pos : Nat}
    (hdts : header.hasDts = true) (h : data.length < pos + 5) :
    parseDts header data pos = some (header, false) := by
  unfold parseDts
  rw [if_pos hdts, if_pos h]

lemma parseDts_eq {header : PESHeader} {data : List UInt8} {pos : Nat}
    (h : header.hasDts = true → pos + 5 ≤ data.length) :
    parseDts header data pos = some ({ header with
      dts := if header.hasDts then some (timestampAt data pos) else header.dts }, true) := by
  unfold parseDts
  by_cases hdts : header.hasDts = true
  · rw [if_pos hdts, if_neg (Nat.not_lt.mpr (h hdts)), extractTimestamp_drop (h hdts), if_pos hdts]
    rfl
  · rw [if_neg hdts, if_neg hdts]

/-- There are enough bytes for the timestamps, wherever the header ends. -/
def RoomForTimestamps (header : PESHeader) (data : List UInt8) : Prop :=
  (header.hasPts = true → 14 ≤ data.length) ∧ (header.hasDts = true → 19 ≤ data.length)

lemma parseTimestamps_eq {header : PESHeader} {data : List UInt8}
    (hpts : header.hasDts = true → header.hasPts = true) (h : RoomForTimestamps header data) :
    parseTimestamps header data = some ({ header with
      pts := if header.hasPts then some (timestampAt data 9) else header.pts
      dts := if header.hasDts then some (timestampAt data 14) else header.dts }, true) := by
  unfold parseTimestamps
  by_cases hhas : header.hasPts = true
  · have hroom : 9 + 5 ≤ data.length := h.1 hhas
    rw [if_pos hhas, if_neg (Nat.not_lt.mpr hroom), extractTimestamp_drop hroom, if_pos hhas]
    exact parseDts_eq h.2
  · have hnone : ¬header.hasDts = true := fun hdts => hhas (hpts hdts)
    rw [if_neg hhas, if_neg hhas, parseDts_eq (fun hdts => absurd hdts hnone), if_neg hnone,
      if_neg hnone]

lemma parseTimestamps_short {header : PESHeader} {data : List UInt8}
    (hpts : header.hasDts = true → header.hasPts = true) (h : ¬RoomForTimestamps header data) :
    ∃ parsed, parseTimestamps header data = some (parsed, false) := by
  unfold RoomForTimestamps at h
  have hhas : header.hasPts = true := by tauto
  unfold parseTimestamps
  rw [if_pos hhas]
  by_cases hshort : data.length < 9 + 5
  · exact ⟨_, if_pos hshort⟩
  · have hroom : 9 + 5 ≤ data.length := Nat.le_of_not_lt hshort
    have hdts : header.hasDts = true ∧ data.length < 9 + 5 + 5 := by
      by_contra hne
      exact h ⟨fun _ => hroom, fun hdts => by by_contra hlt; exact hne ⟨hdts, by omega⟩⟩
    rw [if_neg hshort, extractTimestamp_drop hroom]
    exact ⟨_, parseDts_short hdts.1 hdts.2⟩

lemma nine_add_announcedSize_le (flags2 : UInt8) {n : Nat} (hn : 9 ≤ n) :
    9 + announcedSize flags2 ≤ n ↔
      (announcesPts flags2 = true → 14 ≤ n) ∧ (announcesDts flags2 = true → 19 ≤ n) := by
  unfold announcedSize
  cases hdts : announcesDts flags2 with
  | true =>
    rw [announcesPts_of_announcesDts hdts]
    simp
    omega
  | false =>
    cases announcesPts flags2 with
    | true => simp
    | false => simp [hn]

/-! ### The header -/

/-- The headers that are accepted. -/
def HeaderFits (data : List UInt8) : Prop :=
  6 ≤ data.length ∧ data.take 3 = [0, 0, 1] ∧
    (lacksOptionalFields (data.getD 3 0) = true ∨
      9 ≤ data.length ∧ 9 + (data.getD 8 0).toNat ≤ data.length ∧
        9 + announcedSize (data.getD 7 0) ≤ data.length)

instance (data : List UInt8) : Decidable (HeaderFits data) :=
  inferInstanceAs (Decidable (_ ∧ _ ∧ _))

/-- What the first six bytes make of a header. -/
def basicFrom (header : PESHeader) (data : List UInt8) : PESHeader :=
  { header with
    startCode := pesStartCode
    streamId := data.getD 3 0
    packetLength := PSIParser.fieldOf 0xFF (data.getD 4 0) (data.getD 5 0)
    hasOptionalFields := !lacksOptionalFields (data.getD 3 0) }

/-- What the three bytes behind them make of it. -/
def flagsFrom (header : PESHeader) (data : List UInt8) : PESHeader :=
  { header with
    scramblingControl := (data.getD 6 0 >>> 4) &&& 0x03
    priority := data.getD 6 0 &&& 0x08 != 0
    dataAlignmentIndicator := data.getD 6 0 &&& 0x04 != 0
    copyright := data.getD 6 0 &&& 0x02 != 0
    originalOrCopy := data.getD 6 0 &&& 0x01 != 0
    ptsDtsFlags := (data.getD 7 0 >>> 6) &&& 0x03
    hasPts := announcesPts (data.getD 7 0)
    hasDts := announcesDts (data.getD 7 0)
    escrFlag := data.getD 7 0 &&& 0x20 != 0
    esRateFlag := data.getD 7 0 &&& 0x10 != 0
    dsmTrickModeFlag := data.getD 7 0 &&& 0x08 != 0
    additionalCopyInfoFlag := data.getD 7 0 &&& 0x04 != 0
    crcFlag := data.getD 7 0 &&& 0x02 != 0
    extensionFlag := data.getD 7 0 &&& 0x01 != 0
    headerDataLength := data.getD 8 0 }

/-- The header that is read into an object. -/
def headerFrom (header : PESHeader) (data : List UInt8) : PESHeader :=
  if lacksOptionalFields (data.getD 3 0) then basicFrom header data
  else
    { flagsFrom (basicFrom header data) data with
      pts := if announcesPts (data.getD 7 0) then some (timestampAt data 9) else header.pts
      dts := if announcesDts (data.getD 7 0) then some (timestampAt data 14) else header.dts }

lemma verifyStartCode_eq {data : List UInt8} (h : 3 ≤ data.length) :
    verifyStartCode data = some (decide (data.take 3 = [0, 0, 1])) := by
  match data, h with
  | byte0 :: byte1 :: byte2 :: rest, _ =>
    unfold verifyStartCode
    by_cases h0 : byte0 = 0
    · by_cases h1 : byte1 = 0
      · simp [h0, h1]
        rfl
      · simp [h0, h1]
    · simp [h0]

lemma parseHeader_started (header : PESHeader) {data : List UInt8} (hsix : 6 ≤ data.length)
    (hcode : data.take 3 = [0, 0, 1]) : parseHeader header data =
      if lacksOptionalFields (data.getD 3 0) then some (basicFrom header data, true)
      else if data.length < 9 then some (basicFrom header data, false)
      else if data.length < 9 + (data.getD 8 0).toNat then
        some (flagsFrom (basicFrom header data) data, false)
      else parseTimestamps (flagsFrom (basicFrom header data) data) data := by
  unfold parseHeader
  rw [if_neg (Nat.not_lt.mpr hsix), verifyStartCode_eq (by omega), decide_eq_true hcode,
    getElem?_getD (by omega : 3 < data.length), PSIParser.readField16_eq (by omega)]
  simp only [Option.bind_eq_bind, Option.bind_some, Bool.not_true, Bool.false_eq_true, if_false]
  cases hlacks : lacksOptionalFields (data.getD 3 0) with
  | true =>
    unfold basicFrom
    rw [hlacks]
    rfl
  | false =>
    simp only [Bool.not_false, Bool.not_true, Bool.false_eq_true, if_false]
    unfold flagsFrom basicFrom
    rw [hlacks]
    by_cases hnine : data.length < 9
    · rw [if_pos hnine, if_pos hnine]
      rfl
    · rw [if_neg hnine, if_neg hnine, getElem?_getD (by omega : 6 < data.length),
        getElem?_getD (by omega : 7 < data.length), getElem?_getD (by omega : 8 < data.length)]
      rfl

lemma headerFits_iff_of_optional {data : List UInt8} (hsix : 6 ≤ data.length)
    (hcode : data.take 3 = [0, 0, 1]) (hlacks : lacksOptionalFields (data.getD 3 0) = false) :
    HeaderFits data ↔ 9 ≤ data.length ∧ 9 + (data.getD 8 0).toNat ≤ data.length ∧
      9 + announcedSize (data.getD 7 0) ≤ data.length := by
  unfold HeaderFits
  rw [hlacks]
  simp [hsix, hcode]

lemma parseHeader_optional (header : PESHeader) {data : List UInt8} (hsix : 6 ≤ data.length)
    (hcode : data.take 3 = [0, 0, 1]) (hlacks : lacksOptionalFields (data.getD 3 0) = false) :
    ∃ parsed, parseHeader header data = some (parsed, decide (HeaderFits data)) ∧
      (HeaderFits data → parsed = headerFrom header data) := by
  have hfits := headerFits_iff_of_optional hsix hcode hlacks
  have hpts := @announcesPts_of_announcesDts (data.getD 7 0)
  rw [parseHeader_started header hsix hcode, hlacks, if_neg (by decide)]
  by_cases hfit : HeaderFits data
  · obtain ⟨hnine, hdata, hannounced⟩ := hfits.mp hfit
    have hroom := (nine_add_announcedSize_le (data.getD 7 0) hnine).mp hannounced
    rw [if_neg (Nat.not_lt.mpr hnine), if_neg (Nat.not_lt.mpr hdata), decide_eq_true hfit]
    refine ⟨_, parseTimestamps_eq hpts hroom, fun _ => ?_⟩
    unfold headerFrom
    rw [hlacks]
    rfl
  · rw [decide_eq_false hfit]
    by_cases hnine : data.length < 9
    · rw [if_pos hnine]
      exact ⟨_, rfl, fun h => absurd h hfit⟩
    by_cases hdata : data.length < 9 + (data.getD 8 0).toNat
    · rw [if_neg hnine, if_pos hdata]
      exact ⟨_, rfl, fun h => absurd h hfit⟩
    have hroom := nine_add_announcedSize_le (data.getD 7 0) (Nat.le_of_not_lt hnine)
    have hnot : ¬RoomForTimestamps (flagsFrom (basicFrom header data) data) data :=
      fun h => hfit (hfits.mpr ⟨Nat.le_of_not_lt hnine, Nat.le_of_not_lt hdata, hroom.mpr h⟩)
    obtain ⟨parsed, hparsed⟩ := parseTimestamps_short hpts hnot
    rw [if_neg hnine, if_neg hdata]
    exact ⟨parsed, hparsed, fun h => absurd h hfit⟩

/-- `parseHeader` reads within the data, accepts the headers that fit, and reads them. -/
theorem parseHeader_eq (header : PESHeader) (data : List UInt8) : ∃ parsed,
    parseHeader header data = some (parsed, decide (HeaderFits data)) ∧
      (HeaderFits data → parsed = headerFrom header data) := by
  by_cases hshort : data.length < 6
  · have hnot : ¬HeaderFits data := fun h => absurd h.1 (Nat.not_le.mpr hshort)
    refine ⟨header, ?_, fun h => absurd h hnot⟩
    unfold parseHeader
    rw [if_pos hshort, decide_eq_false hnot]
  have hsix : 6 ≤ data.length := Nat.le_of_not_lt hshort
  by_cases hcode : data.take 3 = [0, 0, 1]
  swap
  · have hnot : ¬HeaderFits data := fun h => hcode h.2.1
    refine ⟨header, ?_, fun h => absurd h hnot⟩
    unfold parseHeader
    rw [if_neg hshort, verifyStartCode_eq (by omega), decide_eq_false hcode, decide_eq_false hnot]
    rfl
  cases hlacks : lacksOptionalFields (data.getD 3 0) with
  | true =>
    have hfits : HeaderFits data := ⟨hsix, hcode, .inl hlacks⟩
    refine ⟨basicFrom header data, ?_, fun _ => ?_⟩
    · rw [parseHeader_started header hsix hcode, if_pos hlacks, decide_eq_true hfits]
    · unfold headerFrom
      rw [if_pos hlacks]
  | false => exact parseHeader_optional header hsix hcode hlacks

/-! ### Which bytes the header depends on -/

/-- The size of the header in front of the payload. -/
def headerSize (data : List UInt8) : Nat :=
  if lacksOptionalFields (data.getD 3 0) then 6 else 9 + (data.getD 8 0).toNat

/-- The header has room for the timestamps that it announces. -/
def CoversTimestamps (data : List UInt8) : Prop :=
  lacksOptionalFields (data.getD 3 0) = true ∨
    announcedSize (data.getD 7 0) ≤ (data.getD 8 0).toNat

instance (data : List UInt8) : Decidable (CoversTimestamps data) :=
  inferInstanceAs (Decidable (_ ∨ _))

lemma getHeaderSize_headerFrom (header : PESHeader) (data : List UInt8) :
    (headerFrom header data).getHeaderSize = headerSize data := by
  unfold headerFrom headerSize
  cases hlacks : lacksOptionalFields (data.getD 3 0) with
  | true =>
    unfold basicFrom PESHeader.getHeaderSize
    rw [hlacks]
    rfl
  | false =>
    unfold flagsFrom basicFrom PESHeader.getHeaderSize
    rw [hlacks]
    rfl

lemma HeaderFits.headerSize_le {data : List UInt8} (h : HeaderFits data) :
    headerSize data ≤ data.length := by
  obtain ⟨hsix, -, hrest⟩ := h
  unfold headerSize
  split
  · exact hsix
  · next hlacks => exact (hrest.resolve_left hlacks).2.1

lemma parseHeader_accepted {header parsed : PESHeader} {data : List UInt8}
    (h : parseHeader header data = some (parsed, true)) :
    HeaderFits data ∧ parsed = headerFrom header data := by
  obtain ⟨found, hfound, heq⟩ := parseHeader_eq header data
  rw [h] at hfound
  obtain ⟨rfl, hfits⟩ := Prod.mk.inj (Option.some.inj hfound)
  have hfits := of_decide_eq_true hfits.symm
  exact ⟨hfits, heq hfits⟩

lemma parseHeader_of_fits {data : List UInt8} (h : HeaderFits data) (header : PESHeader) :
    parseHeader header data = some (headerFrom header data, true) := by
  obtain ⟨parsed, hparsed, heq⟩ := parseHeader_eq header data
  rw [hparsed, heq h, decide_eq_true h]

lemma parsePacket_of_fits {data : List UInt8} (h : HeaderFits data) (packet : PESPacket) :
    parsePacket packet data =
      some (⟨headerFrom packet.header data, data.drop (headerSize data), true⟩, true) := by
  have hsize := h.headerSize_le
  have hread : PSIParser.readBytes data (headerSize data) (data.length - headerSize data) =
      some (data.drop (headerSize data)) := by
    unfold PSIParser.readBytes
    rw [if_pos (by omega), List.take_of_length_le (by rw [List.length_drop])]
  unfold parsePacket
  rw [parseHeader_of_fits h, Option.bind_eq_bind, Option.bind_some]
  dsimp only
  rw [getHeaderSize_headerFrom, if_neg (Nat.not_lt.mpr hsize), hread]
  rfl

lemma parsePacket_of_not_fits {data : List UInt8} (h : ¬HeaderFits data) (packet : PESPacket) :
    ∃ rejected, parsePacket packet data = some (rejected, false) := by
  obtain ⟨parsed, hparsed, -⟩ := parseHeader_eq packet.header data
  unfold parsePacket
  rw [hparsed, decide_eq_false h]
  exact ⟨_, rfl⟩

lemma HeaderFits.append {front : List UInt8} (h : HeaderFits front) (back : List UInt8) :
    HeaderFits (front ++ back) := by
  obtain ⟨hsix, hcode, hrest⟩ := h
  unfold HeaderFits
  rw [List.length_append, List.take_append_of_le_length (by omega), List.getD_append _ _ _ _ (by omega)]
  refine ⟨by omega, hcode, hrest.imp_right ?_⟩
  rintro ⟨hnine, hdata, hroom⟩
  rw [List.getD_append _ _ _ _ (by omega), List.getD_append _ _ _ _ (by omega)]
  omega

lemma HeaderFits.headerSize_append {front : List UInt8} (h : HeaderFits front) (back : List UInt8) :
    headerSize (front ++ back) = headerSize front := by
  obtain ⟨hsix, -, hrest⟩ := h
  unfold headerSize
  rw [List.getD_append _ _ _ _ (by omega)]
  split
  · rfl
  · next hlacks =>
    have hnine := (hrest.resolve_left hlacks).1
    rw [List.getD_append _ _ _ _ (by omega)]

lemma timestampAt_of_agree {a b : List UInt8} {position : Nat}
    (h : ∀ i < position + 5, b.getD i 0 = a.getD i 0) :
    timestampAt b position = timestampAt a position := by
  unfold timestampAt
  rw [h position (by omega), h (position + 1) (by omega), h (position + 2) (by omega),
    h (position + 3) (by omega), h (position + 4) (by omega)]

lemma HeaderFits.headerFrom_append {front : List UInt8} (h : HeaderFits front) (header : PESHeader)
    (back : List UInt8) : headerFrom header (front ++ back) = headerFrom header front := by
  obtain ⟨hsix, -, hrest⟩ := h
  have hbyte : ∀ i < front.length, (front ++ back).getD i 0 = front.getD i 0 :=
    fun i hi => List.getD_append _ _ _ _ hi
  unfold headerFrom flagsFrom basicFrom
  rw [hbyte 3 (by omega), hbyte 4 (by omega), hbyte 5 (by omega)]
  cases hlacks : lacksOptionalFields (front.getD 3 0) with
  | true => rfl
  | false =>
    obtain ⟨hnine, -, hroom⟩ := hrest.resolve_left (by rw [hlacks]; decide)
    obtain ⟨hpts, hdts⟩ := (nine_add_announcedSize_le (front.getD 7 0) hnine).mp hroom
    have htime : ∀ position, position + 5 ≤ front.length →
        timestampAt (front ++ back) position = timestampAt front position :=
      fun position hposition => timestampAt_of_agree (fun i hi => hbyte i (by omega))
    have hptsEq : (if announcesPts (front.getD 7 0) then some (timestampAt (front ++ back) 9)
        else header.pts) =
        if announcesPts (front.getD 7 0) then some (timestampAt front 9) else header.pts :=
      ite_congr rfl (fun h => congrArg some (htime 9 (hpts h))) (fun _ => rfl)
    have hdtsEq : (if announcesDts (front.getD 7 0) then some (timestampAt (front ++ back) 14)
        else header.dts) =
        if announcesDts (front.getD 7 0) then some (timestampAt front 14) else header.dts :=
      ite_congr rfl (fun h => congrArg some (htime 14 (hdts h))) (fun _ => rfl)
    rw [hbyte 6 (by omega), hbyte 7 (by omega), hbyte 8 (by omega), hptsEq, hdtsEq]

lemma header_of_agree {a b : List UInt8} (ha : HeaderFits a) (hcovers : CoversTimestamps a)
    (hlength : b.length = a.length) (hagree : b.take (headerSize a) = a.take (headerSize a)) :
    HeaderFits b ∧ headerFrom {} b = headerFrom {} a := by
  obtain ⟨hsix, hcode, hrest⟩ := ha
  have hsize : 6 ≤ headerSize a := by
    unfold headerSize
    split <;> omega
  have hbyte : ∀ i < headerSize a, b.getD i 0 = a.getD i 0 := fun i hi => getD_of_take hagree hi
  have hcodeB : b.take 3 = [0, 0, 1] := by
    have htake := congrArg (List.take 3) hagree
    rw [List.take_take, List.take_take, Nat.min_eq_left (by omega)] at htake
    rw [htake, hcode]
  have hthree := hbyte 3 (by omega)
  have hfour := hbyte 4 (by omega)
  have hfive := hbyte 5 (by omega)
  unfold HeaderFits headerFrom flagsFrom basicFrom
  rw [hlength, hthree, hfour, hfive]
  cases hlacks : lacksOptionalFields (a.getD 3 0) with
  | true => exact ⟨⟨hsix, hcodeB, .inl rfl⟩, rfl⟩
  | false =>
    have hheader : headerSize a = 9 + (a.getD 8 0).toNat := by
      unfold headerSize
      rw [hlacks]
      rfl
    have hcovered : announcedSize (a.getD 7 0) ≤ (a.getD 8 0).toNat := by
      refine hcovers.resolve_left ?_
      rw [hlacks]
      decide
    obtain ⟨hpts, hdts⟩ := (nine_add_announcedSize_le (a.getD 7 0) (Nat.le_add_right 9 _)).mp
      (Nat.add_le_add_left hcovered 9)
    rw [← hheader] at hpts hdts
    have htime : ∀ position, position + 5 ≤ headerSize a →
        timestampAt b position = timestampAt a position :=
      fun position hposition => timestampAt_of_agree (fun i hi => hbyte i (by omega))
    have hptsEq : (if announcesPts (a.getD 7 0) then some (timestampAt b 9) else none) =
        if announcesPts (a.getD 7 0) then some (timestampAt a 9) else none :=
      ite_congr rfl (fun h => congrArg some (htime 9 (hpts h))) (fun _ => rfl)
    have hdtsEq : (if announcesDts (a.getD 7 0) then some (timestampAt b 14) else none) =
        if announcesDts (a.getD 7 0) then some (timestampAt a 14) else none :=
      ite_congr rfl (fun h => congrArg some (htime 14 (hdts h))) (fun _ => rfl)
    have hfits := hrest.resolve_left (by rw [hlacks]; decide)
    rw [hbyte 6 (by omega), hbyte 7 (by omega), hbyte 8 (by omega), hptsEq, hdtsEq]
    exact ⟨⟨hsix, hcodeB, .inr hfits⟩, rfl⟩

private lemma flipped_bit : ∀ n < 256, (UInt8.ofNat n ^^^ 2).toNat / 2 ≠ n / 2 := by decide +kernel

lemma timestampAt_flip {a : List UInt8} {position : Nat} (h : position + 5 ≤ a.length) :
    timestampAt (a.set (position + 4) (a.getD (position + 4) 0 ^^^ 2)) position ≠
      timestampAt a position := by
  have hsame : ∀ i < 4, (a.set (position + 4) (a.getD (position + 4) 0 ^^^ 2)).getD (position + i) 0 =
      a.getD (position + i) 0 :=
    fun i hi => getD_set_ne (by omega) _
  have hlast : (a.set (position + 4) (a.getD (position + 4) 0 ^^^ 2)).getD (position + 4) 0 =
      a.getD (position + 4) 0 ^^^ 2 := by
    rw [List.getD_eq_getElem?_getD, List.getElem?_set_self (by omega), Option.getD_some]
  have hbit := flipped_bit (a.getD (position + 4) 0).toNat (a.getD (position + 4) 0).toNat_lt
  rw [UInt8.ofNat_toNat] at hbit
  have hzero : (a.set (position + 4) (a.getD (position + 4) 0 ^^^ 2)).getD position 0 =
      a.getD position 0 := hsame 0 (by decide)
  intro heq
  have hvalue := congrArg (fun ts => ts.value.toNat) heq
  unfold timestampAt at hvalue
  rw [toNat_timestampOf, toNat_timestampOf, hlast, hzero, hsame 1 (by decide), hsame 2 (by decide),
    hsame 3 (by decide)] at hvalue
  exact hbit (by omega)

lemma timestamps_headerFrom {data : List UInt8} (h : ¬lacksOptionalFields (data.getD 3 0) = true)
    (header : PESHeader) :
    (headerFrom header data).pts =
        (if announcesPts (data.getD 7 0) then some (timestampAt data 9) else header.pts) ∧
      (headerFrom header data).dts =
        if announcesDts (data.getD 7 0) then some (timestampAt data 14) else header.dts := by
  unfold headerFrom
  rw [if_neg h]
  exact ⟨rfl, rfl⟩

lemma exists_disagreement {a : List UInt8} (ha : HeaderFits a) (hcovers : ¬CoversTimestamps a) :
    ∃ b, b.length = a.length ∧ b.take (headerSize a) = a.take (headerSize a) ∧
      headerFrom {} b ≠ headerFrom {} a := by
  obtain ⟨hlacks, hlong⟩ := not_or.mp hcovers
  obtain ⟨hnine, -, hroom⟩ := ha.2.2.resolve_left hlacks
  have hheader : headerSize a = 9 + (a.getD 8 0).toNat := if_neg hlacks
  obtain ⟨hpts, hdts⟩ := (nine_add_announcedSize_le (a.getD 7 0) hnine).mp hroom
  have hset : ∀ position, headerSize a ≤ position + 4 → 9 ≤ position →
      (a.set (position + 4) (a.getD (position + 4) 0 ^^^ 2)).take (headerSize a) =
          a.take (headerSize a) ∧
        (a.set (position + 4) (a.getD (position + 4) 0 ^^^ 2)).getD 3 0 = a.getD 3 0 ∧
        (a.set (position + 4) (a.getD (position + 4) 0 ^^^ 2)).getD 7 0 = a.getD 7 0 := by
    intro position hsize hposition
    exact ⟨List.take_set_of_le hsize, getD_set_ne (by omega) _, getD_set_ne (by omega) _⟩
  unfold announcedSize at hlong
  by_cases hannounced : announcesDts (a.getD 7 0) = true
  · rw [announcesPts_of_announcesDts hannounced, hannounced] at hlong
    have hten : ¬10 ≤ (a.getD 8 0).toNat := hlong
    obtain ⟨htake, hthree, hseven⟩ := hset 14 (by omega) (by decide)
    refine ⟨_, List.length_set, htake, fun heq => ?_⟩
    have hdtsEq := congrArg PESHeader.dts heq
    rw [(timestamps_headerFrom (hthree ▸ hlacks) {}).2, (timestamps_headerFrom hlacks {}).2, hseven,
      if_pos hannounced, if_pos hannounced] at hdtsEq
    exact timestampAt_flip (hdts hannounced) (Option.some.inj hdtsEq)
  · have hptsAnnounced : announcesPts (a.getD 7 0) = true := by
      by_contra hnone
      rw [if_neg hannounced, if_neg hnone] at hlong
      exact hlong (Nat.zero_le _)
    rw [if_neg hannounced, if_pos hptsAnnounced] at hlong
    obtain ⟨htake, hthree, hseven⟩ := hset 9 (by omega) (by decide)
    refine ⟨_, List.length_set, htake, fun heq => ?_⟩
    have hptsEq := congrArg PESHeader.pts heq
    rw [(timestamps_headerFrom (hthree ▸ hlacks) {}).1, (timestamps_headerFrom hlacks {}).1, hseven,
      if_pos hptsAnnounced, if_pos hptsAnnounced] at hptsEq
    exact timestampAt_flip (hpts hptsAnnounced) (Option.some.inj hptsEq)

/-- A header depends on its own bytes only, exactly if it has room for the timestamps announced. -/
theorem header_own_bytes_iff {a : List UInt8} {header : PESHeader}
    (ha : parseHeader {} a = some (header, true)) :
    (∀ b, b.length = a.length → b.take header.getHeaderSize = a.take header.getHeaderSize →
      parseHeader {} b = some (header, true)) ↔ CoversTimestamps a := by
  obtain ⟨hfits, rfl⟩ := parseHeader_accepted ha
  rw [getHeaderSize_headerFrom]
  constructor
  · intro h
    by_contra hcovers
    obtain ⟨b, hlength, htake, hne⟩ := exists_disagreement hfits hcovers
    exact hne (parseHeader_accepted (h b hlength htake)).2.symm
  · intro hcovers b hlength htake
    obtain ⟨hfitsB, heq⟩ := header_of_agree hfits hcovers hlength htake
    rw [parseHeader_of_fits hfitsB, heq]

/-- A PTS in a header with five bytes for it. -/
theorem header_own_bytes_covered :
    CoversTimestamps [0, 0, 1, 0xE0, 0, 10, 0x80, 0x80, 5, 0x21, 0, 1, 0, 1, 7, 7] ∧
    ∀ b : List UInt8, b.length = 16 → b.take 14 =
        [0, 0, 1, 0xE0, 0, 10, 0x80, 0x80, 5, 0x21, 0, 1, 0, 1] →
      parseHeader {} b = some (headerFrom {}
        [0, 0, 1, 0xE0, 0, 10, 0x80, 0x80, 5, 0x21, 0, 1, 0, 1, 7, 7], true) := by
  have ha : parseHeader {} [0, 0, 1, 0xE0, 0, 10, 0x80, 0x80, 5, 0x21, 0, 1, 0, 1, 7, 7] =
      some (headerFrom {} [0, 0, 1, 0xE0, 0, 10, 0x80, 0x80, 5, 0x21, 0, 1, 0, 1, 7, 7], true) := by
    decide
  have hcovers : CoversTimestamps [0, 0, 1, 0xE0, 0, 10, 0x80, 0x80, 5, 0x21, 0, 1, 0, 1, 7, 7] := by
    decide
  exact ⟨hcovers, (header_own_bytes_iff ha).mpr hcovers⟩

/-- The same header with no bytes for the PTS, which is read off the payload. -/
theorem header_payload_bytes : ∃ (a b : List UInt8) (header : PESHeader),
    parseHeader {} a = some (header, true) ∧ b.length = a.length ∧
      b.take header.getHeaderSize = a.take header.getHeaderSize ∧
      parseHeader {} b ≠ some (header, true) :=
  ⟨[0, 0, 1, 0xE0, 0, 10, 0x80, 0x80, 0, 0x21, 0, 1, 0, 1, 7, 7],
    [0, 0, 1, 0xE0, 0, 10, 0x80, 0x80, 0, 0x21, 0, 1, 0, 3, 7, 7],
    headerFrom {} [0, 0, 1, 0xE0, 0, 10, 0x80, 0x80, 0, 0x21, 0, 1, 0, 1, 7, 7],
    by decide, by decide, by decide, by decide⟩

end PESParser

end MinimalMpegTS
