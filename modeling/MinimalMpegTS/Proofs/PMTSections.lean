import MinimalMpegTS.Lib.Records
import MinimalMpegTS.Proofs.SectionSyntax

/-!
# PMT sections

Encoding a PMT and parsing it gives the PMT back. The parser also accepts sections that encode no
PMT: it takes the short form of the header, descriptors of the program that reach into the CRC and
beyond it, and leaves out the bytes behind the last whole stream record. Those aside, what it
accepts is the encoding of what it returns.
-/

namespace MinimalMpegTS

open PSIParser

/-- A record of the stream list, with its reserved bits. -/
structure ElementaryStream where
  streamType : UInt8
  reserved : BitVec 3
  elementaryPid : BitVec 13
  reservedInfo : BitVec 4
  descriptors : List UInt8
  fits : descriptors.length < 2 ^ 12

namespace ElementaryStream

def encode (self : ElementaryStream) : List UInt8 :=
  self.streamType :: (halfword (self.reserved ++ self.elementaryPid) ++
    halfword (self.reservedInfo ++ BitVec.ofNat 12 self.descriptors.length) ++ self.descriptors)

/-- What the parser makes of the record. -/
def parsed (self : ElementaryStream) : PMTStreamInfo where
  streamType := ⟨self.streamType⟩
  elementaryPid := UInt16.ofNat self.elementaryPid.toNat
  esInfoLength := UInt16.ofNat self.descriptors.length
  descriptors := self.descriptors

def code : RecordCode ElementaryStream UInt8 := ⟨encode, fun _ => List.cons_ne_nil _ _⟩

lemma length_encode (self : ElementaryStream) : self.encode.length = 5 + self.descriptors.length := by
  simp [encode, halfword]
  omega

lemma toNat_esInfoLength (self : ElementaryStream) :
    self.parsed.esInfoLength.toNat = self.descriptors.length := by
  have hfits := self.fits
  show (UInt16.ofNat self.descriptors.length).toNat = _
  rw [UInt16.toNat_ofNat']
  omega

lemma length_encodeAll (streams : List ElementaryStream) : (code.encodeAll streams).length =
    ((streams.map parsed).map (fun stream => 5 + stream.esInfoLength.toNat)).sum := by
  rw [RecordCode.length_encodeAll, List.map_map]
  congr 1
  apply List.map_congr_left
  intro stream _
  rw [Function.comp_apply, toNat_esInfoLength]
  exact stream.length_encode

lemma length_le_encodeAll (streams : List ElementaryStream) :
    streams.length ≤ (code.encodeAll streams).length := by
  induction streams with
  | nil => exact le_refl 0
  | cons stream streams ih =>
    have hcode : (code.encode stream).length = stream.encode.length := rfl
    rw [RecordCode.encodeAll_cons, List.length_append, hcode, length_encode, List.length_cons]
    omega

end ElementaryStream

namespace PSIParser

/-! ### Fields with reserved bits -/

lemma exists_pid (reserved : BitVec 3) (pid : BitVec 13) : ∃ byte0 byte1,
    halfword (reserved ++ pid) = [byte0, byte1] ∧ fieldOf 0x1F byte0 byte1 = UInt16.ofNat pid.toNat := by
  refine ⟨_, _, rfl, ?_⟩
  rw [fieldOf_halfword (k := 5) rfl (by decide), toNat_append, Nat.mul_add_mod',
    Nat.mod_eq_of_lt pid.isLt]

lemma exists_infoLength (reserved : BitVec 4) (length : BitVec 12) : ∃ byte0 byte1,
    halfword (reserved ++ length) = [byte0, byte1] ∧
      fieldOf 0x0F byte0 byte1 = UInt16.ofNat length.toNat := by
  refine ⟨_, _, rfl, ?_⟩
  rw [fieldOf_halfword (k := 4) rfl (by decide), toNat_append, Nat.mul_add_mod',
    Nat.mod_eq_of_lt length.isLt]

lemma pid_of_bytes (byte0 byte1 : UInt8) : ∃ (reserved : BitVec 3) (pid : BitVec 13),
    halfword (reserved ++ pid) = [byte0, byte1] := by
  obtain ⟨x, hx⟩ := exists_halfword byte0 byte1
  obtain ⟨reserved, pid, rfl⟩ := exists_append (j := 3) (k := 13) x
  exact ⟨reserved, pid, hx⟩

lemma infoLength_of_bytes (byte0 byte1 : UInt8) : ∃ reserved : BitVec 4,
    halfword (reserved ++ BitVec.ofNat 12 (fieldOf 0x0F byte0 byte1).toNat) = [byte0, byte1] ∧
      (fieldOf 0x0F byte0 byte1).toNat < 2 ^ 12 := by
  obtain ⟨x, hx⟩ := exists_halfword byte0 byte1
  obtain ⟨reserved, length, rfl⟩ := exists_append (j := 4) (k := 12) x
  have hlt := length.isLt
  obtain ⟨byte0', byte1', hbytes, hfield⟩ := exists_infoLength reserved length
  have hsame := hx.symm.trans hbytes
  simp only [List.cons.injEq, and_true] at hsame
  obtain ⟨rfl, rfl⟩ := hsame
  have hlength : (fieldOf 0x0F byte0 byte1).toNat = length.toNat := by
    rw [hfield, UInt16.toNat_ofNat']
    omega
  rw [hlength, BitVec.ofNat_toNat, BitVec.setWidth_eq]
  exact ⟨reserved, hx, hlt⟩

end PSIParser

namespace ElementaryStream

lemma exists_bytes (self : ElementaryStream) : ∃ byte1 byte2 byte3 byte4,
    self.encode = self.streamType :: byte1 :: byte2 :: byte3 :: byte4 :: self.descriptors ∧
      fieldOf 0x1F byte1 byte2 = self.parsed.elementaryPid ∧
      fieldOf 0x0F byte3 byte4 = self.parsed.esInfoLength := by
  obtain ⟨byte1, byte2, hpid, hpidField⟩ := exists_pid self.reserved self.elementaryPid
  obtain ⟨byte3, byte4, hinfo, hinfoField⟩ :=
    exists_infoLength self.reservedInfo (BitVec.ofNat 12 self.descriptors.length)
  refine ⟨byte1, byte2, byte3, byte4, ?_, hpidField, ?_⟩
  · unfold encode
    rw [hpid, hinfo]
    rfl
  · rw [hinfoField, BitVec.toNat_ofNat, Nat.mod_eq_of_lt self.fits]
    rfl

lemma exists_encode (byte0 byte1 byte2 byte3 byte4 : UInt8) {descriptors : List UInt8}
    (h : descriptors.length = (fieldOf 0x0F byte3 byte4).toNat) : ∃ self : ElementaryStream,
      self.encode = byte0 :: byte1 :: byte2 :: byte3 :: byte4 :: descriptors := by
  obtain ⟨reserved, pid, hpid⟩ := pid_of_bytes byte1 byte2
  obtain ⟨reservedInfo, hinfo, hfits⟩ := infoLength_of_bytes byte3 byte4
  rw [← h] at hinfo hfits
  refine ⟨⟨byte0, reserved, pid, reservedInfo, descriptors, hfits⟩, ?_⟩
  unfold encode
  dsimp only
  rw [hpid, hinfo]
  rfl

lemma stuck_cases {left : List UInt8} (h : code.Stuck left) : left.length < 5 ∨
    ∃ byte0 byte1 byte2 byte3 byte4 rest, left = byte0 :: byte1 :: byte2 :: byte3 :: byte4 :: rest ∧
      rest.length < (fieldOf 0x0F byte3 byte4).toNat := by
  match left, h with
  | [], _ | [_], _ | [_, _], _ | [_, _, _], _ | [_, _, _, _], _ => simp
  | byte0 :: byte1 :: byte2 :: byte3 :: byte4 :: rest, h =>
    refine .inr ⟨byte0, byte1, byte2, byte3, byte4, rest, rfl, ?_⟩
    by_contra hle
    have htake : (rest.take (fieldOf 0x0F byte3 byte4).toNat).length =
        (fieldOf 0x0F byte3 byte4).toNat := by
      rw [List.length_take]
      omega
    obtain ⟨self, hself⟩ := exists_encode byte0 byte1 byte2 byte3 byte4 htake
    apply h self (rest.drop (fieldOf 0x0F byte3 byte4).toNat)
    show _ = self.encode ++ _
    rw [hself]
    simp

lemma stuck_nil : code.Stuck [] := fun _ _ h => List.cons_ne_nil _ _ (List.append_eq_nil_iff.mp h.symm).1

end ElementaryStream

namespace PSIParser

/-! ### The loop over the streams -/

lemma parseStreams_succ {data tail : List UInt8} {offset streamsEnd : Nat}
    {byte0 byte1 byte2 byte3 byte4 : UInt8}
    (hdrop : data.drop offset = byte0 :: byte1 :: byte2 :: byte3 :: byte4 :: tail)
    (hend : offset + 5 ≤ streamsEnd) (fuel : Nat) (streams : List PMTStreamInfo) :
    parseStreams data streamsEnd (fuel + 1) offset streams =
      if streamsEnd < offset + 5 + (fieldOf 0x0F byte3 byte4).toNat &&
          fieldOf 0x0F byte3 byte4 != 0 then some (streams, false)
      else (readBytes data (offset + 5) (fieldOf 0x0F byte3 byte4).toNat).bind (fun descriptors =>
        parseStreams data streamsEnd fuel (offset + 5 + (fieldOf 0x0F byte3 byte4).toNat) (streams ++
          [{ streamType := ⟨byte0⟩
             elementaryPid := fieldOf 0x1F byte1 byte2
             esInfoLength := fieldOf 0x0F byte3 byte4
             descriptors := descriptors }])) := by
  have htype : data[offset]? = some byte0 := getElem?_of_drop hdrop 0
  have hpid : data.drop (offset + 1) = byte1 :: byte2 :: byte3 :: byte4 :: tail := by
    rw [← List.drop_drop, hdrop]
    rfl
  have hinfo : data.drop (offset + 3) = byte3 :: byte4 :: tail := by
    rw [← List.drop_drop, hdrop]
    rfl
  rw [parseStreams, if_pos hend, htype, readField16_of_drop hpid, readField16_of_drop hinfo]
  rfl

lemma parseStreams_short {streamsEnd offset : Nat} (h : streamsEnd < offset + 5) (data : List UInt8)
    (fuel : Nat) (streams : List PMTStreamInfo) :
    parseStreams data streamsEnd fuel offset streams = some (streams, true) := by
  cases fuel with
  | zero => rfl
  | succ fuel =>
    rw [parseStreams, if_neg (by omega)]

lemma readBytes_of_drop {data front back : List UInt8} {offset : Nat}
    (h : data.drop offset = front ++ back) (hoffset : offset ≤ data.length) :
    readBytes data offset front.length = some front := by
  have hlen := congrArg List.length h
  rw [List.length_drop, List.length_append] at hlen
  unfold readBytes
  rw [if_pos (by omega), h, List.take_left]

lemma parseStreams_record (stream : ElementaryStream) {data back : List UInt8}
    {streamsEnd offset : Nat} (hdrop : data.drop offset = stream.encode ++ back)
    (hend : offset + stream.encode.length ≤ streamsEnd) (fuel : Nat) (streams : List PMTStreamInfo) :
    parseStreams data streamsEnd (fuel + 1) offset streams =
      parseStreams data streamsEnd fuel (offset + stream.encode.length) (streams ++ [stream.parsed]) := by
  obtain ⟨byte1, byte2, byte3, byte4, hbytes, hpid, hinfo⟩ := stream.exists_bytes
  have hlen := congrArg List.length hdrop
  rw [stream.length_encode] at hend
  rw [List.length_drop, List.length_append, stream.length_encode] at hlen
  have hdescriptors : data.drop (offset + 5) = stream.descriptors ++ back := by
    rw [← List.drop_drop, hdrop, hbytes]
    rfl
  have hread := readBytes_of_drop hdescriptors (by omega)
  rw [hbytes] at hdrop
  rw [parseStreams_succ hdrop (by omega), hpid, hinfo, stream.toNat_esInfoLength,
    if_neg (by simp; omega), hread, Option.bind_some, stream.length_encode, Nat.add_assoc]
  rfl

/-- The loop reads the records up to the last whole one and fails on a record that is cut short. -/
theorem parseStreams_encodeAll {records : List ElementaryStream} {data left back : List UInt8}
    {streamsEnd offset fuel : Nat}
    (hdrop : data.drop offset = ElementaryStream.code.encodeAll records ++ left ++ back)
    (hend : streamsEnd = offset + (ElementaryStream.code.encodeAll records).length + left.length)
    (hleft : ElementaryStream.code.Stuck left) (hfuel : records.length < fuel)
    (streams : List PMTStreamInfo) :
    parseStreams data streamsEnd fuel offset streams =
      some (streams ++ records.map ElementaryStream.parsed, decide (left.length < 5)) := by
  induction records generalizing fuel offset streams with
  | nil =>
    rw [RecordCode.encodeAll_nil, List.length_nil] at hend
    rw [List.map_nil, List.append_nil]
    obtain hshort | ⟨byte0, byte1, byte2, byte3, byte4, rest, rfl, hover⟩ :=
      ElementaryStream.stuck_cases hleft
    · rw [parseStreams_short (by omega), decide_eq_true hshort]
    · cases fuel with
      | zero => cases hfuel
      | succ fuel =>
        have hzero : fieldOf 0x0F byte3 byte4 ≠ 0 := by
          intro hzero
          rw [hzero] at hover
          cases hover
        simp only [List.length_cons] at hend
        rw [parseStreams_succ hdrop (by omega), if_pos]
        · simp
        · rw [Bool.and_eq_true, decide_eq_true_eq, bne_iff_ne]
          exact ⟨by omega, hzero⟩
  | cons record records ih =>
    rw [RecordCode.encodeAll_cons, List.length_append] at hend
    rw [RecordCode.encodeAll_cons, List.append_assoc, List.append_assoc] at hdrop
    have hcode : ElementaryStream.code.encode record = record.encode := rfl
    rw [hcode] at hdrop hend
    cases fuel with
    | zero => cases hfuel
    | succ fuel =>
      have hnext : data.drop (offset + record.encode.length) =
          ElementaryStream.code.encodeAll records ++ left ++ back := by
        rw [← List.drop_drop, hdrop, List.drop_left, List.append_assoc]
      rw [parseStreams_record record hdrop (by omega),
        ih hnext (by omega) (Nat.lt_of_succ_lt_succ hfuel), List.map_cons, List.append_assoc,
        List.singleton_append]

/-! ### The section -/

lemma le_of_readBytes {data bytes : List UInt8} {offset length : Nat}
    (h : readBytes data offset length = some bytes) : offset + length ≤ data.length := by
  unfold readBytes at h
  split at h
  · next hle => exact hle
  · cases h

lemma assigned_descriptors (infoLength : UInt16) (pmt : PMT) (descriptors : List UInt8) :
    (if infoLength = 0 then pmt else { pmt with programDescriptors := descriptors }) =
      { pmt with programDescriptors :=
        if infoLength = 0 then pmt.programDescriptors else descriptors } := by
  split <;> rfl

/-- What an accepted section has passed, and what is made of it. -/
structure AcceptedPMT (pmt : PMT) (data : List UInt8) (pmt' : PMT) (size : Nat) : Prop extends
    AcceptedSection tableIdPmt pmt.header data pmt'.header size where
  length : 12 ≤ data.length
  programNumber : pmt'.programNumber = pmt'.header.tableIdExtension
  pcrPid : readField16 0x1F data size = some pmt'.pcrPid
  programInfoLength : readField16 0x0F data (size + 2) = some pmt'.programInfoLength
  descriptors : ∃ descriptors,
    readBytes data (size + 4) pmt'.programInfoLength.toNat = some descriptors ∧
      pmt'.programDescriptors =
        if pmt'.programInfoLength = 0 then pmt.programDescriptors else descriptors
  streams : parseStreams data (sizeSub (3 + pmt'.header.sectionLength.toNat) 4)
    (sizeSub (3 + pmt'.header.sectionLength.toNat) 4) (size + 4 + pmt'.programInfoLength.toNat)
    pmt.streams = some (pmt'.streams, true)
  crc32 : readWord32 data (sizeSub (3 + pmt'.header.sectionLength.toNat) 4) = some pmt'.crc32

lemma parsePMT_accepted {pmt pmt' : PMT} {data : List UInt8}
    (h : parsePMT pmt data = some (pmt', true)) : ∃ size, AcceptedPMT pmt data pmt' size := by
  unfold parsePMT at h
  split at h
  · cases h
  next hlen =>
  obtain ⟨⟨header, size⟩, hheader, h⟩ := Option.bind_eq_some_iff.mp h
  dsimp only at h
  split at h
  · cases h
  next hsize =>
  split at h
  · cases h
  next htable =>
  split at h
  · cases h
  next hfits =>
  obtain ⟨ok, hcrc, h⟩ := Option.bind_eq_some_iff.mp h
  split at h
  · cases h
  next hok =>
  obtain ⟨pcrPid, hpid, h⟩ := Option.bind_eq_some_iff.mp h
  obtain ⟨infoLength, hinfo, h⟩ := Option.bind_eq_some_iff.mp h
  split at h
  · cases h
  obtain ⟨descriptors, hdescriptors, h⟩ := Option.bind_eq_some_iff.mp h
  rw [assigned_descriptors] at h
  obtain ⟨⟨streams, streamsOk⟩, hstreams, h⟩ := Option.bind_eq_some_iff.mp h
  dsimp only at h
  split at h
  · cases h
  next hend =>
  obtain ⟨crc, hword, h⟩ := Option.bind_eq_some_iff.mp h
  cases h
  obtain rfl : ok = true := by simpa using hok
  obtain rfl : streamsOk = true := by simpa using hend
  have hsection : AcceptedSection tableIdPmt pmt.header data header size :=
    ⟨hheader, hsize, by simpa using htable, Nat.le_of_not_lt hfits, hcrc⟩
  exact ⟨size, hsection, by omega, rfl, hpid, hinfo, ⟨descriptors, hdescriptors, rfl⟩, hstreams, hword⟩

lemma AcceptedPMT.parsePMT_eq {pmt pmt' : PMT} {data : List UInt8} {size : Nat}
    (h : AcceptedPMT pmt data pmt' size) : parsePMT pmt data = some (pmt', true) := by
  obtain ⟨descriptors, hread, hdescriptors⟩ := h.descriptors
  obtain ⟨header, programNumber, pcrPid, infoLength, programDescriptors, streams, crc32⟩ := pmt'
  obtain rfl : programNumber = header.tableIdExtension := h.programNumber
  obtain rfl : programDescriptors =
    if infoLength = 0 then pmt.programDescriptors else descriptors := hdescriptors
  have hroom : size + 4 + infoLength.toNat ≤ data.length := le_of_readBytes hread
  unfold parsePMT
  simp only [Option.bind_eq_bind]
  rw [if_neg (Nat.not_lt.mpr h.length), h.parse, Option.bind_some]
  dsimp only
  rw [if_neg h.headerSize, if_neg (not_not_intro h.tableId), if_neg (Nat.not_lt.mpr h.fits),
    h.checksum, Option.bind_some, if_neg (by decide), h.pcrPid, Option.bind_some,
    h.programInfoLength, Option.bind_some, if_neg (by simp; omega), hread, Option.bind_some,
    assigned_descriptors]
  dsimp only
  rw [h.streams, Option.bind_some]
  dsimp only
  rw [if_neg (by decide), h.crc32]
  rfl

end PSIParser

/-- The body of a PMT section in front of the streams. -/
structure ProgramFields where
  reserved : BitVec 3
  pcrPid : BitVec 13
  reservedInfo : BitVec 4
  descriptors : List UInt8
  fits : descriptors.length < 2 ^ 12

namespace ProgramFields

def encode (self : ProgramFields) : List UInt8 :=
  halfword (self.reserved ++ self.pcrPid) ++
    halfword (self.reservedInfo ++ BitVec.ofNat 12 self.descriptors.length) ++ self.descriptors

lemma length_encode (self : ProgramFields) : self.encode.length = 4 + self.descriptors.length := by
  simp [encode, halfword]
  omega

lemma exists_bytes (self : ProgramFields) : ∃ byte0 byte1 byte2 byte3,
    self.encode = byte0 :: byte1 :: byte2 :: byte3 :: self.descriptors ∧
      fieldOf 0x1F byte0 byte1 = UInt16.ofNat self.pcrPid.toNat ∧
      fieldOf 0x0F byte2 byte3 = UInt16.ofNat self.descriptors.length := by
  obtain ⟨byte0, byte1, hpid, hpidField⟩ := exists_pid self.reserved self.pcrPid
  obtain ⟨byte2, byte3, hinfo, hinfoField⟩ :=
    exists_infoLength self.reservedInfo (BitVec.ofNat 12 self.descriptors.length)
  refine ⟨byte0, byte1, byte2, byte3, ?_, hpidField, ?_⟩
  · unfold encode
    rw [hpid, hinfo]
    rfl
  · rw [hinfoField, BitVec.toNat_ofNat, Nat.mod_eq_of_lt self.fits]

lemma exists_encode (byte0 byte1 byte2 byte3 : UInt8) {descriptors : List UInt8}
    (h : descriptors.length = (fieldOf 0x0F byte2 byte3).toNat) : ∃ self : ProgramFields,
      self.encode = byte0 :: byte1 :: byte2 :: byte3 :: descriptors ∧
        self.descriptors = descriptors := by
  obtain ⟨reserved, pid, hpid⟩ := pid_of_bytes byte0 byte1
  obtain ⟨reservedInfo, hinfo, hfits⟩ := infoLength_of_bytes byte2 byte3
  rw [← h] at hinfo hfits
  refine ⟨⟨reserved, pid, reservedInfo, descriptors, hfits⟩, ?_, rfl⟩
  unfold encode
  dsimp only
  rw [hpid, hinfo]
  rfl

end ProgramFields

namespace PSIParser

lemma toNat_infoLength (fields : ProgramFields) :
    (UInt16.ofNat fields.descriptors.length).toNat = fields.descriptors.length := by
  have hfits := fields.fits
  rw [UInt16.toNat_ofNat']
  omega

lemma read_fields (fields : ProgramFields) {data area : List UInt8} {offset : Nat}
    (hdrop : data.drop offset = fields.encode ++ area) :
    readField16 0x1F data offset = some (UInt16.ofNat fields.pcrPid.toNat) ∧
      readField16 0x0F data (offset + 2) = some (UInt16.ofNat fields.descriptors.length) ∧
      readBytes data (offset + 4) fields.descriptors.length = some fields.descriptors ∧
      data.drop (offset + 4 + fields.descriptors.length) = area := by
  obtain ⟨byte0, byte1, byte2, byte3, hbytes, hpidField, hinfoField⟩ := fields.exists_bytes
  have hlen := congrArg List.length hdrop
  rw [List.length_drop, List.length_append, fields.length_encode] at hlen
  rw [hbytes] at hdrop
  have hpid := readField16_of_drop hdrop 0x1F
  have hinfoDrop : data.drop (offset + 2) = byte2 :: byte3 :: (fields.descriptors ++ area) := by
    rw [← List.drop_drop, hdrop]
    rfl
  have hinfo := readField16_of_drop hinfoDrop 0x0F
  have hdescriptors : data.drop (offset + 4) = fields.descriptors ++ area := by
    rw [← List.drop_drop, hdrop]
    rfl
  refine ⟨?_, ?_, readBytes_of_drop hdescriptors (by omega), ?_⟩
  · rw [hpid, hpidField]
  · rw [hinfo, hinfoField]
  · rw [← List.drop_drop, hdescriptors, List.drop_left]

lemma assign_descriptors (fields : ProgramFields) {pmt : PMT} (h : pmt.programDescriptors = []) :
    (if UInt16.ofNat fields.descriptors.length = 0 then pmt
      else { pmt with programDescriptors := fields.descriptors }) =
    { pmt with programDescriptors := fields.descriptors } := by
  split
  · next hzero =>
    have hlength := toNat_infoLength fields
    rw [hzero] at hlength
    rw [List.eq_nil_of_length_eq_zero hlength.symm, ← h]
  · rfl

/-- What is made of a section with the long form of the header. -/
theorem parsePMT_section {self : LongSection} (htable : self.tableId = tableIdPmt)
    {fields : ProgramFields} {records : List ElementaryStream} {left : List UInt8}
    (hbody : self.body = fields.encode ++ (ElementaryStream.code.encodeAll records ++ left))
    (hleft : ElementaryStream.code.Stuck left) (rest : List UInt8) :
    parsePMT {} (self.encode ++ rest) = some ({
      header := self.parsedHeader
      programNumber := UInt16.ofNat self.header.tableIdExtension.toNat
      pcrPid := UInt16.ofNat fields.pcrPid.toNat
      programInfoLength := UInt16.ofNat fields.descriptors.length
      programDescriptors := fields.descriptors
      streams := records.map ElementaryStream.parsed
      crc32 := if left.length < 5 then calculateCRC32 self.front else 0 }, decide (left.length < 5)) := by
  have hcount : self.body.length = 4 + fields.descriptors.length +
      (ElementaryStream.code.encodeAll records).length + left.length := by
    rw [hbody, List.length_append, List.length_append, fields.length_encode]
    omega
  have hlen : (self.encode ++ rest).length = self.body.length + 12 + rest.length := by
    rw [List.length_append, self.length_encode]
  have hdrop := self.drop_encode rest
  rw [hbody, List.append_assoc] at hdrop
  obtain ⟨hpid, hinfo, hread, hstreams⟩ := read_fields fields hdrop
  have hend : self.body.length + 8 = 12 + fields.descriptors.length +
      (ElementaryStream.code.encodeAll records).length + left.length := by omega
  have hrecords : records.length ≤ (ElementaryStream.code.encodeAll records).length :=
    ElementaryStream.length_le_encodeAll records
  have hfuel : records.length < self.body.length + 8 := by omega
  have hloop := parseStreams_encodeAll hstreams hend hleft hfuel []
  have htableId : self.parsedHeader.tableId = tableIdPmt := htable
  unfold parsePMT
  simp only [Option.bind_eq_bind]
  rw [if_neg (by omega), self.parseSectionHeader_encode, Option.bind_some]
  dsimp only
  rw [self.toNat_sectionLength, if_neg (by decide), if_neg (by simpa using htableId),
    if_neg (by omega), self.verifyCRC32_encode, Option.bind_some, if_neg (by decide), hpid,
    Option.bind_some, hinfo, Option.bind_some, toNat_infoLength,
    if_neg (by rw [hlen, decide_eq_false (by omega), Bool.and_false]; decide), hread, Option.bind_some,
    self.sizeSub_total, assign_descriptors fields rfl]
  dsimp only [Nat.reduceAdd]
  rw [hloop, Option.bind_some]
  dsimp only
  by_cases hshort : left.length < 5
  · rw [decide_eq_true hshort, Bool.not_true, if_neg Bool.false_ne_true, self.readWord32_encode, Option.bind_some,
      if_pos hshort]
    rfl
  · rw [decide_eq_false hshort, Bool.not_false, if_pos rfl, if_neg hshort]
    rfl

end PSIParser

/-- The content of a PMT, with its reserved bits. The table id extension of the header is the program
number. -/
structure ProgramMap where
  header : LongHeader
  fields : ProgramFields
  streams : List ElementaryStream
  fits : fields.encode.length + (ElementaryStream.code.encodeAll streams).length + 9 < 2 ^ 12

namespace ProgramMap

def toSection (self : ProgramMap) : LongSection where
  tableId := tableIdPmt
  header := self.header
  body := self.fields.encode ++ ElementaryStream.code.encodeAll self.streams
  fits := by
    rw [List.length_append]
    exact self.fits

def encode (self : ProgramMap) : List UInt8 := self.toSection.encode

/-- The PMT that the section stands for. -/
def parsed (self : ProgramMap) : PMT where
  header := self.toSection.parsedHeader
  programNumber := UInt16.ofNat self.header.tableIdExtension.toNat
  pcrPid := UInt16.ofNat self.fields.pcrPid.toNat
  programInfoLength := UInt16.ofNat self.fields.descriptors.length
  programDescriptors := self.fields.descriptors
  streams := self.streams.map ElementaryStream.parsed
  crc32 := PSIParser.calculateCRC32 self.toSection.front

/-- Parsing undoes encoding. -/
theorem parsePMT_encode (self : ProgramMap) (rest : List UInt8) :
    parsePMT {} (self.encode ++ rest) = some (self.parsed, true) := by
  have hbody : self.toSection.body =
      self.fields.encode ++ (ElementaryStream.code.encodeAll self.streams ++ []) := by
    rw [List.append_nil]
    rfl
  have htable : self.toSection.tableId = tableIdPmt := rfl
  exact PSIParser.parsePMT_section htable hbody ElementaryStream.stuck_nil rest

lemma exists_toSection {long : LongSection} (htable : long.tableId = tableIdPmt)
    {fields : ProgramFields} {streams : List ElementaryStream}
    (hbody : long.body = fields.encode ++ ElementaryStream.code.encodeAll streams) :
    ∃ self : ProgramMap, self.toSection = long ∧ self.fields = fields ∧ self.streams = streams := by
  obtain ⟨tableId, header, body, hfits⟩ := long
  subst htable hbody
  have hcount : fields.encode.length + (ElementaryStream.code.encodeAll streams).length + 9 < 2 ^ 12 := by
    rw [List.length_append] at hfits
    exact hfits
  exact ⟨⟨header, fields, streams, hcount⟩, rfl, rfl, rfl⟩

end ProgramMap

/-! ### Accepted sections -/

/-- The section consists of the long header, the fields of the program, the streams and the CRC, and
encoding them gives its bytes. -/
def WellFormedPMT (data : List UInt8) (pmt : PMT) : Prop :=
  pmt.header.sectionSyntaxIndicator = true ∧
    12 + pmt.programInfoLength.toNat +
        (pmt.streams.map (fun stream => 5 + stream.esInfoLength.toNat)).sum + 4 =
      3 + pmt.header.sectionLength.toNat ∧
    ∃ self : ProgramMap, self.parsed = pmt ∧
      self.encode = data.take (3 + pmt.header.sectionLength.toNat)

/-- The length of the program descriptors, where the long form of the header puts it. -/
def infoLengthField (data : List UInt8) : Nat := (fieldOf 0x0F (data.getD 10 0) (data.getD 11 0)).toNat

/-- The number of bytes behind the last whole stream record, once `skip` bytes are passed over. -/
def strayBytes : Nat → List UInt8 → Nat
  | skip + 1, _ :: rest => strayBytes skip rest
  | 0, _ :: _ :: _ :: byte3 :: byte4 :: rest => strayBytes (fieldOf 0x0F byte3 byte4).toNat rest
  | 0, left => left.length
  | _ + 1, [] => 0

/-- The bytes between the program descriptors and the CRC, as the length fields announce them. -/
def streamArea (data : List UInt8) : List UInt8 :=
  (data.take (lengthField data - 1)).drop (12 + infoLengthField data)

lemma strayBytes_append (front back : List UInt8) :
    strayBytes front.length (front ++ back) = strayBytes 0 back := by
  induction front with
  | nil => rfl
  | cons byte front ih => exact ih

lemma strayBytes_encodeAll (records : List ElementaryStream) (left : List UInt8) :
    strayBytes 0 (ElementaryStream.code.encodeAll records ++ left) = strayBytes 0 left := by
  induction records with
  | nil => rfl
  | cons record records ih =>
    obtain ⟨byte1, byte2, byte3, byte4, hbytes, _, hinfo⟩ := record.exists_bytes
    have hcode : ElementaryStream.code.encode record =
        record.streamType :: byte1 :: byte2 :: byte3 :: byte4 :: record.descriptors := hbytes
    rw [RecordCode.encodeAll_cons, hcode, List.append_assoc]
    have hrecord := strayBytes_append record.descriptors
      (ElementaryStream.code.encodeAll records ++ left)
    rw [← record.toNat_esInfoLength, ← hinfo, ih] at hrecord
    exact hrecord

lemma strayBytes_short {left : List UInt8} (h : left.length < 5) : strayBytes 0 left = left.length := by
  match left, h with
  | [], _ | [_], _ | [_, _], _ | [_, _, _], _ | [_, _, _, _], _ => rfl
  | _ :: _ :: _ :: _ :: _ :: rest, h =>
    simp only [List.length_cons] at h
    omega

lemma exists_body {self : LongSection} {rest : List UInt8}
    (h : 13 + infoLengthField (self.encode ++ rest) ≤ self.body.length + 9) :
    ∃ (fields : ProgramFields) (area : List UInt8), self.body = fields.encode ++ area ∧
      fields.descriptors.length = infoLengthField (self.encode ++ rest) ∧
      streamArea (self.encode ++ rest) = area := by
  have hlength : lengthField (self.encode ++ rest) = self.body.length + 9 := by
    obtain ⟨_, hfield, _⟩ := parseSectionHeader_fields (by simp [self.length_encode]; omega)
      (self.parseSectionHeader_encode {} rest)
    rw [← hfield, self.toNat_sectionLength]
  have hdrop := self.drop_encode rest
  have hbytes : ∃ byte0 byte1 byte2 byte3 tail,
      self.body = byte0 :: byte1 :: byte2 :: byte3 :: tail := by
    match hbody : self.body with
    | byte0 :: byte1 :: byte2 :: byte3 :: tail => exact ⟨byte0, byte1, byte2, byte3, tail, rfl⟩
    | [] | [_] | [_, _] | [_, _, _] =>
      rw [hbody] at h
      simp only [List.length_cons, List.length_nil] at h
      omega
  obtain ⟨byte0, byte1, byte2, byte3, tail, hbody⟩ := hbytes
  have hinfo : infoLengthField (self.encode ++ rest) = (fieldOf 0x0F byte2 byte3).toNat := by
    rw [hbody] at hdrop
    unfold infoLengthField
    rw [List.getD_eq_getElem?_getD, List.getD_eq_getElem?_getD, getElem?_of_drop hdrop 2,
      getElem?_of_drop hdrop 3]
    rfl
  rw [hinfo] at h ⊢
  have htake : (tail.take (fieldOf 0x0F byte2 byte3).toNat).length = (fieldOf 0x0F byte2 byte3).toNat := by
    rw [hbody] at h
    simp only [List.length_cons] at h
    rw [List.length_take]
    omega
  obtain ⟨fields, hfields, hdescriptors⟩ := ProgramFields.exists_encode byte0 byte1 byte2 byte3 htake
  refine ⟨fields, tail.drop (fieldOf 0x0F byte2 byte3).toNat, ?_, ?_, ?_⟩
  · rw [hbody, hfields]
    simp
  · rw [hdescriptors, htake]
  · have harea : (self.encode ++ rest).take (self.body.length + 8) = self.front := by
      unfold LongSection.encode
      rw [← self.length_front, List.append_assoc, List.take_left]
    unfold streamArea
    rw [hlength, hinfo, Nat.add_sub_assoc (by decide), harea]
    have hskip : self.front.drop 12 = tail := by
      unfold LongSection.front
      rw [hbody]
      rfl
    rw [← List.drop_drop, hskip]

/-- An accepted section is well formed unless it has the short form of the header, has program
descriptors that reach into its CRC or ends in a part of a stream record. -/
theorem wellFormedPMT_iff {data : List UInt8} {pmt : PMT} (h : parsePMT {} data = some (pmt, true)) :
    WellFormedPMT data pmt ↔ longForm data = true ∧ 13 + infoLengthField data ≤ lengthField data ∧
      strayBytes 0 (streamArea data) = 0 := by
  obtain ⟨size, ⟨hheader, _, htable, hfits, hcrc⟩, hlen, _, _, hinfo, _⟩ := parsePMT_accepted h
  obtain ⟨hlong, hlength, hsize⟩ := parseSectionHeader_fields (by omega) hheader
  unfold WellFormedPMT
  rw [hlong]
  by_cases hform : longForm data = true
  · have hinfoLength : pmt.programInfoLength.toNat = infoLengthField data := by
      rw [hsize, if_pos hform] at hinfo
      rw [readField16_getD hinfo]
      rfl
    rw [hinfoLength]
    by_cases hroom : 13 + infoLengthField data ≤ lengthField data
    · obtain ⟨self, rest, rfl, _, hparsed⟩ := LongSection.exists_encode hheader
        (hlong.trans hform) (by omega) hfits hcrc
      have htableId : self.tableId = tableIdPmt := by
        rw [hparsed] at htable
        exact htable
      rw [← hlength, hparsed, self.toNat_sectionLength] at hroom ⊢
      obtain ⟨fields, area, hbody, hdescriptors, harea⟩ := exists_body hroom
      obtain ⟨records, left, rfl, hstuck⟩ := ElementaryStream.code.exists_records area
      have hcount : self.body.length = 4 + fields.descriptors.length +
          (ElementaryStream.code.encodeAll records).length + left.length := by
        rw [hbody, List.length_append, List.length_append, fields.length_encode]
        omega
      rw [PSIParser.parsePMT_section htableId hbody hstuck] at h
      simp only [Option.some.injEq, Prod.mk.injEq, decide_eq_true_eq] at h
      obtain ⟨rfl, hshort⟩ := h
      rw [harea, strayBytes_encodeAll, strayBytes_short hshort, ← hdescriptors,
        ← ElementaryStream.length_encodeAll, hcount]
      constructor
      · rintro ⟨_, hsum, _⟩
        exact ⟨hform, by omega, by omega⟩
      · rintro ⟨_, _, hleft⟩
        obtain rfl : left = [] := List.eq_nil_of_length_eq_zero hleft
        rw [List.append_nil] at hbody
        obtain ⟨whole, rfl, rfl, rfl⟩ := ProgramMap.exists_toSection htableId hbody
        have hend : 3 + (4 + whole.fields.descriptors.length +
            (ElementaryStream.code.encodeAll whole.streams).length + ([] : List UInt8).length + 9) =
              whole.toSection.encode.length := by
          rw [whole.toSection.length_encode, hcount]
          omega
        refine ⟨hform, ?_, whole, rfl, ?_⟩
        · rw [List.length_nil]
          omega
        · rw [hend, List.take_left]
          rfl
    · constructor
      · rintro ⟨_, hsum, _⟩
        rw [hlength] at hsum
        omega
      · rintro ⟨_, hle, _⟩
        exact absurd hle hroom
  · constructor
    · rintro ⟨hindicator, _⟩
      exact absurd hindicator hform
    · rintro ⟨hindicator, _⟩
      exact absurd hindicator hform

/-- One H.264 stream. -/
theorem wellFormedPMT_sample :
    WellFormedPMT [0x02, 0xB0, 0x12, 0x00, 0x01, 0xC1, 0x00, 0x00, 0xE1, 0x00, 0xF0, 0x00, 0x1B, 0xE1,
      0x00, 0xF0, 0x00, 0x15, 0xBD, 0x4D, 0x56]
      { header :=
          { tableId := tableIdPmt
            sectionSyntaxIndicator := true
            sectionLength := 18
            tableIdExtension := 1
            currentNextIndicator := true }
        programNumber := 1
        pcrPid := 0x100
        streams := [{ streamType := ⟨0x1B⟩, elementaryPid := 0x100 }]
        crc32 := 0x15BD4D56 } :=
  (wellFormedPMT_iff (by decide +kernel)).mpr (by decide)

/-- Accepted although the header has the short form, although the program descriptors are the CRC,
and although two bytes are left in front of the CRC. -/
theorem malformed_pmt_accepted :
    (∃ pmt, parsePMT {} [0x02, 0x30, 0x09, 0xE1, 0x00, 0xF0, 0x00, 0xAA, 0x11, 0x08, 0xB8, 0x5E] =
        some (pmt, true) ∧
      ¬WellFormedPMT [0x02, 0x30, 0x09, 0xE1, 0x00, 0xF0, 0x00, 0xAA, 0x11, 0x08, 0xB8, 0x5E] pmt) ∧
    (∃ pmt, parsePMT {} [0x02, 0xB0, 0x0D, 0x00, 0x01, 0xC1, 0x00, 0x00, 0xE1, 0x00, 0xF0, 0x04, 0x76,
        0xF1, 0x69, 0xEB] = some (pmt, true) ∧
      ¬WellFormedPMT [0x02, 0xB0, 0x0D, 0x00, 0x01, 0xC1, 0x00, 0x00, 0xE1, 0x00, 0xF0, 0x04, 0x76,
        0xF1, 0x69, 0xEB] pmt) ∧
    ∃ pmt, parsePMT {} [0x02, 0xB0, 0x0F, 0x00, 0x01, 0xC1, 0x00, 0x00, 0xE1, 0x00, 0xF0, 0x00, 0xAA,
        0xBB, 0x66, 0x9F, 0x9F, 0x8D] = some (pmt, true) ∧
      ¬WellFormedPMT [0x02, 0xB0, 0x0F, 0x00, 0x01, 0xC1, 0x00, 0x00, 0xE1, 0x00, 0xF0, 0x00, 0xAA,
        0xBB, 0x66, 0x9F, 0x9F, 0x8D] pmt := by
  refine ⟨⟨{
    header := { tableId := tableIdPmt, sectionLength := 9 }
    pcrPid := 0x100
    crc32 := 0x1108B85E }, by decide +kernel, ?_⟩, ⟨{
    header := ⟨tableIdPmt, true, 13, 1, 0, true, 0, 0⟩
    programNumber := 1
    pcrPid := 0x100
    programInfoLength := 4
    programDescriptors := [0x76, 0xF1, 0x69, 0xEB]
    crc32 := 0x76F169EB }, by decide +kernel, ?_⟩, ⟨{
    header := ⟨tableIdPmt, true, 15, 1, 0, true, 0, 0⟩
    programNumber := 1
    pcrPid := 0x100
    crc32 := 0x669F9F8D }, by decide +kernel, ?_⟩⟩
  · rintro ⟨hindicator, _⟩
    cases hindicator
  · rintro ⟨_, hsum, _⟩
    revert hsum
    decide
  · rintro ⟨_, hsum, _⟩
    revert hsum
    decide

end MinimalMpegTS
