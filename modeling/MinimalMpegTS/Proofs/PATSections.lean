import MinimalMpegTS.Lib.Records
import MinimalMpegTS.Proofs.SectionSyntax

/-!
# PAT sections

Encoding a PAT and parsing it gives the PAT back. The parser also accepts sections that encode no
PAT: it takes the short form of the header, sections that end before the long form does, and leaves
out the bytes behind the last whole entry. Those aside, what it accepts is the encoding of what it
returns.
-/

namespace MinimalMpegTS

open PSIParser

/-- An entry of the program list, with its reserved bits. -/
structure ProgramEntry where
  programNumber : BitVec 16
  reserved : BitVec 3
  pid : BitVec 13
  deriving DecidableEq

namespace ProgramEntry

def encode (self : ProgramEntry) : List UInt8 :=
  halfword self.programNumber ++ halfword (self.reserved ++ self.pid)

/-- What the parser makes of the entry. -/
def parsed (self : ProgramEntry) : PATEntry :=
  ⟨UInt16.ofNat self.programNumber.toNat, UInt16.ofNat self.pid.toNat⟩

def code : RecordCode ProgramEntry UInt8 := ⟨encode, fun _ => by simp [encode, halfword]⟩

lemma length_encode (self : ProgramEntry) : self.encode.length = 4 := rfl

lemma length_encodeAll (entries : List ProgramEntry) :
    (code.encodeAll entries).length = 4 * entries.length := by
  induction entries with
  | nil => rfl
  | cons entry entries ih =>
    have hentry : (code.encode entry).length = 4 := rfl
    rw [RecordCode.encodeAll_cons, List.length_append, ih, hentry, List.length_cons]
    omega

lemma exists_encode (byte0 byte1 byte2 byte3 : UInt8) :
    ∃ self : ProgramEntry, self.encode = [byte0, byte1, byte2, byte3] := by
  obtain ⟨number, hnumber⟩ := exists_halfword byte0 byte1
  obtain ⟨x, hx⟩ := exists_halfword byte2 byte3
  obtain ⟨reserved, pid, rfl⟩ := exists_append (j := 3) (k := 13) x
  refine ⟨⟨number, reserved, pid⟩, ?_⟩
  unfold encode
  rw [hnumber, hx]
  rfl

lemma length_lt_of_stuck {left : List UInt8} (h : code.Stuck left) : left.length < 4 := by
  by_contra hlen
  match left, hlen with
  | byte0 :: byte1 :: byte2 :: byte3 :: rest, _ =>
    obtain ⟨self, hself⟩ := exists_encode byte0 byte1 byte2 byte3
    apply h self rest
    show _ = self.encode ++ rest
    rw [hself]
    rfl
  | [], hlen | [_], hlen | [_, _], hlen | [_, _, _], hlen => simp at hlen

lemma exists_bytes (self : ProgramEntry) : ∃ byte0 byte1 byte2 byte3,
    self.encode = [byte0, byte1, byte2, byte3] ∧
      self.parsed = ⟨fieldOf 0xFF byte0 byte1, fieldOf 0x1F byte2 byte3⟩ := by
  refine ⟨_, _, _, _, rfl, ?_⟩
  rw [fieldOf_halfword (k := 8) rfl (by decide), fieldOf_halfword (k := 5) rfl (by decide),
    Nat.mod_eq_of_lt self.programNumber.isLt, toNat_append, Nat.mul_add_mod',
    Nat.mod_eq_of_lt self.pid.isLt]
  rfl

end ProgramEntry

namespace PSIParser

lemma parsePrograms_short {entriesEnd offset : Nat} (h : entriesEnd < offset + 4) (data : List UInt8)
    (fuel : Nat) (programs : List PATEntry) :
    parsePrograms data entriesEnd fuel offset programs = some programs := by
  cases fuel with
  | zero => rfl
  | succ fuel =>
    rw [parsePrograms, if_neg (by omega)]

lemma parsePrograms_entry (entry : ProgramEntry) {data back : List UInt8} {entriesEnd offset : Nat}
    (hdrop : data.drop offset = entry.encode ++ back) (hend : offset + 4 ≤ entriesEnd) (fuel : Nat)
    (programs : List PATEntry) :
    parsePrograms data entriesEnd (fuel + 1) offset programs =
      parsePrograms data entriesEnd fuel (offset + 4) (programs ++ [entry.parsed]) := by
  obtain ⟨byte0, byte1, byte2, byte3, hentry, hparsed⟩ := entry.exists_bytes
  rw [hentry] at hdrop
  have hpid : data.drop (offset + 2) = byte2 :: byte3 :: back := by
    rw [← List.drop_drop, hdrop]
    rfl
  rw [parsePrograms, if_pos hend, readField16_of_drop hdrop, readField16_of_drop hpid, hparsed]
  rfl

/-- The loop reads the entries up to the last whole one. -/
theorem parsePrograms_encodeAll {entries : List ProgramEntry} {data left back : List UInt8}
    {entriesEnd offset fuel : Nat}
    (hdrop : data.drop offset = ProgramEntry.code.encodeAll entries ++ left ++ back)
    (hend : entriesEnd = offset + 4 * entries.length + left.length) (hleft : left.length < 4)
    (hfuel : entries.length ≤ fuel) (programs : List PATEntry) :
    parsePrograms data entriesEnd fuel offset programs =
      some (programs ++ entries.map ProgramEntry.parsed) := by
  induction entries generalizing fuel offset programs with
  | nil =>
    rw [List.length_nil] at hend
    rw [parsePrograms_short (by omega), List.map_nil, List.append_nil]
  | cons entry entries ih =>
    rw [List.length_cons] at hend
    rw [RecordCode.encodeAll_cons, List.append_assoc, List.append_assoc] at hdrop
    cases fuel with
    | zero => cases hfuel
    | succ fuel =>
      have hnext : data.drop (offset + 4) = ProgramEntry.code.encodeAll entries ++ left ++ back := by
        rw [← List.drop_drop, hdrop, List.append_assoc]
        rfl
      rw [parsePrograms_entry entry hdrop (by omega),
        ih hnext (by omega) (Nat.le_of_succ_le_succ hfuel), List.map_cons, List.append_assoc,
        List.singleton_append]

/-- What an accepted section has passed, and what is made of it. -/
structure AcceptedPAT (pat : PAT) (data : List UInt8) (pat' : PAT) (size : Nat) : Prop extends
    AcceptedSection tableIdPat pat.header data pat'.header size where
  length : 8 ≤ data.length
  transportStreamId : pat'.transportStreamId = pat'.header.tableIdExtension
  programs : parsePrograms data (sizeSub (3 + pat'.header.sectionLength.toNat) 4)
    (sizeSub (3 + pat'.header.sectionLength.toNat) 4) size pat.programs = some pat'.programs
  crc32 : readWord32 data (sizeSub (3 + pat'.header.sectionLength.toNat) 4) = some pat'.crc32

lemma parsePAT_accepted {pat pat' : PAT} {data : List UInt8}
    (h : parsePAT pat data = some (pat', true)) : ∃ size, AcceptedPAT pat data pat' size := by
  unfold parsePAT at h
  split at h
  · cases h
  next hlen =>
  obtain ⟨⟨header, size⟩, hheader, h⟩ := Option.bind_eq_some_iff.mp h
  dsimp only at h
  split at h
  · cases h
  next hsize =>
  split at h
  · cases h
  next htable =>
  split at h
  · cases h
  next hfits =>
  obtain ⟨ok, hcrc, h⟩ := Option.bind_eq_some_iff.mp h
  split at h
  · cases h
  next hok =>
  obtain ⟨programs, hprograms, h⟩ := Option.bind_eq_some_iff.mp h
  obtain ⟨crc, hword, h⟩ := Option.bind_eq_some_iff.mp h
  cases h
  obtain rfl : ok = true := by simpa using hok
  have hsection : AcceptedSection tableIdPat pat.header data header size :=
    ⟨hheader, hsize, by simpa using htable, Nat.le_of_not_lt hfits, hcrc⟩
  exact ⟨size, hsection, by omega, rfl, hprograms, hword⟩

lemma AcceptedPAT.parsePAT_eq {pat pat' : PAT} {data : List UInt8} {size : Nat}
    (h : AcceptedPAT pat data pat' size) : parsePAT pat data = some (pat', true) := by
  obtain ⟨header, transportStreamId, programs, crc32⟩ := pat'
  obtain rfl : transportStreamId = header.tableIdExtension := h.transportStreamId
  unfold parsePAT
  simp only [Option.bind_eq_bind]
  rw [if_neg (Nat.not_lt.mpr h.length), h.parse, Option.bind_some]
  dsimp only
  rw [if_neg h.headerSize, if_neg (not_not_intro h.tableId), if_neg (Nat.not_lt.mpr h.fits),
    h.checksum, Option.bind_some, if_neg (by decide), h.programs, Option.bind_some, h.crc32]
  rfl

/-- What is made of a section with the long form of the header. -/
theorem parsePAT_section {self : LongSection} (htable : self.tableId = tableIdPat)
    {entries : List ProgramEntry} {left : List UInt8}
    (hbody : self.body = ProgramEntry.code.encodeAll entries ++ left) (hleft : left.length < 4)
    (pat : PAT) (rest : List UInt8) :
    parsePAT pat (self.encode ++ rest) = some ({
      header := self.parsedHeader
      transportStreamId := UInt16.ofNat self.header.tableIdExtension.toNat
      programs := pat.programs ++ entries.map ProgramEntry.parsed
      crc32 := calculateCRC32 self.front }, true) := by
  have hlen : (self.encode ++ rest).length = self.body.length + 12 + rest.length := by
    rw [List.length_append, self.length_encode]
  have hcount : self.body.length = 4 * entries.length + left.length := by
    rw [hbody, List.length_append, ProgramEntry.length_encodeAll]
  have hentries : entries.length ≤ self.body.length + 8 := by omega
  have hdrop := self.drop_encode rest
  rw [hbody] at hdrop
  have hend : self.body.length + 8 = 8 + 4 * entries.length + left.length := by omega
  have hprograms := parsePrograms_encodeAll hdrop hend hleft hentries pat.programs
  have hsection : AcceptedSection tableIdPat pat.header (self.encode ++ rest) self.parsedHeader 8 := by
    constructor
    · exact self.parseSectionHeader_encode pat.header rest
    · decide
    · exact htable
    · rw [self.toNat_sectionLength]
      omega
    · rw [self.toNat_sectionLength]
      exact self.verifyCRC32_encode rest
  apply AcceptedPAT.parsePAT_eq
  refine ⟨hsection, by omega, rfl, ?_, ?_⟩
  · rw [self.toNat_sectionLength, self.sizeSub_total]
    exact hprograms
  · rw [self.toNat_sectionLength, self.sizeSub_total]
    exact self.readWord32_encode rest

end PSIParser

/-- The content of a PAT, with its reserved bits. The table id extension of the header is the
transport stream id. -/
structure ProgramAssociation where
  header : LongHeader
  entries : List ProgramEntry
  entries_le : entries.length ≤ 1021

namespace ProgramAssociation

def toSection (self : ProgramAssociation) : LongSection where
  tableId := tableIdPat
  header := self.header
  body := ProgramEntry.code.encodeAll self.entries
  fits := by
    have hle := self.entries_le
    rw [ProgramEntry.length_encodeAll]
    omega

def encode (self : ProgramAssociation) : List UInt8 := self.toSection.encode

/-- The PAT that the section stands for. -/
def parsed (self : ProgramAssociation) : PAT where
  header := self.toSection.parsedHeader
  transportStreamId := UInt16.ofNat self.header.tableIdExtension.toNat
  programs := self.entries.map ProgramEntry.parsed
  crc32 := PSIParser.calculateCRC32 self.toSection.front

lemma toNat_sectionLength (self : ProgramAssociation) :
    self.parsed.header.sectionLength.toNat = 9 + 4 * self.entries.length := by
  refine self.toSection.toNat_sectionLength.trans ?_
  show (ProgramEntry.code.encodeAll self.entries).length + 9 = _
  rw [ProgramEntry.length_encodeAll, Nat.add_comm]

lemma getPMTPID_parsed (self : ProgramAssociation) {number : UInt16} (h : number ≠ 0) :
    self.parsed.getPMTPID number =
      (self.entries.find? (fun entry => entry.programNumber == number.toBitVec)).elim 0
        (fun entry => UInt16.ofNat entry.pid.toNat) := by
  have hsame : ((fun entry : PATEntry => entry.programNumber == number && entry.programNumber != 0) ∘
      ProgramEntry.parsed) = (fun entry => entry.programNumber == number.toBitVec) := by
    funext entry
    have hnumber : UInt16.ofNat entry.programNumber.toNat = number ↔
        entry.programNumber = number.toBitVec := by
      rw [← UInt16.toBitVec_inj]
      simp
    show (UInt16.ofNat entry.programNumber.toNat == number &&
      UInt16.ofNat entry.programNumber.toNat != 0) = _
    by_cases heq : UInt16.ofNat entry.programNumber.toNat = number
    · rw [heq, beq_self_eq_true, hnumber.mp heq, beq_self_eq_true, bne_iff_ne.mpr h, Bool.and_self]
    · rw [beq_false_of_ne heq, Bool.false_and, beq_false_of_ne (mt hnumber.mpr heq)]
  unfold PAT.getPMTPID parsed
  rw [List.find?_map, hsame]
  cases self.entries.find? (fun entry => entry.programNumber == number.toBitVec) <;> rfl

/-- Parsing undoes encoding, and every program is found under its first entry. -/
theorem parsePAT_encode (self : ProgramAssociation) (rest : List UInt8) :
    parsePAT {} (self.encode ++ rest) = some (self.parsed, true) ∧
      self.parsed.header.sectionLength.toNat = 9 + 4 * self.entries.length ∧
      ∀ number ≠ 0, self.parsed.getPMTPID number =
        (self.entries.find? (fun entry => entry.programNumber == number.toBitVec)).elim 0
          (fun entry => UInt16.ofNat entry.pid.toNat) := by
  refine ⟨?_, self.toNat_sectionLength, fun _ h => self.getPMTPID_parsed h⟩
  have htable : self.toSection.tableId = tableIdPat := rfl
  have hbody : self.toSection.body = ProgramEntry.code.encodeAll self.entries ++ [] := by
    rw [List.append_nil]
    rfl
  exact PSIParser.parsePAT_section htable hbody (by decide) {} rest

lemma exists_toSection {long : LongSection} (htable : long.tableId = tableIdPat)
    {entries : List ProgramEntry} (hbody : long.body = ProgramEntry.code.encodeAll entries) :
    ∃ self : ProgramAssociation, self.toSection = long ∧ self.entries = entries := by
  obtain ⟨tableId, header, body, hfits⟩ := long
  subst htable hbody
  have hcount : entries.length ≤ 1021 := by
    rw [ProgramEntry.length_encodeAll] at hfits
    omega
  exact ⟨⟨header, entries, hcount⟩, rfl, rfl⟩

end ProgramAssociation

/-! ### Accepted sections -/

/-- The section consists of the long header, the entries and the CRC, and encoding them gives its
bytes. -/
def WellFormedPAT (data : List UInt8) (pat : PAT) : Prop :=
  pat.header.sectionSyntaxIndicator = true ∧
    pat.header.sectionLength.toNat = 9 + 4 * pat.programs.length ∧
    ∃ self : ProgramAssociation, self.parsed = pat ∧
      self.encode = data.take (3 + pat.header.sectionLength.toNat)

/-- An accepted section is well formed unless it has the short form of the header, is too short for
the long form or ends in a part of an entry. -/
theorem wellFormedPAT_iff {data : List UInt8} {pat : PAT} (h : parsePAT {} data = some (pat, true)) :
    WellFormedPAT data pat ↔ longForm data = true ∧ 9 ≤ lengthField data ∧ lengthField data % 4 = 1 := by
  obtain ⟨size, ⟨hheader, _, htable, hfits, hcrc⟩, hlen, _, hprograms, _⟩ := parsePAT_accepted h
  obtain ⟨hlong, hlength, hsize⟩ := parseSectionHeader_fields hlen hheader
  unfold WellFormedPAT
  rw [hlong, ← hlength]
  by_cases hform : longForm data = true
  · by_cases hshort : pat.header.sectionLength.toNat < 9
    · -- the loop starts behind its end
      have hend : sizeSub (3 + pat.header.sectionLength.toNat) 4 < size + 4 := by
        have hsub := sizeSub_of_verifyCRC32 hcrc
        rw [hsize, if_pos hform]
        omega
      rw [parsePrograms_short hend, Option.some.injEq] at hprograms
      have hnone : pat.programs.length = 0 := by
        rw [← hprograms]
        rfl
      constructor
      · rintro ⟨_, hcount, _⟩
        omega
      · rintro ⟨_, hle, _⟩
        omega
    · obtain ⟨self, rest, rfl, _, hparsed⟩ := LongSection.exists_encode hheader
        (hlong.trans hform) (by omega) hfits hcrc
      obtain ⟨entries, left, hbody, hstuck⟩ := ProgramEntry.code.exists_records self.body
      have hleft := ProgramEntry.length_lt_of_stuck hstuck
      have htableId : self.tableId = tableIdPat := by
        rw [hparsed] at htable
        exact htable
      have hcount : self.body.length = 4 * entries.length + left.length := by
        rw [hbody, List.length_append, ProgramEntry.length_encodeAll]
      rw [PSIParser.parsePAT_section htableId hbody hleft] at h
      cases h
      rw [LongSection.toNat_sectionLength, hcount]
      constructor
      · rintro ⟨_, hsum, _⟩
        rw [List.nil_append, List.length_map] at hsum
        exact ⟨hform, by omega, by omega⟩
      · rintro ⟨_, _, hmod⟩
        obtain rfl : left = [] := List.eq_nil_of_length_eq_zero (by omega)
        rw [List.append_nil] at hbody
        obtain ⟨whole, rfl, rfl⟩ := ProgramAssociation.exists_toSection htableId hbody
        have hend : 3 + (4 * whole.entries.length + ([] : List UInt8).length + 9) =
            whole.toSection.encode.length := by
          rw [whole.toSection.length_encode, hcount]
          omega
        refine ⟨hform, ?_, whole, rfl, ?_⟩
        · rw [List.nil_append, List.length_map]
          simp only [List.length_nil]
          omega
        · rw [hend, List.take_left]
          rfl
  · constructor
    · rintro ⟨hindicator, _⟩
      exact absurd hindicator hform
    · rintro ⟨hindicator, _⟩
      exact absurd hindicator hform

/-- Program 1 under the PMT PID 0x1000. -/
theorem wellFormedPAT_sample :
    WellFormedPAT [0x00, 0xB0, 0x0D, 0x00, 0x01, 0xC1, 0x00, 0x00, 0x00, 0x01, 0xF0, 0x00, 0x2A, 0xB1,
      0x04, 0xB2]
      { header :=
          { sectionSyntaxIndicator := true
            sectionLength := 13
            tableIdExtension := 1
            currentNextIndicator := true }
        transportStreamId := 1
        programs := [⟨1, 0x1000⟩]
        crc32 := 0x2AB104B2 } :=
  (wellFormedPAT_iff (by decide +kernel)).mpr (by decide)

/-- Accepted although the header has the short form, whose next bytes are read as an entry; and
although two bytes are left behind the long form of the header. -/
theorem malformed_pat_accepted :
    (∃ pat, parsePAT {} [0x00, 0x30, 0x08, 0x00, 0x01, 0xF0, 0x00, 0xEC, 0x0E, 0x38, 0xC8] =
        some (pat, true) ∧
      ¬WellFormedPAT [0x00, 0x30, 0x08, 0x00, 0x01, 0xF0, 0x00, 0xEC, 0x0E, 0x38, 0xC8] pat) ∧
    ∃ pat, parsePAT {} [0x00, 0xB0, 0x0B, 0x00, 0x01, 0xC1, 0x00, 0x00, 0xAA, 0xBB, 0x04, 0xFB, 0xFE,
        0x3C] = some (pat, true) ∧
      ¬WellFormedPAT [0x00, 0xB0, 0x0B, 0x00, 0x01, 0xC1, 0x00, 0x00, 0xAA, 0xBB, 0x04, 0xFB, 0xFE,
        0x3C] pat := by
  constructor
  · refine ⟨{ header := { sectionLength := 8 }, programs := [⟨1, 0x1000⟩], crc32 := 0xEC0E38C8 },
      by decide +kernel, ?_⟩
    rintro ⟨hindicator, _⟩
    cases hindicator
  · refine ⟨{
      header :=
        { sectionSyntaxIndicator := true
          sectionLength := 11
          tableIdExtension := 1
          currentNextIndicator := true }
      transportStreamId := 1
      crc32 := 0x04FBFE3C }, by decide +kernel, ?_⟩
    rintro ⟨_, hcount, _⟩
    revert hcount
    decide

end MinimalMpegTS
