import MinimalMpegTS.Proofs.ParserBounds

/-!
# Table objects used again

A parser appends programs and streams to those that the object holds, and leaves the fields alone
that a section with the short form of the header, or without program descriptors, says nothing
about. What it makes of an object is what it makes of a fresh one, over what was there before.
-/

namespace MinimalMpegTS

namespace PSIParser

/-! ### The header -/

/-- The header object holds nothing that a header of this form does not overwrite. -/
def HeaderUnused (header : PSISectionHeader) (data : List UInt8) : Prop :=
  longForm data = true ∨ longFields header = {}

namespace FreshHeader

variable {data : List UInt8} {fresh : PSISectionHeader} {size : Nat}

lemma headerOver_eq_iff (h : FreshHeader data fresh size) (used : PSISectionHeader) :
    headerOver used fresh = fresh ↔ HeaderUnused used data := by
  have hform := h.form
  have hshort := h.short
  unfold HeaderUnused headerOver
  cases hlong : longForm data with
  | true =>
    rw [hlong] at hform
    simp [hform]
  | false =>
    obtain ⟨tableId, indicator, length, extension, version, current, number, last⟩ := fresh
    rw [hlong] at hform hshort
    unfold longFields at hshort ⊢
    simp only [PSISectionHeader.mk.injEq, true_and, forall_const] at hshort hform ⊢
    obtain ⟨rfl, rfl, rfl, rfl, rfl⟩ := hshort
    subst hform
    simp

lemma headerOver_fresh (h : FreshHeader data fresh size) : headerOver {} fresh = fresh :=
  (h.headerOver_eq_iff {}).mpr (.inr rfl)

end FreshHeader

namespace AcceptedSection

variable {tableId : UInt8} {used header : PSISectionHeader} {data : List UInt8} {size : Nat}

lemma end_le (h : AcceptedSection tableId used data header size) :
    sizeSub (3 + header.sectionLength.toNat) 4 ≤ data.length := by
  have hsize := sizeSub_of_verifyCRC32 h.checksum
  have hfits := h.fits
  omega

lemma fresh (h : AcceptedSection tableId used data header size) (hlen : 8 ≤ data.length) :
    ∃ fresh, FreshHeader data fresh size ∧ header = headerOver used fresh ∧
      AcceptedSection tableId {} data fresh size := by
  obtain ⟨fresh, size', hheader⟩ := exists_freshHeader hlen
  have hparse := h.parse
  rw [hheader.parse] at hparse
  obtain ⟨rfl, rfl⟩ := Prod.mk.inj (Option.some.inj hparse)
  have htable := h.tableId
  have hfits := h.fits
  have hchecksum := h.checksum
  rw [tableId_headerOver] at htable
  rw [sectionLength_headerOver] at hfits hchecksum
  exact ⟨fresh, hheader, rfl, by rw [hheader.parse, hheader.headerOver_fresh], h.headerSize, htable,
    hfits, hchecksum⟩

end AcceptedSection

/-! ### PAT -/

/-- A freshly parsed PAT over the one that was there before. -/
def patOver (used fresh : PAT) : PAT where
  header := headerOver used.header fresh.header
  transportStreamId := (headerOver used.header fresh.header).tableIdExtension
  programs := used.programs ++ fresh.programs
  crc32 := fresh.crc32

lemma exists_fresh_pat {pat found : PAT} {data : List UInt8}
    (h : parsePAT pat data = some (found, true)) : ∃ fresh size,
      parsePAT {} data = some (fresh, true) ∧ found = patOver pat fresh ∧
        FreshHeader data fresh.header size ∧
        fresh.transportStreamId = fresh.header.tableIdExtension := by
  obtain ⟨size, haccepted⟩ := parsePAT_accepted h
  obtain ⟨header, hheader, hover, hsection⟩ := haccepted.toAcceptedSection.fresh haccepted.length
  have hstream := haccepted.transportStreamId
  have hprograms := haccepted.programs
  have hcrc := haccepted.crc32
  rw [hover] at hstream
  rw [hover, sectionLength_headerOver] at hprograms hcrc
  obtain ⟨added, hadded⟩ := exists_parsePrograms hsection.end_le
    (sizeSub (3 + header.sectionLength.toNat) 4) size
  rw [hadded] at hprograms
  obtain ⟨foundHeader, transportStreamId, programs, crc32⟩ := found
  obtain rfl : foundHeader = headerOver pat.header header := hover
  obtain rfl := Option.some.inj hprograms
  obtain rfl : transportStreamId = _ := hstream
  have haccept : AcceptedPAT {} data ⟨header, header.tableIdExtension, added, crc32⟩ size :=
    ⟨hsection, haccepted.length, rfl, hadded [], hcrc⟩
  exact ⟨_, size, haccept.parsePAT_eq, rfl, hheader, rfl⟩

/-- The object holds no program, and nothing that the header of the section does not overwrite. -/
def PATUnused (pat : PAT) (data : List UInt8) : Prop :=
  pat.programs = [] ∧ HeaderUnused pat.header data

lemma reused_pat_iff {pat found : PAT} {data : List UInt8}
    (h : parsePAT pat data = some (found, true)) :
    parsePAT {} data = some (found, true) ↔ PATUnused pat data := by
  obtain ⟨fresh, size, hparse, rfl, hheader, hstream⟩ := exists_fresh_pat h
  unfold PATUnused
  rw [hparse, ← hheader.headerOver_eq_iff]
  constructor
  · intro heq
    have hsame : fresh = patOver pat fresh := (Prod.mk.inj (Option.some.inj heq)).1
    exact ⟨List.append_left_eq_self.mp (congrArg PAT.programs hsame).symm,
      (congrArg PAT.header hsame).symm⟩
  · rintro ⟨hprograms, hsame⟩
    congr 2
    unfold patOver
    rw [hprograms, hsame, List.nil_append, ← hstream]

/-! ### PMT -/

/-- A freshly parsed PMT over the one that was there before. -/
def pmtOver (used fresh : PMT) : PMT where
  header := headerOver used.header fresh.header
  programNumber := (headerOver used.header fresh.header).tableIdExtension
  pcrPid := fresh.pcrPid
  programInfoLength := fresh.programInfoLength
  programDescriptors :=
    if fresh.programInfoLength = 0 then used.programDescriptors else fresh.programDescriptors
  streams := used.streams ++ fresh.streams
  crc32 := fresh.crc32

/-- The length field of the program descriptors, behind the header and the PID of the clock. -/
def announcedInfoLength (data : List UInt8) : UInt16 :=
  if longForm data then fieldOf 0x0F (data.getD 10 0) (data.getD 11 0)
  else fieldOf 0x0F (data.getD 5 0) (data.getD 6 0)

lemma exists_fresh_pmt {pmt found : PMT} {data : List UInt8}
    (h : parsePMT pmt data = some (found, true)) : ∃ fresh size,
      parsePMT {} data = some (fresh, true) ∧ found = pmtOver pmt fresh ∧
        FreshHeader data fresh.header size ∧ fresh.programNumber = fresh.header.tableIdExtension ∧
        fresh.programInfoLength = announcedInfoLength data ∧
        (fresh.programInfoLength = 0 → fresh.programDescriptors = []) := by
  obtain ⟨size, haccepted⟩ := parsePMT_accepted h
  obtain ⟨header, hheader, hover, hsection⟩ :=
    haccepted.toAcceptedSection.fresh (Nat.le_trans (by decide) haccepted.length)
  obtain ⟨descriptors, hread, hdescriptors⟩ := haccepted.descriptors
  have hnumber := haccepted.programNumber
  have hstreams := haccepted.streams
  have hcrc := haccepted.crc32
  rw [hover] at hnumber
  rw [hover, sectionLength_headerOver] at hstreams hcrc
  obtain ⟨added, ok, hadded, -⟩ := exists_parseStreams hsection.end_le
    (sizeSub (3 + header.sectionLength.toNat) 4) (size + 4 + found.programInfoLength.toNat)
  rw [hadded] at hstreams
  obtain ⟨hsum, rfl⟩ := Prod.mk.inj (Option.some.inj hstreams)
  have hinfo : found.programInfoLength = announcedInfoLength data := by
    rw [readField16_getD haccepted.programInfoLength, hheader.headerSize]
    unfold announcedInfoLength
    split <;> rfl
  obtain ⟨foundHeader, programNumber, pcrPid, infoLength, programDescriptors, streams, crc32⟩ := found
  obtain rfl : foundHeader = headerOver pmt.header header := hover
  obtain rfl : programNumber = _ := hnumber
  obtain rfl : programDescriptors =
    if infoLength = 0 then pmt.programDescriptors else descriptors := hdescriptors
  obtain rfl : pmt.streams ++ added = streams := hsum
  have haccept : AcceptedPMT {} data ⟨header, header.tableIdExtension, pcrPid, infoLength,
      if infoLength = 0 then [] else descriptors, added, crc32⟩ size :=
    ⟨hsection, haccepted.length, rfl, haccepted.pcrPid, haccepted.programInfoLength,
      ⟨descriptors, hread, rfl⟩, hadded [], hcrc⟩
  refine ⟨_, size, haccept.parsePMT_eq, ?_, hheader, rfl, hinfo, fun hzero => if_pos hzero⟩
  unfold pmtOver
  dsimp only
  split <;> rfl

/-- The object holds no stream, no program descriptors that the section does not overwrite, and
nothing that its header does not overwrite. -/
def PMTUnused (pmt : PMT) (data : List UInt8) : Prop :=
  pmt.streams = [] ∧ (announcedInfoLength data ≠ 0 ∨ pmt.programDescriptors = []) ∧
    HeaderUnused pmt.header data

lemma reused_pmt_iff {pmt found : PMT} {data : List UInt8}
    (h : parsePMT pmt data = some (found, true)) :
    parsePMT {} data = some (found, true) ↔ PMTUnused pmt data := by
  obtain ⟨fresh, size, hparse, rfl, hheader, hnumber, hinfo, hempty⟩ := exists_fresh_pmt h
  unfold PMTUnused
  rw [hparse, ← hheader.headerOver_eq_iff, ← hinfo]
  constructor
  · intro heq
    have hsame : fresh = pmtOver pmt fresh := (Prod.mk.inj (Option.some.inj heq)).1
    refine ⟨List.append_left_eq_self.mp (congrArg PMT.streams hsame).symm, ?_,
      (congrArg PMT.header hsame).symm⟩
    by_cases hzero : fresh.programInfoLength = 0
    · have hdescriptors : fresh.programDescriptors =
          if fresh.programInfoLength = 0 then pmt.programDescriptors else fresh.programDescriptors :=
        congrArg PMT.programDescriptors hsame
      rw [if_pos hzero, hempty hzero] at hdescriptors
      exact .inr hdescriptors.symm
    · exact .inl hzero
  · rintro ⟨hstreams, hdescriptors, hsame⟩
    have hkept : (if fresh.programInfoLength = 0 then pmt.programDescriptors
        else fresh.programDescriptors) = fresh.programDescriptors := by
      split
      · next hzero =>
        rcases hdescriptors with hne | hnone
        · exact absurd hzero hne
        · rw [hnone, hempty hzero]
      · rfl
    congr 2
    unfold pmtOver
    rw [hstreams, hsame, List.nil_append, ← hnumber, hkept]

/-- A table object used again is filled like a fresh one exactly if it holds nothing that the section
does not overwrite. -/
theorem reused_tables_iff (data : List UInt8) :
    (∀ pat found, parsePAT pat data = some (found, true) →
      (parsePAT {} data = some (found, true) ↔ PATUnused pat data)) ∧
    ∀ pmt found, parsePMT pmt data = some (found, true) →
      (parsePMT {} data = some (found, true) ↔ PMTUnused pmt data) :=
  ⟨fun _ _ h => reused_pat_iff h, fun _ _ h => reused_pmt_iff h⟩

/-- A section in an object with the CRC of another one. -/
theorem reused_tables_overwritten :
    parsePAT {} [0x00, 0xB0, 0x0D, 0x00, 0x01, 0xC1, 0x00, 0x00, 0x00, 0x01, 0xF0, 0x00, 0x2A, 0xB1,
        0x04, 0xB2] =
      some (⟨⟨0, true, 13, 1, 0, true, 0, 0⟩, 1, [⟨1, 0x1000⟩], 0x2AB104B2⟩, true) ∧
    parsePMT {} [0x02, 0x30, 0x09, 0xE1, 0x00, 0xF0, 0x00, 0xAA, 0x11, 0x08, 0xB8, 0x5E] =
      some ({ header := ⟨2, false, 9, 0, 0, false, 0, 0⟩, pcrPid := 0x100, crc32 := 0x1108B85E }, true) := by
  constructor
  · apply ((reused_tables_iff _).1 { crc32 := 5 } _ (by decide +kernel)).mpr
    unfold PATUnused HeaderUnused
    decide
  · apply ((reused_tables_iff _).2 { crc32 := 5 } _ (by decide +kernel)).mpr
    unfold PMTUnused HeaderUnused
    decide

/-- The same PAT twice in one object lists its program twice, and program descriptors stay in the
object when the next PMT has none. -/
theorem reused_tables_stale :
    (∃ first second, parsePAT {} [0x00, 0xB0, 0x0D, 0x00, 0x01, 0xC1, 0x00, 0x00, 0x00, 0x01, 0xF0, 0x00,
        0x2A, 0xB1, 0x04, 0xB2] = some (first, true) ∧
      parsePAT first [0x00, 0xB0, 0x0D, 0x00, 0x01, 0xC1, 0x00, 0x00, 0x00, 0x01, 0xF0, 0x00, 0x2A, 0xB1,
        0x04, 0xB2] = some (second, true) ∧
      first.programs = [⟨1, 0x1000⟩] ∧ second.programs = [⟨1, 0x1000⟩, ⟨1, 0x1000⟩]) ∧
    ∃ first second fresh, parsePMT {} [0x02, 0xB0, 0x0D, 0x00, 0x01, 0xC1, 0x00, 0x00, 0xE1, 0x00, 0xF0,
        0x04, 0x76, 0xF1, 0x69, 0xEB] = some (first, true) ∧
      parsePMT first [0x02, 0x30, 0x09, 0xE1, 0x00, 0xF0, 0x00, 0xAA, 0x11, 0x08, 0xB8, 0x5E] =
        some (second, true) ∧
      parsePMT {} [0x02, 0x30, 0x09, 0xE1, 0x00, 0xF0, 0x00, 0xAA, 0x11, 0x08, 0xB8, 0x5E] =
        some (fresh, true) ∧
      second.programDescriptors = [0x76, 0xF1, 0x69, 0xEB] ∧ fresh.programDescriptors = [] ∧
      second.programNumber = 1 ∧ fresh.programNumber = 0 := by
  refine ⟨⟨⟨⟨0, true, 13, 1, 0, true, 0, 0⟩, 1, [⟨1, 0x1000⟩], 0x2AB104B2⟩,
    ⟨⟨0, true, 13, 1, 0, true, 0, 0⟩, 1, [⟨1, 0x1000⟩, ⟨1, 0x1000⟩], 0x2AB104B2⟩, by decide +kernel,
    by decide +kernel, rfl, rfl⟩, ?_⟩
  exact ⟨⟨⟨2, true, 13, 1, 0, true, 0, 0⟩, 1, 0x100, 4, [0x76, 0xF1, 0x69, 0xEB], [], 0x76F169EB⟩,
    ⟨⟨2, false, 9, 1, 0, true, 0, 0⟩, 1, 0x100, 0, [0x76, 0xF1, 0x69, 0xEB], [], 0x1108B85E⟩,
    ⟨⟨2, false, 9, 0, 0, false, 0, 0⟩, 0, 0x100, 0, [], [], 0x1108B85E⟩, by decide +kernel,
    by decide +kernel, by decide +kernel, rfl, rfl, rfl, rfl⟩

end PSIParser

end MinimalMpegTS
