import MinimalMpegTS.Proofs.ProgramListing
import MinimalMpegTS.Proofs.Services

/-!
# Queries on the tables

What the queries of a PAT and a PMT return agrees with what the demultiplexer does with the tables. It
has an accumulator for the PMT PID of every program and reads the packets of this PID as PMTs, unless
the PID is 0, which is read as that of the PAT. Once a PMT is parsed, the streams reported are those of
the PMTs.
-/

namespace MinimalMpegTS

/-! ### The queries -/

lemma PAT.mem_getProgramNumbers {pat : PAT} {number : UInt16} :
    number ∈ pat.getProgramNumbers ↔ number ≠ 0 ∧ ∃ entry ∈ pat.programs, entry.programNumber = number := by
  unfold getProgramNumbers
  rw [List.mem_filter, List.mem_map, bne_iff_ne, and_comm]

lemma PAT.announces_getPMTPID {pat : PAT} {number : UInt16} (h : number ∈ pat.getProgramNumbers) :
    pat.announces (pat.getPMTPID number) = true := by
  obtain ⟨hnumber, entry, hentry, rfl⟩ := mem_getProgramNumbers.mp h
  unfold getPMTPID
  cases hfind : pat.programs.find? (fun e =>
      e.programNumber == entry.programNumber && e.programNumber != 0) with
  | none =>
    have hnot := List.find?_eq_none.mp hfind entry hentry
    rw [beq_self_eq_true, Bool.true_and, bne_iff_ne] at hnot
    exact absurd hnumber hnot
  | some found =>
    have hfound := List.find?_some hfind
    rw [Bool.and_eq_true] at hfound
    exact List.any_eq_true.mpr ⟨found, List.mem_of_find?_eq_some hfind, by
      rw [hfound.2, Bool.true_and]
      exact beq_self_eq_true _⟩

lemma PAT.getPMTPID_eq_zero {pat : PAT} {number : UInt16} (h : number ∉ pat.getProgramNumbers) :
    pat.getPMTPID number = 0 := by
  unfold getPMTPID
  cases hfind : pat.programs.find? (fun e => e.programNumber == number && e.programNumber != 0) with
  | none => rfl
  | some found =>
    have hfound := List.find?_some hfind
    rw [Bool.and_eq_true, beq_iff_eq, bne_iff_ne] at hfound
    exact absurd (mem_getProgramNumbers.mpr ⟨hfound.1 ▸ hfound.2, found,
      List.mem_of_find?_eq_some hfind, hfound.1⟩) h

lemma PMT.queries_agree (pmt : PMT) (pid : UInt16) :
    (pid ∈ pmt.getAllPIDs ↔ (pmt.getStreamInfo pid).isSome = true) ∧
      (pid ∈ pmt.getAllPIDs ↔ ∃ type, pid ∈ pmt.getPIDsByType type) ∧
      ∀ info ∈ pmt.getStreamInfo pid, info.elementaryPid = pid ∧ pid ∈ pmt.getPIDsByType info.streamType := by
  have htyped : ∀ info ∈ pmt.streams, info.elementaryPid = pid →
      pid ∈ pmt.getPIDsByType info.streamType := by
    rintro info hinfo rfl
    exact List.mem_map_of_mem (List.mem_filter.mpr ⟨hinfo, decide_eq_true rfl⟩)
  refine ⟨?_, ?_, ?_⟩
  · unfold getAllPIDs getStreamInfo
    rw [List.find?_isSome, List.mem_map]
    simp only [beq_iff_eq]
  · unfold getAllPIDs
    rw [List.mem_map]
    constructor
    · rintro ⟨info, hinfo, hpid⟩
      exact ⟨info.streamType, htyped info hinfo hpid⟩
    · rintro ⟨type, htype⟩
      obtain ⟨info, hinfo, hpid⟩ := List.mem_map.mp htype
      exact ⟨info, (List.mem_filter.mp hinfo).1, hpid⟩
  · intro info hinfo
    have hpid : info.elementaryPid = pid := by simpa using List.find?_some hinfo
    exact ⟨hpid, htyped info (List.mem_of_find?_eq_some hinfo) hpid⟩

/-! ### The PMT PIDs -/

namespace PacketState

/-- The demultiplexer reads the PMT PIDs of the PAT that it has. -/
def ReadsPMTs (s : PacketState) : Prop :=
  ∀ pat, s.parsedPat = some pat → ∀ pid, pat.announces pid = true → pid ∈ s.pmtAccumulators

lemma ReadsPMTs.processPacket {s : PacketState} (h : ReadsPMTs s) (packet : TSPacket) :
    ReadsPMTs (s.processPacket packet) := by
  intro pat hpat pid hpid
  rw [parsedPat_processPacket] at hpat
  rw [← AList.lookup_isSome, (processPacket_readsTables s packet).pmtAccumulators]
  unfold PacketState.announces
  cases hcompleted : completedPAT s.patAccumulator packet with
  | some completed =>
    -- the accumulators of a new PAT are created with it
    rw [hcompleted] at hpat
    obtain rfl : completed = pat := Option.some.inj hpat
    rw [Option.any_some, if_pos hpid]
    rfl
  | none =>
    rw [hcompleted] at hpat
    have hmem := h pat hpat pid hpid
    rw [← AList.lookup_isSome] at hmem
    rw [Option.any_none, if_neg Bool.false_ne_true, Option.isSome_map]
    exact hmem

/-- The packets of the PID are collected, and a complete section that is a PMT becomes the one of its
program. -/
def ReadAsPMT (s : PacketState) (pid : UInt16) : Prop :=
  ∃ acc, s.pmtAccumulators.lookup pid = some acc ∧
    ∀ packet : TSPacket, packet.header.pid = pid → packet.hasPayload = true →
      (s.processPacket packet).pmtAccumulators.lookup pid = some (accumulate acc packet).1 ∧
        (s.processPacket packet).parsedPmts =
          ((accumulate acc packet).2.bind pmtOf).elim s.parsedPmts
            (fun pmt => s.parsedPmts.insert pmt.programNumber pmt)

lemma readAsPMT_of_mem {s : PacketState} {pid : UInt16} (hmem : pid ∈ s.pmtAccumulators)
    (hpid : pid ≠ pidPat) : s.ReadAsPMT pid := by
  rw [← AList.lookup_isSome, Option.isSome_iff_exists] at hmem
  obtain ⟨acc, hacc⟩ := hmem
  refine ⟨acc, hacc, ?_⟩
  rintro packet rfl hpayload
  have hpat : carriesPAT packet = false := by
    unfold carriesPAT
    rw [decide_eq_false hpid, Bool.false_and]
  have hread : readOn packet.header.pid packet = some packet := if_pos ⟨rfl, hpayload⟩
  obtain ⟨-, -, hcarries⟩ := carriesPMT_of_readOn hpat hread
  constructor
  · have hlookup := (processing_of_readOn hpat hread s).1
    rw [hacc] at hlookup
    exact hlookup
  · have hcompleted : s.completedPMT packet = (accumulate acc packet).2.bind pmtOf := by
      unfold completedPMT
      rw [if_pos hcarries, hacc]
      rfl
    rw [(processPacket_readsTables s packet).parsedPmts, hcompleted]

lemma readsPMTs_processPackets (packets : List TSPacket) : ReadsPMTs (processPackets {} packets) := by
  induction packets using List.reverseRecOn with
  | nil =>
    intro pat hpat
    cases hpat
  | append_singleton packets packet ih =>
    rw [processPackets_append]
    exact ih.processPacket packet

end PacketState

open MPEGTSDemuxer

/-- In every reachable state: the PAT gives each of its programs a PMT PID with an accumulator, whose
packets are read as PMTs if it is not 0, and gives 0 for every other number; once a PMT is parsed, the
streams reported for a program are those that the queries of its PMT find. -/
theorem table_queries (calls : List Call) :
    let d := run {} calls
    (∀ pat, d.parsedPat = some pat → ∀ number,
      (number ∈ pat.getProgramNumbers → pat.getPMTPID number ∈ d.pmtAccumulators ∧
        (pat.getPMTPID number ≠ pidPat → d.toPacketState.ReadAsPMT (pat.getPMTPID number))) ∧
      (number ∉ pat.getProgramNumbers → pat.getPMTPID number = 0)) ∧
    (d.parsedPmts ≠ ∅ → ∀ program ∈ d.getPrograms.2, ∃ pmt,
      d.parsedPmts.lookup program.programNumber = some pmt ∧
      pmt.programNumber = program.programNumber ∧ program.streamPids = pmt.getAllPIDs ∧
      ∀ pid, (pid ∈ program.streamPids ↔ (pmt.getStreamInfo pid).isSome = true) ∧
        (pid ∈ program.streamPids ↔ ∃ type, pid ∈ pmt.getPIDsByType type) ∧
        ∀ info ∈ pmt.getStreamInfo pid,
          info.elementaryPid = pid ∧ pid ∈ pmt.getPIDsByType info.streamType) := by
  intro d
  have hrun := readsAlike_run calls
  constructor
  · intro pat hpat number
    refine ⟨?_, PAT.getPMTPID_eq_zero⟩
    intro hnumber
    have hreads := PacketState.readsPMTs_processPackets (processedPackets {} calls) pat
      (hrun.parsedPat.trans hpat) _ (PAT.announces_getPMTPID hnumber)
    rw [← AList.lookup_isSome, hrun.pmtAccumulators, AList.lookup_isSome] at hreads
    exact ⟨hreads, PacketState.readAsPMT_of_mem hreads⟩
  · intro hparsed program hprogram
    obtain ⟨pid, pmt, hforce, hreported⟩ := inForce_of_program hparsed hprogram
    have hlookup := (lookup_parsedPmts_iff calls pmt.programNumber pmt).mpr ⟨rfl, pid, hforce⟩
    have hpids : program.streamPids = pmt.getAllPIDs := hreported.streamPids
    rw [hreported.programNumber, hpids]
    exact ⟨pmt, hlookup, rfl, rfl, pmt.queries_agree⟩

end MinimalMpegTS
