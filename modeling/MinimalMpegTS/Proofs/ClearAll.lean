import MinimalMpegTS.Proofs.Agreement
import MinimalMpegTS.Proofs.PATSections
import MinimalMpegTS.Proofs.Packets
import MinimalMpegTS.Proofs.Programs
import MinimalMpegTS.Proofs.Reading
import MinimalMpegTS.Proofs.SectionAssembly

/-!
# What `clearAll` leaves behind

`clearAll` empties the storage, the pending iterations and the input side, but it keeps the PCR
trackers, the parsed PMTs, the accumulators of the PMT PIDs and the PAT accumulator. A cleared
demultiplexer is told apart from a fresh one with the same program table exactly if one of these
still holds something that a later answer can show.
-/

namespace MinimalMpegTS

open PSIAccumulator PacketState MPEGTSDemuxer

/-! ### PIDs read from a PAT -/

lemma readField16_lt {data : List UInt8} {offset : Nat} {value : UInt16}
    (h : PSIParser.readField16 0x1F data offset = some value) : value < 8192 := by
  unfold PSIParser.readField16 at h
  cases h0 : data[offset]? with
  | none =>
    rw [h0] at h
    cases h
  | some byte0 =>
    cases h1 : data[offset + 1]? with
    | none =>
      rw [h0, h1] at h
      cases h
    | some byte1 =>
      rw [h0, h1] at h
      have hvalue : ((byte0 &&& 0x1F).toUInt16 <<< 8) ||| byte1.toUInt16 = value := Option.some.inj h
      have hhigh : (byte0 &&& 0x1F).toNat < 2 ^ 5 := by
        rw [UInt8.toNat_and]
        exact Nat.and_lt_two_pow _ (by decide)
      have hlow : byte1.toNat < 2 ^ 13 := byte1.toNat_lt.trans (by decide)
      rw [← hvalue, UInt16.lt_iff_toNat_lt, UInt16.toNat_or]
      apply Nat.or_lt_two_pow (n := 13)
      · rw [UInt16.toNat_shiftLeft, UInt8.toNat_toUInt16, Nat.shiftLeft_eq]
        have height : (8 : UInt16).toNat % 16 = 8 := by decide
        rw [height]
        omega
      · rw [UInt8.toNat_toUInt16]
        exact hlow

lemma parsePrograms_lt {data : List UInt8} {entriesEnd fuel offset : Nat}
    {programs parsed : List PATEntry}
    (h : PSIParser.parsePrograms data entriesEnd fuel offset programs = some parsed)
    (hprograms : ∀ entry ∈ programs, entry.pid < 8192) : ∀ entry ∈ parsed, entry.pid < 8192 := by
  induction fuel generalizing offset programs with
  | zero =>
    rw [PSIParser.parsePrograms, Option.some.injEq] at h
    rw [← h]
    exact hprograms
  | succ fuel ih =>
    rw [PSIParser.parsePrograms] at h
    split at h
    · simp only [Option.bind_eq_bind, Option.bind_eq_some_iff] at h
      obtain ⟨number, _, pid, hpid, hrest⟩ := h
      apply ih hrest
      intro entry hentry
      rw [List.mem_append, List.mem_singleton] at hentry
      obtain hentry | rfl := hentry
      · exact hprograms entry hentry
      · exact readField16_lt hpid
    · rw [Option.some.injEq] at h
      rw [← h]
      exact hprograms

lemma announces_parsePAT {data : List UInt8} {pat : PAT}
    (h : PSIParser.parsePAT {} data = some (pat, true)) {pid : UInt16}
    (hpid : pat.announces pid = true) : pid < 8192 := by
  have hentries : ∀ entry ∈ pat.programs, entry.pid < 8192 := by
    obtain ⟨size, haccepted⟩ := PSIParser.parsePAT_accepted h
    exact parsePrograms_lt haccepted.programs (by simp)
  unfold PAT.announces at hpid
  rw [List.any_eq_true] at hpid
  obtain ⟨entry, hmem, hentry⟩ := hpid
  simp only [Bool.and_eq_true, beq_iff_eq] at hentry
  rw [← hentry.2]
  exact hentries entry hmem

lemma announces_lt {acc : PSIAccumulator} {packet : TSPacket} {pid : UInt16}
    (h : announces acc packet pid = true) : pid < 8192 := by
  unfold announces completedPAT at h
  rw [Option.any_eq_true] at h
  obtain ⟨pat, hpat, hpid⟩ := h
  split at hpat
  · obtain ⟨data, _, htable⟩ := Option.bind_eq_some_iff.mp hpat
    unfold tableOf at htable
    split at htable
    · rename_i table hparse
      obtain rfl := Option.some.inj htable
      exact announces_parsePAT hparse hpid
    · cases htable
  · cases hpat

/-! ### Reachable states -/

/-- What `clearAll` and a probe rely on in a reachable state. -/
structure Sound (d : MPEGTSDemuxer) : Prop where
  syncOffset : d.syncOffset = 0
  patAccumulator : Coherent d.patAccumulator
  pids : ∀ pid ∈ d.pmtAccumulators, pid < 8192
  table : (d.programsTableAvailable = false ∧ d.knownProgramPids = ∅) ∨
    (d.programsTableAvailable = true ∧ ∃ table, d.knownProgramPids = tablePids table)

lemma processPacket_programsTable (s : PacketState) (packet : TSPacket) :
    (s.processPacket packet).programsTableAvailable = s.programsTableAvailable ∧
      (s.processPacket packet).knownProgramPids = s.knownProgramPids := by
  have hread := readTables_sameStore s packet
  have hadd := addPacketToStorage_sameTables (s.readTables packet) packet
  rw [processPacket_eq]
  exact ⟨hadd.programsTableAvailable.trans hread.programsTableAvailable,
    hadd.knownProgramPids.trans hread.knownProgramPids⟩

lemma Sound.processPackets {d : MPEGTSDemuxer} (h : Sound d) (packets : List TSPacket) :
    Sound { d with toPacketState := d.toPacketState.processPackets packets } := by
  induction packets generalizing d with
  | nil => exact h
  | cons packet packets ih =>
    have hreads := processPacket_readsTables d.toPacketState packet
    obtain ⟨havailable, hknown⟩ := processPacket_programsTable d.toPacketState packet
    apply ih (d := { d with toPacketState := d.toPacketState.processPacket packet })
    refine ⟨h.syncOffset, ?_, ?_, ?_⟩
    · show Coherent (d.toPacketState.processPacket packet).patAccumulator
      rw [hreads.patAccumulator]
      unfold nextPat
      split
      · exact coherent_accumulate h.patAccumulator packet
      · exact h.patAccumulator
    · intro pid hpid
      have hlookup := hreads.pmtAccumulators pid
      rw [← AList.lookup_isSome, hlookup] at hpid
      split at hpid
      · rename_i hannounces
        exact announces_lt hannounces
      · rw [Option.isSome_map, AList.lookup_isSome] at hpid
        exact h.pids pid hpid
    · dsimp only
      rw [havailable, hknown]
      exact h.table

lemma Sound.finalized {d : MPEGTSDemuxer} (h : Sound d) : Sound d.finalized := by
  obtain ⟨h1, h2, h3, h4, _, _, _, _⟩ := finalizeAllIterations_sameTables d.toPacketState
  obtain ⟨hoffset, hpat, hpids, htable⟩ := h
  unfold MPEGTSDemuxer.finalized
  refine ⟨hoffset, ?_, ?_, ?_⟩
  · dsimp only
    rw [h3]
    exact hpat
  · dsimp only
    rw [h4]
    exact hpids
  · dsimp only
    rw [h1, h2]
    exact htable

lemma Sound.call {d : MPEGTSDemuxer} (h : Sound d) (c : Call) : Sound (d.call c).1 := by
  cases c with
  | feedData data =>
    show Sound (d.feedData data)
    rw [feedData_eq]
    obtain ⟨_, hpat, hpids, htable⟩ := h.processPackets (d.toInputState.feed data).2
    exact ⟨feed_syncOffset h.syncOffset data, hpat, hpids, htable⟩
  | getPrograms => exact h.finalized
  | getDiscoveredPIDs => exact h.finalized
  | getIterationsSummary pid => exact h.finalized
  | clearAll =>
    obtain ⟨hoffset, hpat, hpids, htable⟩ := h.finalized
    exact ⟨hoffset, hpat, hpids, htable⟩
  | setProgramsTable table => exact ⟨h.syncOffset, h.patAccumulator, h.pids, .inr ⟨rfl, table, rfl⟩⟩
  | _ => exact ⟨h.syncOffset, h.patAccumulator, h.pids, h.table⟩

theorem sound_of_reachable {d : MPEGTSDemuxer} (h : Reachable d) : Sound d := by
  obtain ⟨calls, rfl⟩ := h
  apply Transducer.invariant Sound (fun d c hd => hd.call c)
  exact ⟨rfl, .inl rfl, fun pid hpid => by simp at hpid, .inl ⟨rfl, rfl⟩⟩

/-! ### The cleared and the fresh demultiplexer -/

/-- A freshly constructed demultiplexer with the same program table. -/
def freshWithTable (d : MPEGTSDemuxer) : MPEGTSDemuxer :=
  { programsTableAvailable := d.programsTableAvailable, knownProgramPids := d.knownProgramPids }

/-- Nothing is left that `clearAll` does not clear and a later answer can show. -/
structure NothingLeft (d : MPEGTSDemuxer) : Prop where
  trackers : d.pcrManager.trackers.keys = []
  parsedPmts : d.parsedPmts.keys = []
  pmtAccumulators : ∀ pid ∈ d.pmtAccumulators, pid = pidPat
  patAccumulator : ¬Completable d.patAccumulator

lemma clearAll_sameTables (d : MPEGTSDemuxer) : SameTables d.toPacketState d.clearAll.toPacketState := by
  obtain ⟨h1, h2, h3, h4, h5, h6, h7, h8⟩ := finalizeAllIterations_sameTables d.toPacketState
  exact ⟨h1, h2, h3, h4, h5, h6, h7, h8⟩

lemma clearAll_input {d : MPEGTSDemuxer} (h : Reachable d) : d.clearAll.toInputState = {} := by
  have hoffset : d.clearAll.toInputState = ⟨[], false, d.syncOffset⟩ := rfl
  rw [hoffset, (sound_of_reachable h).syncOffset]

lemma eq_empty_of_keys {α : Type} {m : PidMap α} (h : m.keys = []) : m = ∅ := by
  apply AList.ext
  exact List.map_eq_nil_iff.mp h

/-- If nothing is left, the cleared demultiplexer is like a fresh one. -/
theorem alike_of_nothingLeft {d : MPEGTSDemuxer} (h : Reachable d) (hleft : NothingLeft d) :
    Alike d.clearAll (freshWithTable d) := by
  have hsame := clearAll_sameTables d
  refine ⟨clearAll_input h, ?_, ?_, ?_, ?_, ?_⟩
  · exact ⟨rfl, hsame.programsTableAvailable, hsame.knownProgramPids, rfl, rfl, rfl⟩
  · rw [hsame.patAccumulator]
    obtain hpat | ⟨data, hdata, hpat⟩ := (sound_of_reachable h).patAccumulator
    · exact .inl hpat
    · exact .inr ⟨rfl, data, hdata, hpat, hleft.patAccumulator⟩
  · intro pid hpid
    rw [hsame.pmtAccumulators]
    have hnone : d.pmtAccumulators.lookup pid = none := by
      rw [AList.lookup_eq_none]
      exact fun hmem => hpid (hleft.pmtAccumulators pid hmem)
    rw [hnone]
    rfl
  · rw [hsame.parsedPmts]
    exact eq_empty_of_keys hleft.parsedPmts
  · rw [hsame.pcrManager]
    constructor
    · exact hleft.trackers
    · rw [eq_empty_of_keys hleft.trackers]
      intro pid
      rfl

/-! ### Probing -/

/-- A null packet with a unit start: it resets an accumulator of its PID. -/
def nullPacket (cc : UInt8) : List UInt8 := plainPacket pidNull cc true (List.replicate 184 0xFF)

def nullTSPacket (cc : UInt8) : TSPacket := plainTSPacket pidNull cc true (List.replicate 184 0xFF)

/-- A PMT section of program 1 with one stream. -/
def probeSection : List UInt8 :=
  withCRC [0x02, 0xB0, 0x12, 0x00, 0x01, 0xC1, 0x00, 0x00, 0xE1, 0x00, 0xF0, 0x00, 0x1B, 0xE1, 0x00,
    0xF0, 0x00]

def probePMT : PMT :=
  { header :=
      { tableId := tableIdPmt
        sectionSyntaxIndicator := true
        sectionLength := 18
        tableIdExtension := 1
        currentNextIndicator := true }
    programNumber := 1
    pcrPid := 0x100
    streams := [{ streamType := ⟨0x1B⟩, elementaryPid := 0x100 }]
    crc32 := PSIParser.calculateCRC32 (probeSection.take 17) }

def probePayload : List UInt8 := 0 :: probeSection ++ List.replicate 162 0xFF

/-- Three null packets to synchronize, packets of PID 0 that go on with a section, and a PMT. -/
def probeChunks (payloads : List (List UInt8)) (pid : UInt16) : List (List UInt8) :=
  (nullPacket 0 ++ (nullPacket 1 ++ nullPacket 2)) ::
    (payloads.map (plainPacket pidPat 0 false) ++ [plainPacket pid 0 true probePayload])

def nullTSPackets : List TSPacket := [nullTSPacket 0, nullTSPacket 1, nullTSPacket 2]

def probePackets (payloads : List (List UInt8)) (pid : UInt16) : List TSPacket :=
  nullTSPackets ++ (payloads.map (plainTSPacket pidPat 0 false) ++
    [plainTSPacket pid 0 true probePayload])

lemma probe_section : PMTSection probeSection probePMT := by
  constructor
  · decide +kernel
  · decide +kernel

lemma feed_nullPackets : InputState.feed {} (nullPacket 0 ++ (nullPacket 1 ++ nullPacket 2)) =
    (⟨[], true, 0⟩, nullTSPackets) := by
  decide +kernel

lemma packets_probe {payloads : List (List UInt8)} (hlen : ∀ b ∈ payloads, b.length = 184)
    {pid : UInt16} (hpid : pid < 8192) :
    InputState.packets {} (probeChunks payloads pid) = probePackets payloads pid := by
  have haccepted : InputState.AcceptedPackets
      (payloads.map (plainPacket pidPat 0 false) ++ [plainPacket pid 0 true probePayload])
      (payloads.map (plainTSPacket pidPat 0 false) ++ [plainTSPacket pid 0 true probePayload]) := by
    apply List.rel_append
    · rw [List.forall₂_map_left_iff, List.forall₂_map_right_iff, List.forall₂_same]
      intro b hb
      exact ⟨by rw [length_plainPacket, hlen b hb], accept_plainPacket (by decide) (by decide) false b⟩
    · have hprobe : probePayload.length = 184 := by decide +kernel
      exact .cons ⟨by rw [length_plainPacket, hprobe], accept_plainPacket hpid (by decide) true _⟩ .nil
  unfold probeChunks probePackets
  rw [InputState.packets_cons, feed_nullPackets, (InputState.feed_acceptedPackets haccepted).2.1]

/-- The calls that feed a probe. -/
def probeCalls (payloads : List (List UInt8)) (pid : UInt16) : List Call :=
  (probeChunks payloads pid).map .feedData

lemma probeCalls_feed (payloads : List (List UInt8)) (pid : UInt16) :
    ∀ c ∈ probeCalls payloads pid, c.isFeedOrQuery = true := by
  intro c hc
  unfold probeCalls at hc
  obtain ⟨data, _, rfl⟩ := List.mem_map.mp hc
  rfl

lemma run_probe {d : MPEGTSDemuxer} (hd : d.toInputState = {}) {payloads : List (List UInt8)}
    (hlen : ∀ b ∈ payloads, b.length = 184) {pid : UInt16} (hpid : pid < 8192) :
    (run d (probeCalls payloads pid)).toPacketState =
      d.toPacketState.processPackets (probePackets payloads pid) := by
  unfold probeCalls
  rw [run_feeds, feedChunks_eq, hd, packets_probe hlen hpid]

lemma parsedPmts_probe {s : PacketState} {payloads : List (List UInt8)} {pid : UInt16}
    (hpid : pid ≠ pidPat) (hmem : pid ∈ (s.processPackets (nullTSPackets ++
      payloads.map (plainTSPacket pidPat 0 false))).pmtAccumulators) :
    (s.processPackets (probePackets payloads pid)).parsedPmts.lookup 1 = some probePMT := by
  rw [← AList.lookup_isSome, Option.isSome_iff_exists] at hmem
  obtain ⟨acc, hacc⟩ := hmem
  unfold probePackets
  rw [← List.append_assoc, processPackets_append]
  have hcarries : carriesPMT (plainTSPacket pid 0 true probePayload) = true := by
    unfold carriesPMT
    simpa [plainTSPacket] using hpid
  have hbytes : (plainTSPacket pid 0 true probePayload).payloadBytes =
      0 :: (probeSection ++ List.replicate 162 0xFF) := by
    rw [payloadBytes_plainTSPacket]
    decide +kernel
  apply parsedPmts_of_section probe_section hcarries hacc
  exact accumulate_pointer rfl hbytes (by decide +kernel) acc

lemma parsedPmts_untouched {s : PacketState} {packets : List TSPacket}
    (hstart : ∀ packet ∈ packets, packet.header.pid = pidPat → packet.header.payloadUnitStart = false)
    (hpat : s.patAccumulator = {}) (hpmt : ∀ pid, s.pmtAccumulators.lookup pid = none) :
    (s.processPackets packets).parsedPmts = s.parsedPmts := by
  induction packets generalizing s with
  | nil => rfl
  | cons packet packets ih =>
    have hreads := processPacket_readsTables s packet
    have hidle : nextPat {} packet = {} ∧ completedPAT {} packet = none := by
      unfold nextPat completedPAT
      cases hcarries : carriesPAT packet with
      | false => exact ⟨rfl, rfl⟩
      | true =>
        have hpid : packet.header.pid = pidPat := by
          unfold carriesPAT at hcarries
          simp_all
        rw [if_pos rfl, if_pos rfl, accumulate_idle (hstart packet List.mem_cons_self hpid)]
        exact ⟨rfl, rfl⟩
    have hcompleted : s.completedPMT packet = none := by
      unfold completedPMT
      rw [hpmt]
      exact ite_self none
    rw [processPackets_cons, ih (fun p hp => hstart p (List.mem_cons_of_mem packet hp)),
      hreads.parsedPmts, hcompleted]
    · rfl
    · rw [hreads.patAccumulator, hpat]
      exact hidle.1
    · intro pid
      rw [hreads.pmtAccumulators, hpat, hpmt]
      unfold announces
      rw [hidle.2]
      rfl

lemma parsedPmts_probe_fresh (d : MPEGTSDemuxer) {payloads : List (List UInt8)}
    (hlen : ∀ b ∈ payloads, b.length = 184) {pid : UInt16} (hpid : pid < 8192) (hne : pid ≠ pidPat) :
    (run (freshWithTable d) (probeCalls payloads pid)).parsedPmts = ∅ := by
  have hrun := run_probe (d := freshWithTable d) rfl hlen hpid
  have hparsed := congrArg PacketState.parsedPmts hrun
  rw [hparsed]
  apply parsedPmts_untouched (s := (freshWithTable d).toPacketState) _ rfl (fun _ => rfl)
  intro packet hpacket hq
  unfold probePackets nullTSPackets at hpacket
  simp only [List.mem_append, List.mem_cons, List.not_mem_nil, or_false, List.mem_map] at hpacket
  obtain (rfl | rfl | rfl) | ⟨b, _, rfl⟩ | rfl := hpacket
  · exact absurd hq (by decide)
  · exact absurd hq (by decide)
  · exact absurd hq (by decide)
  · rfl
  · exact absurd hq hne

/-! ### Telling them apart -/

lemma programs_of_parsedPmts {d : MPEGTSDemuxer} {number : UInt16} {pmt : PMT}
    (h : d.parsedPmts.lookup number = some pmt) :
    ∃ info ∈ d.getPrograms.2, info.programNumber = number := by
  have hparsed : d.parsedPmts ≠ ∅ := by
    intro hempty
    rw [hempty] at h
    cases h
  exact ⟨_, (mem_getPrograms_pmts hparsed _).mpr ⟨number, pmt, h, rfl⟩, rfl⟩

lemma programs_of_empty {d : MPEGTSDemuxer} (h : d.parsedPmts = ∅) :
    ∀ info ∈ d.getPrograms.2, info.programNumber = 0 := by
  intro info hinfo
  obtain ⟨pid, stream, _, _, rfl⟩ := (mem_getPrograms_streams h info).mp hinfo
  rfl

lemma not_sameAnswers_of_probe {d e : MPEGTSDemuxer} (hd : d.toInputState = {})
    {payloads : List (List UInt8)} (hlen : ∀ b ∈ payloads, b.length = 184) {pid : UInt16}
    (hpid : pid < 8192) (hne : pid ≠ pidPat)
    (hmem : pid ∈ (d.toPacketState.processPackets (nullTSPackets ++
      payloads.map (plainTSPacket pidPat 0 false))).pmtAccumulators) :
    ¬SameAnswers d (freshWithTable e) := by
  intro hsame
  have hanswer := hsame (probeCalls payloads pid) (probeCalls_feed payloads pid) .getPrograms rfl
  have hprograms : (run d (probeCalls payloads pid)).getPrograms.2 =
      (run (freshWithTable e) (probeCalls payloads pid)).getPrograms.2 := Answer.programs.inj hanswer
  have hparsed := congrArg PacketState.parsedPmts (run_probe hd hlen hpid)
  have hlookup : (run d (probeCalls payloads pid)).parsedPmts.lookup 1 = some probePMT := by
    rw [hparsed]
    exact parsedPmts_probe hne hmem
  obtain ⟨info, hinfo, hnumber⟩ := programs_of_parsedPmts hlookup
  rw [hprograms] at hinfo
  have hzero := programs_of_empty (parsedPmts_probe_fresh e hlen hpid hne) info hinfo
  rw [hnumber] at hzero
  exact absurd hzero (by decide)

lemma patsAccepted_payloads {front whole stuffing : List UInt8} {pat : PAT}
    (hsize : sectionSize whole = whole.length) (hparse : PSIParser.parsePAT {} whole = some (pat, true))
    {payloads : List (List UInt8)} (hlen : ∀ b ∈ payloads, b.length = 184)
    (hlt : front.length < whole.length) (hbytes : front ++ payloads.flatten = whole ++ stuffing) :
    pat ∈ patsAccepted (collected front) (payloads.map (plainTSPacket pidPat 0 false)) := by
  induction payloads generalizing front with
  | nil =>
    have h := congrArg List.length hbytes
    simp only [List.flatten_nil, List.append_nil, List.length_append] at h
    omega
  | cons b payloads ih =>
    have hb := hlen b List.mem_cons_self
    have hcarries : carriesPAT (plainTSPacket pidPat 0 false b) = true := rfl
    have haccumulate : accumulate (collected front) (plainTSPacket pidPat 0 false b) =
        collect (front ++ b) := by
      rw [accumulate_collected rfl, payloadBytes_plainTSPacket, List.take_of_length_le (by omega)]
    rw [List.flatten_cons, ← List.append_assoc] at hbytes
    rw [List.map_cons, patsAccepted, List.mem_append]
    by_cases hshort : (front ++ b).length < whole.length
    · right
      have hpart : front ++ b <+: whole := List.prefix_of_prefix_length_le ⟨_, hbytes⟩
        (List.prefix_append whole stuffing) hshort.le
      have hnext : nextPat (collected front) (plainTSPacket pidPat 0 false b) =
          collected (front ++ b) := by
        unfold nextPat
        rw [if_pos hcarries, haccumulate, collect_part hsize hpart hshort]
      rw [hnext]
      exact ih (fun c hc => hlen c (List.mem_cons_of_mem b hc)) hshort hbytes
    · left
      obtain ⟨rest, hrest⟩ : whole <+: front ++ b := List.prefix_of_prefix_length_le
        ⟨stuffing, hbytes.symm⟩ (List.prefix_append _ payloads.flatten) (by omega)
      unfold completedPAT
      rw [if_pos hcarries, haccumulate, ← hrest, collect_whole hsize (by omega), Option.bind_some,
        hparse]
      exact Option.mem_toList.mpr rfl

lemma exists_payloads (data : List UInt8) : ∃ (payloads : List (List UInt8)) (stuffing : List UInt8),
    (∀ b ∈ payloads, b.length = 184) ∧ payloads.flatten = data ++ stuffing := by
  induction hn : data.length using Nat.strong_induction_on generalizing data with
  | _ n ih =>
    by_cases hle : n ≤ 184
    · refine ⟨[data ++ List.replicate (184 - n) 0], List.replicate (184 - n) 0, ?_, ?_⟩
      · intro b hb
        rw [List.mem_singleton.mp hb, List.length_append, List.length_replicate]
        omega
      · rw [List.flatten_singleton]
    · obtain ⟨payloads, stuffing, hlen, hflat⟩ := ih (n - 184) (by omega) (data.drop 184)
        (by rw [List.length_drop, hn])
      refine ⟨data.take 184 :: payloads, stuffing, ?_, ?_⟩
      · intro b hb
        rw [List.mem_cons] at hb
        obtain rfl | hb := hb
        · rw [List.length_take]
          omega
        · exact hlen b hb
      · rw [List.flatten_cons, hflat, ← List.append_assoc, List.take_append_drop]

lemma patAccumulator_nullTSPackets (s : PacketState) :
    (s.processPackets nullTSPackets).patAccumulator = s.patAccumulator := by
  have hnull : ∀ (t : PacketState) (cc : UInt8),
      (t.processPacket (nullTSPacket cc)).patAccumulator = t.patAccumulator := by
    intro t cc
    rw [(processPacket_readsTables t (nullTSPacket cc)).patAccumulator]
    rfl
  unfold nullTSPackets
  rw [processPackets_cons, processPackets_cons, processPackets_cons, processPackets_nil, hnull, hnull,
    hnull]

/-- If the answers are those of a fresh demultiplexer, nothing was left. -/
theorem nothingLeft_of_sameAnswers {d : MPEGTSDemuxer} (h : Reachable d)
    (hsame : SameAnswers d.clearAll (freshWithTable d)) : NothingLeft d := by
  have htables := clearAll_sameTables d
  have hsound := sound_of_reachable h
  refine ⟨?_, ?_, ?_, ?_⟩
  · have hanswer : d.clearAll.pcrManager.getPIDsWithPCR =
        (freshWithTable d).pcrManager.getPIDsWithPCR :=
      Answer.pids.inj (hsame [] (by simp) .getPIDsWithPCR rfl)
    unfold PCRManager.getPIDsWithPCR at hanswer
    rw [sortedEntries_keys, htables.pcrManager] at hanswer
    have hperm := List.perm_insertionSort (· ≤ ·) d.pcrManager.trackers.keys
    rw [hanswer] at hperm
    exact List.nil_perm.mp hperm
  · by_contra hne
    obtain ⟨number, hnumber⟩ := List.exists_mem_of_ne_nil _ hne
    rw [← AList.mem_keys, ← AList.lookup_isSome, Option.isSome_iff_exists] at hnumber
    obtain ⟨pmt, hpmt⟩ := hnumber
    rw [← htables.parsedPmts] at hpmt
    obtain ⟨info, hinfo, _⟩ := programs_of_parsedPmts (d := d.clearAll) hpmt
    have hanswer : d.clearAll.getPrograms.2 = (freshWithTable d).getPrograms.2 :=
      Answer.programs.inj (hsame [] (by simp) .getPrograms rfl)
    rw [hanswer] at hinfo
    cases hinfo
  · intro pid hpid
    by_contra hne
    have hnone : ∀ b ∈ ([] : List (List UInt8)), b.length = 184 := by simp
    apply not_sameAnswers_of_probe (clearAll_input h) hnone (hsound.pids pid hpid) hne _ hsame
    apply mem_pmtAccumulators_processPackets
    rw [htables.pmtAccumulators]
    exact hpid
  · rintro ⟨hsynced, data, pat, pid, hsize, hparse, hannounces, hne⟩
    obtain hpat | ⟨front, hfront, hpat⟩ := hsound.patAccumulator
    · rw [hpat] at hsynced
      cases hsynced
    rw [hpat] at hsize hparse
    change sectionSize (front ++ data) = (front ++ data).length at hsize
    change PSIParser.parsePAT {} (front ++ data) = some (pat, true) at hparse
    obtain ⟨payloads, stuffing, hlen, hflat⟩ := exists_payloads data
    have hpos : 0 < (front ++ data).length := by
      by_contra hzero
      rw [List.eq_nil_of_length_eq_zero (Nat.eq_zero_of_not_pos hzero)] at hparse
      simp [PSIParser.parsePAT] at hparse
    have hlt : front.length < (front ++ data).length := by
      by_contra hle
      rw [List.length_append] at hle
      have hnil : data = [] := List.eq_nil_of_length_eq_zero (by omega)
      rw [hnil, List.append_nil] at hsize hpos
      exact hfront ⟨by omega, by omega⟩
    apply not_sameAnswers_of_probe (clearAll_input h) hlen (announces_parsePAT hparse hannounces) hne
      _ hsame
    rw [processPackets_append]
    apply announced_of_patsAccepted _ hannounces
    rw [patAccumulator_nullTSPackets, htables.patAccumulator, hpat]
    exact patsAccepted_payloads hsize hparse hlen hlt (by rw [hflat, List.append_assoc])

/-- A cleared demultiplexer answers like a fresh one with the same program table exactly if nothing
was left that `clearAll` does not clear. -/
theorem clearAll_forgets_iff {d : MPEGTSDemuxer} (h : Reachable d) :
    SameAnswers d.clearAll (freshWithTable d) ↔ NothingLeft d := by
  constructor
  · exact nothingLeft_of_sameAnswers h
  · intro hleft
    exact sameAnswers_of_alike (alike_of_nothingLeft h hleft)

/-- The query stores what is pending, so that `clearAll` has nothing to finalize. -/
theorem clearAll_forgets_threePackets :
    SameAnswers (run {} [.feedData threePackets, .getDiscoveredPIDs]).clearAll
      (freshWithTable (run {} [.feedData threePackets, .getDiscoveredPIDs])) := by
  apply (clearAll_forgets_iff ⟨_, rfl⟩).mpr
  refine ⟨by decide +kernel, by decide +kernel, ?_, ?_⟩
  · have hkeys : (run {} [.feedData threePackets, .getDiscoveredPIDs]).pmtAccumulators.keys = [] := by
      decide +kernel
    intro pid hpid
    rw [AList.mem_keys, hkeys] at hpid
    cases hpid
  · rintro ⟨hsynced, _⟩
    have hidle : (run {} [.feedData threePackets, .getDiscoveredPIDs]).patAccumulator.synced =
        false := by decide +kernel
    rw [hidle] at hsynced
    cases hsynced

/-- A stream with a PAT. -/
def patCalls : List Call :=
  [.feedData (nullPacket 0 ++ nullPacket 1 ++ nullPacket 2 ++
    plainPacket pidPat 0 true (0 :: samplePATSection ++ List.replicate 167 0xFF))]

/-- After `clearAll` the PMT PID of the PAT is still known: a PMT on it is read, which a fresh
demultiplexer does not do. -/
theorem clearAll_keeps_pmt_pid : Reachable (run {} patCalls) ∧
    ¬SameAnswers (run {} patCalls).clearAll (freshWithTable (run {} patCalls)) := by
  refine ⟨⟨patCalls, rfl⟩, ?_⟩
  intro hsame
  have hanswer := Answer.programs.inj
    (hsame (probeCalls [] 0x1000) (probeCalls_feed [] 0x1000) .getPrograms rfl)
  have hcleared : (run (run {} patCalls).clearAll (probeCalls [] 0x1000)).getPrograms.2.map
      ProgramInfo.programNumber = [1] := by decide +kernel
  have hfresh : (run (freshWithTable (run {} patCalls)) (probeCalls [] 0x1000)).getPrograms.2.map
      ProgramInfo.programNumber = [0] := by decide +kernel
  rw [hanswer] at hcleared
  exact absurd (hcleared.symm.trans hfresh) (by decide)

end MinimalMpegTS
