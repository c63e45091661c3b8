import MinimalMpegTS.Proofs.Calls
import MinimalMpegTS.Proofs.Tables

/-!
# States that no query tells apart

Two packet states agree when they differ only in what no query shows, now or after more packets:
the packet numbers in the PCR samples, the number of processed packets, the parsed PAT, an
accumulator of PID 0, and the beginning of a section that cannot become a PAT that lists a PMT
PID. Every packet keeps the agreement, so two such demultiplexers give the same answers forever.
-/

namespace MinimalMpegTS

open PSIAccumulator

/-! ### PCR trackers -/

namespace PCRTracker

/-- A tracker without the packet numbers of its samples, which no statistic uses. -/
def anonymous (self : PCRTracker) : PCRTracker :=
  { self with samples := self.samples.map (fun sample => { sample with packetNumber := 0 }) }

lemma getLast?_anonymous (t : PCRTracker) : t.anonymous.samples.getLast? =
    t.samples.getLast?.map (fun sample => { sample with packetNumber := 0 }) := by
  unfold anonymous
  rw [List.getLast?_map]

@[simp] lemma getStats_anonymous (t : PCRTracker) : t.anonymous.getStats = t.getStats := by
  unfold getStats
  rw [getLast?_anonymous]
  unfold anonymous
  simp [Function.comp_def]

@[simp] lemma getLastPCR_anonymous (t : PCRTracker) : t.anonymous.getLastPCR = t.getLastPCR := by
  unfold getLastPCR
  rw [getLast?_anonymous]
  simp [Function.comp_def]

lemma anonymous_checkInterval (t : PCRTracker) (sample : PCRSample) :
    (t.checkInterval sample).anonymous =
      t.anonymous.checkInterval { sample with packetNumber := 0 } := by
  unfold checkInterval
  rw [getLast?_anonymous]
  cases t.samples.getLast? with
  | none => rfl
  | some last =>
    have hinterval : calculateInterval { last with packetNumber := 0 }
        { sample with packetNumber := 0 } = calculateInterval last sample := rfl
    simp only [Option.map_some, hinterval]
    unfold anonymous
    split <;> split <;> rfl

lemma anonymous_updateStatistics (t : PCRTracker) :
    t.updateStatistics.anonymous = t.anonymous.updateStatistics := by
  have hlength : t.anonymous.samples.length = t.samples.length := by
    unfold anonymous
    rw [List.length_map]
  have hintervals : ∀ n, ((t.anonymous.samples.drop n).zip (t.anonymous.samples.drop n).tail).map
      (fun s => calculateInterval s.1 s.2) = ((t.samples.drop n).zip (t.samples.drop n).tail).map
        (fun s => calculateInterval s.1 s.2) := by
    intro n
    unfold anonymous
    rw [← List.map_drop, ← List.map_tail, List.zip_map, List.map_map]
    rfl
  unfold updateStatistics
  simp only [hlength, hintervals]
  unfold anonymous
  split
  · rfl
  · split <;> rfl

/-- The packet numbers make no difference to anything else. -/
theorem anonymous_addPCR {t u : PCRTracker} (h : t.anonymous = u.anonymous) (pcr : PCR)
    (m n : UInt64) (cc : UInt8) : (t.addPCR pcr m cc).anonymous = (u.addPCR pcr n cc).anonymous := by
  have hkeep : ∀ l : List PCRSample, (if maxSamples < l.length then l.tail else l).map
      (fun sample => { sample with packetNumber := 0 }) =
        if maxSamples < (l.map (fun sample => { sample with packetNumber := 0 })).length then
          (l.map (fun sample => { sample with packetNumber := 0 })).tail
        else l.map (fun sample => { sample with packetNumber := 0 }) := by
    intro l
    rw [List.length_map]
    split
    · rw [List.map_tail]
    · rfl
  have hstep : ∀ (v : PCRTracker) (k : UInt64), (v.addPCR pcr k cc).anonymous =
      v.anonymous.addPCR pcr 0 cc := by
    intro v k
    have hcheck := anonymous_checkInterval v ⟨pcr, k, cc⟩
    unfold addPCR
    dsimp only at hcheck ⊢
    rw [anonymous_updateStatistics, ← hcheck]
    unfold anonymous
    simp only [hkeep, List.map_append, List.map_cons, List.map_nil]
  rw [hstep, hstep, h]

end PCRTracker

namespace PacketState

/-! ### Iterations -/

/-- The two states hold the same iterations under the same program table. -/
structure SameIterations (s t : PacketState) : Prop where
  storage : s.storage = t.storage
  programsTableAvailable : s.programsTableAvailable = t.programsTableAvailable
  knownProgramPids : s.knownProgramPids = t.knownProgramPids
  currentIterationIds : s.currentIterationIds = t.currentIterationIds
  currentIterations : s.currentIterations = t.currentIterations
  lastCc : s.lastCc = t.lastCc

namespace SameIterations

variable {s t : PacketState}

lemma finalizeIteration (h : SameIterations s t) (pid : UInt16) :
    SameIterations (s.finalizeIteration pid) (t.finalizeIteration pid) := by
  unfold PacketState.finalizeIteration
  rw [h.currentIterations, h.currentIterationIds, h.storage]
  cases t.currentIterations.lookup pid with
  | none => exact h
  | some iteration =>
    exact ⟨rfl, h.programsTableAvailable, h.knownProgramPids, rfl, rfl, h.lastCc⟩

lemma finalizeAll (h : SameIterations s t) :
    SameIterations s.finalizeAllIterations t.finalizeAllIterations := by
  unfold finalizeAllIterations
  rw [h.currentIterations]
  generalize t.currentIterations.keys = pids
  induction pids generalizing s t with
  | nil => exact h
  | cons pid pids ih => exact ih (h.finalizeIteration pid)

lemma startNewIteration (h : SameIterations s t) (header : TSPacketHeader) :
    SameIterations (s.startNewIteration header) (t.startNewIteration header) := by
  have hfinal := h.finalizeIteration header.pid
  unfold PacketState.startNewIteration
  dsimp only
  rw [hfinal.storage, hfinal.currentIterationIds, hfinal.currentIterations]
  exact ⟨rfl, hfinal.programsTableAvailable, hfinal.knownProgramPids, rfl, rfl, hfinal.lastCc⟩

lemma joinPacket (h : SameIterations s t) (packet : TSPacket) :
    SameIterations (s.joinPacket packet) (t.joinPacket packet) := by
  unfold PacketState.joinPacket
  rw [h.currentIterations, h.lastCc]
  exact ⟨h.storage, h.programsTableAvailable, h.knownProgramPids, h.currentIterationIds, rfl, rfl⟩

lemma addPacketToStorage (h : SameIterations s t) (packet : TSPacket) :
    SameIterations (s.addPacketToStorage packet) (t.addPacketToStorage packet) := by
  have hstores : s.stores packet.header.pid = t.stores packet.header.pid := by
    unfold stores
    rw [h.programsTableAvailable, h.knownProgramPids]
  have hstarts : s.startsIteration packet.header = t.startsIteration packet.header := by
    unfold startsIteration
    rw [h.currentIterations]
  cases hs : t.stores packet.header.pid with
  | false =>
    rw [addPacketToStorage_of_not_stores hs, addPacketToStorage_of_not_stores (hstores.trans hs)]
    exact h
  | true =>
    rw [addPacketToStorage_of_stores hs, addPacketToStorage_of_stores (hstores.trans hs), hstarts]
    apply joinPacket
    split
    · exact h.startNewIteration packet.header
    · exact h

lemma processPacket (h : SameIterations s t) (packet : TSPacket) :
    SameIterations (s.processPacket packet) (t.processPacket packet) := by
  have hs := readTables_sameStore s packet
  have ht := readTables_sameStore t packet
  have hread : SameIterations (s.readTables packet) (t.readTables packet) :=
    ⟨by rw [hs.storage, ht.storage, h.storage],
      by rw [hs.programsTableAvailable, ht.programsTableAvailable, h.programsTableAvailable],
      by rw [hs.knownProgramPids, ht.knownProgramPids, h.knownProgramPids],
      by rw [hs.currentIterationIds, ht.currentIterationIds, h.currentIterationIds],
      by rw [hs.currentIterations, ht.currentIterations, h.currentIterations],
      by rw [hs.lastCc, ht.lastCc, h.lastCc]⟩
  obtain ⟨h1, h2, h3, h4, h5, h6⟩ := hread.addPacketToStorage packet
  exact ⟨h1, h2, h3, h4, h5, h6⟩

end SameIterations

/-! ### Tables -/

/-- Some continuation of the section is a PAT that lists a PMT PID other than 0. -/
def Completable (acc : PSIAccumulator) : Prop :=
  acc.synced = true ∧ ∃ data pat pid, sectionSize (acc.buffer ++ data) = (acc.buffer ++ data).length ∧
    PSIParser.parsePAT {} (acc.buffer ++ data) = some (pat, true) ∧
      pat.announces pid = true ∧ pid ≠ pidPat

/-- The accumulators announce the same PMT PIDs from now on. -/
def SamePat (acc acc' : PSIAccumulator) : Prop :=
  acc = acc' ∨ (acc' = {} ∧ ∃ data, ¬Complete data ∧ acc = collected data ∧ ¬Completable acc)

lemma taken_section {front data : List UInt8} (hfront : ¬Complete front)
    (hcomplete : Complete (front ++ data)) :
    ∃ more, (front ++ data).take (sectionSize (front ++ data)) = front ++ more ∧
      sectionSize (front ++ more) = (front ++ more).length := by
  have hthree : 3 ≤ sectionSize (front ++ data) := by
    by_contra hlt
    have hshort : 3 ≤ (front ++ data).length := by
      by_contra hlen
      exact not_complete_short (by omega) hcomplete
    exact hlt (three_le_sectionSize hshort)
  have hle : front.length ≤ sectionSize (front ++ data) := by
    by_cases hlen : 3 ≤ front.length
    · have hsize := sectionSize_append hlen data
      have hpos := three_le_sectionSize hlen
      unfold Complete at hfront
      omega
    · omega
  have htake : (front ++ data).take (sectionSize (front ++ data)) =
      front ++ data.take (sectionSize (front ++ data) - front.length) := by
    rw [List.take_append, List.take_of_length_le hle]
  have hlength : ((front ++ data).take (sectionSize (front ++ data))).length =
      sectionSize (front ++ data) := by
    rw [List.length_take, min_eq_left hcomplete.2]
  have hsize : sectionSize ((front ++ data).take (sectionSize (front ++ data))) =
      sectionSize (front ++ data) := by
    have happend : sectionSize ((front ++ data).take (sectionSize (front ++ data)) ++
        (front ++ data).drop (sectionSize (front ++ data))) =
          sectionSize ((front ++ data).take (sectionSize (front ++ data))) :=
      sectionSize_append (by omega) _
    rw [List.take_append_drop] at happend
    exact happend.symm
  refine ⟨_, htake, ?_⟩
  rw [← htake, hsize, hlength]

/-- A packet keeps the accumulators alike, and they announce the same PMT PIDs. -/
theorem samePat_nextPat {acc acc' : PSIAccumulator} (h : SamePat acc acc') (packet : TSPacket) :
    SamePat (nextPat acc packet) (nextPat acc' packet) ∧
      ∀ pid, pid ≠ pidPat → announces acc packet pid = announces acc' packet pid := by
  obtain rfl | ⟨rfl, front, hfront, rfl, hharmless⟩ := h
  · exact ⟨.inl rfl, fun pid _ => rfl⟩
  cases hcarries : carriesPAT packet with
  | false =>
    obtain ⟨hnext, hnone⟩ := not_carriesPAT hcarries (collected front)
    obtain ⟨hnext', hnone'⟩ := not_carriesPAT hcarries {}
    rw [hnext, hnext']
    exact ⟨.inr ⟨rfl, front, hfront, rfl, hharmless⟩, fun pid _ => by rw [hnone, hnone']⟩
  | true =>
    unfold announces nextPat completedPAT
    rw [if_pos hcarries, if_pos hcarries, if_pos hcarries, if_pos hcarries]
    cases hstart : packet.header.payloadUnitStart with
    | true =>
      rw [accumulate_start hstart (collected front)]
      exact ⟨.inl rfl, fun pid _ => rfl⟩
    | false =>
      rw [accumulate_idle hstart, accumulate_collected hstart]
      unfold collect
      by_cases hcomplete : Complete (front ++ packet.payloadBytes)
      · rw [if_pos hcomplete]
        obtain ⟨more, htake, hsize⟩ := taken_section hfront hcomplete
        refine ⟨.inl rfl, ?_⟩
        intro pid hpid
        rw [htake, Option.bind_some, Option.bind_none, Option.any_none]
        cases hparse : PSIParser.parsePAT {} (front ++ more) with
        | none => rfl
        | some parsed =>
          obtain ⟨pat, ok⟩ := parsed
          cases ok with
          | false => rfl
          | true =>
            show pat.announces pid = false
            by_contra hannounces
            rw [Bool.not_eq_false] at hannounces
            exact hharmless ⟨rfl, more, pat, pid, hsize, hparse, hannounces, hpid⟩
      · rw [if_neg hcomplete]
        refine ⟨.inr ⟨rfl, _, hcomplete, rfl, ?_⟩, fun pid _ => rfl⟩
        rintro ⟨_, more, pat, pid, hsize, hparse, hannounces, hpid⟩
        have hassoc : (collected (front ++ packet.payloadBytes)).buffer ++ more =
            (collected front).buffer ++ (packet.payloadBytes ++ more) := List.append_assoc _ _ _
        rw [hassoc] at hsize hparse
        exact hharmless ⟨rfl, _, pat, pid, hsize, hparse, hannounces, hpid⟩

/-! ### Agreement -/

/-- The trackers are the same up to the packet numbers. -/
structure SameTrackers (m n : PCRManager) : Prop where
  keys : m.trackers.keys = n.trackers.keys
  trackers : ∀ pid, (m.trackers.lookup pid).map PCRTracker.anonymous =
    (n.trackers.lookup pid).map PCRTracker.anonymous

/-- No query tells the two states apart. -/
structure Agree (s t : PacketState) : Prop where
  iterations : SameIterations s t
  patAccumulator : SamePat s.patAccumulator t.patAccumulator
  pmtAccumulators : ∀ pid, pid ≠ pidPat →
    s.pmtAccumulators.lookup pid = t.pmtAccumulators.lookup pid
  parsedPmts : s.parsedPmts = t.parsedPmts
  trackers : SameTrackers s.pcrManager t.pcrManager

lemma SameTrackers.addPCR {m n : PCRManager} (h : SameTrackers m n) (pid : UInt16) (pcr : PCR)
    (i j : UInt64) (cc : UInt8) : SameTrackers (m.addPCR pid pcr i cc) (n.addPCR pid pcr j cc) := by
  unfold PCRManager.addPCR
  constructor
  · rw [AList.keys_insert, AList.keys_insert, h.keys]
  · intro q
    by_cases hq : q = pid
    · subst hq
      rw [AList.lookup_insert, AList.lookup_insert, Option.map_some, Option.map_some]
      congr 1
      apply PCRTracker.anonymous_addPCR
      have hq := h.trackers q
      cases hm : m.trackers.lookup q with
      | none =>
        rw [hm, Option.map_none, eq_comm, Option.map_eq_none_iff] at hq
        rw [hq]
      | some tracker =>
        rw [hm, Option.map_some, eq_comm, Option.map_eq_some_iff] at hq
        obtain ⟨tracker', hn, heq⟩ := hq
        rw [hn]
        exact heq.symm
    · rw [AList.lookup_insert_ne hq, AList.lookup_insert_ne hq]
      exact h.trackers q

lemma SameTrackers.processPCR {s t : PacketState} (h : SameTrackers s.pcrManager t.pcrManager)
    (packet : TSPacket) : SameTrackers (s.processPCR packet).pcrManager
      (t.processPCR packet).pcrManager := by
  unfold PacketState.processPCR
  cases packet.getAdaptationField with
  | none => exact h
  | some adaptation =>
    dsimp only
    split
    · exact h.addPCR _ _ _ _ _
    · exact h

lemma processPSIPacket_pcrManager (s : PacketState) (packet : TSPacket) :
    (s.processPSIPacket packet).pcrManager = s.pcrManager := by
  unfold processPSIPacket
  split
  · dsimp only
    split <;> rfl
  · split
    · split
      · dsimp only
        split <;> rfl
      · rfl
    · rfl

/-- Every packet keeps the agreement. -/
theorem Agree.processPacket {s t : PacketState} (h : Agree s t) (packet : TSPacket) :
    Agree (s.processPacket packet) (t.processPacket packet) := by
  obtain ⟨hpatS, hpmtS, hparsedS⟩ := processPacket_readsTables s packet
  obtain ⟨hpatT, hpmtT, hparsedT⟩ := processPacket_readsTables t packet
  obtain ⟨hpat, hannounces⟩ := samePat_nextPat h.patAccumulator packet
  refine ⟨h.iterations.processPacket packet, ?_, ?_, ?_, ?_⟩
  · rw [hpatS, hpatT]
    exact hpat
  · intro pid hpid
    rw [hpmtS, hpmtT, hannounces pid hpid, h.pmtAccumulators pid hpid]
  · have hcompleted : s.completedPMT packet = t.completedPMT packet := by
      unfold completedPMT
      cases hcarries : carriesPMT packet with
      | false => rfl
      | true =>
        have hpid : packet.header.pid ≠ pidPat := by
          unfold carriesPMT at hcarries
          simp_all
        rw [h.pmtAccumulators _ hpid]
    rw [hparsedS, hparsedT, hcompleted, h.parsedPmts]
  · have hs := (addPacketToStorage_sameTables (s.readTables packet) packet).pcrManager
    have ht := (addPacketToStorage_sameTables (t.readTables packet) packet).pcrManager
    rw [processPacket_eq, processPacket_eq]
    dsimp only
    rw [hs, ht]
    apply SameTrackers.processPCR
    rw [processPSIPacket_pcrManager, processPSIPacket_pcrManager]
    exact h.trackers

lemma Agree.processPackets {s t : PacketState} (h : Agree s t) (packets : List TSPacket) :
    Agree (s.processPackets packets) (t.processPackets packets) := by
  induction packets generalizing s t with
  | nil => exact h
  | cons packet packets ih => exact ih (h.processPacket packet)

lemma Agree.finalizeAll {s t : PacketState} (h : Agree s t) :
    Agree s.finalizeAllIterations t.finalizeAllIterations := by
  have hs := finalizeAllIterations_sameTables s
  have ht := finalizeAllIterations_sameTables t
  refine ⟨h.iterations.finalizeAll, ?_, ?_, ?_, ?_⟩
  · rw [hs.patAccumulator, ht.patAccumulator]
    exact h.patAccumulator
  · rw [hs.pmtAccumulators, ht.pmtAccumulators]
    exact h.pmtAccumulators
  · rw [hs.parsedPmts, ht.parsedPmts]
    exact h.parsedPmts
  · rw [hs.pcrManager, ht.pcrManager]
    exact h.trackers

end PacketState

/-! ### Answers -/

/-- The queries that are compared. -/
def Call.isCompared : Call → Bool
  | .isSynchronized | .getBufferOccupancy | .getPrograms | .getDiscoveredPIDs => true
  | .getIterationsSummary _ | .getAllPayloads _ _ => true
  | .getPIDsWithPCR | .getPCRStats _ | .getLastPCR _ => true
  | _ => false

namespace MPEGTSDemuxer

open PacketState

/-- After the same data calls and queries, the compared queries give the same answers. -/
def SameAnswers (d e : MPEGTSDemuxer) : Prop :=
  ∀ calls : List Call, (∀ c ∈ calls, c.isFeedOrQuery = true) → ∀ c : Call, c.isCompared = true →
    ((run d calls).call c).2 = ((run e calls).call c).2

/-- The same input state, and packet states that agree. -/
structure Alike (d e : MPEGTSDemuxer) : Prop where
  input : d.toInputState = e.toInputState
  agree : Agree d.toPacketState e.toPacketState

lemma Alike.call {d e : MPEGTSDemuxer} {c : Call} (hc : c.isFeedOrQuery = true) (h : Alike d e) :
    Alike (d.call c).1 (e.call c).1 := by
  have hfinal : Alike d.finalized e.finalized := ⟨h.input, h.agree.finalizeAll⟩
  cases c with
  | feedData data =>
    show Alike (d.feedData data) (e.feedData data)
    rw [feedData_eq, feedData_eq]
    constructor
    · rw [h.input]
    · rw [h.input]
      exact h.agree.processPackets _
  | getPrograms => exact hfinal
  | getDiscoveredPIDs => exact hfinal
  | getIterationsSummary pid => exact hfinal
  | clearIteration pid iterId => cases hc
  | clearStream pid => cases hc
  | clearAll => cases hc
  | setProgramsTable table => cases hc
  | _ => exact h

lemma sortedEntries_keys {α : Type} (m : PidMap α) :
    m.sortedEntries.map Prod.fst = m.keys.insertionSort (· ≤ ·) := by
  unfold PidMap.sortedEntries
  have hmem : ∀ k ∈ m.keys.insertionSort (· ≤ ·), (m.lookup k).isSome := by
    intro k hk
    rw [AList.lookup_isSome, AList.mem_keys]
    exact (List.perm_insertionSort _ _).mem_iff.mp hk
  generalize m.keys.insertionSort (· ≤ ·) = keys at hmem
  induction keys with
  | nil => rfl
  | cons k keys ih =>
    obtain ⟨v, hv⟩ := Option.isSome_iff_exists.mp (hmem k List.mem_cons_self)
    rw [List.filterMap_cons, hv]
    simp only [Option.map_some, List.map_cons]
    rw [ih (fun j hj => hmem j (List.mem_cons_of_mem k hj))]

lemma mem_sortedEntries_keys {α : Type} (m : PidMap α) (pid : UInt16) :
    pid ∈ m.sortedEntries.map Prod.fst ↔ (m.lookup pid).isSome = true := by
  rw [sortedEntries_keys, List.mem_insertionSort, ← AList.mem_keys, AList.lookup_isSome]

lemma sortedEntries_keys_ascending {α : Type} (m : PidMap α) :
    (m.sortedEntries.map Prod.fst).Pairwise (· < ·) := by
  rw [sortedEntries_keys]
  have hnodup := (List.perm_insertionSort (· ≤ ·) _).nodup_iff.mpr m.keys_nodup
  have hsorted := List.pairwise_insertionSort (· ≤ ·) m.keys
  exact (hsorted.and hnodup).imp (fun h => UInt16.lt_of_le_of_ne h.1 h.2)

lemma Alike.answer {d e : MPEGTSDemuxer} (h : Alike d e) {c : Call} (hc : c.isCompared = true) :
    (d.call c).2 = (e.call c).2 := by
  have hstorage : d.finalized.storage = e.finalized.storage := h.agree.finalizeAll.iterations.storage
  have hparsed : d.finalized.parsedPmts = e.finalized.parsedPmts := h.agree.finalizeAll.parsedPmts
  have htrackers := h.agree.trackers
  cases c with
  | isSynchronized =>
    show Answer.flag d.isSynchronized = Answer.flag e.isSynchronized
    rw [h.input]
  | getBufferOccupancy =>
    show Answer.size d.rawBuffer.length = Answer.size e.rawBuffer.length
    rw [h.input]
  | getPrograms =>
    show Answer.programs d.getPrograms.2 = Answer.programs e.getPrograms.2
    unfold getPrograms
    dsimp only
    rw [hstorage, hparsed]
  | getDiscoveredPIDs =>
    show Answer.discovered d.finalized.storage.getDiscoveredPIDs =
      Answer.discovered e.finalized.storage.getDiscoveredPIDs
    rw [hstorage]
  | getIterationsSummary pid =>
    show Answer.summary (d.getIterationsSummary pid).2 = Answer.summary (e.getIterationsSummary pid).2
    unfold getIterationsSummary
    dsimp only
    rw [hstorage]
  | getAllPayloads pid iterId =>
    show Answer.payloads (d.getAllPayloads pid iterId) = Answer.payloads (e.getAllPayloads pid iterId)
    unfold getAllPayloads findIteration
    rw [h.agree.iterations.storage]
  | getPIDsWithPCR =>
    show Answer.pids d.pcrManager.getPIDsWithPCR = Answer.pids e.pcrManager.getPIDsWithPCR
    unfold PCRManager.getPIDsWithPCR
    rw [sortedEntries_keys, sortedEntries_keys, htrackers.keys]
  | getPCRStats pid =>
    have hstats := congrArg (Option.map PCRTracker.getStats) (htrackers.trackers pid)
    simp only [Option.map_map, Function.comp_def, PCRTracker.getStats_anonymous] at hstats
    exact congrArg Answer.pcrStats hstats
  | getLastPCR pid =>
    have hlast := congrArg (fun tracker => tracker.bind PCRTracker.getLastPCR) (htrackers.trackers pid)
    simp only [Option.bind_map, Function.comp_def, PCRTracker.getLastPCR_anonymous] at hlast
    exact congrArg Answer.pcr hlast
  | _ => cases hc

/-- Alike demultiplexers give the same answers forever. -/
theorem sameAnswers_of_alike {d e : MPEGTSDemuxer} (h : Alike d e) : SameAnswers d e := by
  intro calls hcalls c hc
  have hrun := Transducer.bisimulation MPEGTSDemuxer.call MPEGTSDemuxer.call
    (fun c => c.isFeedOrQuery = true) Alike (fun _ _ _ hfeed halike => halike.call hfeed) h hcalls
  exact Alike.answer hrun hc

end MPEGTSDemuxer

end MinimalMpegTS
