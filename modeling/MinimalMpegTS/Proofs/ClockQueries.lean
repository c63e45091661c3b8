import MinimalMpegTS.Proofs.ClockHistory
import MinimalMpegTS.Proofs.ClockReferences
import MinimalMpegTS.Proofs.Provenance

/-!
# What the clock queries tell

The PIDs with a clock are those on which a packet with the PCR flag has been processed, and the count
reported is that of these packets up to the limit of the history. The references reported are all 0.
-/

namespace MinimalMpegTS

open MPEGTSDemuxer

/-- The packet has the PID and the PCR flag. -/
def carriesClock (pid : UInt16) (packet : TSPacket) : Bool :=
  packet.header.pid = pid && packet.getAdaptationField.any TSAdaptationField.pcrFlag

lemma sampleOf_received {packet : TSPacket} (h : packet.Received) (pid : UInt16) (number : Nat) :
    sampleOf pid packet number = if carriesClock pid packet = true then
      some ⟨⟨0, 0⟩, UInt64.ofNat number, packet.header.continuityCounter⟩ else none := by
  obtain ⟨data, hdata, haccept⟩ := h
  have hparsed := TSPacket.accept_parsedFrom hdata haccept
  unfold sampleOf carriesClock
  cases hfield : packet.getAdaptationField with
  | none =>
    rw [Option.any_none, Bool.and_false]
    rfl
  | some adaptation =>
    have hvalid : (⟨0, 0⟩ : PCR).isValid = true := by decide
    obtain ⟨hadaptation, rfl⟩ : packet.hasAdaptation = true ∧ packet.adaptationField = adaptation := by
      unfold TSPacket.getAdaptationField at hfield
      split at hfield
      · next h => exact ⟨h, Option.some.inj hfield⟩
      · cases hfield
    have hof := hparsed.field hadaptation
    rw [Option.any_some]
    dsimp only
    rw [hof.pcrBase, hof.pcrExtension]
    by_cases hclock : packet.header.pid = pid ∧ packet.adaptationField.pcrFlag = true
    · rw [if_pos ⟨hclock.1, hclock.2, hvalid⟩, if_pos]
      rw [Bool.and_eq_true, decide_eq_true_eq]
      exact hclock
    · rw [if_neg (fun h => hclock ⟨h.1, h.2.1⟩), if_neg]
      rw [Bool.and_eq_true, decide_eq_true_eq]
      exact hclock

lemma addedSamples_received (pid : UInt16) {packets : List TSPacket}
    (h : ∀ packet ∈ packets, packet.Received) :
    (addedSamples pid packets).length = packets.countP (carriesClock pid) ∧
      ∀ sample ∈ addedSamples pid packets, sample.pcr = ⟨0, 0⟩ := by
  induction packets using List.reverseRecOn with
  | nil =>
    refine ⟨rfl, ?_⟩
    intro sample hsample
    cases hsample
  | append_singleton packets packet ih =>
    obtain ⟨hcount, hzero⟩ := ih (fun p hp => h p (List.mem_append_left _ hp))
    have hlast := sampleOf_received (h packet (List.mem_append_right _ List.mem_cons_self)) pid
      packets.length
    rw [addedSamples_concat, List.length_append, List.countP_append, hcount, hlast,
      List.countP_singleton]
    by_cases hclock : carriesClock pid packet = true
    · rw [if_pos hclock, if_pos hclock]
      refine ⟨rfl, ?_⟩
      intro sample hsample
      rcases List.mem_append.mp hsample with hsample | hsample
      · exact hzero sample hsample
      · rw [List.mem_singleton.mp hsample]
    · rw [if_neg hclock, if_neg hclock]
      refine ⟨rfl, ?_⟩
      rw [Option.toList_none, List.append_nil]
      exact hzero

/-! ### The trackers -/

/-- Every tracker is kept under its own PID and has a sample. -/
def PacketState.TrackersFilled (s : PacketState) : Prop :=
  ∀ pid tracker, s.pcrManager.trackers.lookup pid = some tracker →
    tracker.pid = pid ∧ tracker.samples ≠ []

lemma PCRTracker.pid_addPCR (tracker : PCRTracker) (pcr : PCR) (packetNumber : UInt64) (cc : UInt8) :
    (tracker.addPCR pcr packetNumber cc).pid = tracker.pid := by
  have hcheck : ∀ sample, (tracker.checkInterval sample).pid = tracker.pid := by
    intro sample
    unfold checkInterval
    split
    · rfl
    · dsimp only
      split <;> split <;> rfl
  have hupdate : ∀ t : PCRTracker, t.updateStatistics.pid = t.pid := by
    intro t
    unfold updateStatistics
    split
    · rfl
    · dsimp only
      split <;> rfl
  unfold addPCR
  rw [hupdate]
  exact hcheck _

namespace PacketState.TrackersFilled

variable {s t : PacketState}

lemma of_pcrManager (h : s.TrackersFilled) (hsame : t.pcrManager = s.pcrManager) :
    t.TrackersFilled := by
  unfold PacketState.TrackersFilled
  rw [hsame]
  exact h

lemma processPacket (h : s.TrackersFilled) (packet : TSPacket) :
    (s.processPacket packet).TrackersFilled := by
  have hpsi : (s.processPSIPacket packet).TrackersFilled :=
    h.of_pcrManager (processPSIPacket_pcrManager s packet)
  apply of_pcrManager (s := s.readTables packet) _ (pcrManager_processPacket s packet)
  unfold readTables processPCR
  split
  · exact hpsi
  · dsimp only
    split
    · intro pid tracker hlookup
      by_cases hpid : packet.header.pid = pid
      · subst hpid
        rw [PCRManager.addPCR, AList.lookup_insert] at hlookup
        obtain rfl := Option.some.inj hlookup
        constructor
        · rw [PCRTracker.pid_addPCR]
          cases hold : (s.processPSIPacket packet).pcrManager.trackers.lookup packet.header.pid with
          | none => rfl
          | some old => exact (hpsi _ old hold).1
        · rw [samples_addPCR]
          intro hnil
          have hlast := congrArg List.getLast? hnil
          rw [History.getLast?_push (by decide)] at hlast
          cases hlast
      · rw [PCRManager.addPCR, AList.lookup_insert_ne (Ne.symm hpid)] at hlookup
        exact hpsi pid tracker hlookup
    · exact hpsi

lemma processPackets (h : s.TrackersFilled) (packets : List TSPacket) :
    (s.processPackets packets).TrackersFilled := by
  induction packets generalizing s with
  | nil => exact h
  | cons packet packets ih => exact ih (h.processPacket packet)

lemma call {d : MPEGTSDemuxer} (h : d.toPacketState.TrackersFilled) (c : Call) :
    (d.call c).1.toPacketState.TrackersFilled := by
  by_cases hquery : c.isFeedOrQuery = true
  · rcases call_of_isFeedOrQuery hquery d with ⟨data, rfl⟩ | ⟨hstate, -⟩ | ⟨hstate, -⟩
    · show (d.feedData data).toPacketState.TrackersFilled
      rw [toPacketState_feedData]
      exact h.processPackets _
    · rw [hstate]
      exact h.of_pcrManager (PacketState.finalizeAllIterations_sameTables _).pcrManager
    · rwa [hstate]
  · cases c with
    | clearIteration pid iterId => exact h
    | clearStream pid => exact h
    | clearAll => exact h.of_pcrManager (clearAll_sameTables d).pcrManager
    | setProgramsTable table => exact h
    | _ => exact absurd rfl hquery

end PacketState.TrackersFilled

lemma trackersFilled_run (calls : List Call) : (run {} calls).toPacketState.TrackersFilled := by
  induction calls using List.reverseRecOn with
  | nil =>
    intro pid tracker hlookup
    cases hlookup
  | append_singleton calls c ih =>
    have hrun : run {} (calls ++ [c]) = ((run {} calls).call c).1 := List.foldl_append
    rw [hrun]
    exact ih.call c

/-! ### The queries -/

/-- What the statistics of a PID tell, apart from the intervals. -/
def PCRStats.references (stats : PCRStats) : UInt16 × Nat × Option PCR × Option PCR :=
  (stats.pid, stats.pcrCount, stats.firstPcr, stats.lastPcr)

lemma head?_getLast?_of_zero {samples : List PCRSample} (hne : samples ≠ [])
    (hzero : ∀ sample ∈ samples, sample.pcr = ⟨0, 0⟩) :
    samples.head?.map PCRSample.pcr = some ⟨0, 0⟩ ∧
      samples.getLast?.map PCRSample.pcr = some ⟨0, 0⟩ := by
  rw [List.head?_eq_some_head hne, List.getLast?_eq_some_getLast hne, Option.map_some, Option.map_some,
    hzero _ (List.head_mem hne), hzero _ (List.getLast_mem hne)]
  exact ⟨rfl, rfl⟩

/-- In every reachable state the PIDs with a clock are those on which a packet with the flag has been
processed, in ascending order. The statistics count these packets up to the limit of the history, and
the references are all 0. -/
theorem clock_queries (calls : List Call) (pid : UInt16) :
    let d := run {} calls
    let flagged := (processedPackets {} calls).countP (carriesClock pid)
    (pid ∈ d.pcrManager.getPIDsWithPCR ↔ 0 < flagged) ∧
      d.pcrManager.getPIDsWithPCR.Pairwise (· < ·) ∧
      (d.getPCRStats pid).map PCRStats.references =
        (if flagged = 0 then none else some (pid, min flagged 1000, some ⟨0, 0⟩, some ⟨0, 0⟩)) ∧
      d.getLastPCR pid = (if flagged = 0 then none else some ⟨0, 0⟩) := by
  intro d flagged
  obtain ⟨hcount, hzero⟩ := addedSamples_received pid (received_processedPackets {} calls)
  have hsamples : d.pcrManager.samplesOf pid =
      (addedSamples pid (processedPackets {} calls)).rtake PCRTracker.maxSamples :=
    (tracked_run calls).samples pid
  have hlength : (d.pcrManager.samplesOf pid).length = min flagged 1000 := by
    rw [hsamples, History.length_rtake, hcount]
    rfl
  have hmem : pid ∈ d.pcrManager.getPIDsWithPCR ↔ (d.pcrManager.getTracker pid).isSome = true :=
    mem_sortedEntries_keys _ _
  have hascending : d.pcrManager.getPIDsWithPCR.Pairwise (· < ·) := sortedEntries_keys_ascending _
  rw [hmem]
  unfold getPCRStats MPEGTSDemuxer.getLastPCR
  unfold PCRManager.samplesOf at hsamples hlength
  cases htracker : d.pcrManager.getTracker pid with
  | none =>
    rw [htracker] at hlength
    have hnone : flagged = 0 := by
      have hzeros : 0 = min flagged 1000 := hlength
      omega
    rw [hnone, if_pos rfl, if_pos rfl]
    refine ⟨⟨?_, ?_⟩, hascending, rfl, rfl⟩
    · intro h
      cases h
    · intro h
      exact absurd h (Nat.lt_irrefl 0)
  | some tracker =>
    obtain ⟨hown, hne⟩ := trackersFilled_run calls pid tracker htracker
    rw [htracker, Option.map_some, Option.getD_some] at hlength hsamples
    have hpos := List.length_pos_of_ne_nil hne
    have hflagged : 0 < flagged := by omega
    obtain ⟨hfirst, hlast⟩ := head?_getLast?_of_zero hne (fun sample hsample =>
      hzero sample ((History.rtake_suffix _ _).subset (hsamples ▸ hsample)))
    rw [if_neg hflagged.ne', if_neg hflagged.ne', Option.map_some, Option.map_some, Option.bind_some]
    refine ⟨⟨fun _ => hflagged, fun _ => rfl⟩, hascending, ?_, hlast⟩
    unfold PCRStats.references PCRTracker.getStats
    dsimp only
    rw [hown, hlength, hfirst, hlast]

end MinimalMpegTS
