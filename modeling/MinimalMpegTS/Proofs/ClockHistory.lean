import MinimalMpegTS.Proofs.ClearAll
import MinimalMpegTS.Proofs.ClockReferences
import MinimalMpegTS.Proofs.Interpolation

/-!
# The history of a clock

A tracker holds the last 1000 references of its PID, numbered by the packets that brought them. The
numbers grow, so interpolation finds the two samples around a packet. The statistics are those of
the samples that are held: after more than 1000 references they are not those of all.
-/

namespace MinimalMpegTS

open MPEGTSDemuxer

/-! ### Statistics -/

namespace PCRTracker

/-- The calls of `addPCR` with the data of these samples. -/
def addAll (self : PCRTracker) (calls : List PCRSample) : PCRTracker :=
  calls.foldl (fun self call => self.addPCR call.pcr call.packetNumber call.continuityCounter) self

/-- A new tracker, or one that has been cleared. -/
def IsEmpty (self : PCRTracker) : Prop :=
  (∃ pid, self = { pid := pid }) ∨ ∃ used : PCRTracker, self = used.clear

/-- The statistics are those of all these calls. -/
structure Covers (stats : PCRStats) (calls : List PCRSample) : Prop where
  pcrCount : stats.pcrCount = calls.length
  firstPcr : stats.firstPcr = calls.head?.map PCRSample.pcr
  lastPcr : stats.lastPcr = calls.getLast?.map PCRSample.pcr

lemma pcrCount_getStats (tracker : PCRTracker) :
    tracker.getStats.pcrCount = tracker.samples.length := rfl

lemma firstPcr_getStats (tracker : PCRTracker) :
    tracker.getStats.firstPcr = tracker.samples.head?.map PCRSample.pcr := rfl

lemma lastPcr_getStats (tracker : PCRTracker) :
    tracker.getStats.lastPcr = tracker.samples.getLast?.map PCRSample.pcr := rfl

lemma samples_addAll (tracker : PCRTracker) (calls : List PCRSample) :
    (tracker.addAll calls).samples = calls.foldl (History.push maxSamples) tracker.samples := by
  induction calls generalizing tracker with
  | nil => rfl
  | cons call calls ih =>
    have hrest := ih (tracker.addPCR call.pcr call.packetNumber call.continuityCounter)
    rw [samples_addPCR] at hrest
    exact hrest

lemma IsEmpty.samples_addAll {tracker : PCRTracker} (h : tracker.IsEmpty) (calls : List PCRSample) :
    (tracker.addAll calls).samples = calls.rtake maxSamples := by
  have hsamples : tracker.samples = ([] : List PCRSample).rtake maxSamples := by
    rcases h with ⟨pid, rfl⟩ | ⟨used, rfl⟩
    · rfl
    · rfl
  rw [PCRTracker.samples_addAll, hsamples, History.foldl_push, List.nil_append]

/-- The statistics cover all calls exactly as long as there are no more than the tracker holds. -/
theorem covers_iff {tracker : PCRTracker} (h : tracker.IsEmpty) (calls : List PCRSample) :
    Covers (tracker.addAll calls).getStats calls ↔ calls.length ≤ maxSamples := by
  have hsamples := h.samples_addAll calls
  constructor
  · intro hcovers
    have hcount := hcovers.pcrCount
    rw [pcrCount_getStats, hsamples, History.length_rtake] at hcount
    omega
  · intro hlength
    rw [History.rtake_of_length_le hlength] at hsamples
    constructor
    · rw [pcrCount_getStats, hsamples]
    · rw [firstPcr_getStats, hsamples]
    · rw [lastPcr_getStats, hsamples]

theorem covers_two : Covers ((clear { pid := 0x100, samples := [⟨⟨9, 0⟩, 9, 0⟩] }).addAll
    [⟨⟨1, 0⟩, 1, 0⟩, ⟨⟨2, 0⟩, 2, 0⟩]).getStats [⟨⟨1, 0⟩, 1, 0⟩, ⟨⟨2, 0⟩, 2, 0⟩] :=
  (covers_iff (.inr ⟨_, rfl⟩) _).mpr (by decide)

/-- One reference more than a tracker holds. -/
def manyReferences : List PCRSample :=
  (List.range 1001).map (fun i => ⟨⟨UInt64.ofNat i, 0⟩, UInt64.ofNat i, 0⟩)

/-- The first of 1001 references is neither counted nor reported as the first one. -/
theorem first_reference_forgotten :
    (addAll { pid := 0x100 } manyReferences).getStats.pcrCount = 1000 ∧
      (addAll { pid := 0x100 } manyReferences).getStats.firstPcr = some ⟨1, 0⟩ ∧
      ¬Covers (addAll { pid := 0x100 } manyReferences).getStats manyReferences := by
  have hsamples : (addAll { pid := 0x100 } manyReferences).samples =
      manyReferences.rtake maxSamples := IsEmpty.samples_addAll (.inl ⟨_, rfl⟩) _
  have hlength : manyReferences.length = 1001 := by
    unfold manyReferences
    rw [List.length_map, List.length_range]
  have hcount : (addAll { pid := 0x100 } manyReferences).getStats.pcrCount = 1000 := by
    rw [pcrCount_getStats, hsamples, History.length_rtake, hlength]
    rfl
  refine ⟨hcount, ?_, ?_⟩
  · have hfirst : manyReferences[1]? = some ⟨⟨1, 0⟩, 1, 0⟩ := by
      unfold manyReferences
      rw [List.getElem?_map, List.getElem?_range (by decide)]
      rfl
    unfold List.rtake at hsamples
    rw [firstPcr_getStats, hsamples, hlength, List.head?_drop]
    exact congrArg (Option.map PCRSample.pcr) hfirst
  · intro hcovers
    have hall := hcovers.pcrCount
    omega

/-! ### The search -/

lemma bracket_of_searchSamples {packetNumber : UInt64} {samples : List PCRSample} {i j : Nat}
    {last : Option (Nat × PCRSample)} {before after : PCRSample}
    (h : searchSamples packetNumber i last samples = (some (j, before), some after)) :
    Bracket samples packetNumber before after ∨
      (last = some (j, before) ∧ samples.head? = some after ∧ packetNumber < after.packetNumber) := by
  induction samples generalizing i last with
  | nil => cases h
  | cons sample samples ih =>
    rw [searchSamples] at h
    by_cases hsample : sample.packetNumber ≤ packetNumber
    · rw [if_pos hsample] at h
      left
      rcases ih h with hbracket | ⟨hlast, hhead, hlt⟩
      · exact ⟨hbracket.adjacent.trans (List.suffix_cons _ _).isInfix, hbracket.le, hbracket.lt⟩
      · -- the sample passed last is the neighbour of the one the search stopped at
        obtain ⟨-, rfl⟩ := Prod.mk.inj (Option.some.inj hlast)
        obtain ⟨rest, rfl⟩ := List.head?_eq_some_iff.mp hhead
        exact ⟨⟨[], rest, rfl⟩, hsample, hlt⟩
    · rw [if_neg hsample] at h
      obtain ⟨rfl, hafter⟩ := Prod.mk.inj h
      obtain rfl := Option.some.inj hafter
      exact .inr ⟨rfl, rfl, UInt64.not_le.mp hsample⟩

/-- The search in an ordered history returns two samples exactly if they are neighbours around the
packet. -/
theorem searchSamples_iff {samples : List PCRSample} (hordered : Ordered samples)
    (packetNumber : UInt64) (before after : PCRSample) :
    (∃ i, searchSamples packetNumber 0 none samples = (some (i, before), some after)) ↔
      Bracket samples packetNumber before after := by
  constructor
  · rintro ⟨i, hsearch⟩
    rcases bracket_of_searchSamples hsearch with hbracket | ⟨hnone, _⟩
    · exact hbracket
    · cases hnone
  · intro hbracket
    exact hbracket.searchSamples_eq hordered

end PCRTracker

/-! ### The references of a PID -/

/-- The sample that the packet with this number adds to the tracker of a PID, if any. -/
def sampleOf (pid : UInt16) (packet : TSPacket) (number : Nat) : Option PCRSample :=
  match packet.getAdaptationField with
  | none => none
  | some adaptation =>
    let pcr : PCR := ⟨adaptation.pcrBase, adaptation.pcrExtension⟩
    if packet.header.pid = pid ∧ adaptation.pcrFlag = true ∧ pcr.isValid = true then
      some ⟨pcr, UInt64.ofNat number, packet.header.continuityCounter⟩
    else none

/-- The samples that these packets add to the tracker of a PID. -/
def addedSamples (pid : UInt16) (packets : List TSPacket) : List PCRSample :=
  packets.zipIdx.filterMap (fun entry => sampleOf pid entry.1 entry.2)

lemma addedSamples_concat (pid : UInt16) (packets : List TSPacket) (packet : TSPacket) :
    addedSamples pid (packets ++ [packet]) =
      addedSamples pid packets ++ (sampleOf pid packet packets.length).toList := by
  unfold addedSamples
  rw [List.zipIdx_append, List.filterMap_append, Nat.zero_add, List.zipIdx_singleton]
  congr 1

lemma sampleOf_fields {pid : UInt16} {packet : TSPacket} {number : Nat} {sample : PCRSample}
    (h : sampleOf pid packet number = some sample) :
    sample.packetNumber = UInt64.ofNat number ∧ sample.pcr.isValid = true := by
  unfold sampleOf at h
  split at h
  · cases h
  · dsimp only at h
    split at h
    · next hadds =>
      obtain rfl := Option.some.inj h
      exact ⟨rfl, hadds.2.2⟩
    · cases h

lemma addedSamples_fields {pid : UInt16} {packets : List TSPacket} {sample : PCRSample}
    (h : sample ∈ addedSamples pid packets) :
    (∃ number < packets.length, sample.packetNumber = UInt64.ofNat number) ∧
      sample.pcr.isValid = true := by
  obtain ⟨⟨packet, number⟩, hentry, hsample⟩ := List.mem_filterMap.mp h
  have hnumber := List.snd_lt_of_mem_zipIdx hentry
  obtain ⟨hpacketNumber, hvalid⟩ := sampleOf_fields hsample
  exact ⟨⟨number, by omega, hpacketNumber⟩, hvalid⟩

lemma ofNat_lt_ofNat {m n : Nat} (h : m < n) (hn : n < 2 ^ 64) :
    UInt64.ofNat m < UInt64.ofNat n := by
  rw [UInt64.lt_iff_toNat_lt, UInt64.toNat_ofNat_of_lt' hn,
    UInt64.toNat_ofNat_of_lt' (Nat.lt_trans h hn)]
  exact h

lemma ordered_addedSamples (pid : UInt16) {packets : List TSPacket} (h : packets.length < 2 ^ 64) :
    PCRTracker.Ordered (addedSamples pid packets) := by
  induction packets using List.reverseRecOn with
  | nil => exact List.Pairwise.nil
  | append_singleton packets packet ih =>
    rw [List.length_append, List.length_singleton] at h
    have hbefore := ih (by omega)
    rw [addedSamples_concat]
    cases hnew : sampleOf pid packet packets.length with
    | none =>
      rw [Option.toList_none, List.append_nil]
      exact hbefore
    | some new =>
      refine List.pairwise_append.mpr ⟨hbefore, List.pairwise_singleton _ _, ?_⟩
      intro sample hsample next hnext
      obtain rfl := List.mem_singleton.mp hnext
      obtain ⟨number, hlt, hnumber⟩ := (addedSamples_fields hsample).1
      rw [hnumber, (sampleOf_fields hnew).1]
      exact ofNat_lt_ofNat hlt (by omega)

/-! ### The trackers in a run -/

/-- The samples of the tracker of a PID, none if there is no tracker. -/
def PCRManager.samplesOf (self : PCRManager) (pid : UInt16) : List PCRSample :=
  ((self.getTracker pid).map PCRTracker.samples).getD []

lemma PCRManager.samplesOf_addPCR (self : PCRManager) (pid q : UInt16) (pcr : PCR)
    (packetNumber : UInt64) (cc : UInt8) : (self.addPCR pid pcr packetNumber cc).samplesOf q =
      if pid = q then
        History.push PCRTracker.maxSamples (self.samplesOf q) ⟨pcr, packetNumber, cc⟩
      else self.samplesOf q := by
  unfold PCRManager.samplesOf PCRManager.getTracker PCRManager.addPCR
  dsimp only
  by_cases hq : pid = q
  · subst hq
    rw [if_pos rfl, AList.lookup_insert, Option.map_some, Option.getD_some, samples_addPCR]
    cases self.trackers.lookup pid with
    | none => rfl
    | some tracker => rfl
  · rw [if_neg hq, AList.lookup_insert_ne (Ne.symm hq)]

lemma samplesOf_processPacket {s : PacketState} {number : Nat}
    (hnumber : s.totalPacketsProcessed = UInt64.ofNat number) (packet : TSPacket) (pid : UInt16) :
    (s.processPacket packet).pcrManager.samplesOf pid = (sampleOf pid packet number).toList.foldl
      (History.push PCRTracker.maxSamples) (s.pcrManager.samplesOf pid) := by
  have htotal : (s.processPSIPacket packet).totalPacketsProcessed = UInt64.ofNat number := by
    rw [(PacketState.processPSIPacket_sameStore s packet).totalPacketsProcessed, hnumber]
  rw [pcrManager_processPacket]
  unfold PacketState.readTables PacketState.processPCR sampleOf
  cases packet.getAdaptationField with
  | none =>
    dsimp only
    rw [PacketState.processPSIPacket_pcrManager]
    rfl
  | some adaptation =>
    dsimp only
    by_cases hadds : (adaptation.pcrFlag &&
        (⟨adaptation.pcrBase, adaptation.pcrExtension⟩ : PCR).isValid) = true
    · rw [if_pos hadds]
      dsimp only
      rw [Bool.and_eq_true] at hadds
      rw [htotal, PacketState.processPSIPacket_pcrManager, PCRManager.samplesOf_addPCR]
      by_cases hpid : packet.header.pid = pid
      · rw [if_pos hpid, if_pos ⟨hpid, hadds⟩]
        rfl
      · rw [if_neg hpid, if_neg (fun h => hpid h.1)]
        rfl
    · rw [if_neg hadds, PacketState.processPSIPacket_pcrManager]
      rw [Bool.and_eq_true] at hadds
      rw [if_neg (fun h => hadds h.2)]
      rfl

/-- The trackers hold the last samples that these packets added. -/
structure Tracked (s : PacketState) (packets : List TSPacket) : Prop where
  total : s.totalPacketsProcessed = UInt64.ofNat packets.length
  samples : ∀ pid, s.pcrManager.samplesOf pid =
    (addedSamples pid packets).rtake PCRTracker.maxSamples

namespace Tracked

variable {s t : PacketState} {packets : List TSPacket}

lemma fresh : Tracked {} [] := by
  refine ⟨rfl, ?_⟩
  intro pid
  have hnone : addedSamples pid [] = [] := rfl
  rw [hnone, List.rtake_nil]
  rfl

lemma processPacket (h : Tracked s packets) (packet : TSPacket) :
    Tracked (s.processPacket packet) (packets ++ [packet]) := by
  constructor
  · rw [PacketState.totalPacketsProcessed_processPacket, h.total, List.length_append,
      UInt64.ofNat_add]
    rfl
  · intro pid
    rw [samplesOf_processPacket h.total, h.samples, addedSamples_concat, History.foldl_push]

lemma processPackets (h : Tracked s packets) (more : List TSPacket) :
    Tracked (s.processPackets more) (packets ++ more) := by
  induction more generalizing s packets with
  | nil => rwa [List.append_nil]
  | cons packet more ih =>
    have hrest := ih (h.processPacket packet)
    rwa [List.append_assoc] at hrest

lemma of_sameTables (h : Tracked s packets) (hsame : PacketState.SameTables s t) :
    Tracked t packets := by
  constructor
  · rw [hsame.totalPacketsProcessed, h.total]
  · rw [hsame.pcrManager]
    exact h.samples

lemma call {d : MPEGTSDemuxer} (h : Tracked d.toPacketState packets) (c : Call) :
    Tracked (d.call c).1.toPacketState (packets ++ (d.callTrace c).map Prod.snd) := by
  by_cases hquery : c.isFeedOrQuery = true
  · rcases call_of_isFeedOrQuery hquery d with ⟨data, rfl⟩ | ⟨hstate, htrace⟩ | ⟨hstate, htrace⟩
    · show Tracked (d.feedData data).toPacketState (packets ++ (d.feedTrace data).map Prod.snd)
      rw [toPacketState_feedData, feedTrace_packets]
      exact h.processPackets _
    · rw [hstate, htrace, List.map_nil, List.append_nil]
      exact h.of_sameTables (PacketState.finalizeAllIterations_sameTables _)
    · rwa [hstate, htrace, List.map_nil, List.append_nil]
  have htrace : d.callTrace c = [] := by
    cases c with
    | feedData data => exact absurd rfl hquery
    | _ => rfl
  rw [htrace, List.map_nil, List.append_nil]
  cases c with
  | clearIteration pid iterId => exact ⟨h.total, h.samples⟩
  | clearStream pid => exact ⟨h.total, h.samples⟩
  | clearAll => exact h.of_sameTables (clearAll_sameTables d)
  | setProgramsTable table => exact ⟨h.total, h.samples⟩
  | _ => exact absurd rfl hquery

end Tracked

/-- The trackers hold the last samples in every reachable state. -/
theorem tracked_run (calls : List Call) :
    Tracked (run {} calls).toPacketState (processedPackets {} calls) := by
  have halways : ∀ c ∈ calls, (fun _ : Call => True) c := fun _ _ => trivial
  have hinv := Transducer.traced_invariant MPEGTSDemuxer.call callTrace (fun _ _ => True)
    (fun d l => Tracked d.toPacketState (l.map Prod.snd)) ?_ (s := {}) Tracked.fresh
    (Transducer.along_of_forall MPEGTSDemuxer.call halways) (l := [])
  · exact hinv
  · intro d c l hd _
    rw [List.map_append]
    exact hd.call c

/-- What the tracker of a PID holds after these packets, and what interpolation finds in it. -/
structure KeepsHistory (pid : UInt16) (packets : List TSPacket) (total : UInt64)
    (tracker : PCRTracker) : Prop where
  recent : tracker.samples = (addedSamples pid packets).rtake PCRTracker.maxSamples
  length : tracker.samples.length = min (addedSamples pid packets).length PCRTracker.maxSamples
  valid : ∀ sample ∈ tracker.samples, sample.pcr.isValid = true
  ordered : PCRTracker.Ordered tracker.samples
  below : ∀ sample ∈ tracker.samples, sample.packetNumber < total
  search : ∀ packetNumber before after,
    (∃ i, PCRTracker.searchSamples packetNumber 0 none tracker.samples =
      (some (i, before), some after)) ↔
        PCRTracker.Bracket tracker.samples packetNumber before after
  bracketed : ∀ packetNumber first last, tracker.samples.head? = some first →
    tracker.samples.getLast? = some last → first.packetNumber ≤ packetNumber →
      packetNumber < last.packetNumber →
        ∃ before after, PCRTracker.Bracket tracker.samples packetNumber before after

/-- In every reachable state the trackers hold the last samples in the order of their packets. -/
theorem tracker_keepsHistory {calls : List Call}
    (hcalls : (processedPackets {} calls).length < 2 ^ 64) {pid : UInt16} {tracker : PCRTracker}
    (htracker : (run {} calls).pcrManager.getTracker pid = some tracker) :
    KeepsHistory pid (processedPackets {} calls) (run {} calls).totalPacketsProcessed tracker := by
  have htracked := tracked_run calls
  have hrecent : tracker.samples =
      (addedSamples pid (processedPackets {} calls)).rtake PCRTracker.maxSamples := by
    rw [← htracked.samples pid]
    unfold PCRManager.samplesOf
    rw [htracker]
    rfl
  have hsuffix : tracker.samples <:+ addedSamples pid (processedPackets {} calls) := by
    rw [hrecent]
    exact History.rtake_suffix _ _
  have hordered : PCRTracker.Ordered tracker.samples :=
    (ordered_addedSamples pid hcalls).sublist hsuffix.sublist
  constructor
  case recent => exact hrecent
  case length => rw [hrecent, History.length_rtake]
  case valid =>
    intro sample hsample
    exact (addedSamples_fields (hsuffix.subset hsample)).2
  case ordered => exact hordered
  case below =>
    intro sample hsample
    obtain ⟨number, hlt, hnumber⟩ := (addedSamples_fields (hsuffix.subset hsample)).1
    rw [hnumber, htracked.total]
    exact ofNat_lt_ofNat hlt hcalls
  case search => exact PCRTracker.searchSamples_iff hordered
  case bracketed =>
    intro packetNumber first last hfirst hlast hle hlt
    exact PCRTracker.exists_bracket hfirst hlast hle hlt

/-- Three packets of a PID with a PCR each. -/
def clockStream : List UInt8 :=
  [0x20, 0x21, 0x22].flatMap (fun control =>
    [0x47, 0x01, 0x00, control, 183, 0x10] ++ List.replicate 182 0)

/-- The query stores what is pending, so that `clearAll` has nothing to finalize. -/
def clockCalls : List Call := [.feedData clockStream, .getDiscoveredPIDs, .clearAll]

theorem clockStream_keepsHistory : ∃ tracker,
    (run {} clockCalls).pcrManager.getTracker 0x100 = some tracker ∧
      KeepsHistory 0x100 (processedPackets {} clockCalls) (run {} clockCalls).totalPacketsProcessed
        tracker := by
  have hsome : ((run {} clockCalls).pcrManager.getTracker 0x100).isSome = true := by decide +kernel
  obtain ⟨tracker, htracker⟩ := Option.isSome_iff_exists.mp hsome
  exact ⟨tracker, htracker, tracker_keepsHistory (by decide +kernel) htracker⟩

end MinimalMpegTS
