import MinimalMpegTS.Proofs.Identifiers
import MinimalMpegTS.Proofs.Iterations
import MinimalMpegTS.Proofs.Packets

/-!
# Grouping packets into iterations

The packets of a PID are cut before every packet with PUSI set, and each group becomes one
stored iteration. `grouping_exact` states this for any interleaving of PIDs.
-/

namespace MinimalMpegTS

/-- The packets of a PID, cut before every one but the first that has PUSI set. Each of them has
the counter of the packet of the PID before it. -/
def groupsOf (pid : UInt16) (packets : List TSPacket) : List (List CountedPacket) :=
  (withLastCc none (packets.filter (fun p => p.header.pid = pid))).splitBy
    (fun _ x => !startsUnit x)

/-- The packet carries the discontinuity indicator and a counter different from the successor of
the last counter of its PID. -/
def CarriesDiscontinuity (x : CountedPacket) : Prop :=
  (∃ adapt, x.2.getAdaptationField = some adapt ∧ adapt.discontinuityIndicator = true) ∧
    ∃ last, x.1 = some last ∧ x.2.header.continuityCounter ≠ (last + 1) % 16

/-- What the iteration of a group holds. -/
structure IterationOfGroup (group : List CountedPacket) (it : IterationData) : Prop where
  packetCount : it.packetCount = group.length
  firstCc : group.head?.map (fun x => x.2.header.continuityCounter) = some it.firstCc
  lastCc : group.getLast?.map (fun x => x.2.header.continuityCounter) = some it.lastCc
  payloadUnitStartSeen : it.payloadUnitStartSeen = group.any startsUnit
  payloadData : it.payloadData = group.flatMap (fun x => x.2.privateBytes ++ x.2.payloadBytes)
  discontinuityDetected : it.discontinuityDetected = true ↔ ∃ x ∈ group, CarriesDiscontinuity x

lemma announcedDiscontinuity_iff (x : CountedPacket) :
    announcedDiscontinuity x.1 x.2 = true ↔ CarriesDiscontinuity x := by
  unfold announcedDiscontinuity CarriesDiscontinuity
  cases hlast : x.1 with
  | none => simp
  | some last =>
    cases hadapt : x.2.getAdaptationField with
    | none => simp
    | some adapt =>
      simp only [Bool.and_eq_true, bne_iff_ne, Option.some.injEq, exists_eq_left']
      exact and_comm

lemma any_startsUnit {x : CountedPacket} {rest : List CountedPacket}
    (h : (x :: rest).IsChain (fun _ y => (!startsUnit y) = true)) :
    (x :: rest).any startsUnit = startsUnit x := by
  induction rest generalizing x with
  | nil => simp
  | cons y rest ih =>
    rw [List.isChain_cons_cons] at h
    have hy : startsUnit y = false := by simpa using h.1
    rw [List.any_cons, ih h.2, hy, Bool.or_false]

lemma iterationOfGroup {g : List CountedPacket} (hne : g ≠ [])
    (hchain : g.IsChain (fun _ y => (!startsUnit y) = true)) :
    IterationOfGroup g (StreamIterations.copyIteration (iterationOf g)) := by
  obtain ⟨x, rest, rfl⟩ := List.exists_cons_of_ne_nil hne
  refine ⟨packetCount_iterationOf _, ?_, ?_, ?_, payloadData_iterationOf _, ?_⟩
  · rw [iterationOf_cons]
    rfl
  · rw [iterationOf_cons, List.getLast?_eq_getLast_of_ne_nil hne]
    rfl
  · rw [any_startsUnit hchain, iterationOf_cons]
    rfl
  · have hd : (StreamIterations.copyIteration (iterationOf (x :: rest))).discontinuityDetected =
        (x :: rest).any (fun y => announcedDiscontinuity y.1 y.2) := by
      rw [iterationOf_cons]
      rfl
    rw [hd, List.any_eq_true]
    constructor
    · rintro ⟨y, hy, hann⟩
      exact ⟨y, hy, (announcedDiscontinuity_iff y).mp hann⟩
    · rintro ⟨y, hy, hann⟩
      exact ⟨y, hy, (announcedDiscontinuity_iff y).mpr hann⟩

/-! ### All stored iterations -/

lemma allIterations_eq (storage : DemuxerStreamStorage) :
    storage.allIterations =
      (storage.streams.keys.insertionSort (· ≤ ·)).flatMap storage.iterationsOf := by
  unfold DemuxerStreamStorage.allIterations DemuxerStreamStorage.getAllStreams PidMap.sortedEntries
  induction storage.streams.keys.insertionSort (· ≤ ·) with
  | nil => rfl
  | cons k keys ih =>
    rw [List.flatMap_cons, ← ih, List.filterMap_cons]
    unfold DemuxerStreamStorage.iterationsOf DemuxerStreamStorage.getStream
    cases storage.streams.lookup k with
    | none => rfl
    | some stream => rfl

lemma iterationsOf_of_not_mem {storage : DemuxerStreamStorage} {pid : UInt16}
    (h : pid ∉ storage.streams.keys.insertionSort (· ≤ ·)) : storage.iterationsOf pid = [] := by
  rw [List.mem_insertionSort, ← AList.mem_keys] at h
  unfold DemuxerStreamStorage.iterationsOf DemuxerStreamStorage.getStream
  rw [AList.lookup_eq_none.mpr h]

namespace Numbered

variable {s : PacketState} {count : Nat} {numbers : UInt16 → List Nat}

lemma allIterations_nodup (h : Numbered s count numbers) (hcount : count ≤ 2 ^ 32) :
    (s.storage.allIterations.map Prod.fst).Nodup := by
  rw [allIterations_eq, List.map_flatMap, List.nodup_flatMap]
  have hsub : ∀ pid, ((s.storage.iterationsOf pid).map Prod.fst).Sublist (s.view pid).ids :=
    fun pid => List.sublist_append_left _ _
  refine ⟨?_, ?_⟩
  · intro pid _
    exact (h.ids_nodup hcount pid).sublist (hsub pid)
  · have hkeys : (s.storage.streams.keys.insertionSort (· ≤ ·)).Nodup :=
      (List.perm_insertionSort _ _).nodup_iff.mpr s.storage.streams.keys_nodup
    refine hkeys.imp ?_
    intro p q hpq a ha hb
    exact h.ids_disjoint hcount hpq ((hsub p).subset ha) ((hsub q).subset hb)

lemma count_le_allIterations (h : Numbered s count numbers)
    (hnone : ∀ pid, (s.view pid).pending = none) (hcover : ∀ n < count, ∃ pid, n ∈ numbers pid) :
    count ≤ s.storage.allIterations.length := by
  set keys := s.storage.streams.keys.insertionSort (· ≤ ·) with hkeys
  have hlength : ∀ pid, (numbers pid).length = (s.storage.iterationsOf pid).length := by
    intro pid
    have hids := h.ids pid
    rw [StreamView.ids_of_pending_none (hnone pid)] at hids
    simpa using (congrArg List.length hids).symm
  have hsub : List.range count ⊆ keys.flatMap numbers := by
    intro n hn
    obtain ⟨pid, hpid⟩ := hcover n (List.mem_range.mp hn)
    rw [List.mem_flatMap]
    refine ⟨pid, ?_, hpid⟩
    by_contra hnot
    have hempty := hlength pid
    rw [iterationsOf_of_not_mem hnot, List.length_nil, List.length_eq_zero_iff] at hempty
    rw [hempty] at hpid
    exact List.not_mem_nil hpid
  have hle := (List.nodup_range.subperm hsub).length_le
  rw [List.length_range, List.length_flatMap] at hle
  rw [allIterations_eq, List.length_flatMap, ← hkeys]
  simpa only [hlength] using hle

end Numbered

/-! ### Adding a sequence of packets -/

lemma numbered_addPackets (packets : List TSPacket) :
    ∃ count numbers, Numbered (packets.foldl PacketState.addPacketToStorage {}) count numbers ∧
      ∀ n < count, ∃ pid, n ∈ numbers pid := by
  induction packets using List.reverseRecOn with
  | nil => exact ⟨0, fun _ => [], Numbered.empty, by simp⟩
  | append_singleton packets packet ih =>
    obtain ⟨count, numbers, hnum, hcover⟩ := ih
    have hstep := hnum.addPacket (PacketState.addPacketToStorage_adds _ packet)
    rw [List.foldl_append, List.foldl_cons, List.foldl_nil]
    split at hstep
    · refine ⟨_, _, hstep, ?_⟩
      intro n hn
      rcases Nat.lt_succ_iff_lt_or_eq.mp hn with hlt | heq
      · obtain ⟨pid, hpid⟩ := hcover n hlt
        refine ⟨pid, ?_⟩
        by_cases hp : pid = packet.header.pid
        · subst hp
          rw [Function.update_self]
          exact List.mem_append_left _ hpid
        · rw [Function.update_of_ne hp]
          exact hpid
      · refine ⟨packet.header.pid, ?_⟩
        rw [Function.update_self, heq]
        exact List.mem_append_right _ List.mem_cons_self
    · exact ⟨_, _, hstep, hcover⟩

lemma iterationsOf_addPackets {pid : UInt16} (hpid : isSystemPID pid = false)
    (packets : List TSPacket) :
    ((packets.foldl PacketState.addPacketToStorage {}).finalizeAllIterations.storage.iterationsOf
      pid).map Prod.snd =
        (groupsOf pid packets).map (fun g => StreamIterations.copyIteration (iterationOf g)) := by
  have hstores : PacketState.stores {} pid = true := by
    unfold PacketState.stores
    simp [hpid]
  have hrep := PacketState.represents_foldl PacketState.addPacketToStorage_adds hstores
    StreamView.represents_empty packets
  rw [hrep.iterationsOf_finalizeAll, Batches.closed_pushes]
  rfl

/-- For any interleaving of PIDs, the stored iterations of a PID are its packets cut before every
packet with PUSI set, system PIDs are absent, and the ids are distinct until the counter wraps. -/
theorem grouping_exact (packets : List TSPacket) :
    let storage := (packets.foldl PacketState.addPacketToStorage {}).finalizeAllIterations.storage
    (∀ pid, isSystemPID pid = false →
      List.Forall₂ (fun group entry => IterationOfGroup group entry.2) (groupsOf pid packets)
        (storage.iterationsOf pid)) ∧
    (∀ pid, isSystemPID pid = true → storage.getStream pid = none) ∧
    (storage.allIterations.length < 2 ^ 32 →
      (storage.allIterations.map Prod.fst).Nodup ∧
      ∀ pid, ((storage.iterationsOf pid).map Prod.fst).Pairwise (· < ·)) := by
  intro storage
  refine ⟨?_, ?_, ?_⟩
  · intro pid hpid
    have hiter := iterationsOf_addPackets hpid packets
    have hgroups : List.Forall₂ (fun group it => IterationOfGroup group it) (groupsOf pid packets)
        ((storage.iterationsOf pid).map Prod.snd) := by
      rw [hiter, List.forall₂_map_right_iff, List.forall₂_same]
      intro g hg
      have hcut : (withLastCc none (packets.filter (fun p => p.header.pid = pid))).splitBy
          (fun _ x => !startsUnit x) = groupsOf pid packets := rfl
      obtain ⟨_, hne, hchain, _⟩ := List.splitBy_eq_iff.mp hcut
      exact iterationOfGroup (fun h => hne (h ▸ hg)) (hchain g hg)
    exact (List.forall₂_map_right_iff).mp hgroups
  · intro pid hpid
    have hstores : PacketState.stores {} pid = false := by
      unfold PacketState.stores
      simp [hpid]
    have hview := PacketState.view_foldl_of_not_stores PacketState.addPacketToStorage_adds hstores
      packets
    have hfin := PacketState.view_finalizeAllIterations
      (packets.foldl PacketState.addPacketToStorage {}) pid
    rw [hview] at hfin
    exact congrArg StreamView.stream hfin
  · intro hcount
    obtain ⟨count, numbers, hnum, hcover⟩ := numbered_addPackets packets
    have hfin := hnum.finalizeAll
    have hnone : ∀ pid, ((packets.foldl PacketState.addPacketToStorage {}).finalizeAllIterations.view
        pid).pending = none := by
      intro pid
      rw [PacketState.view_finalizeAllIterations, StreamView.pending_finalize]
    have hle := hfin.count_le_allIterations hnone hcover
    have hlt : count < 2 ^ 32 := lt_of_le_of_lt hle hcount
    refine ⟨hfin.allIterations_nodup hlt.le, ?_⟩
    intro pid
    exact (hfin.ids_increasing hlt pid).sublist (List.sublist_append_left _ _)

/-- Two PIDs interleaved. -/
def samplePackets : List TSPacket :=
  [plainTSPacket 0x100 0 true (List.replicate 184 0xAA), plainTSPacket 0x101 7 true (List.replicate 184 0xBB),
    plainTSPacket 0x100 1 false (List.replicate 184 0xCC), plainTSPacket 0x100 2 true (List.replicate 184 0xDD)]

theorem grouping_exact_sample :
    let storage :=
      (samplePackets.foldl PacketState.addPacketToStorage {}).finalizeAllIterations.storage
    List.Forall₂ (fun group entry => IterationOfGroup group entry.2) (groupsOf 0x100 samplePackets)
        (storage.iterationsOf 0x100) ∧
      storage.getStream pidPat = none ∧ (storage.allIterations.map Prod.fst).Nodup ∧
      ((storage.iterationsOf 0x100).map Prod.fst).Pairwise (· < ·) := by
  obtain ⟨hgroups, hsystem, hids⟩ := grouping_exact samplePackets
  obtain ⟨hnodup, hincreasing⟩ := hids (by decide)
  exact ⟨hgroups 0x100 (by decide), hsystem pidPat (by decide), hnodup, hincreasing 0x100⟩

end MinimalMpegTS
