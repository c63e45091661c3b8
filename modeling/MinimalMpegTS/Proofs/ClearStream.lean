import MinimalMpegTS.Proofs.PacketLoss
import MinimalMpegTS.Proofs.Programs

/-!
# Clearing a stream

`clearStream` drops the stored iterations of a PID and keeps the pending one, which the next query
stores. In the runs that read no processed packet again, what is returned for the PID from then on comes
from packets that are new exactly if nothing was pending for it.
-/

namespace MinimalMpegTS

open MPEGTSDemuxer

/-! ### What the answers are made of -/

/-- The listed iteration is made of these packets. -/
structure ListedFrom (group : List TSPacket) (info : IterationInfo) : Prop where
  nonempty : group ≠ []
  packetCount : info.packetCount = group.length
  payloadNormalSize : info.payloadNormalSize =
    (group.flatMap (fun p => p.bytesOfType .payloadNormal)).length
  payloadPrivateSize : info.payloadPrivateSize =
    (group.flatMap (fun p => p.bytesOfType .payloadPrivate)).length

/-- What the queries return for the PID is made of these packets: the listed iterations, the
payloads, and the part of the program totals that the PID has. -/
structure OnlyFrom (packets : List TSPacket) (d : MPEGTSDemuxer) (pid : UInt16) : Prop where
  summary : ∃ groups : List (List TSPacket), groups.flatten.Sublist packets ∧
    List.Forall₂ ListedFrom groups (d.getIterationsSummary pid).2
  payloads : ∀ iterId, ∃ group : List TSPacket, group.Sublist packets ∧
    (d.getAllPayloads pid iterId).map (fun buffer => (buffer.type, buffer.bytes)) =
      group.flatMap TSPacket.pieces
  programs : ∀ program ∈ d.getPrograms.2, AddsUp d program

lemma segmentsSize_group (type : PayloadType) (group : List CountedPacket) :
    segmentsSize type (StreamIterations.copyIteration (iterationOf group)) =
      ((group.map Prod.snd).flatMap (fun p => p.bytesOfType type)).length := by
  rw [segmentsSize_iterationOf, ← List.length_flatMap, List.filter_flatMap, List.flatMap_assoc,
    List.flatMap_map]
  congr 1
  apply List.flatMap_congr
  intro x _
  exact x.2.pieces_bytesOfType type

lemma listedFrom_iterationInfo {group : List CountedPacket} (hgroup : group ≠ []) (iterId : UInt32) :
    ListedFrom (group.map Prod.snd)
      (iterationInfo iterId (StreamIterations.copyIteration (iterationOf group))) := by
  constructor
  · intro hnil
    exact hgroup (List.map_eq_nil_iff.mp hnil)
  · rw [List.length_map]
    exact packetCount_iterationOf group
  · exact segmentsSize_group .payloadNormal group
  · exact segmentsSize_group .payloadPrivate group

/-! ### Packets since the call -/

/-- The batches of the PID hold packets of this list. -/
def HoldsOnly (packets : List TSPacket) (pid : UInt16) (s : PacketState) : Prop :=
  ∃ u : Batches CountedPacket, StreamView.Represents u (s.view pid) ∧
    (u.items.map Prod.snd).Sublist (ownPackets pid packets)

namespace HoldsOnly

variable {packets : List TSPacket} {pid : UInt16} {s : PacketState}

lemma processPackets (h : HoldsOnly packets pid s) (more : List TSPacket) :
    HoldsOnly (packets ++ more) pid (s.processPackets more) := by
  obtain ⟨u, hu, hsub⟩ := h
  have hown : ownPackets pid (packets ++ more) = ownPackets pid packets ++ ownPackets pid more :=
    List.filter_append packets more
  unfold HoldsOnly
  rw [hown]
  cases hstores : s.stores pid with
  | false =>
    refine ⟨u, ?_, hsub.trans (List.sublist_append_left _ _)⟩
    have hview := PacketState.view_foldl_of_not_stores PacketState.processPacket_adds hstores more
    unfold PacketState.processPackets
    rwa [hview]
  | true =>
    refine ⟨_, PacketState.represents_foldl PacketState.processPacket_adds hstores hu more, ?_⟩
    rw [Batches.items_pushes, List.map_append, withLastCc_packets]
    exact hsub.append (List.Sublist.refl _)

lemma finalizeAll (h : HoldsOnly packets pid s) : HoldsOnly packets pid s.finalizeAllIterations := by
  obtain ⟨u, hu, hsub⟩ := h
  refine ⟨u.close, ?_, ?_⟩
  · rw [PacketState.view_finalizeAllIterations]
    exact StreamView.represents_finalize hu pid
  · rwa [Batches.items_close]

end HoldsOnly

/-- A run of data calls and queries adds the packets of the run. -/
theorem holdsOnly_run {d : MPEGTSDemuxer} {pid : UInt16} (h : HoldsOnly [] pid d.toPacketState)
    {calls : List Call} (hcalls : ∀ c ∈ calls, c.isFeedOrQuery = true) :
    HoldsOnly (d.processedPackets calls) pid (d.run calls).toPacketState := by
  apply packets_run (P := fun s l => HoldsOnly l pid s) _ _ h hcalls
  · intro s l more hs
    exact hs.processPackets more
  · intro s l hs
    exact hs.finalizeAll

lemma listing_represents {R : List TSPacket → IterationInfo → Prop}
    (h : ∀ group : List CountedPacket, group ≠ [] → ∀ iterId : UInt32,
      R (group.map Prod.snd) (iterationInfo iterId (StreamIterations.copyIteration (iterationOf group))))
    {d : MPEGTSDemuxer} {pid : UInt16} {u : Batches CountedPacket}
    (hu : StreamView.Represents u (d.view pid)) :
    List.Forall₂ R (u.close.closed.map (List.map Prod.snd)) (d.getIterationsSummary pid).2 := by
  have hstored := hu.iterationsOf_finalizeAll
  rw [eq_comm, ← List.forall₂_eq_eq_eq, List.forall₂_map_left_iff,
    List.forall₂_map_right_iff] at hstored
  rw [getIterationsSummary_eq, List.forall₂_map_left_iff, List.forall₂_map_right_iff]
  have hgroups := (List.forall₂_and_left _ _).mpr ⟨u.close.closed_ne, hstored⟩
  apply hgroups.imp
  rintro group entry ⟨hgroup, heq⟩
  rw [← heq]
  exact h group hgroup entry.1

lemma listedFrom_represents {d : MPEGTSDemuxer} {pid : UInt16} {u : Batches CountedPacket}
    (hu : StreamView.Represents u (d.view pid)) :
    List.Forall₂ ListedFrom (u.close.closed.map (List.map Prod.snd))
      (d.getIterationsSummary pid).2 :=
  listing_represents (fun _ hgroup iterId => listedFrom_iterationInfo hgroup iterId) hu

lemma payloads_represents {d : MPEGTSDemuxer} {pid : UInt16} {u : Batches CountedPacket}
    (hu : StreamView.Represents u (d.view pid)) (iterId : UInt32) :
    ∃ group : List TSPacket, group.Sublist (u.items.map Prod.snd) ∧
      (d.getAllPayloads pid iterId).map (fun buffer => (buffer.type, buffer.bytes)) =
        group.flatMap TSPacket.pieces := by
  unfold getAllPayloads
  cases hfind : d.findIteration pid iterId with
  | none => exact ⟨[], List.nil_sublist _, rfl⟩
  | some it =>
    have hmem : it ∈ (d.view pid).stored.map Prod.snd :=
      List.mem_map_of_mem (mem_iterationsOf_of_findIteration hfind)
    rw [hu.stored] at hmem
    obtain ⟨group, hgroup, rfl⟩ := List.mem_map.mp hmem
    have hitems : group.Sublist u.items :=
      (List.sublist_flatten_of_mem hgroup).trans (List.sublist_append_left _ _)
    refine ⟨group.map Prod.snd, hitems.map Prod.snd, ?_⟩
    rw [List.flatMap_map]
    exact readBack_laid (laid_iterationOf group)

/-- When the batches hold packets of the list only, so do the answers. -/
theorem onlyFrom_of_holdsOnly {packets : List TSPacket} {d : MPEGTSDemuxer} {pid : UInt16}
    (h : HoldsOnly packets pid d.toPacketState) : OnlyFrom (ownPackets pid packets) d pid := by
  obtain ⟨u, hu, hsub⟩ := h
  constructor
  · refine ⟨_, ?_, listedFrom_represents hu⟩
    rwa [← List.map_flatten, Batches.flatten_closed_close]
  · intro iterId
    obtain ⟨group, hgroup, hpieces⟩ := payloads_represents hu iterId
    exact ⟨group, hgroup.trans hsub, hpieces⟩
  · exact addsUp_getPrograms d

/-! ### The call -/

lemma summary_of_onlyFrom_nil {d : MPEGTSDemuxer} {pid : UInt16} (h : OnlyFrom [] d pid) :
    (d.getIterationsSummary pid).2 = [] := by
  obtain ⟨groups, hflat, hlisted⟩ := h.summary
  rw [List.sublist_nil] at hflat
  generalize (d.getIterationsSummary pid).2 = infos at hlisted ⊢
  cases hlisted with
  | nil => rfl
  | cons hfirst _ =>
    rw [List.flatten_cons, List.append_eq_nil_iff] at hflat
    exact absurd hflat.1 hfirst.nonempty

lemma summary_of_pending {d : MPEGTSDemuxer} {pid : UInt16} {it : IterationData}
    (h : (d.view pid).pending = some it) : (d.getIterationsSummary pid).2 ≠ [] := by
  have hstored : d.finalized.storage.iterationsOf pid = ((d.view pid).finalize pid).stored :=
    PacketState.iterationsOf_finalizeAllIterations d.toPacketState pid
  rw [getIterationsSummary_eq, hstored, StreamView.stored_finalize, h]
  simp

/-- In the runs that read no processed packet again, clearing a stream is final exactly if no iteration
of the PID is pending: what is returned is made of packets in windows apart from all those processed
before. -/
theorem clearStream_final_iff (before : List Call) (pid : UInt16) :
    (∀ calls : List Call, (∀ c ∈ calls, c.isFeedOrQuery = true) →
      RereadsNothing (before ++ [.clearStream pid]) calls →
      OnlyFrom (ownPackets pid (newPackets (before ++ [.clearStream pid]) calls))
        (((run {} before).clearStream pid).run calls) pid) ↔
      (run {} before).currentIterations.lookup pid = none := by
  have hclear : run {} (before ++ [.clearStream pid]) = (run {} before).clearStream pid :=
    Transducer.final_append call {} before [.clearStream pid]
  set d := run {} before
  have hview : (d.clearStream pid).view pid =
      { d.view pid with stream := (d.view pid).stream.map StreamIterations.clear } := by
    rw [PacketState.view_clearStream, Function.update_self]
  have hpending : ((d.clearStream pid).view pid).pending = d.currentIterations.lookup pid := by
    rw [hview]
    rfl
  constructor
  · intro h
    by_contra hne
    obtain ⟨it, hit⟩ := Option.ne_none_iff_exists'.mp hne
    rw [hit] at hpending
    exact summary_of_pending hpending (summary_of_onlyFrom_nil (h [] (by simp) trivial))
  · intro hnone calls hcalls hreads
    rw [newPackets_eq hreads, hclear]
    apply onlyFrom_of_holdsOnly
    apply holdsOnly_run _ hcalls
    refine ⟨Batches.empty, ⟨?_, ?_⟩, List.nil_sublist _⟩
    · rw [hview]
      unfold StreamView.stored
      cases (d.view pid).stream with
      | none => rfl
      | some stream => rfl
    · rw [hpending, hnone]
      rfl

/-- Three packets of the PID are pending when the stream is cleared, and the next query lists
them. -/
theorem pending_survives_clearStream :
    ¬∀ calls : List Call, (∀ c ∈ calls, c.isFeedOrQuery = true) →
      OnlyFrom (ownPackets 0x100 (newPackets [.feedData threePackets, .clearStream 0x100] calls))
        (((run {} [.feedData threePackets]).clearStream 0x100).run calls) 0x100 := by
  intro h
  have hlisted : ((((run {} [.feedData threePackets]).clearStream 0x100).getIterationsSummary
      0x100).2.map IterationInfo.packetCount) = [3] := by decide +kernel
  have hsummary : (((run {} [.feedData threePackets]).clearStream 0x100).getIterationsSummary
      0x100).2 = [] := summary_of_onlyFrom_nil (h [] (by simp))
  rw [hsummary] at hlisted
  cases hlisted

/-- Nothing is pending when the stream is cleared, but the three packets are still in the buffer: they
are read again and listed. -/
theorem reread_survives_clearStream :
    ¬OnlyFrom (ownPackets 0x100 (newPackets [.feedData (threePackets ++ List.replicate 188 0),
        .getDiscoveredPIDs, .clearStream 0x100] [.feedData [0]]))
      (((run {} [.feedData (threePackets ++ List.replicate 188 0), .getDiscoveredPIDs]).clearStream
        0x100).run [.feedData [0]]) 0x100 := by
  intro h
  have hnil : ownPackets 0x100 (newPackets [.feedData (threePackets ++ List.replicate 188 0),
      .getDiscoveredPIDs, .clearStream 0x100] [.feedData [0]]) = [] := by
    decide +kernel
  rw [hnil] at h
  have hlength := congrArg List.length (summary_of_onlyFrom_nil h)
  revert hlength
  decide +kernel

end MinimalMpegTS
