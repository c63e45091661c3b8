import MinimalMpegTS.Proofs.Calls
import MinimalMpegTS.Proofs.Iterations
import MinimalMpegTS.Proofs.Packets
import MinimalMpegTS.Proofs.UniqueIds

/-!
# Queries between data calls

The queries that list iterations finalize the pending ones first. A run with queries is compared
with the run of its data calls alone: a query in the middle of a unit cuts the iteration of the
unit in two, and apart from such cuts the iterations are the same.
-/

namespace MinimalMpegTS

open MPEGTSDemuxer

lemma call_of_isListing {c : Call} (h : c.isListing = true) (d : MPEGTSDemuxer) :
    (d.call c).1 = d.finalized ∧ d.callTrace c = [] := by
  cases c with
  | getPrograms => exact ⟨rfl, rfl⟩
  | getDiscoveredPIDs => exact ⟨rfl, rfl⟩
  | getIterationsSummary pid => exact ⟨rfl, rfl⟩
  | _ => cases h

lemma isFeedOrQuery_of_listing {c : Call} (h : (c.isFeed || c.isListing) = true) :
    c.isFeedOrQuery = true := by
  cases c <;> first | rfl | cases h

/-! ### Iterations cut by queries -/

/-- Two states that went through the same packets; the first one was finalized more often. -/
structure SameUnits (s t : PacketState) : Prop where
  stores : s.stores = t.stores
  views : ∀ pid, ∃ u v : Batches CountedPacket, StreamView.Represents u (s.view pid) ∧
    StreamView.Represents v (t.view pid) ∧ Batches.Related u v ∧
    (s.view pid).lastCc = (t.view pid).lastCc

namespace SameUnits

variable {s t : PacketState}

lemma processPacket (h : SameUnits s t) (packet : TSPacket) :
    SameUnits (s.processPacket packet) (t.processPacket packet) := by
  have hs := PacketState.processPacket_adds s packet
  have ht := PacketState.processPacket_adds t packet
  refine ⟨?_, ?_⟩
  · rw [hs.stores, ht.stores, h.stores]
  · intro pid
    obtain ⟨u, v, hu, hv, hrel, hcc⟩ := h.views pid
    rw [hs.view, ht.view, ← h.stores]
    split
    · by_cases hpid : pid = packet.header.pid
      · subst hpid
        rw [Function.update_self, Function.update_self]
        refine ⟨_, _, StreamView.represents_add hu _ packet, StreamView.represents_add hv _ packet,
          ?_, ?_⟩
        · rw [hcc]
          exact Batches.related_push startsUnit hrel _
        · rw [StreamView.lastCc_add, StreamView.lastCc_add]
      · rw [Function.update_of_ne hpid, Function.update_of_ne hpid]
        exact ⟨u, v, hu, hv, hrel, hcc⟩
    · exact ⟨u, v, hu, hv, hrel, hcc⟩

lemma processPackets (h : SameUnits s t) (packets : List TSPacket) :
    SameUnits (s.processPackets packets) (t.processPackets packets) := by
  induction packets generalizing s t with
  | nil => exact h
  | cons packet packets ih => exact ih (h.processPacket packet)

lemma finalizeLeft (h : SameUnits s t) : SameUnits s.finalizeAllIterations t := by
  have hsame := PacketState.finalizeAllIterations_sameTables s
  refine ⟨?_, ?_⟩
  · rw [← h.stores]
    funext pid
    unfold PacketState.stores
    rw [hsame.programsTableAvailable, hsame.knownProgramPids]
  · intro pid
    obtain ⟨u, v, hu, hv, hrel, hcc⟩ := h.views pid
    rw [PacketState.view_finalizeAllIterations, StreamView.lastCc_finalize]
    exact ⟨_, v, StreamView.represents_finalize hu pid, hv, Batches.related_close_left hrel, hcc⟩

end SameUnits

lemma sameUnits_run {calls : List Call} (hcalls : ∀ c ∈ calls, c.isFeed || c.isListing) :
    SameUnits (run {} calls).toPacketState (run {} (calls.filter Call.isFeed)).toPacketState := by
  have hsim := Transducer.filter_simulation call Call.isFeed
    (fun d e rest => d.toInputState = e.toInputState ∧
      SameUnits d.toPacketState e.toPacketState ∧ ∀ c ∈ rest, c.isFeed || c.isListing)
    ?_ ?_ (s := {}) (t := {}) ⟨rfl, ⟨rfl, ?_⟩, hcalls⟩
  · exact hsim.2.1
  · rintro d e c rest hc ⟨hinput, hunits, hrest⟩
    obtain ⟨data, rfl⟩ := feedData_of_isFeed hc
    refine ⟨?_, ?_, fun c hc => hrest c (List.mem_cons_of_mem _ hc)⟩
    · show (d.feedData data).toInputState = (e.feedData data).toInputState
      rw [feedData_eq, feedData_eq, hinput]
    · show SameUnits (d.feedData data).toPacketState (e.feedData data).toPacketState
      rw [toPacketState_feedData, toPacketState_feedData, hinput]
      exact hunits.processPackets _
  · rintro d e c rest hc ⟨hinput, hunits, hrest⟩
    have hlisting : c.isListing = true := by
      have hor := hrest c List.mem_cons_self
      rwa [hc, Bool.false_or] at hor
    rw [(call_of_isListing hlisting d).1]
    exact ⟨hinput, hunits.finalizeLeft, fun c hc => hrest c (List.mem_cons_of_mem _ hc)⟩
  · intro pid
    exact ⟨Batches.empty, Batches.empty, StreamView.represents_empty, StreamView.represents_empty,
      Batches.related_refl _, rfl⟩

/-! ### Summaries -/

/-- The listed iterations of a PID without their ids. -/
def summaryOf (d : MPEGTSDemuxer) (pid : UInt16) : List IterationInfo :=
  (d.getIterationsSummary pid).2.map (fun info => { info with iterationId := 0 })

/-- The iteration `info` is what the iterations `infos` are together. -/
structure Merges (infos : List IterationInfo) (info : IterationInfo) : Prop where
  nonempty : infos ≠ []
  packetCount : info.packetCount = (infos.map IterationInfo.packetCount).sum
  payloadNormalSize : info.payloadNormalSize = (infos.map IterationInfo.payloadNormalSize).sum
  payloadPrivateSize : info.payloadPrivateSize = (infos.map IterationInfo.payloadPrivateSize).sum
  ccStart : infos.head?.map IterationInfo.ccStart = some info.ccStart
  ccEnd : infos.getLast?.map IterationInfo.ccEnd = some info.ccEnd

/-- The listing of the iteration of a group. -/
def groupInfo (group : List CountedPacket) : IterationInfo :=
  iterationInfo 0 (StreamIterations.copyIteration (iterationOf group))

lemma summaryOf_represents {d : MPEGTSDemuxer} {pid : UInt16} {u : Batches CountedPacket}
    (h : StreamView.Represents u (d.view pid)) :
    summaryOf d pid = u.close.closed.map groupInfo := by
  have hfin := h.iterationsOf_finalizeAll
  have hmap := congrArg (List.map (iterationInfo 0)) hfin
  unfold summaryOf
  rw [getIterationsSummary_eq]
  rw [List.map_map, List.map_map] at hmap
  rw [List.map_map]
  exact hmap

lemma layout_types (offset : Nat) (pieces : List (PayloadType × List UInt8)) (type : PayloadType) :
    (((layout offset pieces).filter (fun segment => segment.type = type)).map
        PayloadSegment.length).sum =
      ((pieces.filter (fun piece => piece.1 = type)).map (fun piece => piece.2.length)).sum := by
  induction pieces generalizing offset with
  | nil => rfl
  | cons piece pieces ih =>
    rw [layout]
    by_cases htype : piece.1 = type
    · rw [List.filter_cons_of_pos (by simpa using htype), List.filter_cons_of_pos (by simpa using htype),
        List.map_cons, List.map_cons, List.sum_cons, List.sum_cons, ih]
    · rw [List.filter_cons_of_neg (by simpa using htype), List.filter_cons_of_neg (by simpa using htype),
        ih]

lemma segmentsSize_iterationOf (type : PayloadType) (g : List CountedPacket) :
    segmentsSize type (StreamIterations.copyIteration (iterationOf g)) =
      (((g.flatMap (fun x => x.2.pieces)).filter (fun piece => piece.1 = type)).map
        (fun piece => piece.2.length)).sum := by
  have hfix : ∀ (n : Nat) (segment : PayloadSegment),
      (StreamIterations.fixSegment n segment).type = segment.type ∧
        (StreamIterations.fixSegment n segment).length = segment.length := by
    intro n segment
    unfold StreamIterations.fixSegment
    split
    · exact ⟨rfl, rfl⟩
    · exact ⟨rfl, rfl⟩
  have hlength : ∀ n, PayloadSegment.length ∘ StreamIterations.fixSegment n =
      PayloadSegment.length := by
    intro n
    funext segment
    exact (hfix n segment).2
  rw [← layout_types 0, ← (laid_iterationOf g).payloads]
  unfold segmentsSize StreamIterations.copyIteration
  dsimp only
  rw [List.filter_map, List.map_map, hlength]
  congr 3
  funext segment
  simp only [Function.comp_apply, (hfix _ segment).1]

lemma segmentsSize_flatten (type : PayloadType) (part : List (List CountedPacket)) :
    segmentsSize type (StreamIterations.copyIteration (iterationOf part.flatten)) =
      (part.map (fun g => segmentsSize type (StreamIterations.copyIteration (iterationOf g)))).sum := by
  simp only [segmentsSize_iterationOf]
  induction part with
  | nil => rfl
  | cons g part ih =>
    rw [List.flatten_cons, List.flatMap_append, List.filter_append, List.map_append,
      List.sum_append, ih, List.map_cons, List.sum_cons]

lemma ccStart_groupInfo (g : List CountedPacket) (hg : g ≠ []) :
    some (groupInfo g).ccStart = g.head?.map (fun x => x.2.header.continuityCounter) := by
  obtain ⟨x, rest, rfl⟩ := List.exists_cons_of_ne_nil hg
  unfold groupInfo
  rw [iterationOf_cons]
  rfl

lemma ccEnd_groupInfo (g : List CountedPacket) (hg : g ≠ []) :
    some (groupInfo g).ccEnd = g.getLast?.map (fun x => x.2.header.continuityCounter) := by
  obtain ⟨x, rest, rfl⟩ := List.exists_cons_of_ne_nil hg
  rw [List.getLast?_eq_getLast_of_ne_nil hg]
  unfold groupInfo
  rw [iterationOf_cons]
  rfl

/-- The iteration of several groups put together merges the iterations of these groups. -/
theorem merges_groups {part : List (List CountedPacket)} (hpart : part ≠ [])
    (hgroups : ∀ g ∈ part, g ≠ []) : Merges (part.map groupInfo) (groupInfo part.flatten) := by
  obtain ⟨first, rest, rfl⟩ := List.exists_cons_of_ne_nil hpart
  have hfirst := hgroups first List.mem_cons_self
  have hflat : (first :: rest).flatten ≠ [] := by
    rw [List.flatten_cons]
    exact List.append_ne_nil_of_left_ne_nil hfirst _
  refine ⟨by simp, ?_, ?_, ?_, ?_, ?_⟩
  · have hcount : ∀ g, (groupInfo g).packetCount = g.length := packetCount_iterationOf
    rw [hcount, List.length_flatten, List.map_map]
    congr 1
    apply List.map_congr_left
    intro g _
    exact (hcount g).symm
  · rw [List.map_map]
    exact segmentsSize_flatten .payloadNormal _
  · rw [List.map_map]
    exact segmentsSize_flatten .payloadPrivate _
  · rw [ccStart_groupInfo _ hflat, List.flatten_cons, List.head?_append_of_ne_nil _ hfirst,
      List.map_cons, List.head?_cons, Option.map_some, ccStart_groupInfo _ hfirst]
  · have hlast := List.getLast_mem (List.cons_ne_nil first rest)
    have hne := hgroups _ hlast
    rw [ccEnd_groupInfo _ hflat]
    conv_rhs => rw [← List.dropLast_append_getLast (List.cons_ne_nil first rest)]
    rw [List.flatten_append, List.flatten_singleton, List.getLast?_append_of_ne_nil _ hne,
      List.getLast?_map, List.getLast?_eq_getLast_of_ne_nil (List.cons_ne_nil first rest),
      Option.map_some, Option.map_some, ccEnd_groupInfo _ hne]

lemma summaries_merge {s t : MPEGTSDemuxer} (h : SameUnits s.toPacketState t.toPacketState)
    (pid : UInt16) : ∃ parts : List (List IterationInfo), parts.flatten = summaryOf s pid ∧
      List.Forall₂ Merges parts (summaryOf t pid) := by
  obtain ⟨u, v, hu, hv, hrel, _⟩ := h.views pid
  obtain ⟨parts, hne, hflat, hmap⟩ := Batches.refines_of_related hrel
  refine ⟨parts.map (List.map groupInfo), ?_, ?_⟩
  · rw [← List.map_flatten, hflat, summaryOf_represents hu]
  · rw [summaryOf_represents hv, ← hmap, List.map_map, List.forall₂_map_left_iff,
      List.forall₂_map_right_iff, List.forall₂_same]
    intro part hpart
    refine merges_groups (hne part hpart) ?_
    intro g hg
    apply u.close.closed_ne g
    rw [← hflat]
    exact List.mem_flatten_of_mem hpart hg

/-! ### Queries between units -/

/-- No query of the run falls inside a unit: the next packet of a PID with a pending iteration
has PUSI set. -/
def QueriesBetweenUnits : MPEGTSDemuxer → List Call → Prop
  | _, [] => True
  | d, c :: rest =>
    (c.isFeed = false → ∀ pid packet, (d.view pid).pending ≠ none →
      (processedPackets (d.call c).1 rest).find? (fun p => p.header.pid = pid) = some packet →
      packet.header.payloadUnitStart = true) ∧
    QueriesBetweenUnits (d.call c).1 rest

/-- Two states that differ in the finalization of units that are over. -/
structure UnitsOver (s t : PacketState) (packets : List TSPacket) : Prop where
  stores : s.stores = t.stores
  next : s.storage.nextIterationId = t.storage.nextIterationId
  views : ∀ pid, s.view pid = t.view pid ∨ (s.view pid = (t.view pid).finalize pid ∧
    (s.stores pid = true → ∀ packet, packets.find? (fun p => p.header.pid = pid) = some packet →
      packet.header.payloadUnitStart = true))

lemma add_finalize (v : StreamView) (iterId : UInt32) {packet : TSPacket}
    (h : packet.header.payloadUnitStart = true) :
    (v.finalize packet.header.pid).add iterId packet = v.add iterId packet := by
  have hstart : ∀ w : StreamView, w.starts packet.header = true := by
    intro w
    unfold StreamView.starts
    rw [h, Bool.or_true]
  unfold StreamView.add
  rw [if_pos (hstart _), if_pos (hstart _)]
  unfold StreamView.startNew
  rw [StreamView.finalize_finalize]

namespace UnitsOver

variable {s t : PacketState} {packets : List TSPacket}

lemma processPacket {packet : TSPacket} (h : UnitsOver s t (packet :: packets)) :
    UnitsOver (s.processPacket packet) (t.processPacket packet) packets := by
  have hs := PacketState.processPacket_adds s packet
  have ht := PacketState.processPacket_adds t packet
  have hpusi : s.stores packet.header.pid = true →
      s.view packet.header.pid = t.view packet.header.pid ∨
        (s.view packet.header.pid = (t.view packet.header.pid).finalize packet.header.pid ∧
          packet.header.payloadUnitStart = true) := by
    intro hstores
    rcases h.views packet.header.pid with heq | ⟨heq, hnext⟩
    · exact .inl heq
    · exact .inr ⟨heq, hnext hstores packet (List.find?_cons_of_pos (by simp))⟩
  refine ⟨?_, ?_, ?_⟩
  · rw [hs.stores, ht.stores, h.stores]
  · have hstarts : s.stores packet.header.pid = true →
        s.startsIteration packet.header = t.startsIteration packet.header := by
      intro hstores
      rw [PacketState.startsIteration_eq, PacketState.startsIteration_eq]
      rcases hpusi hstores with heq | ⟨_, hp⟩
      · rw [heq]
      · unfold StreamView.starts
        rw [hp, Bool.or_true, Bool.or_true]
    rw [hs.nextIterationId, ht.nextIterationId, h.next, ← h.stores]
    cases hstores : s.stores packet.header.pid with
    | false => rfl
    | true => rw [hstarts hstores]
  · intro pid
    rw [hs.view, ht.view, hs.stores, ← h.stores]
    by_cases hpid : pid = packet.header.pid
    · subst hpid
      by_cases hstores : s.stores packet.header.pid = true
      · left
        rw [if_pos hstores, if_pos hstores, Function.update_self, Function.update_self, h.next]
        rcases hpusi hstores with heq | ⟨heq, hp⟩
        · rw [heq]
        · rw [heq, add_finalize _ _ hp]
      · rw [if_neg hstores, if_neg hstores]
        rcases h.views packet.header.pid with heq | ⟨heq, _⟩
        · exact .inl heq
        · exact .inr ⟨heq, fun hc => absurd hc hstores⟩
    · have hfind : (packet :: packets).find? (fun p => p.header.pid = pid) =
          packets.find? (fun p => p.header.pid = pid) := by
        apply List.find?_cons_of_neg
        simpa using Ne.symm hpid
      have hviews := h.views pid
      rw [hfind] at hviews
      split
      · rw [Function.update_of_ne hpid, Function.update_of_ne hpid]
        exact hviews
      · exact hviews

lemma processPackets {more : List TSPacket} (h : UnitsOver s t (more ++ packets)) :
    UnitsOver (s.processPackets more) (t.processPackets more) packets := by
  induction more generalizing s t with
  | nil => exact h
  | cons packet more ih => exact ih h.processPacket

lemma finalizeLeft (h : UnitsOver s t packets)
    (hover : ∀ pid packet, (s.view pid).pending ≠ none →
      packets.find? (fun p => p.header.pid = pid) = some packet →
      packet.header.payloadUnitStart = true) :
    UnitsOver s.finalizeAllIterations t packets := by
  have hsame := PacketState.finalizeAllIterations_sameTables s
  have hstores : s.finalizeAllIterations.stores = s.stores := by
    funext pid
    unfold PacketState.stores
    rw [hsame.programsTableAvailable, hsame.knownProgramPids]
  refine ⟨?_, ?_, ?_⟩
  · rw [hstores, h.stores]
  · rw [PacketState.nextIterationId_finalizeAllIterations, h.next]
  · intro pid
    rw [PacketState.view_finalizeAllIterations, hstores]
    by_cases hnone : (s.view pid).pending = none
    · rw [StreamView.finalize_of_none hnone]
      exact h.views pid
    · right
      rcases h.views pid with heq | ⟨heq, _⟩
      · refine ⟨by rw [heq], ?_⟩
        intro _ packet hfind
        exact hover pid packet hnone hfind
      · rw [heq] at hnone
        exact absurd (StreamView.pending_finalize _ _) hnone

end UnitsOver

lemma processedPackets_cons (d : MPEGTSDemuxer) (c : Call) (rest : List Call) :
    processedPackets d (c :: rest) =
      (d.callTrace c).map Prod.snd ++ processedPackets (d.call c).1 rest := by
  unfold processedPackets runTrace
  rw [Transducer.trace_cons, List.map_append]

lemma unitsOver_run {calls : List Call} (hcalls : ∀ c ∈ calls, c.isFeed || c.isListing)
    (hbetween : QueriesBetweenUnits {} calls) :
    UnitsOver (run {} calls).toPacketState (run {} (calls.filter Call.isFeed)).toPacketState [] := by
  have hsim := Transducer.filter_simulation call Call.isFeed
    (fun d e rest => d.toInputState = e.toInputState ∧
      UnitsOver d.toPacketState e.toPacketState (processedPackets d rest) ∧
      (∀ c ∈ rest, c.isFeed || c.isListing) ∧ QueriesBetweenUnits d rest)
    ?_ ?_ (s := {}) (t := {}) ⟨rfl, ⟨rfl, rfl, fun _ => .inl rfl⟩, hcalls, hbetween⟩
  · exact hsim.2.1
  · rintro d e c rest hc ⟨hinput, hunits, hrest, hbetween⟩
    obtain ⟨data, rfl⟩ := feedData_of_isFeed hc
    refine ⟨?_, ?_, fun c hc => hrest c (List.mem_cons_of_mem _ hc), hbetween.2⟩
    · show (d.feedData data).toInputState = (e.feedData data).toInputState
      rw [feedData_eq, feedData_eq, hinput]
    · have hpackets : (d.callTrace (.feedData data)).map Prod.snd = (d.toInputState.feed data).2 :=
        feedTrace_packets d data
      rw [processedPackets_cons, hpackets] at hunits
      have hnext := hunits.processPackets
      show UnitsOver (d.feedData data).toPacketState (e.feedData data).toPacketState _
      rw [toPacketState_feedData, toPacketState_feedData, ← hinput]
      exact hnext
  · rintro d e c rest hc ⟨hinput, hunits, hrest, hbetween⟩
    have hlisting : c.isListing = true := by
      have hor := hrest c List.mem_cons_self
      rwa [hc, Bool.false_or] at hor
    obtain ⟨hstate, htrace⟩ := call_of_isListing hlisting d
    rw [processedPackets_cons, htrace, List.map_nil, List.nil_append] at hunits
    have hover := hbetween.1 hc
    refine ⟨?_, ?_, fun c hc => hrest c (List.mem_cons_of_mem _ hc), hbetween.2⟩
    · rw [hstate]
      exact hinput
    · rw [hstate] at hunits hover ⊢
      exact hunits.finalizeLeft hover

lemma summary_unitsOver {d e : MPEGTSDemuxer} (h : UnitsOver d.toPacketState e.toPacketState [])
    (pid : UInt16) : (d.getIterationsSummary pid).2 = (e.getIterationsSummary pid).2 := by
  have hview : d.finalizeAllIterations.view pid = e.finalizeAllIterations.view pid := by
    rw [PacketState.view_finalizeAllIterations, PacketState.view_finalizeAllIterations]
    rcases h.views pid with heq | ⟨heq, _⟩
    · rw [heq]
    · rw [heq, StreamView.finalize_finalize]
  have hstored := congrArg StreamView.stored hview
  rw [PacketState.stored_view, PacketState.stored_view] at hstored
  rw [getIterationsSummary_eq, getIterationsSummary_eq]
  exact congrArg _ hstored

/-- With queries between the data calls, the iterations of a PID are pieces of those without
queries. When no query falls inside a unit they are the same. -/
theorem queries_only_cut (calls : List Call) (hcalls : ∀ c ∈ calls, c.isFeed || c.isListing)
    (pid : UInt16) :
    (∃ parts : List (List IterationInfo), parts.flatten = summaryOf (run {} calls) pid ∧
      List.Forall₂ Merges parts (summaryOf (run {} (calls.filter Call.isFeed)) pid)) ∧
    (QueriesBetweenUnits {} calls →
      ((run {} calls).getIterationsSummary pid).2 =
        ((run {} (calls.filter Call.isFeed)).getIterationsSummary pid).2) := by
  refine ⟨summaries_merge (sameUnits_run hcalls) pid, ?_⟩
  intro hbetween
  exact summary_unitsOver (unitsOver_run hcalls hbetween) pid

/-- A unit of four packets with a query after the third. -/
def queryInUnitCalls : List Call :=
  [.feedData (plainPacket 0x100 0 true (List.replicate 184 0xAA) ++
      plainPacket 0x100 1 false (List.replicate 184 0xAA) ++
      plainPacket 0x100 2 false (List.replicate 184 0xAA)),
    .getDiscoveredPIDs,
    .feedData (plainPacket 0x100 3 false (List.replicate 184 0xAA))]

/-- The query cuts the iteration of the unit in two. -/
theorem query_cuts_unit :
    ((run {} queryInUnitCalls).getIterationsSummary 0x100).2.map IterationInfo.packetCount = [3, 1] ∧
      ((run {} (queryInUnitCalls.filter Call.isFeed)).getIterationsSummary 0x100).2.map
        IterationInfo.packetCount = [4] := by
  decide +kernel

/-- Two units with a query between them. -/
def queryBetweenUnitsCalls : List Call :=
  [queryInUnitCalls[0], .getDiscoveredPIDs,
    .feedData (plainPacket 0x100 3 true (List.replicate 184 0xAA))]

theorem queries_only_cut_between :
    ((run {} queryBetweenUnitsCalls).getIterationsSummary 0x100).2 =
      ((run {} (queryBetweenUnitsCalls.filter Call.isFeed)).getIterationsSummary 0x100).2 := by
  refine (queries_only_cut queryBetweenUnitsCalls (by decide) 0x100).2 ?_
  change QueriesBetweenUnits {} [_, _, _]
  refine ⟨fun h => Bool.noConfusion h, ?_, fun h => Bool.noConfusion h, trivial⟩
  intro _ pid packet _ hfind
  have hpackets : (processedPackets (run {} (queryBetweenUnitsCalls.take 2))
      (queryBetweenUnitsCalls.drop 2)).all (fun p => p.header.payloadUnitStart) = true := by
    decide +kernel
  exact List.all_eq_true.mp hpackets packet (List.mem_of_find?_eq_some hfind)

end MinimalMpegTS
