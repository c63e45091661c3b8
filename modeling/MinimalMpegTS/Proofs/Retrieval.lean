import MinimalMpegTS.Proofs.Calls
import MinimalMpegTS.Proofs.Iterations
import MinimalMpegTS.Proofs.Queries
import MinimalMpegTS.Proofs.Reading
import MinimalMpegTS.Proofs.UniqueIds

/-!
# What a run stores and what its queries return

In a run of data calls and listing queries the input side sees the chunks only, and the batches of
every non-system PID hold its packets among the processed ones. As long as the ids have not come
back to their start, the payload queries return the bytes of these packets in order.
-/

namespace MinimalMpegTS

open MPEGTSDemuxer InputState

/-! ### Runs of data calls and queries -/

/-- The bytes of a data call. -/
def Call.chunk? : Call → Option (List UInt8)
  | .feedData data => some data
  | _ => none

/-- The chunks that a list of calls feeds. -/
def chunksOf (calls : List Call) : List (List UInt8) := calls.filterMap Call.chunk?

/-- The call does not make the buffer exceed its limit. -/
def FitsBuffer (d : MPEGTSDemuxer) (c : Call) : Prop :=
  ∀ data, c = .feedData data → d.rawBuffer.length + data.length ≤ maxBufferSize

lemma chunksOf_cons_feed (data : List UInt8) (calls : List Call) :
    chunksOf (.feedData data :: calls) = data :: chunksOf calls := rfl

lemma chunksOf_cons_listing {c : Call} (h : c.isListing = true) (calls : List Call) :
    chunksOf (c :: calls) = chunksOf calls := by
  cases c with
  | getPrograms => rfl
  | getDiscoveredPIDs => rfl
  | getIterationsSummary pid => rfl
  | _ => cases h

lemma run_input {calls : List Call} (hcalls : ∀ c ∈ calls, c.isFeed || c.isListing)
    (d : MPEGTSDemuxer) :
    (run d calls).toInputState = Transducer.final feed d.toInputState (chunksOf calls) ∧
      processedPackets d calls = d.toInputState.packets (chunksOf calls) ∧
      (Transducer.Along call FitsBuffer d calls → d.toInputState.Fits (chunksOf calls)) := by
  induction calls generalizing d with
  | nil => exact ⟨rfl, rfl, fun _ => trivial⟩
  | cons c calls ih =>
    have hrest : ∀ c ∈ calls, c.isFeed || c.isListing :=
      fun c' hc => hcalls c' (List.mem_cons_of_mem c hc)
    obtain ⟨hinput, hpackets, hfits⟩ := ih hrest (d.call c).1
    rw [processedPackets_cons, hpackets]
    cases hc : c.isFeed with
    | true =>
      obtain ⟨data, rfl⟩ := feedData_of_isFeed hc
      have hstate : (d.call (.feedData data)).1.toInputState = (d.toInputState.feed data).1 := by
        show (d.feedData data).toInputState = _
        rw [feedData_eq]
      have htrace : (d.callTrace (.feedData data)).map Prod.snd = (d.toInputState.feed data).2 :=
        feedTrace_packets d data
      rw [hstate] at hinput hfits ⊢
      rw [chunksOf_cons_feed, packets_cons, htrace]
      refine ⟨hinput, rfl, ?_⟩
      rintro ⟨hfirst, hmore⟩
      exact ⟨hfirst data rfl, hfits hmore⟩
    | false =>
      have hlisting : c.isListing = true := by
        have hor := hcalls c List.mem_cons_self
        rwa [hc, Bool.false_or] at hor
      obtain ⟨hstate, htrace⟩ := call_of_isListing hlisting d
      rw [hstate] at hinput hfits ⊢
      rw [chunksOf_cons_listing hlisting, htrace]
      refine ⟨?_, rfl, ?_⟩
      · show (run (d.call c).1 calls).toInputState = _
        rw [hstate]
        exact hinput
      · rintro ⟨_, hmore⟩
        rw [hstate] at hmore
        exact hfits hmore

/-! ### Runs of data calls -/

lemma chunksOf_feeds (chunks : List (List UInt8)) : chunksOf (chunks.map .feedData) = chunks := by
  induction chunks with
  | nil => rfl
  | cons data chunks ih => rw [List.map_cons, chunksOf_cons_feed, ih]

lemma forall_feeds (chunks : List (List UInt8)) :
    ∀ c ∈ chunks.map Call.feedData, c.isFeed || c.isListing := by
  intro c hc
  obtain ⟨data, _, rfl⟩ := List.mem_map.mp hc
  rfl

lemma run_feeds_input (chunks : List (List UInt8)) (d : MPEGTSDemuxer) :
    (run d (chunks.map .feedData)).toInputState = Transducer.final feed d.toInputState chunks ∧
      processedPackets d (chunks.map .feedData) = d.toInputState.packets chunks := by
  obtain ⟨hinput, hpackets, -⟩ := run_input (forall_feeds chunks) d
  rw [chunksOf_feeds] at hinput hpackets
  exact ⟨hinput, hpackets⟩

/-! ### What is stored -/

/-- These packets were processed, and those of every non-system PID are in its batches. -/
structure StoresPackets (s : PacketState) (packets : List TSPacket) : Prop where
  stores : ∀ pid, s.stores pid = !isSystemPID pid
  total : s.totalPacketsProcessed = UInt64.ofNat packets.length
  views : ∀ pid, isSystemPID pid = false → ∃ u : Batches CountedPacket,
    StreamView.Represents u (s.view pid) ∧
    u.items.map Prod.snd = packets.filter (fun p => p.header.pid = pid)

lemma storesPackets_fresh : StoresPackets {} [] := by
  refine ⟨?_, rfl, ?_⟩
  · intro pid
    unfold PacketState.stores
    simp
  · intro pid _
    exact ⟨Batches.empty, StreamView.represents_empty, rfl⟩

lemma StoresPackets.processPackets {s : PacketState} {packets : List TSPacket}
    (h : StoresPackets s packets) (more : List TSPacket) :
    StoresPackets (s.processPackets more) (packets ++ more) := by
  have hstores : (s.processPackets more).stores = s.stores :=
    PacketState.stores_foldl PacketState.processPacket_adds s more
  refine ⟨?_, ?_, ?_⟩
  · rw [hstores]
    exact h.stores
  · rw [PacketState.totalPacketsProcessed_processPackets, h.total, List.length_append,
      UInt64.ofNat_add]
  · intro pid hpid
    obtain ⟨u, hu, hitems⟩ := h.views pid hpid
    have hs : s.stores pid = true := by rw [h.stores, hpid, Bool.not_false]
    refine ⟨_, PacketState.represents_foldl PacketState.processPacket_adds hs hu more, ?_⟩
    rw [Batches.items_pushes, List.map_append, hitems, withLastCc_packets, List.filter_append]

lemma StoresPackets.finalizeAll {s : PacketState} {packets : List TSPacket}
    (h : StoresPackets s packets) : StoresPackets s.finalizeAllIterations packets := by
  have hsame := PacketState.finalizeAllIterations_sameTables s
  refine ⟨?_, hsame.totalPacketsProcessed.trans h.total, ?_⟩
  · intro pid
    unfold PacketState.stores
    rw [hsame.programsTableAvailable, hsame.knownProgramPids]
    exact h.stores pid
  · intro pid hpid
    obtain ⟨u, hu, hitems⟩ := h.views pid hpid
    refine ⟨u.close, ?_, ?_⟩
    · rw [PacketState.view_finalizeAllIterations]
      exact StreamView.represents_finalize hu pid
    · rw [Batches.items_close, hitems]

/-- After a run of data calls and listings, the batches hold the processed packets. -/
theorem storesPackets_run {calls : List Call} (hcalls : ∀ c ∈ calls, c.isFeed || c.isListing) :
    StoresPackets (run {} calls).toPacketState (processedPackets {} calls) := by
  apply packets_run (P := StoresPackets) _ _ storesPackets_fresh
  · intro c hc
    exact isFeedOrQuery_of_listing (hcalls c hc)
  · intro s l more hs
    exact hs.processPackets more
  · intro s l hs
    exact hs.finalizeAll

/-! ### What the queries return -/

/-- The bytes of one type that the queries return for a PID, over the listed iterations. -/
def retrievedBytes (d : MPEGTSDemuxer) (pid : UInt16) (type : PayloadType) : List UInt8 :=
  (d.getIterationsSummary pid).2.flatMap (fun info =>
    (((d.getIterationsSummary pid).1.getAllPayloads pid info.iterationId).filter
      (fun buffer => buffer.type = type)).flatMap PayloadBuffer.bytes)

lemma buffers_bytes (buffers : List PayloadBuffer) (type : PayloadType) :
    (buffers.filter (fun buffer => buffer.type = type)).flatMap PayloadBuffer.bytes =
      ((buffers.map (fun buffer => (buffer.type, buffer.bytes))).filter
        (fun piece => piece.1 = type)).flatMap Prod.snd := by
  rw [List.filter_map, List.flatMap_map]
  rfl

/-- With distinct ids, the queries return the bytes of the packets in the batches. -/
theorem retrievedBytes_represents {d : MPEGTSDemuxer} {pid : UInt16} {u : Batches CountedPacket}
    (hu : StreamView.Represents u (d.view pid))
    (hnodup : ((d.finalized.storage.iterationsOf pid).map Prod.fst).Nodup) (type : PayloadType) :
    retrievedBytes d pid type = (u.items.map Prod.snd).flatMap (fun p => p.bytesOfType type) := by
  have hfin := hu.iterationsOf_finalizeAll
  have hentry : ∀ entry ∈ d.finalized.storage.iterationsOf pid,
      ((d.finalized.getAllPayloads pid (iterationInfo entry.1 entry.2).iterationId).filter
          (fun buffer => buffer.type = type)).flatMap PayloadBuffer.bytes =
        ((readBack entry.2).filter (fun piece => piece.1 = type)).flatMap Prod.snd := by
    intro entry hmem
    have hid : (iterationInfo entry.1 entry.2).iterationId = entry.1 := rfl
    rw [hid, getAllPayloads_of_nodup hnodup hmem, buffers_bytes]
    rfl
  have hgroup : ∀ g : List CountedPacket,
      ((readBack (StreamIterations.copyIteration (iterationOf g))).filter
          (fun piece => piece.1 = type)).flatMap Prod.snd =
        g.flatMap (fun x => x.2.bytesOfType type) := by
    intro g
    rw [readBack_laid (laid_iterationOf g), List.filter_flatMap, List.flatMap_assoc]
    apply List.flatMap_congr
    intro x _
    exact x.2.pieces_bytesOfType type
  have hstate : (d.getIterationsSummary pid).1 = d.finalized := rfl
  have hmap : (d.finalized.storage.iterationsOf pid).flatMap (fun entry =>
      ((readBack entry.2).filter (fun piece => piece.1 = type)).flatMap Prod.snd) =
      u.close.closed.flatMap (fun g => g.flatMap (fun x => x.2.bytesOfType type)) := by
    have h := congrArg (List.flatMap (fun it =>
      ((readBack it).filter (fun piece => piece.1 = type)).flatMap Prod.snd)) hfin
    rw [List.flatMap_map, List.flatMap_map] at h
    simp only [hgroup] at h
    exact h
  unfold retrievedBytes
  rw [getIterationsSummary_eq, hstate, List.flatMap_map, List.flatMap_congr hentry, hmap,
    ← Batches.flatten_closed_close, List.flatMap_map, List.flatten_eq_flatMap, List.flatMap_assoc]
  rfl

/-- With at most `2 ^ 32` generated iterations, the queries return the bytes of the processed packets
of every non-system PID. -/
theorem retrievedBytes_run {calls : List Call} (hcalls : ∀ c ∈ calls, c.isFeed || c.isListing)
    (hcount : generatedIterations {} calls ≤ 2 ^ 32) {pid : UInt16} (hsys : isSystemPID pid = false)
    (type : PayloadType) : retrievedBytes (run {} calls) pid type =
      ((processedPackets {} calls).filter (fun x => x.header.pid = pid)).flatMap
        (fun x => x.bytesOfType type) := by
  obtain ⟨u, hu, hitems⟩ := (storesPackets_run hcalls).views pid hsys
  have hguard : Transducer.Along call SetsTableWhenIdle {} calls := by
    apply Transducer.along_mono call _ (Transducer.along_of_forall call hcalls)
    intro d c hc table htable
    subst htable
    cases hc
  obtain ⟨count, numbers, hnum, hle⟩ := numbered_run hguard
  have hnodup := (hnum.finalizeAll.ids_nodup (hle.trans hcount) pid).sublist
    (List.sublist_append_left _ _)
  rw [retrievedBytes_represents hu hnodup, hitems]

lemma generatedIterations_le (calls : List Call) :
    generatedIterations {} calls ≤ (processedPackets {} calls).length := by
  unfold generatedIterations processedPackets
  rw [List.length_map]
  exact List.countP_le_length

end MinimalMpegTS
