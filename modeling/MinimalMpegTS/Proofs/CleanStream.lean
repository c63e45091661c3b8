import MinimalMpegTS.Proofs.Damaged
import MinimalMpegTS.Proofs.Packets
import MinimalMpegTS.Proofs.Retrieval

/-!
# A clean stream from end to end

A stream of accepted packets whose first three form a chain is read from its start, however it is
cut into chunks and wherever the listing queries are called: every packet is processed once, and
the payload queries return for every PID the bytes of its packets in order. The last part needs
that the 32-bit iteration ids have not come back to their start.
-/

namespace MinimalMpegTS

open MPEGTSDemuxer InputState

/-! ### The sync search at the start of the stream -/

/-- Three packets of a chain, the first one without inner sync bytes, are found. -/
theorem findSyncPosition_start {p1 p2 p3 back : List UInt8} {x1 x2 x3 : TSPacket}
    (h1 : p1.length = mpegtsPacketSize ∧ TSPacket.accept p1 = some x1)
    (h2 : p2.length = mpegtsPacketSize ∧ TSPacket.accept p2 = some x2)
    (h3 : p3.length = mpegtsPacketSize ∧ TSPacket.accept p3 = some x3)
    (h12 : belongsToSameIteration x1 x2 = true) (h23 : belongsToSameIteration x2 x3 = true)
    (hinner : ∀ byte ∈ p1.tail, byte ≠ mpegtsSyncByte) :
    findSyncPosition (p1 ++ (p2 ++ (p3 ++ back))) = some 0 := by
  have hlen : (p1 ++ (p2 ++ (p3 ++ back))).length = mpegtsPacketSize * 3 + back.length := by
    simp only [List.length_append, h1.1, h2.1, h3.1]
    omega
  rw [findSyncPosition_eq_some]
  refine ⟨?_, by omega, fun pos hpos => absurd hpos (Nat.not_lt_zero pos)⟩
  have hat1 : packetAt (p1 ++ (p2 ++ (p3 ++ back))) 0 = p1 := by
    rw [← List.nil_append (p1 ++ _)]
    exact packetAt_packet rfl h1.1
  have hat2 : packetAt (p1 ++ (p2 ++ (p3 ++ back))) (0 + mpegtsPacketSize) = p2 :=
    packetAt_packet (by rw [h1.1, Nat.zero_add]) h2.1
  have hat3 : packetAt (p1 ++ (p2 ++ (p3 ++ back))) (0 + mpegtsPacketSize + mpegtsPacketSize) =
      p3 := by
    rw [← List.append_assoc]
    exact packetAt_packet (by rw [List.length_append, h1.1, h2.1, Nat.zero_add]) h3.1
  refine isSyncPosition_chain (by rw [hat1, h1.2]) (by rw [hat2, h2.2]) (by rw [hat3, h3.2])
    (by omega) ?_ h12 h23
  intro j hj hlt heq
  rw [Nat.zero_add, List.getElem?_append_left (by omega)] at heq
  cases p1 with
  | nil => simp at heq
  | cons first p1 =>
    obtain ⟨i, rfl⟩ : ∃ i, j = i + 1 := ⟨j - 1, by omega⟩
    rw [List.getElem?_cons_succ] at heq
    exact hinner _ (List.mem_of_getElem? heq) rfl

lemma take_of_prefix_packets {p1 p2 p3 back buffer : List UInt8}
    (h1 : p1.length = mpegtsPacketSize) (h2 : p2.length = mpegtsPacketSize)
    (h3 : p3.length = mpegtsPacketSize) (hbuffer : buffer <+: p1 ++ (p2 ++ (p3 ++ back)))
    (hlen : mpegtsPacketSize * 3 ≤ buffer.length) :
    ∃ back', buffer = p1 ++ (p2 ++ (p3 ++ back')) := by
  obtain ⟨rest, hrest⟩ := hbuffer
  have hthree : (p1 ++ (p2 ++ p3)).length = mpegtsPacketSize * 3 := by
    simp only [List.length_append, h1, h2, h3]
    omega
  have hsplit : buffer ++ rest = (p1 ++ (p2 ++ p3)) ++ back := by
    rw [hrest]
    simp only [List.append_assoc]
  obtain ⟨back', hback⟩ : p1 ++ (p2 ++ p3) <+: buffer :=
    List.prefix_of_prefix_length_le ⟨back, hsplit.symm⟩ (List.prefix_append buffer rest) (by omega)
  refine ⟨back', ?_⟩
  rw [← hback]
  simp only [List.append_assoc]

/-! ### Conservation -/

/-- A stream of accepted packets that starts with a chain is processed packet by packet: the
demultiplexer ends synchronized with an empty buffer, and the queries return the bytes of every
PID's packets in order, as long as at most `2 ^ 32` iterations are generated. -/
theorem clean_stream_conserved {p1 p2 p3 : List UInt8} {ps : List (List UInt8)}
    {x1 x2 x3 : TSPacket} {xs : List TSPacket}
    (haccepted : AcceptedPackets (p1 :: p2 :: p3 :: ps) (x1 :: x2 :: x3 :: xs))
    (hpid : x2.header.pid = x1.header.pid ∧ x3.header.pid = x2.header.pid)
    (hcc : x2.header.continuityCounter = (x1.header.continuityCounter + 1) % 16 ∧
      x3.header.continuityCounter = (x2.header.continuityCounter + 1) % 16)
    (hinner : ∀ byte ∈ p1.tail, byte ≠ mpegtsSyncByte)
    {calls : List Call} (hcalls : ∀ c ∈ calls, c.isFeed || c.isListing)
    (hchunks : (chunksOf calls).flatten = (p1 :: p2 :: p3 :: ps).flatten)
    (hne : ∀ data ∈ chunksOf calls, data ≠ [])
    (hfits : Transducer.Along call FitsBuffer {} calls)
    (hcount : generatedIterations {} calls ≤ 2 ^ 32) :
    (run {} calls).isSynchronized = true ∧ (run {} calls).rawBuffer = [] ∧
      processedPackets {} calls = x1 :: x2 :: x3 :: xs ∧
      (run {} calls).totalPacketsProcessed = UInt64.ofNat (x1 :: x2 :: x3 :: xs).length ∧
      ∀ pid, isSystemPID pid = false → ∀ type, retrievedBytes (run {} calls) pid type =
        ((x1 :: x2 :: x3 :: xs).filter (fun x => x.header.pid = pid)).flatMap
          (fun x => x.bytesOfType type) := by
  obtain ⟨hinput, hpackets, hfit⟩ := run_input hcalls {}
  obtain ⟨hframes, hrest⟩ := acceptedPackets_frames haccepted
  have hsync : firstSync [] (chunksOf calls) = some 0 := by
    obtain ⟨h1, h2, h3⟩ : (p1.length = mpegtsPacketSize ∧ TSPacket.accept p1 = some x1) ∧
        (p2.length = mpegtsPacketSize ∧ TSPacket.accept p2 = some x2) ∧
        (p3.length = mpegtsPacketSize ∧ TSPacket.accept p3 = some x3) := by
      cases haccepted with
      | cons h1 htail =>
        cases htail with
        | cons h2 htail =>
          cases htail with
          | cons h3 htail => exact ⟨h1, h2, h3⟩
    have hflat : (p1 :: p2 :: p3 :: ps).flatten = p1 ++ (p2 ++ (p3 ++ ps.flatten)) := by
      simp only [List.flatten_cons]
    apply firstSync_start
    · exact Nat.mul_pos packetSize_pos (by decide)
    · rw [List.nil_append, hchunks, hflat]
      simp only [List.length_append, h1.1, h2.1, h3.1]
      omega
    · intro buffer hbuffer hlen
      rw [List.nil_append, hchunks, hflat] at hbuffer
      obtain ⟨back, rfl⟩ := take_of_prefix_packets h1.1 h2.1 h3.1 hbuffer hlen
      exact findSyncPosition_start h1 h2 h3 (belongs_of_consecutive ⟨hpid.1, hcc.1⟩)
        (belongs_of_consecutive ⟨hpid.2, hcc.2⟩) hinner
  obtain ⟨hfinal, hread⟩ := run_of_start hne (hfit hfits) hsync
    (by rw [hchunks]; exact acceptedPackets_allAccepted haccepted)
  rw [hchunks, hrest] at hfinal
  rw [hchunks, hframes] at hread
  have hprocessed : processedPackets {} calls = x1 :: x2 :: x3 :: xs := hpackets.trans hread
  have hstate : (run {} calls).toInputState = ⟨[], true, 0⟩ := hinput.trans hfinal
  refine ⟨congrArg InputState.isSynchronized hstate, congrArg InputState.rawBuffer hstate, hprocessed,
    ?_, ?_⟩
  · rw [(storesPackets_run hcalls).total, hprocessed]
  · intro pid hsys type
    rw [retrievedBytes_run hcalls hcount hsys, hprocessed]

/-- The packets of `threePackets` cut inside a header, with a query in between. -/
def cutCalls : List Call :=
  [.feedData (threePackets.take 190), .getDiscoveredPIDs, .feedData (threePackets.drop 190)]

theorem clean_stream_conserved_cut :
    (run {} cutCalls).isSynchronized = true ∧
      retrievedBytes (run {} cutCalls) 0x100 .payloadNormal = List.replicate 552 0xAA := by
  have haccept : ∀ cc : UInt8, cc < 16 → ∀ b, (plainPacket 0x100 cc b (List.replicate 184 0xAA)).length =
      mpegtsPacketSize ∧ TSPacket.accept (plainPacket 0x100 cc b (List.replicate 184 0xAA)) =
        some (plainTSPacket 0x100 cc b (List.replicate 184 0xAA)) := by
    intro cc hcc b
    exact ⟨by rw [length_plainPacket, List.length_replicate], accept_plainPacket (by decide) hcc b _⟩
  have h := clean_stream_conserved
    (.cons (haccept 0 (by decide) true) (.cons (haccept 1 (by decide) false)
      (.cons (haccept 2 (by decide) false) .nil)))
    ⟨rfl, rfl⟩ ⟨by decide, by decide⟩ (by decide +kernel) (by decide : ∀ c ∈ cutCalls, c.isFeed || c.isListing)
    (by decide +kernel) (by decide +kernel) ?_ (by decide +kernel)
  · obtain ⟨hsync, _, _, _, hbytes⟩ := h
    refine ⟨hsync, ?_⟩
    rw [hbytes 0x100 (by decide) .payloadNormal]
    decide +kernel
  · refine ⟨?_, ?_, ?_, trivial⟩
    · intro data hdata
      cases hdata
      decide +kernel
    · intro data hdata
      cases hdata
    · intro data hdata
      cases hdata
      decide +kernel

/-! ### When the ids come back to their start -/

/-- The unit packets of the stream: the first one differs from all others in its payload. -/
def unitPacket (cc : UInt8) : List UInt8 :=
  plainPacket 0x100 cc true (List.replicate 184 (if cc = 0 then 0xAA else 0xBB))

def unitTSPacket (cc : UInt8) : TSPacket :=
  plainTSPacket 0x100 cc true (List.replicate 184 (if cc = 0 then 0xAA else 0xBB))

/-- Three packets at once, then one packet in every chunk. -/
def wrapChunks (k : Nat) : List (List UInt8) :=
  (unitPacket 0 ++ (unitPacket 1 ++ unitPacket 2)) :: List.replicate k (unitPacket 2)

def wrapPackets (k : Nat) : List (List UInt8) :=
  unitPacket 0 :: unitPacket 1 :: unitPacket 2 :: List.replicate k (unitPacket 2)

def wrapTSPackets (k : Nat) : List TSPacket :=
  unitTSPacket 0 :: unitTSPacket 1 :: unitTSPacket 2 :: List.replicate k (unitTSPacket 2)

lemma accept_unitPacket {cc : UInt8} (h : cc < 16) :
    (unitPacket cc).length = mpegtsPacketSize ∧
      TSPacket.accept (unitPacket cc) = some (unitTSPacket cc) := by
  refine ⟨?_, accept_plainPacket (by decide) h true _⟩
  unfold unitPacket
  rw [length_plainPacket, List.length_replicate]

lemma wrapChunks_rest (k : Nat) :
    packets ⟨[], true, 0⟩ (List.replicate k (unitPacket 2)) = List.replicate k (unitTSPacket 2) ∧
      Fits ⟨[], true, 0⟩ (List.replicate k (unitPacket 2)) := by
  have haccepted : AcceptedPackets (List.replicate k (unitPacket 2))
      (List.replicate k (unitTSPacket 2)) := by
    induction k with
    | zero => exact .nil
    | succ k ih => exact .cons (accept_unitPacket (by decide)) ih
  obtain ⟨_, hpackets, hfits⟩ := feed_acceptedPackets haccepted
  exact ⟨hpackets, hfits⟩

lemma feed_wrapStart : feed {} (unitPacket 0 ++ (unitPacket 1 ++ unitPacket 2)) =
    (⟨[], true, 0⟩, [unitTSPacket 0, unitTSPacket 1, unitTSPacket 2]) := by
  decide +kernel

lemma wrapChunks_packets (k : Nat) : packets {} (wrapChunks k) = wrapTSPackets k ∧
    Fits {} (wrapChunks k) := by
  obtain ⟨hrest, hfits⟩ := wrapChunks_rest k
  unfold wrapChunks
  rw [packets_cons, feed_wrapStart, hrest]
  refine ⟨rfl, ?_, ?_⟩
  · decide +kernel
  · rw [feed_wrapStart]
    exact hfits

lemma ids_units {s : PacketState} {pid : UInt16} (hs : s.stores pid = true) {xs : List TSPacket}
    (hxs : ∀ x ∈ xs, x.header.pid = pid ∧ x.header.payloadUnitStart = true) :
    ((s.processPackets xs).view pid).ids = (s.view pid).ids ++
      (List.range xs.length).map (fun i => s.storage.nextIterationId + UInt32.ofNat i) := by
  induction xs generalizing s with
  | nil => simp
  | cons x xs ih =>
    obtain ⟨hpid, hpusi⟩ := hxs x List.mem_cons_self
    have hadds := PacketState.processPacket_adds s x
    have hstarts : ∀ v : StreamView, v.starts x.header = true := by
      intro v
      unfold StreamView.starts
      rw [hpusi, Bool.or_true]
    have hview : (s.processPacket x).view pid = (s.view pid).add s.storage.nextIterationId x := by
      rw [hadds.view, hpid, if_pos hs, Function.update_self]
    have hnext : (s.processPacket x).storage.nextIterationId = s.storage.nextIterationId + 1 := by
      rw [hadds.nextIterationId, PacketState.startsIteration_eq, hstarts, hpid, hs]
      rfl
    have hstores : (s.processPacket x).stores pid = true := by rw [hadds.stores, hs]
    have hrest := ih hstores (fun y hy => hxs y (List.mem_cons_of_mem x hy))
    rw [PacketState.processPackets_cons, hrest, hview, StreamView.ids_add, if_pos (hstarts _), hnext,
      List.length_cons, List.range_succ_eq_map, List.map_cons, List.map_map, List.append_assoc]
    congr 1
    rw [List.singleton_append]
    congr 1
    · exact (UInt32.add_zero _).symm
    · apply List.map_congr_left
      intro i _
      simp only [Function.comp_apply]
      rw [Nat.succ_eq_add_one, UInt32.ofNat_add, add_assoc, add_comm (UInt32.ofNat i)]
      rfl

lemma splitBy_units {xs : List CountedPacket} (h : ∀ x ∈ xs, startsUnit x = true) :
    xs.splitBy (fun _ x => !startsUnit x) = xs.map (fun x => [x]) := by
  induction xs using List.reverseRecOn with
  | nil => rfl
  | append_singleton xs x ih =>
    have hx := h x (List.mem_append_right xs List.mem_cons_self)
    rw [Batches.splitBy_concat, if_pos (.inr hx), ih (fun y hy => h y (List.mem_append_left _ hy)),
      List.map_append, List.map_singleton]

lemma iterationsOf_units {d : MPEGTSDemuxer} {xs : List TSPacket}
    (hd : d.toPacketState = PacketState.processPackets {} xs) {pid : UInt16}
    (hsys : isSystemPID pid = false)
    (hxs : ∀ x ∈ xs, x.header.pid = pid ∧ x.header.payloadUnitStart = true) :
    (d.finalized.storage.iterationsOf pid).map Prod.fst =
        (List.range xs.length).map (fun i => 1 + UInt32.ofNat i) ∧
      (d.finalized.storage.iterationsOf pid).map Prod.snd =
        (withLastCc none xs).map (fun x => StreamIterations.copyIteration (iterationOf [x])) := by
  have hstores : PacketState.stores {} pid = true := by
    unfold PacketState.stores
    simp [hsys]
  have hfilter : xs.filter (fun p => p.header.pid = pid) = xs := by
    rw [List.filter_eq_self]
    intro x hx
    simpa using (hxs x hx).1
  have hview : d.finalized.view pid = ((PacketState.processPackets {} xs).view pid).finalize pid := by
    rw [← hd]
    exact PacketState.view_finalizeAllIterations d.toPacketState pid
  have hnone : (d.finalized.view pid).pending = none := by
    rw [hview, StreamView.pending_finalize]
  refine ⟨?_, ?_⟩
  · have hids := ids_units hstores hxs
    have hstored := StreamView.ids_of_pending_none hnone
    rw [hview, StreamView.ids_finalize, hids, ← hview, PacketState.stored_view] at hstored
    exact hstored.symm
  · have hrep := PacketState.represents_foldl PacketState.processPacket_adds hstores
      StreamView.represents_empty xs
    have hfin := (StreamView.represents_finalize hrep pid).stored
    have hfold : (xs.foldl PacketState.processPacket {}).view pid =
        (PacketState.processPackets {} xs).view pid := rfl
    have hunits : ∀ x ∈ withLastCc none xs, startsUnit x = true := by
      intro x hx
      have hmem : x.2 ∈ (withLastCc none xs).map Prod.snd := List.mem_map_of_mem hx
      rw [withLastCc_packets] at hmem
      exact (hxs x.2 hmem).2
    have hcc : (PacketState.view {} pid).lastCc = none := rfl
    rw [hfold, ← hview, PacketState.stored_view, Batches.closed_pushes, hfilter, hcc,
      splitBy_units hunits, List.map_map] at hfin
    exact hfin

lemma wrap_retrieved (k : Nat) (hk : UInt32.ofNat (k + 2) = 0) :
    (retrievedBytes (run {} ((wrapChunks k).map .feedData)) 0x100 .payloadNormal).getLast? =
      some 0xAA := by
  set d := run {} ((wrapChunks k).map .feedData) with hd
  have hpackets : ({} : MPEGTSDemuxer).toInputState.packets (wrapChunks k) = wrapTSPackets k :=
    (wrapChunks_packets k).1
  have hstate : d.toPacketState = PacketState.processPackets {} (wrapTSPackets k) := by
    rw [hd, run_feeds, feedChunks_eq, hpackets]
  have hunits : ∀ x ∈ wrapTSPackets k,
      x.header.pid = 0x100 ∧ x.header.payloadUnitStart = true := by
    intro x hx
    unfold wrapTSPackets at hx
    simp only [List.mem_cons, List.mem_replicate] at hx
    rcases hx with rfl | rfl | rfl | ⟨_, rfl⟩ <;> exact ⟨rfl, rfl⟩
  obtain ⟨hids, hdata⟩ := iterationsOf_units hstate (by decide) hunits
  have hlength : (wrapTSPackets k).length = k + 3 := by
    unfold wrapTSPackets
    simp only [List.length_cons, List.length_replicate]
  rw [hlength] at hids
  set entries := d.finalized.storage.iterationsOf 0x100 with hentries
  have hne : entries ≠ [] := by
    intro hnil
    rw [hnil] at hids
    have h := congrArg List.length hids
    simp at h
  obtain ⟨first, rest, hcons⟩ := List.exists_cons_of_ne_nil hne
  have hfirst : first.1 = 1 ∧
      first.2 = StreamIterations.copyIteration (iterationOf [(none, unitTSPacket 0)]) := by
    rw [hcons, List.map_cons] at hids hdata
    rw [List.range_succ_eq_map, List.map_cons] at hids
    exact ⟨List.head_eq_of_cons_eq hids, List.head_eq_of_cons_eq hdata⟩
  obtain ⟨init, last, hlast⟩ : ∃ init last, entries = init ++ [last] :=
    ⟨entries.dropLast, entries.getLast hne, (List.dropLast_append_getLast hne).symm⟩
  have hlastId : last.1 = 1 := by
    rw [hlast, List.range_succ, List.map_append, List.map_append] at hids
    have hsnd := (List.append_inj' hids rfl).2
    have h : last.1 = 1 + UInt32.ofNat (k + 2) := List.head_eq_of_cons_eq hsnd
    rw [h, hk]
    rfl
  have hread : d.finalized.getAllPayloads 0x100 1 =
      first.2.payloads.map (payloadBuffer first.2) := by
    unfold getAllPayloads
    rw [findIteration_eq, ← hentries, hcons, List.find?_cons_of_pos (by simp [hfirst.1])]
    rfl
  have hstate' : (d.getIterationsSummary 0x100).1 = d.finalized := rfl
  have hinfo : (iterationInfo last.1 last.2).iterationId = 1 := hlastId
  unfold retrievedBytes
  rw [getIterationsSummary_eq, hstate', ← hentries, hlast, List.map_append, List.flatMap_append,
    List.map_singleton, List.flatMap_singleton, hinfo, hread, buffers_bytes, hfirst.2]
  have hback := readBack_laid (laid_iterationOf [((none, unitTSPacket 0) : CountedPacket)])
  unfold readBack at hback
  rw [hback, List.getLast?_append_of_ne_nil _ (by decide)]
  decide

/-- The number of packets after the first three, so that the last id is the first one again. -/
def wrapCount : Nat := 2 ^ 32 - 2

/-- With `2 ^ 32 + 1` units the last iteration has the id of the first one, and the queries return
the payload of the first packet instead of that of the last one. -/
theorem ids_wrap_on_clean_stream :
    AcceptedPackets (wrapPackets wrapCount) (wrapTSPackets wrapCount) ∧
      (∀ byte ∈ (unitPacket 0).tail, byte ≠ mpegtsSyncByte) ∧
      (∀ byte ∈ (unitPacket 1).tail, byte ≠ mpegtsSyncByte) ∧
      (wrapChunks wrapCount).flatten = (wrapPackets wrapCount).flatten ∧
      (∀ data ∈ wrapChunks wrapCount, data ≠ []) ∧
      Fits {} (wrapChunks wrapCount) ∧
      retrievedBytes (run {} ((wrapChunks wrapCount).map .feedData)) 0x100 .payloadNormal ≠
        (wrapTSPackets wrapCount).flatMap (fun x => x.bytesOfType .payloadNormal) := by
  have hk : UInt32.ofNat (wrapCount + 2) = 0 := by decide
  have hlast := wrap_retrieved wrapCount hk
  generalize wrapCount = k at *
  have hne : ∀ cc : UInt8, unitPacket cc ≠ [] := fun cc => by simp [unitPacket, plainPacket]
  refine ⟨?_, by decide +kernel, by decide +kernel, ?_, ?_, (wrapChunks_packets k).2, ?_⟩
  · refine .cons (accept_unitPacket (by decide)) (.cons (accept_unitPacket (by decide))
      (.cons (accept_unitPacket (by decide)) ?_))
    rw [List.forall₂_iff_get]
    refine ⟨by simp, ?_⟩
    intro i h1 h2
    simp only [List.get_eq_getElem, List.getElem_replicate]
    exact accept_unitPacket (by decide)
  · unfold wrapChunks wrapPackets
    simp only [List.flatten_cons, List.append_assoc]
  · intro data hdata
    unfold wrapChunks at hdata
    simp only [List.mem_cons, List.mem_replicate] at hdata
    rcases hdata with rfl | ⟨_, rfl⟩
    · simp [hne]
    · exact hne 2
  · intro heq
    rw [heq] at hlast
    have hsplit : wrapTSPackets k =
        unitTSPacket 0 :: unitTSPacket 1 :: List.replicate k (unitTSPacket 2) ++ [unitTSPacket 2] := by
      unfold wrapTSPackets
      rw [List.cons_append, List.cons_append, ← List.replicate_succ', List.replicate_succ]
    have hbytes : (unitTSPacket 2).bytesOfType .payloadNormal = List.replicate 184 0xBB := by
      decide +kernel
    rw [hsplit, List.flatMap_append, List.flatMap_singleton, hbytes,
      List.getLast?_append_of_ne_nil _ (by decide)] at hlast
    revert hlast
    decide

end MinimalMpegTS
