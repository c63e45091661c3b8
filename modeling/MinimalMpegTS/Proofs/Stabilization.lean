import MinimalMpegTS.Proofs.Alignment
import MinimalMpegTS.Proofs.Recovery
import MinimalMpegTS.Proofs.StateInvariant
import MinimalMpegTS.Proofs.SyncChains

/-!
# Synchronization from any state

Whatever the buffer holds, a clean run of packets brings the demultiplexer back to the packet
boundaries: no later than when the old bytes have left the buffer, the search finds the first
packet in it, and from then on every packet of the run is processed. Up to that point reading can
only go on inside the old bytes or end in the first two packets behind them. Positions are written
with 188 for the packet size and 18800 for the size of the buffer.
-/

namespace MinimalMpegTS

open Framing MPEGTSDemuxer InputState

/-- Packets that each continue the one before, with no sync byte but their first byte. -/
structure CleanRun (ps : List (List UInt8)) (xs : List TSPacket) : Prop where
  accepted : AcceptedPackets ps xs
  clean : OnlySyncAtStart ps
  chain : xs.IsChain (fun x y => belongsToSameIteration x y = true)

/-- The state between packets: the buffer has the beginning of the next one. -/
def alignedState (fed : List UInt8) : InputState := ⟨fed.drop (188 * (fed.length / 188)), true, 0⟩

/-! ### The beginning of a clean run -/

lemma CleanRun.belongs {ps : List (List UInt8)} {xs : List TSPacket} (h : CleanRun ps xs) {i : Nat}
    {x y : TSPacket} (hx : xs[i]? = some x) (hy : xs[i + 1]? = some y) :
    belongsToSameIteration x y = true := by
  have hchain := h.chain
  rw [List.isChain_iff_getElem] at hchain
  obtain ⟨hlt, rfl⟩ := List.getElem?_eq_some_iff.mp hy
  obtain ⟨_, rfl⟩ := List.getElem?_eq_some_iff.mp hx
  exact hchain i hlt

section Beginning

variable {ps : List (List UInt8)} {xs : List TSPacket} (h : CleanRun ps xs) {fed : List UInt8}
  (hfed : fed <+: ps.flatten)
include h hfed

lemma CleanRun.length_le : fed.length ≤ 188 * xs.length := by
  rw [← length_flatten_accepted h.accepted]
  exact hfed.length_le

lemma CleanRun.syncByte {pos : Nat} (hbyte : fed[pos]? = some mpegtsSyncByte) :
    ∃ i, pos = 188 * i := by
  obtain ⟨more, hmore⟩ := hfed
  have hlt : pos < fed.length := (List.getElem?_eq_some_iff.mp hbyte).1
  have hstream : ps.flatten[pos]? = some mpegtsSyncByte := by
    rw [← hmore, List.getElem?_append_left hlt, hbyte]
  obtain ⟨i, _, hi⟩ := syncByte_flatten h.accepted h.clean hstream
  exact ⟨i, hi⟩

lemma CleanRun.accept {i : Nat} (hi : 188 * i + 188 ≤ fed.length) :
    ∃ x, xs[i]? = some x ∧ TSPacket.accept (packetAt fed (188 * i)) = some x := by
  have hle := h.length_le hfed
  have hlt : i < xs.length := by omega
  obtain ⟨more, hmore⟩ := hfed
  have haccept := accept_flatten h.accepted [] (List.getElem?_eq_getElem hlt)
  rw [List.append_nil, ← hmore, packetAt_append more hi] at haccept
  exact ⟨xs[i], List.getElem?_eq_getElem hlt, haccept⟩

lemma CleanRun.read {j : Nat} (hj : j ≤ fed.length / 188) :
    packetsOf (fed.drop (188 * j)) = (xs.take (fed.length / 188)).drop j ∧
      restOf (fed.drop (188 * j)) = fed.drop (188 * (fed.length / 188)) := by
  have hle := h.length_le hfed
  set n := fed.length / 188 with hn
  have hfront : AcceptedPackets (ps.take n) (xs.take n) := List.forall₂_take n h.accepted
  have hback : AcceptedPackets ((ps.take n).drop j) ((xs.take n).drop j) := List.forall₂_drop j hfront
  have hlength : (ps.take n).flatten.length = 188 * n := by
    rw [length_flatten_accepted hfront, List.length_take]
    omega
  have hskipped : ((ps.take n).take j).flatten.length = 188 * j := by
    rw [length_flatten_accepted (List.forall₂_take j hfront), List.length_take, List.length_take]
    omega
  obtain ⟨rest, hrest⟩ : (ps.take n).flatten <+: fed := by
    apply List.prefix_of_prefix_length_le _ hfed (by omega)
    exact ⟨(ps.drop n).flatten, by rw [← List.flatten_append, List.take_append_drop]⟩
  have hdrop : fed.drop (188 * j) = ((ps.take n).drop j).flatten ++ rest := by
    rw [← hrest, ← List.take_append_drop j (ps.take n), List.flatten_append, List.append_assoc,
      ← hskipped, List.drop_left, List.take_append_drop]
  have hrestDrop : fed.drop (188 * n) = rest := by rw [← hrest, ← hlength, List.drop_left]
  have hshort : rest.length < mpegtsPacketSize := by
    have hlen := congrArg List.length hrest
    rw [List.length_append] at hlen
    simp only [mpegtsPacketSize]
    omega
  obtain ⟨hframes, hleft⟩ := Framing.frames_flatten packetSize_pos hback rest
  dsimp only [packetsOf, restOf]
  rw [hdrop, hframes, hleft, frames_short hshort, leftover_short hshort, List.append_nil, hrestDrop]
  exact ⟨rfl, rfl⟩

lemma CleanRun.readPackets {buffer : List UInt8} {start j : Nat} (hj : j ≤ fed.length / 188)
    (hbuffer : buffer.drop start = fed.drop (188 * j)) :
    InputState.readPackets buffer start =
      (alignedState fed, (xs.take (fed.length / 188)).drop j) := by
  obtain ⟨hpackets, hrest⟩ := h.read hfed hj
  have hall : AllAccepted (buffer.drop start) := by
    dsimp only [restOf] at hrest
    dsimp only [AllAccepted]
    unfold Drained
    rw [hbuffer, hrest, List.length_drop]
    simp only [mpegtsPacketSize]
    omega
  rw [readPackets_accepted hall]
  unfold reading alignedState
  rw [hbuffer, hpackets, hrest]

lemma CleanRun.find {k : Nat} (hlen : k + 752 ≤ fed.length) :
    findSyncPosition (fed.drop k) ≠ none := by
  set j := (k + 187) / 188 with hj
  set pos := 188 * j - k with hpos
  have hat : ∀ i, packetAt (fed.drop k) (pos + 188 * i) = packetAt fed (188 * (j + i)) := by
    intro i
    unfold packetAt
    rw [List.drop_drop, show k + (pos + 188 * i) = 188 * (j + i) by omega]
  obtain ⟨x, hx, hacceptx⟩ := h.accept hfed (i := j) (by omega)
  obtain ⟨y, hy, haccepty⟩ := h.accept hfed (i := j + 1) (by omega)
  obtain ⟨z, hz, hacceptz⟩ := h.accept hfed (i := j + 2) (by omega)
  have hinner : NoInnerSync (fed.drop k) pos := by
    intro i hi hlt hbyte
    simp only [mpegtsPacketSize] at hlt
    rw [List.getElem?_drop] at hbyte
    obtain ⟨m, hm⟩ := h.syncByte hfed hbyte
    omega
  have hroom : pos + mpegtsPacketSize * 3 ≤ (fed.drop k).length := by
    rw [List.length_drop]
    simp only [mpegtsPacketSize]
    omega
  have hsync : isSyncPosition (fed.drop k) pos = true := by
    apply isSyncPosition_chain ((congrArg TSPacket.accept (hat 0)).trans hacceptx)
      ((congrArg TSPacket.accept (hat 1)).trans haccepty) _ hroom hinner (h.belongs hx hy)
      (h.belongs hy hz)
    exact (congrArg TSPacket.accept (hat 2)).trans hacceptz
  obtain ⟨start, hfind, _⟩ := exists_findSyncPosition_le hsync hroom
  rw [hfind]
  exact Option.some_ne_none start

end Beginning

/-! ### From the old bytes to the run -/

/-- The demultiplexer is still reading behind a position inside the old bytes. -/
structure Early (old fed : List UInt8) (state : InputState) : Prop where
  synchronized : state.isSynchronized = true
  syncOffset : state.syncOffset = 0
  suffix : state.rawBuffer <:+ old ++ fed
  short : state.rawBuffer.length < 188
  recent : fed.length < state.rawBuffer.length + 188

/-- The demultiplexer searches, and it has kept nearly all that was fed. -/
structure Searching (old fed : List UInt8) (state : InputState) : Prop where
  searching : state.isSynchronized = false
  suffix : state.rawBuffer <:+ old ++ fed
  kept : fed.length < state.rawBuffer.length + 376 ∨ state.rawBuffer.length = 18800

/-- The demultiplexer is between two packets of the run, or has not received enough of it yet. -/
def Resyncs (old fed : List UInt8) (state : InputState) : Prop :=
  state = alignedState fed ∨
    (fed.length < 18800 ∧ (Early old fed state ∨ Searching old fed state))

section Step

variable {ps : List (List UInt8)} {xs : List TSPacket} (h : CleanRun ps xs) {old fed : List UInt8}
  (hfed : fed <+: ps.flatten)
include h hfed

/-- Reading from a position in front of the second packet of the run, as long as no window is
rejected, leads to the packet boundaries or ends in the first two packets. -/
theorem CleanRun.rest_cases {k : Nat} (hk : k < old.length + 188)
    (hall : AllAccepted ((old ++ fed).drop k)) :
    restOf ((old ++ fed).drop k) = fed.drop (188 * (fed.length / 188)) ∨
      fed.length < (restOf ((old ++ fed).drop k)).length + 188 := by
  induction hn : (old ++ fed).length - k using Nat.strong_induction_on generalizing k with
  | _ n ih =>
    have hlen : ((old ++ fed).drop k).length = old.length + fed.length - k := by
      rw [List.length_drop, List.length_append]
    by_cases hshort : ((old ++ fed).drop k).length < mpegtsPacketSize
    · right
      dsimp only [restOf]
      rw [leftover_short hshort]
      omega
    · have hwindow : mpegtsPacketSize ≤ ((old ++ fed).drop k).length := by omega
      obtain ⟨x, hx⟩ := Option.ne_none_iff_exists'.mp
        (((drained_iff packetSize_pos _).mp hall) 0 (by rwa [Nat.zero_add, Nat.mul_one]))
      rw [Nat.mul_zero, List.drop_zero] at hx
      by_cases hold : k < old.length
      · have hnext := (drained_accept packetSize_pos hwindow hx).mp hall
        rw [List.drop_drop] at hnext
        have hrest := leftover_accept packetSize_pos hwindow hx
        rw [List.drop_drop] at hrest
        dsimp only [restOf]
        rw [hrest]
        simp only [mpegtsPacketSize] at hwindow hnext ⊢
        rw [List.length_append] at hn
        refine ih ((old ++ fed).length - (k + 188)) ?_ (by omega) hnext rfl
        rw [List.length_append]
        omega
      · -- the window starts in the first packet of the run, so it is that packet
        have hat : TSPacket.accept (packetAt (old ++ fed) k) = some x := hx
        have hbyte := syncByte_of_accept hat
        rw [List.getElem?_append_right (by omega)] at hbyte
        obtain ⟨i, hi⟩ := h.syncByte hfed hbyte
        left
        have hstart : k = old.length := by omega
        rw [hstart, List.drop_left]
        exact (h.read hfed (Nat.zero_le _)).2

lemma CleanRun.readPackets_behind {buffer : List UInt8} {start : Nat}
    (hsuffix : buffer <:+ old ++ fed)
    (hbehind : old.length ≤ (old ++ fed).length - buffer.length + start)
    (hbyte : buffer[start]? = some mpegtsSyncByte) :
    (InputState.readPackets buffer start).1 = alignedState fed := by
  have hbuffer := List.suffix_iff_eq_drop.mp hsuffix
  set k := (old ++ fed).length - buffer.length
  have hdrop : buffer.drop start = (old ++ fed).drop (k + start) := by rw [hbuffer, List.drop_drop]
  rw [hbuffer, List.getElem?_drop, List.getElem?_append_right hbehind] at hbyte
  obtain ⟨i, hi⟩ := h.syncByte hfed hbyte
  have hpos := (List.getElem?_eq_some_iff.mp hbyte).1
  rw [h.readPackets hfed (j := i) (by omega)]
  rw [hdrop, List.drop_append, List.drop_eq_nil_of_le hbehind, List.nil_append, hi]

lemma CleanRun.resyncs_readPackets {buffer : List UInt8} {start : Nat}
    (hsuffix : buffer <:+ old ++ fed) (hlt : fed.length < 18800)
    (hkept : fed.length < buffer.length + 376 ∨ buffer.length = 18800)
    (hstart : (old ++ fed).length - buffer.length + start < old.length + 188 ∨
      buffer[start]? = some mpegtsSyncByte) :
    Resyncs old fed (InputState.readPackets buffer start).1 := by
  set k := (old ++ fed).length - buffer.length with hk
  have hbuffer : buffer = (old ++ fed).drop k := List.suffix_iff_eq_drop.mp hsuffix
  have hdrop : buffer.drop start = (old ++ fed).drop (k + start) := by rw [hbuffer, List.drop_drop]
  by_cases hlow : k + start < old.length + 188
  · by_cases hall : AllAccepted (buffer.drop start)
    · have hshort : (restOf (buffer.drop start)).length < mpegtsPacketSize := hall
      rw [readPackets_accepted hall]
      rw [hdrop] at hall
      obtain heq | hrecent := h.rest_cases hfed hlow hall
      · left
        unfold reading alignedState
        rw [hdrop, heq]
      · right
        refine ⟨hlt, .inl ⟨rfl, rfl, ?_, hshort, ?_⟩⟩
        · exact ((List.drop_suffix _ _).trans (List.drop_suffix _ _)).trans hsuffix
        · show fed.length < (restOf (buffer.drop start)).length + 188
          rwa [hdrop]
    · rw [readPackets_rejected hall]
      exact .inr ⟨hlt, .inr ⟨rfl, hsuffix, hkept⟩⟩
  · left
    exact h.readPackets_behind hfed hsuffix (by omega) (hstart.resolve_left hlow)

end Step

/-! ### One chunk -/

lemma feed_nil (state : InputState) : state.feed [] = (state, []) := rfl

lemma feed_unsynchronized {state : InputState} (h : state.isSynchronized = false)
    {data : List UInt8} (hdata : data ≠ []) : state.feed data =
      match findSyncPosition (limitBuffer (state.rawBuffer ++ data)) with
      | none => ({ state with rawBuffer := limitBuffer (state.rawBuffer ++ data) }, [])
      | some start => InputState.readPackets (limitBuffer (state.rawBuffer ++ data)) start := by
  have hne : data.isEmpty = false := by simpa using hdata
  unfold feed startPosition
  rw [hne, h]
  rfl

section Feed

variable {ps : List (List UInt8)} {xs : List TSPacket} (h : CleanRun ps xs)
  {old fed data : List UInt8} (hfed : fed ++ data <+: ps.flatten)
include h hfed

/-- Between two packets a chunk leads to the next boundary. -/
theorem CleanRun.feed_aligned (hsize : data.length ≤ 18612) :
    (alignedState fed).feed data = (alignedState (fed ++ data),
      (xs.take ((fed ++ data).length / 188)).drop (fed.length / 188)) := by
  by_cases hdata : data = []
  · subst hdata
    rw [feed_nil, List.append_nil, List.drop_take_self]
  · have hlen : (fed ++ data).length = fed.length + data.length := List.length_append
    have hfit : (fed.drop (188 * (fed.length / 188))).length + data.length ≤ maxBufferSize := by
      rw [List.length_drop]
      simp only [maxBufferSize, mpegtsPacketSize, maxBufferPackets]
      omega
    have hfeed : (alignedState fed).feed data =
        InputState.readPackets (fed.drop (188 * (fed.length / 188)) ++ data) 0 :=
      feed_synchronized hdata hfit
    rw [hfeed, h.readPackets hfed (j := fed.length / 188) (by omega)]
    rw [List.drop_zero, List.drop_append_of_le_length (by omega)]

lemma CleanRun.resyncs_early {state : InputState} (hearly : Early old fed state)
    (hdata : data ≠ []) (hsize : data.length ≤ 18424) :
    Resyncs old (fed ++ data) (state.feed data).1 := by
  obtain ⟨buffer, synchronized, syncOffset⟩ := state
  obtain ⟨rfl, rfl, hsuffix, hshort, hrecent⟩ := hearly
  dsimp only at hsuffix hshort hrecent
  have hfit : buffer.length + data.length ≤ maxBufferSize := by
    simp only [maxBufferSize, mpegtsPacketSize, maxBufferPackets]
    omega
  have hlen : (fed ++ data).length = fed.length + data.length := List.length_append
  have hlen' : (buffer ++ data).length = buffer.length + data.length := List.length_append
  have htotal : (old ++ (fed ++ data)).length = old.length + (fed ++ data).length :=
    List.length_append
  have hle := hsuffix.length_le
  rw [List.length_append] at hle
  rw [feed_synchronized hdata hfit]
  apply h.resyncs_readPackets hfed
  · rw [← List.append_assoc]
    exact List.suffix_append_self_iff.mpr hsuffix
  · omega
  · left
    omega
  · left
    omega

lemma CleanRun.resyncs_searching {state : InputState} (hsearching : Searching old fed state)
    (hdata : data ≠ []) : Resyncs old (fed ++ data) (state.feed data).1 := by
  obtain ⟨hunsync, hsuffix, hkept⟩ := hsearching
  set buffer := limitBuffer (state.rawBuffer ++ data) with hbuffer
  have hpos := List.length_pos_of_ne_nil hdata
  have hlen : (fed ++ data).length = fed.length + data.length := List.length_append
  have hlen' : (state.rawBuffer ++ data).length = state.rawBuffer.length + data.length :=
    List.length_append
  have htotal : (old ++ (fed ++ data)).length = old.length + (fed ++ data).length :=
    List.length_append
  have hlimit : buffer.length = min (state.rawBuffer.length + data.length) 18800 := by
    have hmax : maxBufferSize = 18800 := rfl
    rw [hbuffer, length_limitBuffer, hlen', hmax]
    omega
  have hsuffix' : buffer <:+ old ++ (fed ++ data) := by
    rw [← List.append_assoc]
    exact (limitBuffer_suffix _).trans (List.suffix_append_self_iff.mpr hsuffix)
  have hkept' : (fed ++ data).length < buffer.length + 376 ∨ buffer.length = 18800 := by omega
  rw [feed_unsynchronized hunsync hdata]
  by_cases hlong : 18800 ≤ (fed ++ data).length
  · -- the old bytes are gone
    have hdrop : buffer = (fed ++ data).drop ((fed ++ data).length - buffer.length) := by
      have heq := List.suffix_iff_eq_drop.mp hsuffix'
      rwa [List.drop_append, List.drop_eq_nil_of_le (by omega), List.nil_append,
        show (old ++ (fed ++ data)).length - buffer.length - old.length =
          (fed ++ data).length - buffer.length by omega] at heq
    have hfind := h.find hfed (k := (fed ++ data).length - buffer.length) (by omega)
    rw [← hdrop] at hfind
    obtain ⟨start, hstart⟩ := Option.ne_none_iff_exists'.mp hfind
    rw [hstart]
    left
    apply h.readPackets_behind hfed hsuffix' (by omega)
    exact syncByte_of_isSyncPosition (findSyncPosition_eq_some.mp hstart).1
  · cases hfind : findSyncPosition buffer with
    | none => exact .inr ⟨by omega, .inr ⟨hunsync, hsuffix', hkept'⟩⟩
    | some start =>
      apply h.resyncs_readPackets hfed hsuffix' (by omega) hkept'
      right
      exact syncByte_of_isSyncPosition (findSyncPosition_eq_some.mp hfind).1

/-- Every chunk of at most 98 packets keeps the demultiplexer on its way to the boundaries. -/
theorem CleanRun.resyncs_feed {state : InputState} (hstate : Resyncs old fed state)
    (hsize : data.length ≤ 18424) : Resyncs old (fed ++ data) (state.feed data).1 := by
  by_cases hdata : data = []
  · subst hdata
    rw [feed_nil, List.append_nil]
    exact hstate
  · obtain rfl | ⟨_, hearly | hsearching⟩ := hstate
    · left
      rw [h.feed_aligned hfed (by omega)]
    · exact h.resyncs_early hfed hearly hdata hsize
    · exact h.resyncs_searching hfed hsearching hdata

end Feed

/-! ### Runs -/

lemma input_call (d : MPEGTSDemuxer) {c : Call} (hc : c ≠ .clearAll) :
    (d.call c).1.toInputState = (d.toInputState.feed (c.chunk?.getD [])).1 ∧
      (d.callTrace c).map Prod.snd = (d.toInputState.feed (c.chunk?.getD [])).2 := by
  cases c with
  | feedData data =>
    refine ⟨?_, feedTrace_packets d data⟩
    show (d.feedData data).toInputState = (d.toInputState.feed data).1
    rw [feedData_eq]
  | clearAll => exact absurd rfl hc
  | _ => exact ⟨rfl, rfl⟩

lemma flatten_chunksOf_cons (c : Call) (calls : List Call) :
    (chunksOf (c :: calls)).flatten = c.chunk?.getD [] ++ (chunksOf calls).flatten := by
  unfold chunksOf
  cases hc : c.chunk? with
  | none => rw [List.filterMap_cons_none hc, Option.getD_none, List.nil_append]
  | some data => rw [List.filterMap_cons_some hc, List.flatten_cons, Option.getD_some]

lemma chunksOf_subset_cons (c : Call) (calls : List Call) : chunksOf calls ⊆ chunksOf (c :: calls) :=
  ((List.sublist_cons_self c calls).filterMap Call.chunk?).subset

lemma drop_take_append {α : Type} (l : List α) {i j k : Nat} (hij : i ≤ j) (hjk : j ≤ k) :
    (l.take j).drop i ++ (l.take k).drop j = (l.take k).drop i := by
  have htake : l.take j = (l.take k).take j := by rw [List.take_take, min_eq_left hjk]
  have hdrop : (l.take k).drop j = ((l.take k).drop i).drop (j - i) := by
    rw [List.drop_drop, Nat.add_sub_of_le hij]
  rw [htake, hdrop, List.drop_take, List.take_append_drop]

lemma mem_chunksOf {c : Call} {calls : List Call} (hc : c ∈ calls) {bound : Nat}
    (h : ∀ data ∈ chunksOf calls, data.length ≤ bound) : (c.chunk?.getD []).length ≤ bound := by
  cases hchunk : c.chunk? with
  | none => exact Nat.zero_le _
  | some data => exact h data (List.mem_filterMap.mpr ⟨c, hc, hchunk⟩)

section Runs

variable {ps : List (List UInt8)} {xs : List TSPacket} (h : CleanRun ps xs) {fed : List UInt8}
  {calls : List Call} (hcalls : ∀ c ∈ calls, c ≠ .clearAll)
  (hfed : fed ++ (chunksOf calls).flatten <+: ps.flatten)
include h hcalls hfed

lemma CleanRun.resyncs_run {old : List UInt8} {d : MPEGTSDemuxer}
    (hd : Resyncs old fed d.toInputState)
    (hsize : ∀ data ∈ chunksOf calls, data.length ≤ 18424) :
    Resyncs old (fed ++ (chunksOf calls).flatten) (d.run calls).toInputState := by
  induction calls generalizing d fed with
  | nil =>
    show Resyncs old (fed ++ []) d.toInputState
    rwa [List.append_nil]
  | cons c calls ih =>
    rw [flatten_chunksOf_cons, ← List.append_assoc] at hfed ⊢
    have hfirst := h.resyncs_feed ((List.prefix_append _ _).trans hfed) hd
      (mem_chunksOf List.mem_cons_self hsize)
    rw [← (input_call d (hcalls c List.mem_cons_self)).1] at hfirst
    apply ih (fun c' hc' => hcalls c' (List.mem_cons_of_mem c hc')) hfed hfirst
    intro data hdata
    exact hsize data (chunksOf_subset_cons c calls hdata)

/-- From a boundary on, every packet that has arrived completely has been processed. -/
theorem CleanRun.aligned_run {d : MPEGTSDemuxer} (hd : d.toInputState = alignedState fed)
    (hsize : ∀ data ∈ chunksOf calls, data.length ≤ 18612) :
    (d.run calls).toInputState = alignedState (fed ++ (chunksOf calls).flatten) ∧
      d.processedPackets calls =
        (xs.take ((fed ++ (chunksOf calls).flatten).length / 188)).drop (fed.length / 188) := by
  induction calls generalizing d fed with
  | nil =>
    have hnil : (chunksOf []).flatten = [] := rfl
    rw [hnil, List.append_nil, List.drop_take_self]
    exact ⟨hd, rfl⟩
  | cons c calls ih =>
    rw [flatten_chunksOf_cons, ← List.append_assoc] at hfed ⊢
    have hfirst := h.feed_aligned ((List.prefix_append _ _).trans hfed)
      (mem_chunksOf List.mem_cons_self hsize)
    obtain ⟨hstate, hpackets⟩ := input_call d (hcalls c List.mem_cons_self)
    rw [hd, hfirst] at hstate hpackets
    obtain ⟨hfinal, hrest⟩ := ih (fun c' hc' => hcalls c' (List.mem_cons_of_mem c hc')) hfed hstate
      (fun data hdata => hsize data (chunksOf_subset_cons c calls hdata))
    refine ⟨hfinal, ?_⟩
    rw [processedPackets_cons, hpackets, hrest]
    apply drop_take_append
    · exact Nat.div_le_div_right (List.prefix_append _ _).length_le
    · exact Nat.div_le_div_right (List.prefix_append _ _).length_le

end Runs

lemma resyncs_start {d : MPEGTSDemuxer} (hd : Reachable d) : Resyncs d.rawBuffer [] d.toInputState := by
  have hwell := input_wellFormed_of_reachable hd
  refine .inr ⟨by simp, ?_⟩
  cases hsync : d.isSynchronized with
  | true =>
    left
    exact ⟨hsync, hwell.syncOffset, by simp, hwell.drained hsync, by simp⟩
  | false =>
    right
    exact ⟨hsync, by simp, .inl (by simp)⟩

/-- From any reachable state, a clean run fed in chunks of at most 98 packets has brought the
demultiplexer to the packet boundaries when as many bytes have been fed as the buffer holds. From
then on every packet is processed when its last byte arrives. -/
theorem resynchronized {d : MPEGTSDemuxer} (hd : Reachable d) {ps : List (List UInt8)}
    {xs : List TSPacket} (hclean : CleanRun ps xs) {calls more : List Call}
    (hcalls : ∀ c ∈ calls ++ more, c ≠ .clearAll)
    (hsize : ∀ data ∈ chunksOf (calls ++ more), data.length ≤ 98 * mpegtsPacketSize)
    (hfed : (chunksOf (calls ++ more)).flatten <+: ps.flatten)
    (hlong : maxBufferSize ≤ (chunksOf calls).flatten.length) :
    (d.run calls).isSynchronized = true ∧
      (d.run calls).rawBuffer = (chunksOf calls).flatten.drop
        (mpegtsPacketSize * ((chunksOf calls).flatten.length / mpegtsPacketSize)) ∧
      (d.run calls).processedPackets more =
        (xs.take ((chunksOf (calls ++ more)).flatten.length / mpegtsPacketSize)).drop
          ((chunksOf calls).flatten.length / mpegtsPacketSize) := by
  have hchunks : chunksOf (calls ++ more) = chunksOf calls ++ chunksOf more := List.filterMap_append
  rw [hchunks] at hsize
  rw [hchunks, List.flatten_append] at hfed ⊢
  have hfirst : (d.run calls).toInputState = alignedState (chunksOf calls).flatten := by
    have hrun : Resyncs d.rawBuffer ([] ++ (chunksOf calls).flatten) (d.run calls).toInputState :=
      hclean.resyncs_run (fun c hc => hcalls c (List.mem_append_left _ hc))
        ((List.prefix_append _ _).trans hfed) (resyncs_start hd)
        (fun data hdata => hsize data (List.mem_append_left _ hdata))
    obtain heq | ⟨hlt, _⟩ := hrun
    · exact heq
    · exact absurd hlong (Nat.not_le.mpr hlt)
  refine ⟨congrArg InputState.isSynchronized hfirst, congrArg InputState.rawBuffer hfirst, ?_⟩
  apply (hclean.aligned_run (fun c hc => hcalls c (List.mem_append_right _ hc)) hfed hfirst _).2
  intro data hdata
  exact (hsize data (List.mem_append_right _ hdata)).trans (by decide)

/-- Packets of one PID, numbered by their counters. -/
def numberedPacket (i : Nat) : List UInt8 :=
  plainPacket 0x100 (UInt8.ofNat (i % 16)) false (List.replicate 184 0xAA)

def numberedTSPacket (i : Nat) : TSPacket :=
  plainTSPacket 0x100 (UInt8.ofNat (i % 16)) false (List.replicate 184 0xAA)

lemma cleanRun_numbered (n : Nat) :
    CleanRun ((List.range n).map numberedPacket) ((List.range n).map numberedTSPacket) := by
  have hcounter : ∀ i, UInt8.ofNat (i % 16) < 16 := by
    intro i
    have hbyte : 16 ≤ UInt8.size := by decide
    rw [UInt8.lt_iff_toNat_lt, UInt8.toNat_ofNat_of_lt' ((Nat.mod_lt i (by decide)).trans_le hbyte)]
    exact Nat.mod_lt i (by decide)
  have hnext : ∀ k < 16, UInt8.ofNat ((k + 1) % 16) = (UInt8.ofNat k + 1) % 16 := by decide
  have htail : ∀ k < 16, ∀ byte ∈ (numberedPacket k).tail, byte ≠ mpegtsSyncByte := by decide +kernel
  constructor
  · unfold AcceptedPackets
    rw [List.forall₂_map_left_iff, List.forall₂_map_right_iff, List.forall₂_same]
    intro i _
    refine ⟨?_, accept_plainPacket (by decide) (hcounter i) false _⟩
    unfold numberedPacket
    rw [length_plainPacket, List.length_replicate]
  · intro p hp byte hbyte
    obtain ⟨i, _, rfl⟩ := List.mem_map.mp hp
    have hmod : numberedPacket i = numberedPacket (i % 16) := by
      unfold numberedPacket
      rw [Nat.mod_mod]
    rw [hmod] at hbyte
    exact htail (i % 16) (Nat.mod_lt i (by decide)) byte hbyte
  · rw [List.isChain_iff_getElem]
    intro i hi
    rw [List.getElem_map, List.getElem_map, List.getElem_range, List.getElem_range]
    apply belongs_of_consecutive
    refine ⟨rfl, ?_⟩
    show UInt8.ofNat ((i + 1) % 16) = (UInt8.ofNat (i % 16) + 1) % 16
    rw [← hnext (i % 16) (Nat.mod_lt i (by decide)), Nat.mod_add_mod]

/-- A buffer full of sync bytes, then a clean run with one packet in every chunk. -/
theorem resynchronized_numbered :
    let d := run {} [.feedData (List.replicate 18800 0x47)]
    let calls := ((List.range 100).map numberedPacket).map Call.feedData
    (d.run calls).isSynchronized = true ∧
      (d.run calls).processedPackets [.clearStream 0x100, .feedData (numberedPacket 100)] =
        [numberedTSPacket 100] := by
  intro d calls
  set more := [Call.clearStream 0x100, .feedData (numberedPacket 100)] with hmore
  have hlength : ∀ n, ((List.range n).map numberedPacket).flatten.length = 188 * n := by
    intro n
    rw [length_flatten_accepted (cleanRun_numbered n).accepted, List.length_map, List.length_range]
  have hchunks : chunksOf (calls ++ more) = (List.range 101).map numberedPacket := by
    unfold chunksOf
    rw [List.filterMap_append]
    show chunksOf calls ++ [numberedPacket 100] = _
    rw [chunksOf_feeds, List.range_succ, List.map_append]
    rfl
  have hcalls : ∀ c ∈ calls ++ more, c ≠ .clearAll := by
    intro c hc
    rcases List.mem_append.mp hc with hc | hc
    · obtain ⟨p, _, rfl⟩ := List.mem_map.mp hc
      exact fun heq => nomatch heq
    · rcases List.mem_pair.mp hc with rfl | rfl <;> exact fun heq => nomatch heq
  have hsize : ∀ data ∈ chunksOf (calls ++ more), data.length ≤ 98 * mpegtsPacketSize := by
    rw [hchunks]
    intro data hdata
    obtain ⟨i, _, rfl⟩ := List.mem_map.mp hdata
    unfold numberedPacket
    rw [length_plainPacket, List.length_replicate]
    decide
  have hfed : (chunksOf (calls ++ more)).flatten <+: ((List.range 101).map numberedPacket).flatten := by
    rw [hchunks]
  have hlong : maxBufferSize ≤ (chunksOf calls).flatten.length := by
    rw [chunksOf_feeds, hlength]
  obtain ⟨hsync, _, hpackets⟩ :=
    resynchronized (⟨_, rfl⟩ : Reachable d) (cleanRun_numbered 101) hcalls hsize hfed hlong
  refine ⟨hsync, hpackets.trans ?_⟩
  rw [hchunks, chunksOf_feeds, hlength, hlength]
  rfl

end MinimalMpegTS
