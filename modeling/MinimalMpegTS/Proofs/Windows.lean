import MinimalMpegTS.Proofs.Input
import MinimalMpegTS.Proofs.Packets
import MinimalMpegTS.Proofs.Store

/-!
# Which windows of the stream are processed

A window is the place of a processed packet in the stream of all bytes fed. As long as no call
loses synchronization after it has processed packets, windows are disjoint and processed in
order. When a call does, the early return of the processing loop leaves the packets that it has
processed in the buffer, and the next sync search finds them again.
-/

namespace MinimalMpegTS

open Framing MPEGTSDemuxer

/-- A demultiplexer and the stream of all bytes that were fed to it. -/
structure Feeding where
  stream : List UInt8 := []
  demuxer : MPEGTSDemuxer := {}

namespace Feeding

/-- Feed a chunk. -/
def feed (self : Feeding) (data : List UInt8) : Feeding × Unit :=
  (⟨self.stream ++ data, self.demuxer.feedData data⟩, ())

/-- The windows that a call processes: their positions in the stream, and the packets. -/
def windows (self : Feeding) (data : List UInt8) : List (Nat × TSPacket) :=
  (self.demuxer.feedTrace data).map (fun entry =>
    ((self.stream ++ data).length - entry.1.rawBuffer.length + entry.1.syncOffset, entry.2))

/-- The windows that are processed when these chunks are fed to a fresh demultiplexer. -/
def processedWindows (chunks : List (List UInt8)) : List (Nat × TSPacket) :=
  Transducer.trace feed windows {} chunks

end Feeding

/-- Where the call starts to read, the first window is rejected or all windows are accepted. -/
def ReadsCleanly (d : MPEGTSDemuxer) (data : List UInt8) : Prop :=
  data = [] ∨ ∀ start, d.toInputState.startPosition (limitBuffer (d.rawBuffer ++ data)) = some start →
    TSPacket.accept (packetAt (limitBuffer (d.rawBuffer ++ data)) start) = none ∨
    ∀ i, start + mpegtsPacketSize * (i + 1) ≤ (limitBuffer (d.rawBuffer ++ data)).length →
      TSPacket.accept (packetAt (limitBuffer (d.rawBuffer ++ data)) (start + mpegtsPacketSize * i)) ≠
        none

/-! ### One call -/

lemma loopTrace_accept {fuel : Nat} {d : MPEGTSDemuxer} {entry : MPEGTSDemuxer × TSPacket}
    (h : entry ∈ loopTrace fuel d) :
    entry.1.syncOffset + mpegtsPacketSize ≤ entry.1.rawBuffer.length ∧
      TSPacket.accept (packetAt entry.1.rawBuffer entry.1.syncOffset) = some entry.2 := by
  induction fuel generalizing d with
  | zero => exact absurd h List.not_mem_nil
  | succ fuel ih =>
    rw [loopTrace] at h
    by_cases hlen : mpegtsPacketSize ≤ d.unread.length
    · cases hx : TSPacket.accept (d.unread.take mpegtsPacketSize) with
      | none =>
        rw [loopStep_lostSync hlen hx] at h
        exact absurd h List.not_mem_nil
      | some packet =>
        rw [loopStep_processed hlen hx] at h
        rcases List.mem_cons.mp h with rfl | h
        · exact ⟨loopStep_complete hlen, hx⟩
        · exact ih h
    · rw [loopStep_finished (by omega)] at h
      exact absurd h List.not_mem_nil

lemma feedTrace_none {d : MPEGTSDemuxer} {data : List UInt8}
    (h : d.toInputState.startPosition (limitBuffer (d.rawBuffer ++ data)) = none) :
    d.feedTrace data = [] := by
  have hstart : (d.bufferData data).toInputState.startPosition (d.bufferData data).rawBuffer =
      none := h
  unfold feedTrace
  rw [synchronize_eq, hstart]
  exact ite_self _

lemma feedTrace_some {d : MPEGTSDemuxer} {data : List UInt8} {start : Nat} (hdata : data ≠ [])
    (h : d.toInputState.startPosition (limitBuffer (d.rawBuffer ++ data)) = some start) :
    d.feedTrace data = loopTrace (limitBuffer (d.rawBuffer ++ data)).length
      { d.bufferData data with isSynchronized := true, syncOffset := start } := by
  have hstart : (d.bufferData data).toInputState.startPosition (d.bufferData data).rawBuffer =
      some start := h
  have hne : data.isEmpty = false := by simpa using hdata
  unfold feedTrace
  rw [synchronize_eq, hstart, hne]
  rfl

lemma windows_some {f : Feeding} {data : List UInt8} {start : Nat} (hdata : data ≠ [])
    (h : f.demuxer.toInputState.startPosition (limitBuffer (f.demuxer.rawBuffer ++ data)) =
      some start) :
    (f.windows data).map Prod.fst =
      (List.range (packetsOf ((limitBuffer (f.demuxer.rawBuffer ++ data)).drop start)).length).map
        (fun i => (f.stream ++ data).length - (limitBuffer (f.demuxer.rawBuffer ++ data)).length +
          (start + mpegtsPacketSize * i)) := by
  let e : MPEGTSDemuxer :=
    { f.demuxer.bufferData data with isSynchronized := true, syncOffset := start }
  obtain ⟨_, hoffsets, hbuffer⟩ := loopTrace_eq (loop_fuel e)
  have hpositions := congrArg (List.map (fun offset => (f.stream ++ data).length -
    (limitBuffer (f.demuxer.rawBuffer ++ data)).length + offset)) hoffsets
  rw [List.map_map, List.map_map] at hpositions
  unfold Feeding.windows
  rw [feedTrace_some hdata h, List.map_map]
  refine Eq.trans ?_ hpositions
  apply List.map_congr_left
  intro entry hentry
  simp only [Function.comp_apply]
  rw [hbuffer entry hentry]
  rfl

/-! ### Invariants of feeding -/

/-- The buffer is the end of the stream and the windows hold the processed packets. -/
structure Positioned (f : Feeding) (ws : List (Nat × TSPacket)) : Prop where
  suffix : f.demuxer.rawBuffer <:+ f.stream
  packets : ∀ w ∈ ws, w.1 + mpegtsPacketSize ≤ f.stream.length ∧
    TSPacket.accept (packetAt f.stream w.1) = some w.2
  total : f.demuxer.totalPacketsProcessed = UInt64.ofNat ws.length

lemma packetAt_suffix {buffer stream : List UInt8} (h : buffer <:+ stream) (pos : Nat) :
    packetAt stream (stream.length - buffer.length + pos) = packetAt buffer pos := by
  obtain ⟨front, rfl⟩ := h
  unfold packetAt
  rw [List.length_append, Nat.add_sub_cancel, ← List.drop_drop, List.drop_left]

/-- Every chunk keeps the buffer and the windows in place. -/
theorem positioned_feed {f : Feeding} {ws : List (Nat × TSPacket)} (h : Positioned f ws)
    (data : List UInt8) : Positioned (f.feed data).1 (ws ++ f.windows data) := by
  have hsuffix := feed_rawBuffer_suffix f.demuxer.toInputState data
  have hstream : f.demuxer.rawBuffer ++ data <:+ f.stream ++ data := by
    obtain ⟨front, hfront⟩ := h.suffix
    exact ⟨front, by rw [← hfront, List.append_assoc]⟩
  have hlength : (f.windows data).length = (f.demuxer.toInputState.feed data).2.length := by
    rw [← feedTrace_packets, List.length_map]
    unfold Feeding.windows
    rw [List.length_map]
  refine ⟨?_, ?_, ?_⟩
  · show (f.demuxer.feedData data).rawBuffer <:+ f.stream ++ data
    rw [feedData_eq]
    exact hsuffix.trans hstream
  · intro w hw
    show w.1 + mpegtsPacketSize ≤ (f.stream ++ data).length ∧
      TSPacket.accept (packetAt (f.stream ++ data) w.1) = some w.2
    rcases List.mem_append.mp hw with hw | hw
    · obtain ⟨hlen, hacc⟩ := h.packets w hw
      rw [packetAt_append data hlen, List.length_append]
      exact ⟨by omega, hacc⟩
    · by_cases hdata : data = []
      · subst hdata
        exact absurd hw List.not_mem_nil
      · cases hstart : f.demuxer.toInputState.startPosition
            (limitBuffer (f.demuxer.rawBuffer ++ data)) with
        | none =>
          unfold Feeding.windows at hw
          rw [feedTrace_none hstart] at hw
          exact absurd hw List.not_mem_nil
        | some start =>
          unfold Feeding.windows at hw
          rw [feedTrace_some hdata hstart] at hw
          obtain ⟨entry, hentry, rfl⟩ := List.mem_map.mp hw
          obtain ⟨hlen, hacc⟩ := loopTrace_accept hentry
          obtain ⟨_, _, hbuffer⟩ := loopTrace_eq (loop_fuel
            { f.demuxer.bufferData data with isSynchronized := true, syncOffset := start })
          have hlimit : entry.1.rawBuffer <:+ f.stream ++ data := by
            rw [hbuffer entry hentry]
            exact (limitBuffer_suffix _).trans hstream
          have hle := hlimit.length_le
          refine ⟨?_, ?_⟩
          · dsimp only
            omega
          · rw [packetAt_suffix hlimit]
            exact hacc
  · show (f.demuxer.feedData data).totalPacketsProcessed = _
    rw [feedData_eq]
    show (f.demuxer.toPacketState.processPackets _).totalPacketsProcessed = _
    rw [PacketState.totalPacketsProcessed_processPackets, h.total, List.length_append, hlength, UInt64.ofNat_add]

/-- The windows are disjoint, in order, and no longer in the buffer. -/
structure Consumed (f : Feeding) (ws : List (Nat × TSPacket)) : Prop where
  ordered : (ws.map Prod.fst).Pairwise (fun p q => p + mpegtsPacketSize ≤ q)
  before : ∀ p ∈ ws.map Prod.fst,
    p + mpegtsPacketSize ≤ f.stream.length - f.demuxer.rawBuffer.length

lemma positions_length_le {ps : List Nat} {bound : Nat}
    (h : ps.Pairwise (fun p q => p + mpegtsPacketSize ≤ q)) (low : Nat) (hlow : low ≤ bound)
    (hps : ∀ p ∈ ps, low ≤ p ∧ p + mpegtsPacketSize ≤ bound) :
    low + mpegtsPacketSize * ps.length ≤ bound := by
  induction ps generalizing low with
  | nil => simpa using hlow
  | cons p ps ih =>
    rw [List.pairwise_cons] at h
    obtain ⟨hlp, hpb⟩ := hps p List.mem_cons_self
    have hrest := ih h.2 (p + mpegtsPacketSize) hpb (fun q hq =>
      ⟨h.1 q hq, (hps q (List.mem_cons_of_mem p hq)).2⟩)
    rw [List.length_cons, Nat.mul_succ]
    omega

lemma pairwise_range_positions (base n : Nat) :
    ((List.range n).map (fun i => base + mpegtsPacketSize * i)).Pairwise
      (fun p q => p + mpegtsPacketSize ≤ q) := by
  rw [List.pairwise_map]
  refine List.pairwise_lt_range.imp ?_
  intro i j hij
  have hmul : mpegtsPacketSize * (i + 1) ≤ mpegtsPacketSize * j := Nat.mul_le_mul_left _ hij
  rw [Nat.mul_succ] at hmul
  omega

lemma Consumed.keep {f : Feeding} {ws : List (Nat × TSPacket)} (h : Consumed f ws) {data : List UInt8}
    (hp : Positioned f ws) (hnil : (f.windows data).map Prod.fst = []) :
    Consumed (f.feed data).1 (ws ++ f.windows data) := by
  have hle := hp.suffix.length_le
  have hraw : (f.feed data).1.demuxer.rawBuffer.length ≤ f.demuxer.rawBuffer.length + data.length := by
    have hsuffix := (feed_rawBuffer_suffix f.demuxer.toInputState data).length_le
    rw [List.length_append] at hsuffix
    show (f.demuxer.feedData data).rawBuffer.length ≤ _
    rwa [feedData_eq]
  constructor
  · rw [List.map_append, hnil, List.append_nil]
    exact h.ordered
  · rw [List.map_append, hnil, List.append_nil]
    intro p hpm
    have hb := h.before p hpm
    show p + mpegtsPacketSize ≤ (f.stream ++ data).length - _
    rw [List.length_append]
    omega

lemma Consumed.read {f : Feeding} {ws : List (Nat × TSPacket)} (h : Consumed f ws) {data : List UInt8}
    (hp : Positioned f ws) {buffer : List UInt8} {start : Nat}
    (hbuffer : buffer.length ≤ f.demuxer.rawBuffer.length + data.length)
    (hpositions : (f.windows data).map Prod.fst = (List.range (packetsOf (buffer.drop start)).length).map
      (fun i => (f.stream ++ data).length - buffer.length + (start + mpegtsPacketSize * i)))
    (hraw : (f.feed data).1.demuxer.rawBuffer = restOf (buffer.drop start)) :
    Consumed (f.feed data).1 (ws ++ f.windows data) := by
  have hle := hp.suffix.length_le
  have hcount : mpegtsPacketSize * (packetsOf (buffer.drop start)).length ≤ buffer.length - start := by
    have hread : mpegtsPacketSize * (packetsOf (buffer.drop start)).length ≤
        (buffer.drop start).length := frames_length_le packetSize_pos _
    rwa [List.length_drop] at hread
  have hrest : (restOf (buffer.drop start)).length = buffer.length - start -
      mpegtsPacketSize * (packetsOf (buffer.drop start)).length := by
    dsimp only [restOf, packetsOf]
    unfold leftover
    rw [List.length_drop, List.length_drop]
  constructor
  · rw [List.map_append, hpositions, List.pairwise_append]
    refine ⟨h.ordered, ?_, ?_⟩
    · have hrange := pairwise_range_positions ((f.stream ++ data).length - buffer.length + start)
        (packetsOf (buffer.drop start)).length
      simpa only [Nat.add_assoc] using hrange
    · intro p hpm q hq
      have hb := h.before p hpm
      obtain ⟨i, _, rfl⟩ := List.mem_map.mp hq
      rw [List.length_append]
      omega
  · rw [List.map_append, hraw, hrest]
    show ∀ p ∈ _, p + mpegtsPacketSize ≤ (f.stream ++ data).length - _
    intro p hpm
    rw [List.length_append]
    rcases List.mem_append.mp hpm with hpm | hpm
    · have hb := h.before p hpm
      omega
    · rw [hpositions, List.length_append] at hpm
      obtain ⟨i, hi, rfl⟩ := List.mem_map.mp hpm
      have hmul : mpegtsPacketSize * (i + 1) ≤
          mpegtsPacketSize * (packetsOf (buffer.drop start)).length :=
        Nat.mul_le_mul_left _ (List.mem_range.mp hi)
      have hpos := packetSize_pos
      rw [Nat.mul_succ] at hmul
      omega

/-- A call that reads cleanly consumes the windows that it processes. -/
theorem consumed_feed {f : Feeding} {ws : List (Nat × TSPacket)} (h : Consumed f ws)
    (hp : Positioned f ws) {data : List UInt8} (hclean : ReadsCleanly f.demuxer data) :
    Consumed (f.feed data).1 (ws ++ f.windows data) := by
  by_cases hdata : data = []
  · subst hdata
    exact h.keep hp rfl
  have hne : data.isEmpty = false := by simpa using hdata
  set buffer := limitBuffer (f.demuxer.rawBuffer ++ data) with hbuffer
  have hbufferLe : buffer.length ≤ f.demuxer.rawBuffer.length + data.length := by
    have hl := (limitBuffer_suffix (f.demuxer.rawBuffer ++ data)).length_le
    rwa [List.length_append] at hl
  cases hstart : f.demuxer.toInputState.startPosition buffer with
  | none =>
    apply h.keep hp
    unfold Feeding.windows
    rw [feedTrace_none hstart]
    rfl
  | some start =>
    have hpositions := windows_some hdata hstart
    rw [← hbuffer] at hpositions
    have hfeed : f.demuxer.toInputState.feed data = InputState.readPackets buffer start := by
      unfold InputState.feed
      rw [hne]
      dsimp only
      rw [← hbuffer, hstart]
      rfl
    by_cases hall : AllAccepted (buffer.drop start)
    · apply h.read hp hbufferLe hpositions
      show (f.demuxer.feedData data).rawBuffer = _
      rw [feedData_eq, hfeed]
      unfold InputState.readPackets
      rw [if_pos hall]
    · have hreject : packetsOf (buffer.drop start) = [] := by
        rcases hclean with hempty | hclean
        · exact absurd hempty hdata
        rcases hclean start hstart with hfirst | hwindows
        · exact frames_reject hfirst
        · refine absurd ?_ hall
          dsimp only [AllAccepted]
          rw [drained_iff packetSize_pos]
          intro i hi
          rw [List.length_drop] at hi
          have hpos := packetSize_pos
          have hwindow := hwindows i (by
            rw [← hbuffer, Nat.mul_succ]
            rw [Nat.mul_succ] at hi
            omega)
          unfold packetAt at hwindow
          rwa [← List.drop_drop] at hwindow
      apply h.keep hp
      rw [hpositions, hreject]
      rfl

/-- When every call reads cleanly, the processed windows are disjoint and in the order of the
stream, and no more packets are processed than were fed. -/
theorem windows_disjoint (chunks : List (List UInt8))
    (hclean : Transducer.Along Feeding.feed (fun f data => ReadsCleanly f.demuxer data) {} chunks) :
    ((Feeding.processedWindows chunks).map Prod.fst).Pairwise
        (fun p q => p + mpegtsPacketSize ≤ q) ∧
      (∀ w ∈ Feeding.processedWindows chunks,
        TSPacket.accept (packetAt chunks.flatten w.1) = some w.2) ∧
      mpegtsPacketSize *
          (Transducer.final Feeding.feed {} chunks).demuxer.totalPacketsProcessed.toNat ≤
        chunks.flatten.length := by
  have hstream : ∀ (f : Feeding) (chunks : List (List UInt8)),
      (Transducer.final Feeding.feed f chunks).stream = f.stream ++ chunks.flatten := by
    intro f chunks
    induction chunks generalizing f with
    | nil => simp
    | cons data chunks ih =>
      rw [Transducer.final_cons, ih, List.flatten_cons]
      show (f.stream ++ data) ++ chunks.flatten = _
      rw [List.append_assoc]
  have hinv := Transducer.traced_invariant Feeding.feed Feeding.windows
    (fun f data => ReadsCleanly f.demuxer data) (fun f ws => Positioned f ws ∧ Consumed f ws)
    ?_ ?_ hclean (l := [])
  · rw [List.nil_append] at hinv
    obtain ⟨hpos, hcons⟩ := hinv
    have hflat := hstream {} chunks
    have hnil : ({} : Feeding).stream ++ chunks.flatten = chunks.flatten := rfl
    rw [hnil] at hflat
    refine ⟨hcons.ordered, ?_, ?_⟩
    · intro w hw
      rw [← hflat]
      exact (hpos.packets w hw).2
    · have hcount := positions_length_le hcons.ordered 0 (Nat.zero_le _)
        (fun p hp => ⟨Nat.zero_le _, hcons.before p hp⟩)
      have htotal := congrArg UInt64.toNat hpos.total
      rw [UInt64.toNat_ofNat'] at htotal
      have hmod := Nat.mod_le (Transducer.trace Feeding.feed Feeding.windows {} chunks).length (2 ^ 64)
      rw [List.length_map, hflat, Nat.zero_add] at hcount
      have hmul : mpegtsPacketSize *
          ((Transducer.trace Feeding.feed Feeding.windows {} chunks).length % 2 ^ 64) ≤
          mpegtsPacketSize * (Transducer.trace Feeding.feed Feeding.windows {} chunks).length :=
        Nat.mul_le_mul_left _ hmod
      rw [htotal]
      omega
  · rintro f data ws ⟨hpos, hcons⟩ hguard
    exact ⟨positioned_feed hpos data, consumed_feed hcons hpos hguard⟩
  · exact ⟨⟨List.suffix_refl _, by simp, rfl⟩, ⟨List.Pairwise.nil, by simp⟩⟩

lemma readsCleanly_of_all {d : MPEGTSDemuxer} {data : List UInt8} (start count : Nat)
    (hstart : d.toInputState.startPosition (limitBuffer (d.rawBuffer ++ data)) = some start)
    (hlength : (limitBuffer (d.rawBuffer ++ data)).length < start + mpegtsPacketSize * (count + 1))
    (hall : ∀ i < count, TSPacket.accept
      (packetAt (limitBuffer (d.rawBuffer ++ data)) (start + mpegtsPacketSize * i)) ≠ none) :
    ReadsCleanly d data := by
  right
  intro other hother
  obtain rfl : start = other := Option.some.inj (hstart.symm.trans hother)
  right
  intro i hi
  apply hall
  unfold mpegtsPacketSize at hlength hi
  omega

/-- A bad window comes in a chunk of its own, and packets go on behind it. -/
def relockChunks : List (List UInt8) := [threePackets, List.replicate 188 0, threePackets]

/-- Synchronization is lost at the first window of the second call, and found again by the third. -/
theorem windows_disjoint_relock :
    (Transducer.final Feeding.feed {} (relockChunks.take 2)).demuxer.isSynchronized = false ∧
      (Feeding.processedWindows relockChunks).length = 6 ∧
      ((Feeding.processedWindows relockChunks).map Prod.fst).Pairwise
        (fun p q => p + mpegtsPacketSize ≤ q) := by
  refine ⟨by decide +kernel, by decide +kernel, (windows_disjoint relockChunks ⟨?_, ?_, ?_, trivial⟩).1⟩
  · exact readsCleanly_of_all 0 3 (by decide +kernel) (by decide +kernel)
      (by decide +kernel)
  · right
    intro start hstart
    obtain rfl : 0 = start := Option.some.inj (Eq.trans (by decide +kernel) hstart)
    left
    decide +kernel
  · exact readsCleanly_of_all 188 3 (by decide +kernel) (by decide +kernel)
      (by decide +kernel)

/-- Three packets and a bad window in one chunk, then one more byte. -/
def lossChunks : List (List UInt8) := [threePackets ++ List.replicate 188 0, [0]]

/-- The three packets are processed twice, which is more than was fed. -/
theorem loss_processes_twice :
    (Feeding.processedWindows lossChunks).map Prod.fst = [0, 188, 376, 0, 188, 376] ∧
      ¬((Feeding.processedWindows lossChunks).map Prod.fst).Pairwise
        (fun p q => p + mpegtsPacketSize ≤ q) ∧
      lossChunks.flatten.length < mpegtsPacketSize *
        (Transducer.final Feeding.feed {} lossChunks).demuxer.totalPacketsProcessed.toNat := by
  have hwindows : (Feeding.processedWindows lossChunks).map Prod.fst = [0, 188, 376, 0, 188, 376] := by
    decide +kernel
  refine ⟨hwindows, ?_, by decide +kernel⟩
  rw [hwindows]
  decide

end MinimalMpegTS
