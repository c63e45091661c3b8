import MinimalMpegTS.Proofs.StateInvariant
import MinimalMpegTS.Proofs.Windows

/-!
# Packet alignment

A synchronized demultiplexer reads the next packet at the start of its buffer. When the buffer
overflows, the oldest bytes are discarded, whatever their number: the packets are read at the same
distance from each other as before exactly if whole packets are discarded, or if the first window of
what is left is rejected.
-/

namespace MinimalMpegTS

open Framing MPEGTSDemuxer

/-- The number of bytes that a call discards. -/
def discardedBytes (d : MPEGTSDemuxer) (data : List UInt8) : Nat :=
  d.rawBuffer.length + data.length - maxBufferSize

/-- The call discards whole packets, or none, or the first window that it leaves is rejected. -/
def KeepsAlignment (d : MPEGTSDemuxer) (data : List UInt8) : Prop :=
  mpegtsPacketSize ∣ discardedBytes d data ∨
    TSPacket.accept (packetAt (limitBuffer (d.rawBuffer ++ data)) 0) = none

namespace Feeding

/-- The position in the stream at which the next packet is read. -/
def position (self : Feeding) : Nat := self.stream.length - self.demuxer.rawBuffer.length

/-- The windows that are processed until synchronization is lost. -/
def windowsUntilLoss : Feeding → List (List UInt8) → List (Nat × TSPacket)
  | _, [] => []
  | self, data :: chunks =>
    self.windows data ++ if (self.feed data).1.demuxer.isSynchronized then
      windowsUntilLoss (self.feed data).1 chunks else []

/-- Every call keeps the alignment, until synchronization is lost. -/
def KeepsAlignmentUntilLoss : Feeding → List (List UInt8) → Prop
  | _, [] => True
  | self, data :: chunks => KeepsAlignment self.demuxer data ∧
    ((self.feed data).1.demuxer.isSynchronized = true →
      KeepsAlignmentUntilLoss (self.feed data).1 chunks)

/-- A synchronized demultiplexer that holds the end of the stream. -/
structure Locked (f : Feeding) : Prop where
  wellFormed : f.demuxer.toInputState.WellFormed
  isSynchronized : f.demuxer.isSynchronized = true
  suffix : f.demuxer.rawBuffer <:+ f.stream

end Feeding

lemma length_limitBuffer (buffer : List UInt8) :
    (limitBuffer buffer).length = buffer.length - (buffer.length - maxBufferSize) := by
  unfold limitBuffer
  split
  · rw [List.length_drop]
  · omega

namespace Feeding.Locked

variable {f : Feeding}

lemma startPosition (h : f.Locked) (buffer : List UInt8) :
    f.demuxer.toInputState.startPosition buffer = some 0 := by
  unfold InputState.startPosition
  rw [if_pos h.isSynchronized, h.wellFormed.syncOffset]

lemma buffer_position (h : f.Locked) (data : List UInt8) :
    (f.stream ++ data).length - (limitBuffer (f.demuxer.rawBuffer ++ data)).length =
      f.position + discardedBytes f.demuxer data := by
  have hle := h.suffix.length_le
  have hlength := length_limitBuffer (f.demuxer.rawBuffer ++ data)
  unfold Feeding.position discardedBytes
  rw [List.length_append] at hlength ⊢
  omega

lemma packet_of_discarded {data : List UInt8} (h : ¬mpegtsPacketSize ∣ discardedBytes f.demuxer data) :
    mpegtsPacketSize ≤ (limitBuffer (f.demuxer.rawBuffer ++ data)).length := by
  have hpos : 0 < discardedBytes f.demuxer data := by
    apply Nat.pos_of_ne_zero
    intro hzero
    rw [hzero] at h
    exact h (dvd_zero _)
  have hsize : mpegtsPacketSize ≤ maxBufferSize := by decide
  rw [length_limitBuffer, List.length_append]
  unfold discardedBytes at hpos
  omega

lemma mod_position_iff {position discarded : Nat} (i : Nat) :
    (position + discarded + (0 + mpegtsPacketSize * i)) % mpegtsPacketSize =
      position % mpegtsPacketSize ↔ mpegtsPacketSize ∣ discarded := by
  simp only [mpegtsPacketSize]
  omega

lemma windows_aligned_iff (h : f.Locked) (data : List UInt8) :
    (∀ w ∈ f.windows data, w.1 % mpegtsPacketSize = f.position % mpegtsPacketSize) ↔
      KeepsAlignment f.demuxer data := by
  by_cases hdata : data = []
  · subst hdata
    have hbound := h.wellFormed.bounded
    have hzero : discardedBytes f.demuxer [] = 0 := by
      unfold discardedBytes
      rw [List.length_nil]
      omega
    constructor
    · intro _
      left
      rw [hzero]
      exact dvd_zero _
    · intro _ w hw
      exact absurd hw List.not_mem_nil
  have hpositions := windows_some hdata (h.startPosition _)
  rw [h.buffer_position, List.drop_zero] at hpositions
  have hmod : ∀ i, (f.position + discardedBytes f.demuxer data + (0 + mpegtsPacketSize * i)) %
      mpegtsPacketSize = f.position % mpegtsPacketSize ↔
        mpegtsPacketSize ∣ discardedBytes f.demuxer data :=
    fun i => mod_position_iff i
  constructor
  · intro haligned
    by_cases hdvd : mpegtsPacketSize ∣ discardedBytes f.demuxer data
    · exact .inl hdvd
    · right
      cases haccept : TSPacket.accept (packetAt (limitBuffer (f.demuxer.rawBuffer ++ data)) 0) with
      | none => rfl
      | some packet =>
        -- the first window of the truncated buffer is processed, off the alignment
        have hframes := frames_accept packetSize_pos (packet_of_discarded hdvd) haccept
        have hfirst : f.position + discardedBytes f.demuxer data + (0 + mpegtsPacketSize * 0) ∈
            (f.windows data).map Prod.fst := by
          rw [hpositions]
          apply List.mem_map_of_mem (f := fun i => f.position + discardedBytes f.demuxer data +
            (0 + mpegtsPacketSize * i))
          rw [List.mem_range, packetsOf, hframes]
          exact Nat.succ_pos _
        obtain ⟨w, hw, hposition⟩ := List.mem_map.mp hfirst
        have hw := haligned w hw
        rw [hposition] at hw
        exact absurd ((hmod 0).mp hw) hdvd
  · intro hkeep w hw
    have hmem := List.mem_map_of_mem (f := Prod.fst) hw
    rw [hpositions, List.mem_map] at hmem
    obtain ⟨i, hi, hposition⟩ := hmem
    rw [← hposition, hmod]
    rcases hkeep with hdvd | hreject
    · exact hdvd
    · have hnone : packetsOf (limitBuffer (f.demuxer.rawBuffer ++ data)) = [] := frames_reject hreject
      rw [hnone] at hi
      exact absurd hi (by simp)

lemma toInputState_feed (f : Feeding) (data : List UInt8) :
    (f.feed data).1.demuxer.toInputState = (f.demuxer.toInputState.feed data).1 := by
  show (f.demuxer.feedData data).toInputState = _
  rw [feedData_eq]

lemma rawBuffer_feed (f : Feeding) (data : List UInt8) :
    (f.feed data).1.demuxer.rawBuffer = (f.demuxer.toInputState.feed data).1.rawBuffer :=
  congrArg InputState.rawBuffer (toInputState_feed f data)

lemma isSynchronized_feed (f : Feeding) (data : List UInt8) :
    (f.feed data).1.demuxer.isSynchronized = (f.demuxer.toInputState.feed data).1.isSynchronized :=
  congrArg InputState.isSynchronized (toInputState_feed f data)

lemma feed (h : f.Locked) {data : List UInt8}
    (hsync : (f.feed data).1.demuxer.isSynchronized = true) : (f.feed data).1.Locked := by
  constructor
  · rw [toInputState_feed]
    exact h.wellFormed.feed data
  · exact hsync
  · obtain ⟨front, hfront⟩ := h.suffix
    have hstream : f.demuxer.rawBuffer ++ data <:+ f.stream ++ data :=
      ⟨front, by rw [← hfront, List.append_assoc]⟩
    rw [rawBuffer_feed]
    exact (feed_rawBuffer_suffix f.demuxer.toInputState data).trans hstream

lemma position_feed (h : f.Locked) {data : List UInt8} (hkeep : KeepsAlignment f.demuxer data)
    (hsync : (f.feed data).1.demuxer.isSynchronized = true) :
    (f.feed data).1.position % mpegtsPacketSize = f.position % mpegtsPacketSize := by
  by_cases hdata : data = []
  · subst hdata
    unfold Feeding.position Feeding.feed
    rw [List.append_nil]
    rfl
  have hne : data.isEmpty = false := by simpa using hdata
  set buffer := limitBuffer (f.demuxer.rawBuffer ++ data) with hbuffer
  have hfeed : f.demuxer.toInputState.feed data = InputState.readPackets buffer 0 := by
    unfold InputState.feed
    rw [hne, if_neg Bool.false_ne_true]
    dsimp only
    rw [h.startPosition]
  rw [isSynchronized_feed, hfeed] at hsync
  have hall : AllAccepted buffer := by
    by_contra hnot
    unfold InputState.readPackets at hsync
    rw [List.drop_zero, if_neg hnot] at hsync
    cases hsync
  have hraw : (f.feed data).1.demuxer.rawBuffer = restOf buffer := by
    rw [rawBuffer_feed, hfeed]
    unfold InputState.readPackets
    rw [List.drop_zero, if_pos hall]
  have hdvd : mpegtsPacketSize ∣ discardedBytes f.demuxer data := by
    rcases hkeep with hdvd | hreject
    · exact hdvd
    · by_contra hnot
      exact not_drained_reject (packet_of_discarded hnot) hreject hall
  have hrest : (restOf buffer).length = buffer.length - mpegtsPacketSize * (packetsOf buffer).length := by
    unfold restOf leftover
    rw [List.length_drop]
  have hle : mpegtsPacketSize * (packetsOf buffer).length ≤ buffer.length :=
    frames_length_le packetSize_pos buffer
  have hstream : buffer.length ≤ (f.stream ++ data).length := by
    have hsuffix := (limitBuffer_suffix (f.demuxer.rawBuffer ++ data)).length_le
    have hraw := h.suffix.length_le
    rw [List.length_append] at hsuffix ⊢
    rw [hbuffer]
    omega
  have hposition : (f.feed data).1.position =
      f.position + discardedBytes f.demuxer data + (0 + mpegtsPacketSize * (packetsOf buffer).length) := by
    rw [← h.buffer_position, ← hbuffer]
    show (f.stream ++ data).length - (f.feed data).1.demuxer.rawBuffer.length = _
    rw [hraw, hrest]
    omega
  rw [hposition, mod_position_iff]
  exact hdvd

end Feeding.Locked

/-- From a synchronized state, the windows processed until synchronization is lost are all aligned
exactly if every call until then keeps the alignment. -/
theorem windows_aligned_until_loss_iff {f : Feeding} (hd : Reachable f.demuxer)
    (hsync : f.demuxer.isSynchronized = true) (hstream : f.demuxer.rawBuffer <:+ f.stream)
    (chunks : List (List UInt8)) :
    (∀ w ∈ f.windowsUntilLoss chunks, w.1 % mpegtsPacketSize = f.position % mpegtsPacketSize) ↔
      f.KeepsAlignmentUntilLoss chunks := by
  have hlocked : f.Locked := ⟨input_wellFormed_of_reachable hd, hsync, hstream⟩
  clear hd hsync hstream
  induction chunks generalizing f with
  | nil =>
    constructor
    · intro _
      trivial
    · intro _ w hw
      exact absurd hw List.not_mem_nil
  | cons data chunks ih =>
    have hone := hlocked.windows_aligned_iff data
    unfold Feeding.windowsUntilLoss Feeding.KeepsAlignmentUntilLoss
    by_cases hsync : (f.feed data).1.demuxer.isSynchronized = true
    · rw [if_pos hsync]
      constructor
      · intro h
        have hkeep := hone.mp (fun w hw => h w (List.mem_append_left _ hw))
        have hposition := hlocked.position_feed hkeep hsync
        refine ⟨hkeep, fun _ => (ih (hlocked.feed hsync)).mp ?_⟩
        intro w hw
        rw [hposition]
        exact h w (List.mem_append_right _ hw)
      · rintro ⟨hkeep, hrest⟩ w hw
        have hposition := hlocked.position_feed hkeep hsync
        rcases List.mem_append.mp hw with hw | hw
        · exact hone.mpr hkeep w hw
        · rw [← hposition]
          exact (ih (hlocked.feed hsync)).mpr (hrest hsync) w hw
    · rw [if_neg hsync, List.append_nil, hone]
      constructor
      · intro hkeep
        exact ⟨hkeep, fun hcontra => absurd hcontra hsync⟩
      · intro h
        exact h.1

/-- A demultiplexer that is synchronized after three packets. -/
def lockedFeeding : Feeding := ⟨threePackets, run {} [.feedData threePackets]⟩

lemma lockedFeeding_reachable : Reachable lockedFeeding.demuxer := by
  unfold lockedFeeding Reachable
  dsimp only
  exact ⟨[.feedData threePackets], rfl⟩

lemma lockedFeeding_state : lockedFeeding.demuxer.isSynchronized = true ∧
    lockedFeeding.demuxer.rawBuffer = [] ∧ lockedFeeding.position = 564 := by decide +kernel

/-- A packet of PID 0x100 with the counter 3, a number of times. -/
def repeatedPacket (n : Nat) : List UInt8 :=
  (List.replicate n (plainPacket 0x100 3 false (List.replicate 184 0xAA))).flatten

lemma length_repeatedPacket (n : Nat) : (repeatedPacket n).length = mpegtsPacketSize * n := by
  unfold repeatedPacket
  rw [List.length_flatten, List.map_replicate, List.sum_replicate, length_plainPacket,
    List.length_replicate, smul_eq_mul, Nat.mul_comm]

/-- With 101 packets the buffer overflows by one of them. -/
theorem windows_aligned_whole_packet : lockedFeeding.demuxer.isSynchronized = true ∧
    ∀ w ∈ lockedFeeding.windowsUntilLoss [repeatedPacket 101],
      w.1 % mpegtsPacketSize = lockedFeeding.position % mpegtsPacketSize := by
  obtain ⟨hsync, hraw, _⟩ := lockedFeeding_state
  refine ⟨hsync, (windows_aligned_until_loss_iff lockedFeeding_reachable hsync
    (by rw [hraw]; exact List.nil_suffix) _).mpr ?_⟩
  refine ⟨.inl ?_, fun _ => trivial⟩
  unfold discardedBytes
  rw [hraw, length_repeatedPacket]
  decide

/-- A byte and a hundred packets: the byte is discarded, and the packets behind it are processed off
the alignment. -/
theorem overflow_breaks_alignment :
    lockedFeeding.demuxer.isSynchronized = true ∧ lockedFeeding.position % mpegtsPacketSize = 0 ∧
      ∃ w ∈ lockedFeeding.windows (0 :: repeatedPacket 100), w.1 % mpegtsPacketSize ≠ 0 := by
  obtain ⟨hsync, hraw, hposition⟩ := lockedFeeding_state
  have hzero : lockedFeeding.position % mpegtsPacketSize = 0 := by
    rw [hposition]
    rfl
  have hlocked : lockedFeeding.Locked :=
    ⟨input_wellFormed_of_reachable lockedFeeding_reachable, hsync, by rw [hraw]; exact List.nil_suffix⟩
  have hlength : (0 :: repeatedPacket 100).length = 18801 := by
    rw [List.length_cons, length_repeatedPacket]
    decide
  refine ⟨hsync, hzero, ?_⟩
  by_contra hnone
  have hkeep := (hlocked.windows_aligned_iff (0 :: repeatedPacket 100)).mp (by
    intro w hw
    rw [hzero]
    by_contra hne
    exact hnone ⟨w, hw, hne⟩)
  rcases hkeep with hdvd | hreject
  · unfold discardedBytes at hdvd
    rw [hraw, hlength] at hdvd
    revert hdvd
    decide
  · have hlimit : limitBuffer ([] ++ 0 :: repeatedPacket 100) = repeatedPacket 100 := by
      unfold limitBuffer
      rw [List.nil_append, hlength]
      rfl
    have hfirst : packetAt (repeatedPacket 100) 0 =
        plainPacket 0x100 3 false (List.replicate 184 0xAA) := by
      unfold packetAt repeatedPacket
      rw [List.drop_zero, List.replicate_succ, List.flatten_cons]
      exact List.take_left' (by rw [length_plainPacket, List.length_replicate])
    rw [hraw, hlimit, hfirst, accept_plainPacket (by decide) (by decide)] at hreject
    cases hreject

end MinimalMpegTS
