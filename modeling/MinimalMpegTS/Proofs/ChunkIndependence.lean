import MinimalMpegTS.Proofs.Packets
import MinimalMpegTS.Proofs.Reading
import MinimalMpegTS.Proofs.Store

/-!
# Independence of chunk boundaries

The sync search commits to the first position from which a chain of packets is complete in the
data buffered so far, so the position may depend on the chunks. Two ways of feeding a stream
that find the same position, with no window rejected after it, store the same iterations.
-/

namespace MinimalMpegTS

open MPEGTSDemuxer InputState

lemma feedChunks_firstSync {stream : List UInt8} (hlen : stream.length ≤ maxBufferSize)
    {chunks : List (List UInt8)} (hflat : chunks.flatten = stream) (hne : ∀ data ∈ chunks, data ≠ [])
    (hwindows : ∀ start, firstSync [] chunks = some start → WindowsAccepted stream start) :
    (chunks.foldl feedData {}).toPacketState = PacketState.processPackets {}
      ((firstSync [] chunks).elim [] (fun start => packetsOf (stream.drop start))) := by
  have hfits : Fits {} chunks := fits_of_length (by simpa [hflat] using hlen)
  have hpackets := packets_of_firstSync [] 0 hne hfits (by rwa [List.nil_append, hflat])
  rw [List.nil_append, hflat] at hpackets
  rw [feedChunks_eq]
  refine (congrArg (PacketState.processPackets {}) hpackets).trans ?_
  cases firstSync [] chunks with
  | none => rfl
  | some start => rfl

lemma iterationsOf_finalized {d : MPEGTSDemuxer} {s : PacketState} (h : d.toPacketState = s)
    (pid : UInt16) : d.finalized.storage.iterationsOf pid =
      s.finalizeAllIterations.storage.iterationsOf pid := by
  rw [← h]
  rfl

/-- Two ways of feeding a stream that fits the buffer give the same PIDs and iterations, when
their first successful sync searches find the same position (or both find none) and every window
from there that ends before the end of the stream is accepted. -/
theorem chunking_independent {stream : List UInt8} (hlen : stream.length ≤ maxBufferSize)
    {chunks chunks' : List (List UInt8)} (hflat : chunks.flatten = stream)
    (hflat' : chunks'.flatten = stream) (hne : ∀ data ∈ chunks, data ≠ [])
    (hne' : ∀ data ∈ chunks', data ≠ []) (hsync : firstSync [] chunks = firstSync [] chunks')
    (hwindows : ∀ start, firstSync [] chunks = some start → WindowsAccepted stream start) :
    (chunks.foldl feedData {}).getDiscoveredPIDs.2 =
        (chunks'.foldl feedData {}).getDiscoveredPIDs.2 ∧
      ∀ pid, (chunks.foldl feedData {}).finalized.storage.iterationsOf pid =
        (chunks'.foldl feedData {}).finalized.storage.iterationsOf pid := by
  have hstate : (chunks.foldl feedData {}).toPacketState =
      (chunks'.foldl feedData {}).toPacketState := by
    rw [feedChunks_firstSync hlen hflat hne hwindows,
      feedChunks_firstSync hlen hflat' hne' (by rwa [← hsync]), hsync]
  have hfin : (chunks.foldl feedData {}).finalized.toPacketState =
      (chunks'.foldl feedData {}).finalized.toPacketState :=
    congrArg PacketState.finalizeAllIterations hstate
  refine ⟨congrArg (fun s => s.storage.getDiscoveredPIDs) hfin, ?_⟩
  intro pid
  exact congrArg (fun s => s.storage.iterationsOf pid) hfin

lemma firstSync_of_find {data : List UInt8} {start : Nat} (h : findSyncPosition data = some start)
    (chunks : List (List UInt8)) : firstSync [] (data :: chunks) = some start := by
  unfold firstSync
  rw [List.nil_append, h]

lemma firstSync_threePackets_cut :
    firstSync [] [threePackets] = some 0 ∧
      firstSync [] [threePackets.take 200, threePackets.drop 200] = some 0 := by
  decide +kernel

theorem chunking_independent_threePackets :
    ([threePackets].foldl feedData {}).finalized.storage.iterationsOf 0x100 =
      ([threePackets.take 200, threePackets.drop 200].foldl feedData
        {}).finalized.storage.iterationsOf 0x100 := by
  obtain ⟨hwhole, hcut⟩ := firstSync_threePackets_cut
  refine (chunking_independent (by decide +kernel : threePackets.length ≤ maxBufferSize) (by decide +kernel)
    (by decide +kernel) (by decide +kernel) (by decide +kernel) (hwhole.trans hcut.symm) ?_).2 0x100
  intro start hstart i hi
  have heq : 0 = start := Option.some.inj (hwhole.symm.trans hstart)
  subst heq
  have hlength : threePackets.length = 564 := by decide +kernel
  have hi3 : i < 3 := by
    have hlt : 0 + 188 * (i + 1) < 564 := hlength ▸ hi
    omega
  have hall : ∀ i < 3, TSPacket.accept (packetAt threePackets (0 + mpegtsPacketSize * i)) ≠ none := by
    decide +kernel
  exact hall i hi3

/-- A packet of one PID, three of another, and two more of the first. -/
def interleavedStream : List UInt8 :=
  plainPacket 0x100 0 false (List.replicate 184 0xAA) ++
    plainPacket 0x101 5 false (List.replicate 184 0xBB) ++
    plainPacket 0x101 6 false (List.replicate 184 0xBB) ++
    plainPacket 0x101 7 false (List.replicate 184 0xBB) ++
    plainPacket 0x100 1 false (List.replicate 184 0xAA) ++
    plainPacket 0x100 2 false (List.replicate 184 0xAA)

/-- A packet of the outer PID of the stream. -/
def outerPacket (cc : UInt8) : TSPacket := plainTSPacket 0x100 cc false (List.replicate 184 0xAA)

lemma syncBytes_interleavedStream {pos : Nat} (h : interleavedStream[pos]? = some mpegtsSyncByte) :
    pos ∈ [0, 188, 376, 564, 752, 940] := by
  have hbytes : (interleavedStream.zipIdx.filter (fun entry => entry.1 == mpegtsSyncByte)).map Prod.snd =
      [0, 188, 376, 564, 752, 940] := by decide +kernel
  rw [← hbytes]
  apply List.mem_map_of_mem (a := (mpegtsSyncByte, pos))
  rw [List.mem_filter, List.mk_mem_zipIdx_iff_getElem?]
  exact ⟨h, rfl⟩

lemma firstCandidate_interleavedStream : FirstCandidate interleavedStream
    (searchLimit interleavedStream 0) (outerPacket 0) 1 752 (outerPacket 1) := by
  have hother : ∀ j ∈ [188, 376, 564],
      candidateAt interleavedStream [outerPacket 0] j = none := by decide +kernel
  refine ⟨by decide, by decide +kernel, by decide +kernel, ?_⟩
  intro j hle hlt
  by_cases hbyte : interleavedStream[j]? = some mpegtsSyncByte
  · have hmem := syncBytes_interleavedStream hbyte
    apply hother
    simp only [List.mem_cons, List.not_mem_nil, or_false] at hmem ⊢
    omega
  · exact candidateAt_of_byte hbyte _

lemma findSyncPosition_whole : findSyncPosition interleavedStream = some 0 := by
  rw [findSyncPosition_eq_some]
  refine ⟨?_, by decide +kernel, fun pos hpos => absurd hpos (Nat.not_lt_zero pos)⟩
  rw [isSyncPosition_iff]
  refine ⟨outerPacket 0, 752, outerPacket 1, 940, outerPacket 2, by decide +kernel,
    firstCandidate_interleavedStream, le_rfl, by decide +kernel, by decide +kernel, ?_⟩
  intro j hle hlt
  exact absurd hlt (Nat.not_lt.mpr hle)

lemma findSyncPosition_front : findSyncPosition (interleavedStream.take 752) = some 188 := by
  have hlength : (interleavedStream.take 752).length = mpegtsPacketSize * 4 := by decide +kernel
  have hsize : mpegtsPacketSize = 188 := rfl
  have hbytes : ∀ pos, (interleavedStream.take 752)[pos]? = some mpegtsSyncByte →
      pos ∈ [0, 188, 376, 564] := by
    intro pos hpos
    rw [List.getElem?_take] at hpos
    split at hpos
    · have hmem := syncBytes_interleavedStream hpos
      simp only [List.mem_cons, List.not_mem_nil, or_false] at hmem ⊢
      omega
    · cases hpos
  rw [findSyncPosition_eq_some]
  refine ⟨?_, by omega, ?_⟩
  · have hpackets : ∀ i < 3, TSPacket.accept (packetAt (interleavedStream.take 752) (188 * (i + 1))) =
        some (plainTSPacket 0x101 (UInt8.ofNat (i + 5)) false (List.replicate 184 0xBB)) := by
      decide +kernel
    apply isSyncPosition_chain (hpackets 0 (by decide)) (hpackets 1 (by decide))
      (hpackets 2 (by decide)) (by omega) _ (by decide +kernel) (by decide +kernel)
    intro j hlow hhigh hbyte
    have hmem := hbytes _ hbyte
    simp only [List.mem_cons, List.not_mem_nil, or_false] at hmem
    omega
  · intro pos hlt
    by_contra hsync
    rw [Bool.not_eq_false] at hsync
    have hmem := hbytes pos (syncByte_of_isSyncPosition hsync)
    simp only [List.mem_cons, List.not_mem_nil, or_false] at hmem
    obtain rfl : pos = 0 := by omega
    obtain ⟨p1, pos2, p2, _, _, h1, hfirst, _⟩ := isSyncPosition_iff.mp hsync
    have hp1 : candidateAt (interleavedStream.take 752) [] 0 = some (outerPacket 0) := by
      decide +kernel
    rw [hp1, Option.some.injEq] at h1
    subst h1
    have hfits : pos2 + mpegtsPacketSize ≤ (interleavedStream.take 752).length :=
      hfirst.fits.trans (min_le_right _ _)
    have hcandidate := hfirst.candidate
    rw [← candidateAt_append hfits _ (interleavedStream.drop 752), List.take_append_drop,
      firstCandidate_interleavedStream.first pos2 hfirst.le (by omega)] at hcandidate
    cases hcandidate

/-- Fed at once, the stream is read from its start. Fed in two chunks it is read from the second
packet, since the first chain that is complete in the first chunk starts there. -/
theorem chunks_choose_position :
    [interleavedStream].flatten =
        [interleavedStream.take 752, interleavedStream.drop 752].flatten ∧
      interleavedStream.length ≤ maxBufferSize ∧
      (([interleavedStream].foldl feedData {}).finalized.storage.iterationsOf 0x100).map
        (fun entry => entry.2.packetCount) = [3] ∧
      (([interleavedStream.take 752, interleavedStream.drop 752].foldl feedData
        {}).finalized.storage.iterationsOf 0x100).map (fun entry => entry.2.packetCount) = [2] := by
  have hflat : [interleavedStream.take 752, interleavedStream.drop 752].flatten =
      interleavedStream := by
    rw [List.flatten_cons, List.flatten_singleton, List.take_append_drop]
  have hlength : interleavedStream.length ≤ maxBufferSize := by decide +kernel
  have haccepted : ∀ i < 6, TSPacket.accept (packetAt interleavedStream (188 * i)) ≠ none := by
    decide +kernel
  have hwindows : ∀ k, WindowsAccepted interleavedStream (188 * k) := by
    intro k i hi
    have hsize : interleavedStream.length = 188 * 6 := by decide +kernel
    rw [hsize] at hi
    have hpos : 188 * k + mpegtsPacketSize * i = 188 * (k + i) := (Nat.mul_add 188 k i).symm
    have hlt : 188 * k + 188 * (i + 1) < 188 * 6 := hi
    rw [hpos]
    exact haccepted (k + i) (by omega)
  have hwhole := firstSync_of_find findSyncPosition_whole []
  have hcut := firstSync_of_find findSyncPosition_front [interleavedStream.drop 752]
  have hstate := feedChunks_firstSync hlength (List.flatten_singleton) (by decide +kernel)
    (fun start hstart => by
      obtain rfl := Option.some.inj (hwhole.symm.trans hstart)
      exact hwindows 0)
  have hstate' := feedChunks_firstSync hlength hflat (by decide +kernel)
    (fun start hstart => by
      obtain rfl := Option.some.inj (hcut.symm.trans hstart)
      exact hwindows 1)
  rw [hwhole, Option.elim_some] at hstate
  rw [hcut, Option.elim_some] at hstate'
  rw [iterationsOf_finalized hstate, iterationsOf_finalized hstate']
  refine ⟨by rw [hflat, List.flatten_singleton], hlength, ?_, ?_⟩
  · decide +kernel
  · decide +kernel

end MinimalMpegTS
