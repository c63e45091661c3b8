import MinimalMpegTS.Proofs.AdaptationField
import MinimalMpegTS.Proofs.Iterations

/-!
# Segments and their slices

The segments of an iteration tile its payload data, from the first packet of the iteration to its
copy in the storage, and the slices that the payload queries return for a stored iteration lie within
its payload data.
-/

namespace MinimalMpegTS

open MPEGTSDemuxer

/-! ### Tilings -/

/-- The segments are not empty and lie one behind the other from the start of the payload data to
its end. -/
structure Tiles (it : IterationData) : Prop where
  positive : ∀ segment ∈ it.payloads, 0 < segment.length
  offsets : ∀ i segment, it.payloads[i]? = some segment →
    segment.offsetInStream = ((it.payloads.take i).map PayloadSegment.length).sum
  total : (it.payloads.map PayloadSegment.length).sum = it.payloadData.length

/-- The payload data of the iteration consists of these pieces, and none of them is empty. -/
structure Filled (pieces : List (PayloadType × List UInt8)) (it : IterationData) : Prop where
  laid : Laid pieces it
  nonempty : ∀ piece ∈ pieces, piece.2 ≠ []

lemma layout_lengths (offset : Nat) (pieces : List (PayloadType × List UInt8)) :
    (layout offset pieces).map PayloadSegment.length = pieces.map (fun piece => piece.2.length) := by
  induction pieces generalizing offset with
  | nil => rfl
  | cons piece pieces ih => rw [layout, List.map_cons, List.map_cons, ih]

lemma layout_offsets {offset : Nat} {pieces : List (PayloadType × List UInt8)} {i : Nat}
    {segment : PayloadSegment} (h : (layout offset pieces)[i]? = some segment) :
    segment.offsetInStream =
      offset + (((layout offset pieces).take i).map PayloadSegment.length).sum := by
  induction pieces generalizing offset i with
  | nil => simp [layout] at h
  | cons piece pieces ih =>
    rw [layout] at h ⊢
    cases i with
    | zero =>
      rw [List.getElem?_cons_zero, Option.some.injEq] at h
      rw [← h]
      simp
    | succ i =>
      rw [List.getElem?_cons_succ] at h
      rw [ih h, List.take_succ_cons, List.map_cons, List.sum_cons, Nat.add_assoc]

lemma length_mem_layout {offset : Nat} {pieces : List (PayloadType × List UInt8)}
    {segment : PayloadSegment} (h : segment ∈ layout offset pieces) :
    ∃ piece ∈ pieces, segment.length = piece.2.length := by
  induction pieces generalizing offset with
  | nil => exact absurd h List.not_mem_nil
  | cons piece pieces ih =>
    rw [layout, List.mem_cons] at h
    rcases h with rfl | h
    · exact ⟨piece, List.mem_cons_self, rfl⟩
    · obtain ⟨other, hmem, hlength⟩ := ih h
      exact ⟨other, List.mem_cons_of_mem piece hmem, hlength⟩

lemma Filled.tiles {pieces : List (PayloadType × List UInt8)} {it : IterationData}
    (h : Filled pieces it) : Tiles it := by
  obtain ⟨⟨hpayloads, hdata⟩, hnonempty⟩ := h
  constructor
  · intro segment hsegment
    rw [hpayloads] at hsegment
    obtain ⟨piece, hpiece, hlength⟩ := length_mem_layout hsegment
    rw [hlength]
    exact List.length_pos_of_ne_nil (hnonempty piece hpiece)
  · intro i segment hsegment
    rw [hpayloads] at hsegment ⊢
    rw [layout_offsets hsegment, Nat.zero_add]
  · rw [hpayloads, hdata, layout_lengths, List.length_flatMap]

lemma fixSegment_length (size : Nat) (segment : PayloadSegment) :
    (StreamIterations.fixSegment size segment).length = segment.length := by
  unfold StreamIterations.fixSegment
  split <;> rfl

lemma fixSegment_offset (size : Nat) (segment : PayloadSegment) :
    (StreamIterations.fixSegment size segment).offsetInStream = segment.offsetInStream := by
  unfold StreamIterations.fixSegment
  split <;> rfl

lemma Tiles.copyIteration {it : IterationData} (h : Tiles it) :
    Tiles (StreamIterations.copyIteration it) := by
  have hlengths : ∀ segments : List PayloadSegment,
      (segments.map (StreamIterations.fixSegment it.payloadData.length)).map PayloadSegment.length =
        segments.map PayloadSegment.length := by
    intro segments
    rw [List.map_map]
    apply List.map_congr_left
    intro segment _
    exact fixSegment_length _ segment
  unfold StreamIterations.copyIteration
  constructor
  · intro segment hsegment
    obtain ⟨original, horiginal, rfl⟩ := List.mem_map.mp hsegment
    rw [fixSegment_length]
    exact h.positive original horiginal
  · intro i segment hsegment
    dsimp only at hsegment ⊢
    rw [List.getElem?_map] at hsegment
    obtain ⟨original, horiginal, rfl⟩ := Option.map_eq_some_iff.mp hsegment
    rw [fixSegment_offset, ← List.map_take, hlengths]
    exact h.offsets i original horiginal
  · dsimp only
    rw [hlengths]
    exact h.total

/-! ### Every iteration is tiled -/

lemma TSPacket.pieces_nonempty {packet : TSPacket} (h : packet.Received) :
    ∀ piece ∈ packet.pieces, piece.2 ≠ [] := by
  intro piece hpiece
  unfold pieces at hpiece
  apply List.ne_nil_of_length_pos
  rcases List.mem_append.mp hpiece with hpiece | hpiece
  · split at hpiece
    · next hpositive =>
      obtain rfl := List.mem_singleton.mp hpiece
      rwa [← length_privateBytes h] at hpositive
    · exact absurd hpiece List.not_mem_nil
  · split at hpiece
    · next hpositive =>
      obtain rfl := List.mem_singleton.mp hpiece
      obtain ⟨hpayload, hsize⟩ := Bool.and_eq_true_iff.mp hpositive
      rw [decide_eq_true_eq, ← length_payloadBytes h hpayload] at hsize
      exact hsize
    · exact absurd hpiece List.not_mem_nil

lemma Filled.addPacket {pieces : List (PayloadType × List UInt8)} {it : IterationData}
    (h : Filled pieces it) (lastCc : Option UInt8) {packet : TSPacket} (hpacket : packet.Received) :
    Filled (pieces ++ packet.pieces) (it.addPacket lastCc packet) := by
  constructor
  · exact IterationData.laid_addPacket h.laid lastCc packet
  · intro piece hpiece
    rcases List.mem_append.mp hpiece with hpiece | hpiece
    · exact h.nonempty piece hpiece
    · exact TSPacket.pieces_nonempty hpacket piece hpiece

namespace StreamView

/-- The iterations of the PID consist of pieces, and the stored ones are copies of such. -/
structure Segmented (v : StreamView) : Prop where
  pending : ∀ it, v.pending = some it → ∃ pieces, Filled pieces it
  stored : ∀ entry ∈ v.stored,
    ∃ it pieces, Filled pieces it ∧ entry.2 = StreamIterations.copyIteration it

lemma Segmented.finalize {v : StreamView} (h : Segmented v) (pid : UInt16) :
    Segmented (v.finalize pid) := by
  constructor
  · intro it hit
    rw [pending_finalize] at hit
    cases hit
  · intro entry hentry
    rw [stored_finalize, List.mem_append] at hentry
    rcases hentry with hentry | hentry
    · exact h.stored entry hentry
    · rw [Option.mem_toList, Option.map_eq_some_iff] at hentry
      obtain ⟨it, hit, rfl⟩ := hentry
      obtain ⟨pieces, hfilled⟩ := h.pending it hit
      exact ⟨it, pieces, hfilled, rfl⟩

lemma Segmented.add {v : StreamView} (h : Segmented v) (iterId : UInt32) {packet : TSPacket}
    (hpacket : packet.Received) : Segmented (v.add iterId packet) := by
  have hempty : ∀ it, Laid [] it → Filled [] it := by
    intro it hlaid
    exact ⟨hlaid, fun piece hpiece => absurd hpiece List.not_mem_nil⟩
  constructor
  · intro it hit
    rw [pending_add, Option.some.injEq] at hit
    subst hit
    split
    · exact ⟨_, (hempty _ (laid_start packet.header)).addPacket _ hpacket⟩
    · cases hp : v.pending with
      | none => exact ⟨_, (hempty _ laid_fresh).addPacket _ hpacket⟩
      | some it =>
        obtain ⟨pieces, hfilled⟩ := h.pending it hp
        exact ⟨_, hfilled.addPacket _ hpacket⟩
  · intro entry hentry
    rw [stored_add] at hentry
    split at hentry
    · exact (h.finalize packet.header.pid).stored entry hentry
    · exact h.stored entry hentry

lemma segmented_invariant : ViewInvariant (fun _ => Segmented) := by
  constructor
  · intro _
    constructor
    · intro it hit
      cases hit
    · intro entry hentry
      cases hentry
  · intro pid v h
    exact h.finalize pid
  · intro v iterId packet _ hpacket h
    exact h.add iterId hpacket
  · intro pid v stream hsub h
    constructor
    · exact h.pending
    · intro entry hentry
      exact h.stored entry (hsub.subset hentry)

end StreamView

lemma segmented_of_reachable {d : MPEGTSDemuxer} (hd : Reachable d) (pid : UInt16) :
    (d.view pid).Segmented :=
  StreamView.segmented_invariant.of_reachable hd pid

/-! ### The slices of a stored iteration -/

lemma slice_inRange {it : IterationData} (h : Tiles it) {segment : PayloadSegment}
    (hsegment : segment ∈ (StreamIterations.copyIteration it).payloads) :
    ∃ bytes, (payloadBuffer (StreamIterations.copyIteration it) segment).data = some bytes ∧
      segment.length ≤ bytes.length := by
  obtain ⟨original, horiginal, rfl⟩ := List.mem_map.mp hsegment
  obtain ⟨i, hi⟩ := List.mem_iff_getElem?.mp horiginal
  have hpositive := h.positive original horiginal
  have hoffset := h.offsets i original hi
  have htotal := h.total
  have hsplit : it.payloads = it.payloads.take i ++ original :: it.payloads.drop (i + 1) := by
    obtain ⟨hlt, hget⟩ := List.getElem?_eq_some_iff.mp hi
    rw [← hget, ← List.drop_eq_getElem_cons hlt, List.take_append_drop]
  rw [hsplit, List.map_append, List.sum_append, List.map_cons, List.sum_cons, ← hoffset] at htotal
  have hlt : original.offsetInStream < it.payloadData.length := by omega
  have hfix : StreamIterations.fixSegment it.payloadData.length original =
      { original with data := some original.offsetInStream } := if_pos hlt
  rw [hfix]
  refine ⟨it.payloadData.drop original.offsetInStream, rfl, ?_⟩
  rw [List.length_drop]
  dsimp only
  omega

/-- The buffers that `getAllPayloads` returns for a stored iteration. -/
def slices (it : IterationData) : List PayloadBuffer := it.payloads.map (payloadBuffer it)

/-- The total length of the buffers of a type. -/
def slicesSize (type : PayloadType) (buffers : List PayloadBuffer) : Nat :=
  ((buffers.filter (fun buffer => buffer.type = type)).map PayloadBuffer.length).sum

/-- The bytes of the segments of a type, in order. -/
def bytesOf (type : PayloadType) (it : IterationData) : List UInt8 :=
  ((slices it).filter (fun buffer => buffer.type = type)).flatMap PayloadBuffer.bytes

lemma slicesSize_slices (type : PayloadType) (it : IterationData) :
    slicesSize type (slices it) = segmentsSize type it := by
  unfold slicesSize slices segmentsSize
  rw [List.filter_map, List.map_map]
  rfl

lemma slices_stored {d : MPEGTSDemuxer} (hd : Reachable d) {pid : UInt16}
    {entry : UInt32 × IterationData} (hentry : entry ∈ d.storage.iterationsOf pid) :
    (∀ buffer ∈ slices entry.2, ∃ bytes, buffer.data = some bytes ∧ buffer.length ≤ bytes.length) ∧
      (slices entry.2).flatMap PayloadBuffer.bytes = entry.2.payloadData := by
  obtain ⟨it, pieces, hfilled, hcopy⟩ := (segmented_of_reachable hd pid).stored entry hentry
  rw [hcopy]
  constructor
  · intro buffer hbuffer
    obtain ⟨segment, hsegment, rfl⟩ := List.mem_map.mp hbuffer
    exact slice_inRange hfilled.tiles hsegment
  · have hread := congrArg (List.flatMap Prod.snd) (readBack_laid hfilled.laid)
    unfold readBack at hread
    rw [List.flatMap_map] at hread
    exact hread.trans hfilled.laid.payloadData.symm

end MinimalMpegTS
