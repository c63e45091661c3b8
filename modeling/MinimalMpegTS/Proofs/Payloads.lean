import MinimalMpegTS.Proofs.Segments
import MinimalMpegTS.Proofs.UniqueIds

/-!
# What the payload queries return

Both payload queries look up the first iteration stored under an id. `getAllPayloads` returns the
slices of a listed iteration exactly if the iteration found has the same contents, and `getPayload`
returns the whole payload of a type exactly if the iteration found is the listed one and has at most
one segment of the type, or if another one is found whose first segment happens to hold it.
-/

namespace MinimalMpegTS

open MPEGTSDemuxer

/-- The iteration stored first under the id of the entry. -/
def firstWithId (l : List (UInt32 × IterationData)) (iterId : UInt32) : Option IterationData :=
  (l.find? (fun entry => entry.1 == iterId)).map Prod.snd

lemma exists_firstWithId {l : List (UInt32 × IterationData)} {entry : UInt32 × IterationData}
    (h : entry ∈ l) : ∃ first, (entry.1, first) ∈ l ∧ firstWithId l entry.1 = some first := by
  unfold firstWithId
  cases hfind : l.find? (fun other => other.1 == entry.1) with
  | none =>
    have hne := List.find?_eq_none.mp hfind entry h
    simp at hne
  | some found =>
    have hid := List.find?_some hfind
    rw [beq_iff_eq] at hid
    refine ⟨found.2, ?_, rfl⟩
    rw [← hid]
    exact List.mem_of_find?_eq_some hfind

lemma firstWithId_of_nodup {l : List (UInt32 × IterationData)} (h : (l.map Prod.fst).Nodup)
    {entry : UInt32 × IterationData} (hmem : entry ∈ l) : firstWithId l entry.1 = some entry.2 := by
  unfold firstWithId
  rw [find?_of_nodup h hmem]
  rfl

/-! ### All payloads -/

/-- What `getAllPayloads` and `getIterationsSummary` tell about the stored iteration at an index:
the slices lie within a buffer, make up the payload data, and have the listed sizes. -/
structure Retrieved (d : MPEGTSDemuxer) (pid : UInt16) (i : Nat) (entry : UInt32 × IterationData) :
    Prop where
  inRange : ∀ buffer ∈ d.getAllPayloads pid entry.1,
    ∃ bytes, buffer.data = some bytes ∧ buffer.length ≤ bytes.length
  bytes : (d.getAllPayloads pid entry.1).flatMap PayloadBuffer.bytes = entry.2.payloadData
  sizes : ∃ info, (d.getIterationsSummary pid).2[i]? = some info ∧ info.iterationId = entry.1 ∧
    info.payloadNormalSize = slicesSize .payloadNormal (d.getAllPayloads pid entry.1) ∧
    info.payloadPrivateSize = slicesSize .payloadPrivate (d.getAllPayloads pid entry.1)

/-- The iteration stored first under the id of the entry has the same payload data, with as many
bytes of each type. -/
def FirstAgrees (l : List (UInt32 × IterationData)) (entry : UInt32 × IterationData) : Prop :=
  ∃ first, firstWithId l entry.1 = some first ∧ first.payloadData = entry.2.payloadData ∧
    ∀ type, segmentsSize type first = segmentsSize type entry.2

lemma getAllPayloads_eq {d : MPEGTSDemuxer} {pid : UInt16} {iterId : UInt32} {first : IterationData}
    (h : firstWithId (d.storage.iterationsOf pid) iterId = some first) :
    d.getAllPayloads pid iterId = slices first := by
  unfold getAllPayloads
  rw [findIteration_eq]
  unfold firstWithId at h
  rw [h]
  rfl

lemma summary_getElem {d : MPEGTSDemuxer} {pid : UInt16} {i : Nat} {entry : UInt32 × IterationData}
    (h : (d.storage.iterationsOf pid)[i]? = some entry) :
    (d.getIterationsSummary pid).2[i]? = some (iterationInfo entry.1 entry.2) := by
  have hstored : d.finalized.storage.iterationsOf pid = ((d.view pid).finalize pid).stored :=
    PacketState.iterationsOf_finalizeAllIterations d.toPacketState pid
  obtain ⟨hlt, _⟩ := List.getElem?_eq_some_iff.mp h
  rw [getIterationsSummary_eq, List.getElem?_map, hstored, StreamView.stored_finalize,
    PacketState.stored_view, List.getElem?_append_left hlt, h]
  rfl

lemma retrieved_iff {d : MPEGTSDemuxer} (hd : Reachable d) {pid : UInt16} {i : Nat}
    {entry : UInt32 × IterationData} (h : (d.storage.iterationsOf pid)[i]? = some entry) :
    Retrieved d pid i entry ↔ FirstAgrees (d.storage.iterationsOf pid) entry := by
  obtain ⟨first, hmem, hfirst⟩ := exists_firstWithId (List.mem_of_getElem? h)
  obtain ⟨hrange, hbytes⟩ := slices_stored hd hmem
  have hall := getAllPayloads_eq hfirst
  have hinfo := summary_getElem h
  constructor
  · rintro ⟨_, hdata, info, hlisted, _, hnormal, hprivate⟩
    rw [hinfo, Option.some.injEq] at hlisted
    subst hlisted
    rw [hall, slicesSize_slices] at hnormal hprivate
    refine ⟨first, hfirst, ?_, ?_⟩
    · rw [← hbytes, ← hdata, hall]
    · intro type
      cases type with
      | payloadNormal => exact hnormal.symm
      | payloadPrivate => exact hprivate.symm
  · rintro ⟨other, hother, hdata, hsizes⟩
    rw [hfirst, Option.some.injEq] at hother
    subst hother
    constructor
    · rw [hall]
      exact hrange
    · rw [hall, hbytes, hdata]
    · refine ⟨_, hinfo, rfl, ?_, ?_⟩
      · rw [hall, slicesSize_slices]
        exact (hsizes .payloadNormal).symm
      · rw [hall, slicesSize_slices]
        exact (hsizes .payloadPrivate).symm

/-- In every reachable state the iterations are tiled by their segments, and a stored iteration is
retrieved through the queries exactly if the first iteration with its id agrees with it. This is so
for all stored iterations when tables are only set while no iteration is pending and the counter
of ids does not come back to its start. -/
theorem segments_tile_run (calls : List Call) :
    (∀ pid it, (run {} calls).currentIterations.lookup pid = some it → Tiles it) ∧
      (∀ pid, ∀ entry ∈ (run {} calls).storage.iterationsOf pid, Tiles entry.2) ∧
      (∀ pid i entry, ((run {} calls).storage.iterationsOf pid)[i]? = some entry →
        (Retrieved (run {} calls) pid i entry ↔
          FirstAgrees ((run {} calls).storage.iterationsOf pid) entry)) ∧
      (Transducer.Along call SetsTableWhenIdle {} calls → generatedIterations {} calls < 2 ^ 32 →
        ∀ pid i entry, ((run {} calls).storage.iterationsOf pid)[i]? = some entry →
          Retrieved (run {} calls) pid i entry) := by
  have hreach : Reachable (run {} calls) := ⟨calls, rfl⟩
  have hseg := segmented_of_reachable hreach
  refine ⟨?_, ?_, ?_, ?_⟩
  · intro pid it hit
    obtain ⟨pieces, hfilled⟩ := (hseg pid).pending it hit
    exact hfilled.tiles
  · intro pid entry hentry
    obtain ⟨it, pieces, hfilled, hcopy⟩ := (hseg pid).stored entry hentry
    rw [hcopy]
    exact hfilled.tiles.copyIteration
  · intro pid i entry hentry
    exact retrieved_iff hreach hentry
  · intro hguard hcount pid i entry hentry
    rw [retrieved_iff hreach hentry]
    obtain ⟨count, numbers, hnum, hle⟩ := numbered_run hguard
    have hids := (uniqueIds_of_numbered hnum (hle.trans hcount.le)).nodup pid
    have hstored : (((run {} calls).storage.iterationsOf pid).map Prod.fst).Nodup :=
      hids.sublist (List.sublist_append_left _ _)
    refine ⟨entry.2, firstWithId_of_nodup hstored (List.mem_of_getElem? hentry), rfl, ?_⟩
    intro type
    rfl

/-- A table is set over a pending iteration, and both units are stored under the id 1. -/
def repeatedIdCalls : List Call := tableOverPendingCalls ++ [.getIterationsSummary 0x100]

/-- The three packets of the first unit are returned for the second one. -/
theorem repeated_id_not_retrieved :
    ∃ entry, ((run {} repeatedIdCalls).storage.iterationsOf 0x100)[1]? = some entry ∧
      ¬Retrieved (run {} repeatedIdCalls) 0x100 1 entry := by
  have hlisted : (((run {} repeatedIdCalls).storage.iterationsOf 0x100)[1]?).map
      (fun entry => (entry.1, entry.2.payloadData.length)) = some (1, 184) := by decide +kernel
  have hreturned : (((run {} repeatedIdCalls).getAllPayloads 0x100 1).flatMap
      PayloadBuffer.bytes).length = 552 := by decide +kernel
  obtain ⟨entry, hentry, hfields⟩ := Option.map_eq_some_iff.mp hlisted
  obtain ⟨hid, hlength⟩ := Prod.mk.inj hfields
  refine ⟨entry, hentry, ?_⟩
  intro h
  have hbytes := h.bytes
  rw [hid] at hbytes
  rw [hbytes, hlength] at hreturned
  cases hreturned

/-! ### The payload of one type -/

/-- The size of a type in the summary of an iteration. -/
def listedSize (type : PayloadType) (info : IterationInfo) : Nat :=
  match type with
  | .payloadNormal => info.payloadNormalSize
  | .payloadPrivate => info.payloadPrivateSize

/-- `getPayload` returns the bytes of all segments of the type of a listed iteration. -/
structure ReadsWhole (d : MPEGTSDemuxer) (pid : UInt16) (info : IterationInfo) (it : IterationData)
    (type : PayloadType) : Prop where
  length : (d.getPayload pid info.iterationId type).length = listedSize type info
  bytes : (d.getPayload pid info.iterationId type).bytes = bytesOf type it

/-- The bytes of the first segment of a type. -/
def firstBytes (type : PayloadType) (it : IterationData) : List UInt8 :=
  (((slices it).find? (fun buffer => buffer.type = type)).getD {}).bytes

/-- The iteration stored first under the id of the entry is the listed one and has at most one
segment of the type, or it is another one and its first segment of the type has these bytes. -/
def FirstSegmentWhole (l : List (UInt32 × IterationData)) (entry : UInt32 × IterationData)
    (type : PayloadType) : Prop :=
  ∃ first, firstWithId l entry.1 = some first ∧
    ((first = entry.2 ∧ (entry.2.payloads.filter (fun segment => segment.type = type)).length ≤ 1) ∨
      (first ≠ entry.2 ∧ firstBytes type first = bytesOf type entry.2))

lemma getPayload_eq {d : MPEGTSDemuxer} {pid : UInt16} {iterId : UInt32} {first : IterationData}
    (h : firstWithId (d.storage.iterationsOf pid) iterId = some first) (type : PayloadType) :
    d.getPayload pid iterId type =
      ((slices first).find? (fun buffer => buffer.type = type)).getD {} := by
  have hfind : (slices first).find? (fun buffer => buffer.type = type) =
      (first.payloads.find? (fun payload => payload.type = type)).map (payloadBuffer first) := by
    unfold slices
    rw [List.find?_map]
    rfl
  unfold getPayload
  rw [findIteration_eq]
  unfold firstWithId at h
  rw [h, hfind]
  dsimp only
  cases first.payloads.find? (fun payload => payload.type = type) with
  | none => rfl
  | some payload => rfl

section Slices

variable {d : MPEGTSDemuxer} (hd : Reachable d) {pid : UInt16} {entry : UInt32 × IterationData}
  (hentry : entry ∈ d.storage.iterationsOf pid)

include hd hentry

lemma length_slice_bytes : ∀ buffer ∈ slices entry.2, buffer.bytes.length = buffer.length := by
  intro buffer hbuffer
  obtain ⟨bytes, hdata, hle⟩ := (slices_stored hd hentry).1 buffer hbuffer
  unfold PayloadBuffer.bytes
  rw [hdata, Option.getD_some, List.length_take_of_le hle]

lemma length_bytesOf (type : PayloadType) :
    (bytesOf type entry.2).length = segmentsSize type entry.2 := by
  rw [← slicesSize_slices]
  unfold bytesOf slicesSize
  rw [List.length_flatMap]
  congr 1
  apply List.map_congr_left
  intro buffer hbuffer
  exact length_slice_bytes hd hentry buffer (List.mem_of_mem_filter hbuffer)

lemma length_firstBytes (type : PayloadType) : (firstBytes type entry.2).length =
    (((slices entry.2).find? (fun buffer => buffer.type = type)).getD {}).length := by
  unfold firstBytes
  cases hfind : (slices entry.2).find? (fun buffer => buffer.type = type) with
  | none => rfl
  | some buffer => exact length_slice_bytes hd hentry buffer (List.mem_of_find?_eq_some hfind)

lemma slice_nonempty : ∀ buffer ∈ slices entry.2, buffer.bytes ≠ [] := by
  obtain ⟨it, pieces, hfilled, hcopy⟩ := (segmented_of_reachable hd pid).stored entry hentry
  intro buffer hbuffer
  apply List.ne_nil_of_length_pos
  rw [length_slice_bytes hd hentry buffer hbuffer]
  obtain ⟨segment, hsegment, rfl⟩ := List.mem_map.mp hbuffer
  rw [hcopy] at hsegment
  exact hfilled.tiles.copyIteration.positive segment hsegment

lemma firstBytes_eq_iff (type : PayloadType) : firstBytes type entry.2 = bytesOf type entry.2 ↔
    (entry.2.payloads.filter (fun segment => segment.type = type)).length ≤ 1 := by
  have hnonempty := slice_nonempty hd hentry
  have hlength : (entry.2.payloads.filter (fun segment => segment.type = type)).length =
      ((slices entry.2).filter (fun buffer => buffer.type = type)).length := by
    unfold slices
    rw [List.filter_map, List.length_map]
    rfl
  unfold firstBytes bytesOf
  rw [hlength, ← List.head?_filter]
  cases hfilter : (slices entry.2).filter (fun buffer => buffer.type = type) with
  | nil =>
    constructor
    · intro _
      exact Nat.zero_le 1
    · intro _
      rfl
  | cons buffer rest =>
    rw [List.head?_cons, Option.getD_some, List.flatMap_cons, List.length_cons]
    constructor
    · intro heq
      have hrest : rest.flatMap PayloadBuffer.bytes = [] := List.self_eq_append_right.mp heq
      cases rest with
      | nil => exact le_rfl
      | cons other rest =>
        have hmem : other ∈ slices entry.2 := by
          have hother : other ∈ (slices entry.2).filter (fun buffer => buffer.type = type) := by
            rw [hfilter]
            simp
          exact List.mem_of_mem_filter hother
        rw [List.flatMap_cons, List.append_eq_nil_iff] at hrest
        exact absurd hrest.1 (hnonempty other hmem)
    · intro hle
      have hrest : rest = [] := List.eq_nil_of_length_eq_zero (by omega)
      rw [hrest, List.flatMap_nil, List.append_nil]

lemma readsWhole_iff (type : PayloadType) :
    ReadsWhole d pid (iterationInfo entry.1 entry.2) entry.2 type ↔
      FirstSegmentWhole (d.storage.iterationsOf pid) entry type := by
  obtain ⟨first, hmem, hfirst⟩ := exists_firstWithId hentry
  have hget : d.getPayload pid (iterationInfo entry.1 entry.2).iterationId type = _ :=
    getPayload_eq hfirst type
  have hlisted : listedSize type (iterationInfo entry.1 entry.2) = segmentsSize type entry.2 := by
    cases type <;> rfl
  have hwhole : ReadsWhole d pid (iterationInfo entry.1 entry.2) entry.2 type ↔
      firstBytes type first = bytesOf type entry.2 := by
    constructor
    · rintro ⟨_, hbytes⟩
      rwa [hget] at hbytes
    · intro hbytes
      constructor
      · rw [hget, hlisted, ← length_bytesOf hd hentry, ← hbytes]
        exact (length_firstBytes hd hmem type).symm
      · rw [hget]
        exact hbytes
  rw [hwhole]
  by_cases hsame : first = entry.2
  · rw [hsame, firstBytes_eq_iff hd hentry]
    constructor
    · intro hle
      exact ⟨first, hfirst, .inl ⟨hsame, hle⟩⟩
    · rintro ⟨other, hother, ⟨_, hle⟩ | ⟨hne, _⟩⟩
      · exact hle
      · rw [hfirst, Option.some.injEq] at hother
        exact absurd (hother.symm.trans hsame) hne
  · constructor
    · intro hbytes
      exact ⟨first, hfirst, .inr ⟨hsame, hbytes⟩⟩
    · rintro ⟨other, hother, hcases⟩
      rw [hfirst, Option.some.injEq] at hother
      subst hother
      rcases hcases with ⟨heq, _⟩ | ⟨_, hbytes⟩
      · exact absurd heq hsame
      · exact hbytes

end Slices

/-- For every listed iteration of every reachable state, `getPayload` returns the whole payload of a
type exactly if the first segment found under its id is whole. -/
theorem getPayload_whole_run (calls : List Call) (pid : UInt16) :
    List.Forall₂ (fun info entry => info = iterationInfo entry.1 entry.2 ∧ ∀ type,
      (ReadsWhole ((run {} calls).getIterationsSummary pid).1 pid info entry.2 type ↔
        FirstSegmentWhole (((run {} calls).getIterationsSummary pid).1.storage.iterationsOf pid)
          entry type))
      ((run {} calls).getIterationsSummary pid).2
      (((run {} calls).getIterationsSummary pid).1.storage.iterationsOf pid) := by
  have hstate : ((run {} calls).getIterationsSummary pid).1 = (run {} calls).finalized := rfl
  have hreach : Reachable (run {} calls).finalized := by
    refine ⟨calls ++ [.getDiscoveredPIDs], ?_⟩
    unfold run
    rw [Transducer.final_append]
    rfl
  rw [getIterationsSummary_eq, hstate, List.forall₂_map_left_iff, List.forall₂_same]
  intro entry hentry
  constructor
  · rfl
  · intro type
    exact readsWhole_iff hreach hentry type

/-- A unit of three packets: `getPayload` returns the payload of the first packet only. -/
theorem getPayload_first_packet_only :
    ∃ info, ((run {} [.feedData threePackets]).getIterationsSummary 0x100).2 = [info] ∧
      info.payloadNormalSize = 552 ∧
      (((run {} [.feedData threePackets]).getIterationsSummary 0x100).1.getPayload 0x100
        info.iterationId .payloadNormal).length = 184 := by
  have hlist : (((run {} [.feedData threePackets]).getIterationsSummary 0x100).2).map
      (fun info => (info.iterationId, info.payloadNormalSize)) = [(1, 552)] := by decide +kernel
  obtain ⟨info, rest, hinfos, hfields, hrest⟩ := List.map_eq_cons_iff.mp hlist
  obtain ⟨hid, hsize⟩ := Prod.mk.inj hfields
  rw [List.map_eq_nil_iff.mp hrest] at hinfos
  refine ⟨info, hinfos, hsize, ?_⟩
  rw [hid]
  decide +kernel

end MinimalMpegTS
