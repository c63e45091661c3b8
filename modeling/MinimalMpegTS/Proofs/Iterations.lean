import MinimalMpegTS.Lib.Batches
import MinimalMpegTS.Proofs.Store

/-!
# What an iteration is made of

An iteration is built from a group of packets of one PID, each with the counter of the packet
of that PID before it. `iterationOf` is the iteration of a group, its fields are read off the
group, and reading it back through the payload queries gives the pieces of its packets. The
view of a PID represents a `Batches` of such packets: the closed batches are the stored
iterations and the open one is the pending iteration.
-/

namespace MinimalMpegTS

/-- A packet with the counter of the last packet of its PID before it. -/
abbrev CountedPacket := Option UInt8 × TSPacket

namespace TSPacket

/-- What a packet contributes to the payload data of its iteration. -/
def pieces (self : TSPacket) : List (PayloadType × List UInt8) :=
  (if 0 < self.getPrivateDataLength then [(.payloadPrivate, self.privateBytes)] else []) ++
    if self.hasPayload && decide (0 < self.payloadSize) then [(.payloadNormal, self.payloadBytes)]
    else []

lemma privateBytes_of_length_zero {packet : TSPacket} (h : ¬0 < packet.getPrivateDataLength) :
    packet.privateBytes = [] := by
  unfold privateBytes
  rw [Nat.eq_zero_of_not_pos h, List.take_zero]

lemma payloadBytes_of_none {packet : TSPacket}
    (h : (packet.hasPayload && decide (0 < packet.payloadSize)) = false) :
    packet.payloadBytes = [] := by
  unfold payloadBytes
  by_cases hp : packet.hasPayload = true
  · have hsize : packet.payloadSize = 0 := by simpa [hp] using h
    rw [if_pos hp, hsize, List.take_zero]
  · rw [if_neg hp]

lemma pieces_bytes (packet : TSPacket) :
    packet.pieces.flatMap Prod.snd = packet.privateBytes ++ packet.payloadBytes := by
  unfold pieces
  by_cases hpriv : 0 < packet.getPrivateDataLength
  · cases hload : packet.hasPayload && decide (0 < packet.payloadSize) with
    | true => simp [hpriv]
    | false => simp [hpriv, payloadBytes_of_none hload]
  · cases hload : packet.hasPayload && decide (0 < packet.payloadSize) with
    | true => simp [hpriv, privateBytes_of_length_zero hpriv]
    | false => simp [hpriv, privateBytes_of_length_zero hpriv, payloadBytes_of_none hload]

/-- The bytes of one type that a packet contributes. -/
def bytesOfType (self : TSPacket) : PayloadType → List UInt8
  | .payloadNormal => self.payloadBytes
  | .payloadPrivate => self.privateBytes

lemma pieces_bytesOfType (packet : TSPacket) (type : PayloadType) :
    (packet.pieces.filter (fun piece => piece.1 = type)).flatMap Prod.snd =
      packet.bytesOfType type := by
  unfold pieces bytesOfType
  cases hload : packet.hasPayload && decide (0 < packet.payloadSize) with
  | false =>
    rw [payloadBytes_of_none hload]
    by_cases hpriv : 0 < packet.getPrivateDataLength
    · cases type <;> simp [hpriv]
    · rw [privateBytes_of_length_zero hpriv]
      cases type <;> simp [hpriv]
  | true =>
    by_cases hpriv : 0 < packet.getPrivateDataLength
    · cases type <;> simp [hpriv]
    · rw [privateBytes_of_length_zero hpriv]
      cases type <;> simp [hpriv]

end TSPacket

/-! ### Building an iteration -/

/-- The segments of consecutive pieces, the first of them at `offset`. -/
def layout : Nat → List (PayloadType × List UInt8) → List PayloadSegment
  | _, [] => []
  | offset, piece :: pieces =>
    { type := piece.1, data := none, length := piece.2.length, offsetInStream := offset } ::
      layout (offset + piece.2.length) pieces

lemma layout_append (offset : Nat) (xs ys : List (PayloadType × List UInt8)) :
    layout offset (xs ++ ys) =
      layout offset xs ++ layout (offset + (xs.flatMap Prod.snd).length) ys := by
  induction xs generalizing offset with
  | nil => simp [layout]
  | cons x xs ih =>
    rw [List.cons_append, layout, layout, ih, List.cons_append, List.flatMap_cons,
      List.length_append, Nat.add_assoc]

/-- The payload data of the iteration consists of these pieces, with a segment for each. -/
structure Laid (pieces : List (PayloadType × List UInt8)) (it : IterationData) : Prop where
  payloads : it.payloads = layout 0 pieces
  payloadData : it.payloadData = pieces.flatMap Prod.snd

lemma laid_fresh : Laid [] {} := ⟨rfl, rfl⟩

lemma laid_start (header : TSPacketHeader) : Laid [] (IterationData.start header) := ⟨rfl, rfl⟩

namespace IterationData

lemma addPacket_eq (it : IterationData) (lastCc : Option UInt8) (packet : TSPacket) :
    it.addPacket lastCc packet = { it with
      payloads := it.payloads ++ layout it.payloadData.length packet.pieces
      payloadData := it.payloadData ++ packet.pieces.flatMap Prod.snd
      lastCc := packet.header.continuityCounter
      packetCount := it.packetCount + 1
      discontinuityDetected := it.discontinuityDetected || announcedDiscontinuity lastCc packet } := by
  unfold addPacket TSPacket.pieces
  by_cases hpriv : 0 < packet.getPrivateDataLength
  · cases hload : packet.hasPayload && decide (0 < packet.payloadSize) with
    | true => simp [hpriv, store, layout]
    | false => simp [hpriv, store, layout]
  · cases hload : packet.hasPayload && decide (0 < packet.payloadSize) with
    | true => simp [hpriv, store, layout]
    | false => simp [hpriv, layout]

lemma laid_addPacket {it : IterationData} {pieces : List (PayloadType × List UInt8)}
    (h : Laid pieces it) (lastCc : Option UInt8) (packet : TSPacket) :
    Laid (pieces ++ packet.pieces) (it.addPacket lastCc packet) := by
  rw [addPacket_eq]
  refine ⟨?_, ?_⟩
  · dsimp only
    rw [h.payloads, h.payloadData, layout_append, Nat.zero_add]
  · dsimp only
    rw [h.payloadData, List.flatMap_append]

/-- Add packets one after the other. -/
def addPackets (self : IterationData) (group : List CountedPacket) : IterationData :=
  group.foldl (fun it x => it.addPacket x.1 x.2) self

lemma addPackets_append (it : IterationData) (g g' : List CountedPacket) :
    it.addPackets (g ++ g') = (it.addPackets g).addPackets g' := List.foldl_append

lemma addPackets_eq (it : IterationData) (g : List CountedPacket) :
    it.addPackets g = { it with
      payloads := it.payloads ++ layout it.payloadData.length (g.flatMap (fun x => x.2.pieces))
      payloadData := it.payloadData ++ (g.flatMap (fun x => x.2.pieces)).flatMap Prod.snd
      lastCc := (g.getLast?.map (fun x => x.2.header.continuityCounter)).getD it.lastCc
      packetCount := it.packetCount + g.length
      discontinuityDetected := it.discontinuityDetected ||
        g.any (fun x => announcedDiscontinuity x.1 x.2) } := by
  induction g using List.reverseRecOn with
  | nil => simp [addPackets, layout]
  | append_singleton g x ih =>
    have hlast : it.addPackets (g ++ [x]) = (it.addPackets g).addPacket x.1 x.2 := by
      rw [addPackets_append]
      rfl
    rw [hlast, addPacket_eq, ih]
    simp [layout_append, Nat.add_assoc, Bool.or_assoc]

end IterationData

/-- The iteration built from a group of packets. -/
def iterationOf (group : List CountedPacket) : IterationData :=
  match group.head? with
  | none => {}
  | some x => (IterationData.start x.2.header).addPackets group

lemma iterationOf_singleton (x : CountedPacket) :
    iterationOf [x] = (IterationData.start x.2.header).addPacket x.1 x.2 := rfl

lemma iterationOf_concat {g : List CountedPacket} (hg : g ≠ []) (x : CountedPacket) :
    iterationOf (g ++ [x]) = (iterationOf g).addPacket x.1 x.2 := by
  obtain ⟨y, ys, rfl⟩ := List.exists_cons_of_ne_nil hg
  unfold iterationOf
  rw [List.cons_append, List.head?_cons, List.head?_cons]
  dsimp only
  rw [← List.cons_append, IterationData.addPackets_append]
  rfl

/-- The fields of the iteration of a group. -/
theorem iterationOf_cons (x : CountedPacket) (rest : List CountedPacket) :
    iterationOf (x :: rest) =
      { payloads := layout 0 ((x :: rest).flatMap (fun y => y.2.pieces))
        payloadData := ((x :: rest).flatMap (fun y => y.2.pieces)).flatMap Prod.snd
        discontinuityDetected := (x :: rest).any (fun y => announcedDiscontinuity y.1 y.2)
        payloadUnitStartSeen := x.2.header.payloadUnitStart
        firstCc := x.2.header.continuityCounter
        lastCc := ((x :: rest).getLast (List.cons_ne_nil x rest)).2.header.continuityCounter
        packetCount := (x :: rest).length } := by
  have h : iterationOf (x :: rest) = (IterationData.start x.2.header).addPackets (x :: rest) := rfl
  rw [h, IterationData.addPackets_eq, List.getLast?_eq_getLast_of_ne_nil (List.cons_ne_nil x rest)]
  simp [IterationData.start]

lemma payloadData_iterationOf (g : List CountedPacket) :
    (iterationOf g).payloadData = g.flatMap (fun x => x.2.privateBytes ++ x.2.payloadBytes) := by
  cases g with
  | nil => rfl
  | cons x rest =>
    rw [iterationOf_cons, List.flatMap_assoc]
    apply List.flatMap_congr
    intro y _
    exact y.2.pieces_bytes

lemma packetCount_iterationOf (g : List CountedPacket) : (iterationOf g).packetCount = g.length := by
  cases g with
  | nil => rfl
  | cons x rest => rw [iterationOf_cons]

lemma laid_iterationOf (g : List CountedPacket) :
    Laid (g.flatMap (fun x => x.2.pieces)) (iterationOf g) := by
  cases g with
  | nil => exact ⟨rfl, rfl⟩
  | cons x rest =>
    rw [iterationOf_cons]
    exact ⟨rfl, rfl⟩

/-! ### Reading an iteration back -/

namespace MPEGTSDemuxer

lemma segment_bytes (pre piece post : List UInt8) (it : IterationData) (type : PayloadType)
    (hdata : it.payloadData = pre ++ (piece ++ post)) :
    (payloadBuffer it (StreamIterations.fixSegment it.payloadData.length
      { type := type, data := none, length := piece.length, offsetInStream := pre.length })).bytes =
      piece := by
  unfold StreamIterations.fixSegment payloadBuffer PayloadBuffer.bytes
  by_cases hlen : pre.length < it.payloadData.length
  · rw [if_pos hlen]
    simp [hdata]
  · have hpiece : piece = [] := by
      rw [hdata, List.length_append, List.length_append] at hlen
      exact List.eq_nil_of_length_eq_zero (by omega)
    rw [if_neg hlen, hpiece]
    rfl

lemma layout_read (pre : List UInt8) (pieces : List (PayloadType × List UInt8)) (it : IterationData)
    (hdata : it.payloadData = pre ++ pieces.flatMap Prod.snd) :
    ((layout pre.length pieces).map (fun segment => payloadBuffer it
      (StreamIterations.fixSegment it.payloadData.length segment))).map
        (fun buffer => (buffer.type, buffer.bytes)) = pieces := by
  induction pieces generalizing pre with
  | nil => rfl
  | cons piece pieces ih =>
    rw [List.flatMap_cons] at hdata
    have hbytes := segment_bytes pre piece.2 (pieces.flatMap Prod.snd) it piece.1 hdata
    have hrest := ih (pre ++ piece.2) (by rw [hdata, List.append_assoc])
    rw [List.length_append] at hrest
    rw [layout, List.map_cons, List.map_cons, hrest, hbytes]
    congr 2
    unfold payloadBuffer StreamIterations.fixSegment
    split <;> rfl

/-- The typed payloads that the queries return for a stored iteration. -/
def readBack (it : IterationData) : List (PayloadType × List UInt8) :=
  (it.payloads.map (payloadBuffer it)).map (fun buffer => (buffer.type, buffer.bytes))

/-- A stored iteration is read back as its pieces. -/
theorem readBack_laid {it : IterationData} {pieces : List (PayloadType × List UInt8)}
    (h : Laid pieces it) : readBack (StreamIterations.copyIteration it) = pieces := by
  have hread := layout_read [] pieces (StreamIterations.copyIteration it) h.payloadData
  have hpayloads : (StreamIterations.copyIteration it).payloads =
      (layout 0 pieces).map (StreamIterations.fixSegment it.payloadData.length) := by
    rw [← h.payloads]
    rfl
  refine Eq.trans ?_ hread
  unfold readBack
  rw [hpayloads]
  simp only [List.map_map]
  rfl

end MPEGTSDemuxer

/-! ### Batches of packets -/

/-- The packets with their counters, after a packet with the counter `last`. -/
def withLastCc : Option UInt8 → List TSPacket → List CountedPacket
  | _, [] => []
  | last, packet :: packets =>
    (last, packet) :: withLastCc (some packet.header.continuityCounter) packets

@[simp] lemma withLastCc_packets (last : Option UInt8) (packets : List TSPacket) :
    (withLastCc last packets).map Prod.snd = packets := by
  induction packets generalizing last with
  | nil => rfl
  | cons packet packets ih => rw [withLastCc, List.map_cons, ih]

/-- A packet with PUSI set starts a new batch. -/
def startsUnit (x : CountedPacket) : Bool := x.2.header.payloadUnitStart

namespace StreamView

/-- The stored and the pending iteration of a view are the iterations of these batches. -/
structure Represents (u : Batches CountedPacket) (v : StreamView) : Prop where
  stored : v.stored.map Prod.snd =
    u.closed.map (fun g => StreamIterations.copyIteration (iterationOf g))
  pending : v.pending = if u.opened = [] then none else some (iterationOf u.opened)

lemma represents_empty : Represents Batches.empty {} := ⟨rfl, rfl⟩

lemma Represents.isNone_pending {u : Batches CountedPacket} {v : StreamView} (h : Represents u v) :
    v.pending.isNone = u.opened.isEmpty := by
  rw [h.pending]
  by_cases ho : u.opened = []
  · simp [ho]
  · simp [ho]

/-- Finalizing closes the open batch. -/
theorem represents_finalize {u : Batches CountedPacket} {v : StreamView} (h : Represents u v)
    (pid : UInt16) : Represents u.close (v.finalize pid) := by
  have hstored := stored_finalize v pid
  by_cases ho : u.opened = []
  · have hnone : v.pending = none := by rw [h.pending, if_pos ho]
    rw [Batches.close_of_nil ho, finalize_of_none hnone]
    exact h
  · have hsome : v.pending = some (iterationOf u.opened) := by rw [h.pending, if_neg ho]
    refine ⟨?_, ?_⟩
    · rw [hstored, hsome, Batches.closed_close_of_ne ho, List.map_append, h.stored, List.map_append]
      rfl
    · rw [pending_finalize, Batches.opened_close, if_pos rfl]

lemma Represents.iterationsOf_finalizeAll {u : Batches CountedPacket} {s : PacketState}
    {pid : UInt16} (h : Represents u (s.view pid)) :
    (s.finalizeAllIterations.storage.iterationsOf pid).map Prod.snd =
      u.close.closed.map (fun g => StreamIterations.copyIteration (iterationOf g)) := by
  rw [PacketState.iterationsOf_finalizeAllIterations]
  exact (represents_finalize h pid).stored

/-- Adding a packet pushes it on the batches. -/
theorem represents_add {u : Batches CountedPacket} {v : StreamView} (h : Represents u v)
    (iterId : UInt32) (packet : TSPacket) :
    Represents (Batches.push startsUnit u (v.lastCc, packet)) (v.add iterId packet) := by
  have hnone := h.isNone_pending
  by_cases hstart : v.starts packet.header = true
  · have hopen : u.opened = [] ∨ startsUnit (v.lastCc, packet) = true := by
      unfold starts at hstart
      rw [hnone] at hstart
      simpa [startsUnit] using hstart
    rw [Batches.push_start startsUnit hopen]
    refine ⟨?_, ?_⟩
    · rw [stored_add, if_pos hstart]
      exact (represents_finalize h packet.header.pid).stored
    · rw [pending_add, if_pos hstart, if_neg (List.cons_ne_nil _ _), iterationOf_singleton]
  · have hopen : u.opened ≠ [] ∧ startsUnit (v.lastCc, packet) = false := by
      unfold starts at hstart
      rw [hnone] at hstart
      simpa [startsUnit] using hstart
    rw [Batches.push_join startsUnit hopen.1 hopen.2]
    refine ⟨?_, ?_⟩
    · rw [stored_add, if_neg hstart]
      exact h.stored
    · rw [pending_add, if_neg hstart, h.pending, if_neg hopen.1, if_neg (by simp), Option.getD_some,
        iterationOf_concat hopen.1]

end StreamView

namespace PacketState

variable {add : PacketState → TSPacket → PacketState} (hadd : ∀ s p, AddsPacket s p (add s p))
include hadd

lemma stores_foldl (s : PacketState) (packets : List TSPacket) :
    (packets.foldl add s).stores = s.stores := by
  induction packets generalizing s with
  | nil => rfl
  | cons packet packets ih => rw [List.foldl_cons, ih, (hadd s packet).stores]

lemma view_foldl_of_not_stores {s : PacketState} {pid : UInt16} (h : s.stores pid = false)
    (packets : List TSPacket) : (packets.foldl add s).view pid = s.view pid := by
  induction packets generalizing s with
  | nil => rfl
  | cons packet packets ih =>
    have hstep := hadd s packet
    rw [List.foldl_cons, ih (by rw [hstep.stores, h]), hstep.view]
    split
    · next hs =>
      rw [Function.update_of_ne]
      rintro rfl
      rw [h] at hs
      exact Bool.false_ne_true hs
    · rfl

/-- The packets of a PID are pushed on its batches one after the other. -/
theorem represents_foldl {s : PacketState} {pid : UInt16} {u : Batches CountedPacket}
    (hs : s.stores pid = true) (hu : StreamView.Represents u (s.view pid)) (packets : List TSPacket) :
    StreamView.Represents
      ((withLastCc (s.view pid).lastCc (packets.filter (fun p => p.header.pid = pid))).foldl
        (Batches.push startsUnit) u) ((packets.foldl add s).view pid) := by
  induction packets generalizing s u with
  | nil => exact hu
  | cons packet packets ih =>
    have hstep := hadd s packet
    have hs' : (add s packet).stores pid = true := by rw [hstep.stores, hs]
    rw [List.foldl_cons]
    by_cases hpid : packet.header.pid = pid
    · have hview : (add s packet).view pid =
          (s.view pid).add s.storage.nextIterationId packet := by
        rw [hstep.view, hpid, if_pos hs, Function.update_self]
      have hnext := ih hs' (u := Batches.push startsUnit u ((s.view pid).lastCc, packet))
        (by rw [hview]; exact StreamView.represents_add hu _ packet)
      rw [hview, StreamView.lastCc_add] at hnext
      rw [List.filter_cons_of_pos (by simpa using hpid), withLastCc, List.foldl_cons]
      exact hnext
    · have hview : (add s packet).view pid = s.view pid := by
        rw [hstep.view]
        split
        · rw [Function.update_of_ne (Ne.symm hpid)]
        · rfl
      have hnext := ih hs' (u := u) (by rw [hview]; exact hu)
      rw [hview] at hnext
      rw [List.filter_cons_of_neg (by simpa using hpid)]
      exact hnext

end PacketState

end MinimalMpegTS
