import MinimalMpegTS.Proofs.ClearStream
import MinimalMpegTS.Proofs.PESRetrieval
import MinimalMpegTS.Proofs.Recovery
import MinimalMpegTS.Proofs.Retrieval

/-!
# PES packets through the demultiplexer

A PES packet that is carried in transport packets of one PID makes one iteration, and the parser gives
the packet back from the payload of this iteration, bounded or not.
-/

namespace MinimalMpegTS

open MPEGTSDemuxer

/-- The transport packets of a PES packet: only the first one has PUSI set. -/
structure CarriedPES where
  content : PESContent
  first : TSPacket
  others : List TSPacket
  starts : first.header.payloadUnitStart = true
  continues : ∀ p ∈ others, p.header.payloadUnitStart = false
  carries : (first :: others).flatMap TSPacket.payloadBytes = content.encode

def CarriedPES.packets (self : CarriedPES) : List TSPacket := self.first :: self.others

/-- The bytes of normal payload that the queries return for an iteration. -/
def normalBytes (d : MPEGTSDemuxer) (pid : UInt16) (iterId : UInt32) : List UInt8 :=
  ((d.getAllPayloads pid iterId).filter (fun buffer => buffer.type = .payloadNormal)).flatMap
    PayloadBuffer.bytes

/-- The iteration is listed for these packets, and their payload is retrieved for it. -/
structure RetrievedFrom (d : MPEGTSDemuxer) (pid : UInt16) (group : List TSPacket)
    (info : IterationInfo) : Prop where
  packetCount : info.packetCount = group.length
  normal : normalBytes (d.getIterationsSummary pid).1 pid info.iterationId =
    group.flatMap TSPacket.payloadBytes

lemma retrievedFrom_represents {d : MPEGTSDemuxer} {pid : UInt16} {u : Batches CountedPacket}
    (hu : StreamView.Represents u (d.view pid))
    (hnodup : ((d.finalized.storage.iterationsOf pid).map Prod.fst).Nodup) :
    List.Forall₂ (RetrievedFrom d pid) (u.close.closed.map (List.map Prod.snd))
      (d.getIterationsSummary pid).2 := by
  have hstored := hu.iterationsOf_finalizeAll
  rw [eq_comm, ← List.forall₂_eq_eq_eq, List.forall₂_map_left_iff,
    List.forall₂_map_right_iff] at hstored
  rw [getIterationsSummary_eq, List.forall₂_map_left_iff, List.forall₂_map_right_iff]
  have hmem : ∀ entry ∈ d.finalized.storage.iterationsOf pid,
      entry ∈ d.finalized.storage.iterationsOf pid := fun _ h => h
  apply ((List.forall₂_and_left _ _).mpr ⟨hmem, hstored.flip⟩).flip.imp
  rintro group entry ⟨hentry, heq⟩
  have hstate : (d.getIterationsSummary pid).1 = d.finalized := rfl
  constructor
  · show entry.2.packetCount = _
    rw [← heq, List.length_map]
    exact packetCount_iterationOf group
  · have hback := readBack_laid (laid_iterationOf group)
    unfold readBack at hback
    have hid : (iterationInfo entry.1 entry.2).iterationId = entry.1 := rfl
    unfold normalBytes
    rw [hstate, hid, getAllPayloads_of_nodup hnodup hentry, buffers_bytes, ← heq, hback,
      List.filter_flatMap, List.flatMap_assoc, List.flatMap_map]
    apply List.flatMap_congr
    intro x _
    exact x.2.pieces_bytesOfType .payloadNormal

lemma run_feeds_packets (chunks : List (List UInt8)) :
    (run {} (chunks.map .feedData)).toPacketState =
      PacketState.processPackets {} (processedPackets {} (chunks.map .feedData)) := by
  rw [(run_feeds_input chunks {}).2, run_feeds, feedChunks_eq]

lemma represents_feeds {pid : UInt16} (hsys : isSystemPID pid = false) (chunks : List (List UInt8)) :
    ∃ u : Batches CountedPacket,
      StreamView.Represents u ((run {} (chunks.map .feedData)).view pid) ∧
        u.close.closed.map (List.map Prod.snd) =
          (ownPackets pid (processedPackets {} (chunks.map .feedData))).splitBy
            (fun _ p => !p.header.payloadUnitStart) := by
  have hstores : PacketState.stores {} pid = true := by
    unfold PacketState.stores
    simp [hsys]
  have hrep := PacketState.represents_foldl PacketState.processPacket_adds hstores
    StreamView.represents_empty (processedPackets {} (chunks.map .feedData))
  have hmap := Batches.splitBy_map (fun p : TSPacket => p.header.payloadUnitStart) Prod.snd
    (withLastCc none (ownPackets pid (processedPackets {} (chunks.map .feedData))))
  rw [withLastCc_packets] at hmap
  rw [run_feeds_packets]
  refine ⟨_, hrep, ?_⟩
  rw [Batches.closed_pushes, hmap]
  rfl

lemma CarriedPES.parsePacket (self : CarriedPES) :
    PESParser.parsePacket {} (self.packets.flatMap TSPacket.payloadBytes) =
      some (⟨self.content.header, self.content.payload, true⟩, true) := by
  obtain ⟨hfits, hsize⟩ := self.content.headerFits self.content.payload
  have hcarries : self.packets.flatMap TSPacket.payloadBytes =
      self.content.head ++ self.content.payload := self.carries
  rw [hcarries, PESParser.parsePacket_of_fits hfits, hsize, List.drop_left,
    PESContent.headerFrom_head]

/-- In a run of data calls, whatever the bytes: where the packets processed for a PID are those of PES
packets, possibly behind the end of an earlier one, each PES packet is listed as one iteration, and the
parser gives it back from the payload retrieved for the iteration. -/
theorem pes_packets_retrieved {chunks : List (List UInt8)} {pid : UInt16}
    (hsys : isSystemPID pid = false) {lead : List TSPacket}
    (hlead : ∀ p ∈ lead, p.header.payloadUnitStart = false) {units : List CarriedPES}
    (hpackets : ownPackets pid (processedPackets {} (chunks.map .feedData)) =
      lead ++ units.flatMap CarriedPES.packets)
    (hcount : generatedIterations {} (chunks.map .feedData) ≤ 2 ^ 32) :
    let d := run {} (chunks.map .feedData)
    ∃ front infos, (d.getIterationsSummary pid).2 = front ++ infos ∧
      front.length = (if lead = [] then 0 else 1) ∧
      List.Forall₂ (fun unit info => info.packetCount = unit.packets.length ∧
        PESParser.parsePacket {}
            (normalBytes (d.getIterationsSummary pid).1 pid info.iterationId) =
          some (⟨unit.content.header, unit.content.payload, true⟩, true)) units infos := by
  intro d
  obtain ⟨u, hu, hbatches⟩ := represents_feeds hsys chunks
  have hunits : u.close.closed.map (List.map Prod.snd) =
      (if lead = [] then [] else [lead]) ++ units.map CarriedPES.packets := by
    rw [hbatches, hpackets, List.flatMap_def]
    apply Batches.splitBy_batches _ hlead
    intro group hgroup
    obtain ⟨unit, _, rfl⟩ := List.mem_map.mp hgroup
    exact ⟨unit.first, unit.others, rfl, unit.starts, unit.continues⟩
  have hguard : Transducer.Along call SetsTableWhenIdle {} (chunks.map .feedData) := by
    have hfeeds : ∀ c ∈ chunks.map Call.feedData, c.isFeed = true := by
      intro c hc
      obtain ⟨data, _, rfl⟩ := List.mem_map.mp hc
      rfl
    apply Transducer.along_mono call _ (Transducer.along_of_forall call hfeeds)
    intro d c hc table htable
    subst htable
    cases hc
  obtain ⟨count, numbers, hnum, hle⟩ := numbered_run hguard
  have hnodup := (hnum.finalizeAll.ids_nodup (hle.trans hcount) pid).sublist
    (List.sublist_append_left _ _)
  have hretrieved := retrievedFrom_represents hu hnodup
  rw [hunits] at hretrieved
  have hfront := List.forall₂_take_append _ _ _ hretrieved.flip
  have hinfos := (List.forall₂_drop_append _ _ _ hretrieved.flip).flip
  refine ⟨_, _, (List.take_append_drop (if lead = [] then [] else [lead]).length _).symm, ?_, ?_⟩
  · rw [hfront.length_eq]
    split <;> rfl
  · apply (List.forall₂_map_left_iff.mp hinfos).imp
    intro unit info h
    refine ⟨h.packetCount, ?_⟩
    rw [h.normal, unit.parsePacket]

/-- An unbounded video packet without timestamps, with so many bytes of payload. -/
def plainContent (n : Nat) : PESContent :=
  { PESContent.shortContent with payload := List.replicate n 7 }

/-- The packet in two transport packets. -/
def carriedInTwo : CarriedPES where
  content := plainContent 359
  first := plainTSPacket 0x100 1 true ([0, 0, 1, 0xE0, 0, 0, 0x80, 0, 0] ++ List.replicate 175 7)
  others := [plainTSPacket 0x100 2 false (List.replicate 184 7)]
  starts := rfl
  continues := by decide +kernel
  carries := by decide +kernel

/-- The packet in one transport packet. -/
def carriedInOne : CarriedPES where
  content := plainContent 175
  first := plainTSPacket 0x100 3 true ([0, 0, 1, 0xE0, 0, 0, 0x80, 0, 0] ++ List.replicate 175 7)
  others := []
  starts := rfl
  continues := by decide
  carries := by decide +kernel

/-- The end of a PES packet, then two whole ones, cut inside a transport packet. -/
def pesChunks : List (List UInt8) :=
  [plainPacket 0x100 0 false (List.replicate 184 7) ++
      plainPacket 0x100 1 true ([0, 0, 1, 0xE0, 0, 0, 0x80, 0, 0] ++ List.replicate 175 7) ++
      (plainPacket 0x100 2 false (List.replicate 184 7)).take 100,
    (plainPacket 0x100 2 false (List.replicate 184 7)).drop 100 ++
      plainPacket 0x100 3 true ([0, 0, 1, 0xE0, 0, 0, 0x80, 0, 0] ++ List.replicate 175 7)]

theorem pes_packets_retrieved_sample :
    let d := run {} (pesChunks.map .feedData)
    ∃ front infos, (d.getIterationsSummary 0x100).2 = front ++ infos ∧ front.length = 1 ∧
      List.Forall₂ (fun unit info => info.packetCount = unit.packets.length ∧
        PESParser.parsePacket {}
            (normalBytes (d.getIterationsSummary 0x100).1 0x100 info.iterationId) =
          some (⟨unit.content.header, unit.content.payload, true⟩, true))
        [carriedInTwo, carriedInOne] infos := by
  have hpackets : ownPackets 0x100 (processedPackets {} (pesChunks.map .feedData)) =
      [plainTSPacket 0x100 0 false (List.replicate 184 7)] ++
        [carriedInTwo, carriedInOne].flatMap CarriedPES.packets := by
    decide +kernel
  exact pes_packets_retrieved (by decide) (by decide +kernel) hpackets (by decide +kernel)

end MinimalMpegTS
