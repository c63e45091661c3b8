import MinimalMpegTS.Proofs.Packets
import MinimalMpegTS.Proofs.UniqueIds

/-!
# Listings that only grow

What a listing has reported stays: until the stream is cleared, later listings of it begin with the
same iterations, and their payload is returned as before, whatever is fed or asked in between.
-/

namespace MinimalMpegTS

open MPEGTSDemuxer

/-- The call does not clear stored iterations of the PID. -/
def Call.keepsStored (pid : UInt16) : Call → Bool
  | .clearIteration p _ | .clearStream p => p != pid
  | .clearAll | .setProgramsTable _ => false
  | _ => true

namespace StreamView

lemma stored_prefix_finalize (v : StreamView) (pid : UInt16) : v.stored <+: (v.finalize pid).stored := by
  rw [stored_finalize]
  exact List.prefix_append _ _

lemma stored_prefix_add (v : StreamView) (iterId : UInt32) (packet : TSPacket) :
    v.stored <+: (v.add iterId packet).stored := by
  rw [stored_add]
  split
  · exact v.stored_prefix_finalize _
  · exact List.prefix_refl _

end StreamView

namespace PacketState

lemma stored_prefix_processPacket (s : PacketState) (packet : TSPacket) (pid : UInt16) :
    (s.view pid).stored <+: ((s.processPacket packet).view pid).stored := by
  rw [(processPacket_adds s packet).view]
  split
  · by_cases hpid : pid = packet.header.pid
    · subst hpid
      rw [Function.update_self]
      exact StreamView.stored_prefix_add _ _ _
    · rw [Function.update_of_ne hpid]
  · exact List.prefix_refl _

lemma stored_prefix_processPackets (s : PacketState) (packets : List TSPacket) (pid : UInt16) :
    (s.view pid).stored <+: ((s.processPackets packets).view pid).stored := by
  induction packets generalizing s with
  | nil => exact List.prefix_refl _
  | cons packet packets ih => exact (stored_prefix_processPacket s packet pid).trans (ih _)

lemma stored_prefix_finalizeAll (s : PacketState) (pid : UInt16) :
    (s.view pid).stored <+: (s.finalizeAllIterations.view pid).stored := by
  rw [view_finalizeAllIterations]
  exact StreamView.stored_prefix_finalize _ _

end PacketState

namespace MPEGTSDemuxer

lemma stored_prefix_call (d : MPEGTSDemuxer) {pid : UInt16} {c : Call}
    (hc : c.keepsStored pid = true) : (d.view pid).stored <+: ((d.call c).1.view pid).stored := by
  by_cases hquery : c.isFeedOrQuery = true
  · rcases call_of_isFeedOrQuery hquery d with ⟨data, rfl⟩ | ⟨hstate, -⟩ | ⟨hstate, -⟩
    · show _ <+: ((d.feedData data).toPacketState.view pid).stored
      rw [toPacketState_feedData]
      exact PacketState.stored_prefix_processPackets _ _ pid
    · rw [hstate]
      exact PacketState.stored_prefix_finalizeAll _ pid
    · rw [hstate]
  · cases c with
    | clearIteration p iterId =>
      have hpid : pid ≠ p := Ne.symm (bne_iff_ne.mp hc)
      show _ <+: ((d.clearIteration p iterId).view pid).stored
      rw [PacketState.view_clearIteration, Function.update_of_ne hpid]
    | clearStream p =>
      have hpid : pid ≠ p := Ne.symm (bne_iff_ne.mp hc)
      show _ <+: ((d.clearStream p).view pid).stored
      rw [PacketState.view_clearStream, Function.update_of_ne hpid]
    | clearAll => cases hc
    | setProgramsTable table => cases hc
    | _ => exact absurd rfl hquery

lemma stored_prefix_run (d : MPEGTSDemuxer) {pid : UInt16} {calls : List Call}
    (hcalls : ∀ c ∈ calls, c.keepsStored pid = true) :
    (d.view pid).stored <+: ((run d calls).view pid).stored := by
  apply Transducer.traced_invariant call callTrace (fun _ c => c.keepsStored pid = true)
    (fun e _ => (d.view pid).stored <+: (e.view pid).stored) _ (List.prefix_refl _)
    (Transducer.along_of_forall call hcalls) (l := [])
  intro e c l he hc
  exact he.trans (e.stored_prefix_call hc)

lemma findIteration_of_prefix {d e : MPEGTSDemuxer} {pid : UInt16}
    (h : (d.view pid).stored <+: (e.view pid).stored) {entry : UInt32 × IterationData}
    (hentry : entry ∈ (d.view pid).stored) :
    e.findIteration pid entry.1 = d.findIteration pid entry.1 := by
  rw [PacketState.stored_view, PacketState.stored_view] at h
  rw [PacketState.stored_view] at hentry
  rw [findIteration_eq, findIteration_eq]
  have hsome : ((d.storage.iterationsOf pid).find? (fun other => other.1 == entry.1)).isSome = true := by
    rw [List.find?_isSome]
    exact ⟨entry, hentry, beq_self_eq_true _⟩
  obtain ⟨found, hfound⟩ := Option.isSome_iff_exists.mp hsome
  rw [hfound, h.find?_eq_some hfound]

end MPEGTSDemuxer

/-- What a listing of a PID reports stays until a call clears the stream or sets a program table:
every later listing begins with it, and the payload queries give the same for its iterations. -/
theorem listing_append_only (d : MPEGTSDemuxer) (pid : UInt16) {calls : List Call}
    (hcalls : ∀ c ∈ calls, c.keepsStored pid = true) :
    let listed := d.getIterationsSummary pid
    let later := run listed.1 calls
    listed.2 <+: (later.getIterationsSummary pid).2 ∧
      ∀ info ∈ listed.2,
        later.getAllPayloads pid info.iterationId = listed.1.getAllPayloads pid info.iterationId ∧
        ∀ type, later.getPayload pid info.iterationId type =
          listed.1.getPayload pid info.iterationId type := by
  intro listed later
  have hfront : (listed.1.view pid).stored <+: (later.view pid).stored :=
    stored_prefix_run listed.1 hcalls
  have hstored : listed.2 =
      (listed.1.view pid).stored.map (fun entry => iterationInfo entry.1 entry.2) := by
    rw [PacketState.stored_view]
    exact getIterationsSummary_eq d pid
  have hlater : (later.getIterationsSummary pid).2 =
      (later.finalized.view pid).stored.map (fun entry => iterationInfo entry.1 entry.2) := by
    rw [PacketState.stored_view]
    exact getIterationsSummary_eq later pid
  constructor
  · rw [hstored, hlater]
    exact (hfront.trans (PacketState.stored_prefix_finalizeAll _ pid)).map _
  · intro info hinfo
    rw [hstored] at hinfo
    obtain ⟨entry, hentry, rfl⟩ := List.mem_map.mp hinfo
    have hfind : later.findIteration pid entry.1 = listed.1.findIteration pid entry.1 :=
      findIteration_of_prefix hfront hentry
    constructor
    · unfold getAllPayloads iterationInfo
      dsimp only
      rw [hfind]
    · intro type
      unfold getPayload iterationInfo
      dsimp only
      rw [hfind]

theorem listing_append_only_threePackets :
    let listed := (run {} [.feedData threePackets]).getIterationsSummary 0x100
    let later := run listed.1 [.feedData threePackets, .clearStream 0x101, .getPrograms]
    listed.2 <+: (later.getIterationsSummary 0x100).2 ∧
      ∀ info ∈ listed.2,
        later.getAllPayloads 0x100 info.iterationId =
          listed.1.getAllPayloads 0x100 info.iterationId ∧
        ∀ type, later.getPayload 0x100 info.iterationId type =
          listed.1.getPayload 0x100 info.iterationId type := by
  apply listing_append_only
  intro c hc
  simp only [List.mem_cons, List.not_mem_nil, or_false] at hc
  rcases hc with rfl | rfl | rfl <;> rfl

end MinimalMpegTS
