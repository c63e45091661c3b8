import MinimalMpegTS.Proofs.Calls

/-!
# Invariants of what is held per PID

Every public operation acts on the view of a PID in one of four ways: it finalizes it, adds an
accepted packet of the PID to it, drops stored iterations, or empties it. A property of views that
these four keep holds of every PID in every reachable state.
-/

namespace MinimalMpegTS

open MPEGTSDemuxer

/-- A packet that was read from a complete packet of the stream. -/
def TSPacket.Received (self : TSPacket) : Prop :=
  ∃ data : List UInt8, data.length = mpegtsPacketSize ∧ TSPacket.accept data = some self

lemma received_feed (state : InputState) (data : List UInt8) {packet : TSPacket}
    (h : packet ∈ (state.feed data).2) : packet.Received := by
  unfold InputState.feed at h
  by_cases hdata : data.isEmpty = true
  · rw [if_pos hdata] at h
    exact absurd h List.not_mem_nil
  · rw [if_neg hdata] at h
    dsimp only at h
    split at h
    · exact absurd h List.not_mem_nil
    · exact Framing.exists_window_of_mem_frames packetSize_pos h

/-- A property of the view of a PID that every operation keeps. -/
structure ViewInvariant (P : UInt16 → StreamView → Prop) : Prop where
  empty : ∀ pid, P pid {}
  finalize : ∀ pid v, P pid v → P pid (v.finalize pid)
  add : ∀ v iterId packet, isSystemPID packet.header.pid = false → packet.Received →
    P packet.header.pid v → P packet.header.pid (v.add iterId packet)
  drop : ∀ pid v stream, ({ v with stream := stream } : StreamView).stored.Sublist v.stored →
    P pid v → P pid { v with stream := stream }

namespace ViewInvariant

variable {P : UInt16 → StreamView → Prop}

lemma processPacket (hP : ViewInvariant P) {s : PacketState} (h : ∀ pid, P pid (s.view pid))
    {packet : TSPacket} (hpacket : packet.Received) (pid : UInt16) :
    P pid ((s.processPacket packet).view pid) := by
  rw [(PacketState.processPacket_adds s packet).view]
  split
  · next hstores =>
    by_cases hpid : pid = packet.header.pid
    · subst hpid
      rw [Function.update_self]
      apply hP.add _ _ _ _ hpacket (h _)
      unfold PacketState.stores at hstores
      simp only [Bool.and_eq_true, Bool.not_eq_true'] at hstores
      exact hstores.1
    · rw [Function.update_of_ne hpid]
      exact h pid
  · exact h pid

lemma processPackets (hP : ViewInvariant P) {s : PacketState} (h : ∀ pid, P pid (s.view pid))
    {packets : List TSPacket} (hpackets : ∀ packet ∈ packets, packet.Received) (pid : UInt16) :
    P pid ((s.processPackets packets).view pid) := by
  induction packets generalizing s with
  | nil => exact h pid
  | cons packet packets ih =>
    rw [PacketState.processPackets_cons]
    apply ih
    · exact hP.processPacket h (hpackets packet List.mem_cons_self)
    · intro p hp
      exact hpackets p (List.mem_cons_of_mem packet hp)

lemma finalizeAll (hP : ViewInvariant P) {s : PacketState} (h : ∀ pid, P pid (s.view pid))
    (pid : UInt16) : P pid (s.finalizeAllIterations.view pid) := by
  rw [PacketState.view_finalizeAllIterations]
  exact hP.finalize pid _ (h pid)

lemma call (hP : ViewInvariant P) {d : MPEGTSDemuxer} (h : ∀ pid, P pid (d.view pid)) (c : Call)
    (pid : UInt16) : P pid ((d.call c).1.view pid) := by
  by_cases hquery : c.isFeedOrQuery = true
  · rcases call_of_isFeedOrQuery hquery d with ⟨data, rfl⟩ | ⟨hstate, _⟩ | ⟨hstate, _⟩
    · show P pid ((d.feedData data).toPacketState.view pid)
      rw [toPacketState_feedData]
      apply hP.processPackets h
      intro packet hpacket
      exact received_feed d.toInputState data hpacket
    · rw [hstate]
      exact hP.finalizeAll h pid
    · rw [hstate]
      exact h pid
  cases c with
  | clearIteration p iterId =>
    show P pid ((d.clearIteration p iterId).view pid)
    rw [PacketState.view_clearIteration]
    by_cases hpid : pid = p
    · subst hpid
      rw [Function.update_self]
      apply hP.drop pid (d.view pid) _ _ (h pid)
      unfold StreamView.stored
      cases (d.view pid).stream with
      | none => simp [StreamIterations.removeIteration]
      | some stream => exact List.eraseP_sublist
    · rw [Function.update_of_ne hpid]
      exact h pid
  | clearStream p =>
    show P pid ((d.clearStream p).view pid)
    rw [PacketState.view_clearStream]
    by_cases hpid : pid = p
    · subst hpid
      rw [Function.update_self]
      apply hP.drop pid (d.view pid) _ _ (h pid)
      unfold StreamView.stored
      cases (d.view pid).stream with
      | none => exact List.Sublist.refl _
      | some stream => exact List.nil_sublist _
    · rw [Function.update_of_ne hpid]
      exact h pid
  | clearAll => exact hP.empty pid
  | setProgramsTable table =>
    apply hP.drop pid (d.view pid) none _ (h pid)
    exact List.nil_sublist _
  | _ => exact absurd rfl hquery

/-- The property holds of every PID in every reachable state. -/
theorem of_reachable (hP : ViewInvariant P) {d : MPEGTSDemuxer} (hd : Reachable d) (pid : UInt16) :
    P pid (d.view pid) := by
  obtain ⟨calls, rfl⟩ := hd
  revert pid
  apply Transducer.invariant (fun d : MPEGTSDemuxer => ∀ pid, P pid (d.view pid))
  · intro d c h
    exact hP.call h c
  · exact hP.empty

end ViewInvariant

end MinimalMpegTS
