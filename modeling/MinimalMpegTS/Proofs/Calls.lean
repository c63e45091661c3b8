import MinimalMpegTS.Proofs.Identifiers

/-!
# What the public operations do to the state

`feedData` processes the packets that it reads, the queries that finalize do so for every PID,
and the clearing operations drop stored iterations. The invariant `Numbered` of the ids follows
for runs that do not set a program table while an iteration is pending.
-/

namespace MinimalMpegTS

lemma feedData_of_isFeed {c : Call} (h : c.isFeed = true) : ∃ data, c = .feedData data := by
  cases c with
  | feedData data => exact ⟨data, rfl⟩
  | _ => cases h

namespace PacketState

/-- The packet is stored in a new iteration. -/
def generates (self : PacketState) (packet : TSPacket) : Bool :=
  self.stores packet.header.pid && self.startsIteration packet.header

/-- The number of iterations that processing packets generates. -/
def generated (self : PacketState) (packets : List TSPacket) : Nat :=
  (self.packetTrace packets).countP (fun entry => entry.1.generates entry.2)

/-- No iteration is pending. -/
def NothingPending (self : PacketState) : Prop := ∀ pid, self.currentIterations.lookup pid = none

lemma view_clearIteration (d : MPEGTSDemuxer) (pid : UInt16) (iterId : UInt32) :
    (d.clearIteration pid iterId).view = Function.update d.view pid { d.view pid with
      stream := some (((d.view pid).stream.getD { pid := pid }).removeIteration iterId) } := by
  funext q
  by_cases hq : q = pid
  · subst hq
    rw [Function.update_self]
    simp [view, MPEGTSDemuxer.clearIteration, DemuxerStreamStorage.putStream,
      DemuxerStreamStorage.getStream, DemuxerStreamStorage.getOrCreateStream, AList.lookup_insert]
  · rw [Function.update_of_ne hq]
    simp [view, MPEGTSDemuxer.clearIteration, DemuxerStreamStorage.putStream,
      DemuxerStreamStorage.getStream, AList.lookup_insert_ne hq]

lemma view_clearStream (d : MPEGTSDemuxer) (pid : UInt16) :
    (d.clearStream pid).view = Function.update d.view pid { d.view pid with
      stream := (d.view pid).stream.map StreamIterations.clear } := by
  funext q
  cases hstream : d.storage.streams.lookup pid with
  | none =>
    have hd : (d.clearStream pid).view = d.view := by
      unfold MPEGTSDemuxer.clearStream DemuxerStreamStorage.clearStream
      rw [hstream]
    have hv : (d.view pid).stream = none := hstream
    have hsame : { d.view pid with stream := (d.view pid).stream.map StreamIterations.clear } =
        d.view pid := by
      rw [hv, Option.map_none, ← hv]
    rw [hd, hsame, Function.update_eq_self]
  | some stream =>
    by_cases hq : q = pid
    · subst hq
      rw [Function.update_self]
      simp [view, MPEGTSDemuxer.clearStream, DemuxerStreamStorage.clearStream, hstream,
        DemuxerStreamStorage.getStream, AList.lookup_insert]
    · rw [Function.update_of_ne hq]
      simp [view, MPEGTSDemuxer.clearStream, DemuxerStreamStorage.clearStream, hstream,
        DemuxerStreamStorage.getStream, AList.lookup_insert_ne hq]

lemma nextIterationId_clearStream (d : MPEGTSDemuxer) (pid : UInt16) :
    (d.clearStream pid).storage.nextIterationId = d.storage.nextIterationId := by
  unfold MPEGTSDemuxer.clearStream DemuxerStreamStorage.clearStream
  dsimp only
  split
  · rfl
  · rfl

end PacketState

/-! ### Ids -/

namespace Numbered

variable {s : PacketState} {count : Nat} {numbers : UInt16 → List Nat}

lemma processPackets (h : Numbered s count numbers) (packets : List TSPacket) :
    ∃ numbers', Numbered (s.processPackets packets) (count + s.generated packets) numbers' := by
  induction packets generalizing s count numbers with
  | nil => exact ⟨numbers, h⟩
  | cons packet packets ih =>
    have hstep := h.addPacket (PacketState.processPacket_adds s packet)
    have hgen : s.generated (packet :: packets) =
        (s.processPacket packet).generated packets + if s.generates packet then 1 else 0 := by
      unfold PacketState.generated
      rw [PacketState.packetTrace, List.countP_cons]
    rw [PacketState.processPackets_cons, hgen]
    by_cases hnew : (s.stores packet.header.pid && s.startsIteration packet.header) = true
    · rw [if_pos hnew] at hstep
      obtain ⟨numbers', hnum⟩ := ih hstep
      have hone : s.generates packet = true := hnew
      refine ⟨numbers', ?_⟩
      rw [hone, if_pos rfl]
      rwa [Nat.add_assoc, Nat.add_comm 1] at hnum
    · rw [if_neg hnew] at hstep
      obtain ⟨numbers', hnum⟩ := ih hstep
      have hzero : ¬s.generates packet = true := hnew
      refine ⟨numbers', ?_⟩
      rwa [if_neg hzero, Nat.add_zero]

lemma of_empty {s : PacketState} (hnext : s.storage.nextIterationId = 1)
    (hids : ∀ pid, (s.view pid).ids = []) : Numbered s 0 (fun _ => []) := by
  refine ⟨hnext, ?_, ?_, ?_, ?_⟩
  · intro pid
    rw [hids, List.map_nil]
  · simp
  · simp
  · simp

end Numbered

namespace MPEGTSDemuxer

lemma call_of_isFeedOrQuery {c : Call} (h : c.isFeedOrQuery = true) (d : MPEGTSDemuxer) :
    (∃ data, c = .feedData data) ∨ ((d.call c).1 = d.finalized ∧ d.callTrace c = []) ∨
      ((d.call c).1 = d ∧ d.callTrace c = []) := by
  cases c with
  | feedData data => exact .inl ⟨data, rfl⟩
  | getPrograms => exact .inr (.inl ⟨rfl, rfl⟩)
  | getDiscoveredPIDs => exact .inr (.inl ⟨rfl, rfl⟩)
  | getIterationsSummary pid => exact .inr (.inl ⟨rfl, rfl⟩)
  | clearIteration pid iterId => cases h
  | clearStream pid => cases h
  | clearAll => cases h
  | setProgramsTable table => cases h
  | getPayload pid iterId type => exact .inr (.inr ⟨rfl, rfl⟩)
  | getAllPayloads pid iterId => exact .inr (.inr ⟨rfl, rfl⟩)
  | isSynchronized => exact .inr (.inr ⟨rfl, rfl⟩)
  | getBufferOccupancy => exact .inr (.inr ⟨rfl, rfl⟩)
  | getPacketCount => exact .inr (.inr ⟨rfl, rfl⟩)
  | hasProgramsTable => exact .inr (.inr ⟨rfl, rfl⟩)
  | getPCRStats pid => exact .inr (.inr ⟨rfl, rfl⟩)
  | getAllPCRStats => exact .inr (.inr ⟨rfl, rfl⟩)
  | getPIDsWithPCR => exact .inr (.inr ⟨rfl, rfl⟩)
  | getLastPCR pid => exact .inr (.inr ⟨rfl, rfl⟩)

lemma toPacketState_feedData (d : MPEGTSDemuxer) (data : List UInt8) :
    (d.feedData data).toPacketState = d.toPacketState.processPackets (d.toInputState.feed data).2 := by
  rw [feedData_eq]

/-- Rule for runs of data calls and queries: a relation between the packet state and the packets
processed so far holds after the run if more packets and finalizing keep it. -/
theorem packets_run {P : PacketState → List TSPacket → Prop}
    (hpackets : ∀ s l more, P s l → P (s.processPackets more) (l ++ more))
    (hfinalize : ∀ s l, P s l → P s.finalizeAllIterations l) {d : MPEGTSDemuxer}
    (h : P d.toPacketState []) {calls : List Call} (hcalls : ∀ c ∈ calls, c.isFeedOrQuery = true) :
    P (d.run calls).toPacketState (d.processedPackets calls) := by
  have hinv := Transducer.traced_invariant call callTrace (fun _ c => c.isFeedOrQuery = true)
    (fun e l => P e.toPacketState (l.map Prod.snd)) ?_ h (Transducer.along_of_forall call hcalls)
    (l := [])
  · exact hinv
  · intro e c l he hc
    rw [List.map_append]
    rcases call_of_isFeedOrQuery hc e with ⟨data, rfl⟩ | ⟨hstate, htrace⟩ | ⟨hstate, htrace⟩
    · show P (e.feedData data).toPacketState (l.map Prod.snd ++ (e.feedTrace data).map Prod.snd)
      rw [toPacketState_feedData, feedTrace_packets]
      exact hpackets _ _ _ he
    · rw [hstate, htrace, List.map_nil, List.append_nil]
      exact hfinalize _ _ he
    · rwa [hstate, htrace, List.map_nil, List.append_nil]

/-- The call does not set a program table while an iteration is pending. -/
def SetsTableWhenIdle (d : MPEGTSDemuxer) (c : Call) : Prop :=
  ∀ table, c = .setProgramsTable table → d.NothingPending

lemma generated_feedData (d : MPEGTSDemuxer) (data : List UInt8) :
    (d.feedTrace data).countP (fun entry =>
      entry.1.stores entry.2.header.pid && entry.1.startsIteration entry.2.header) =
        d.toPacketState.generated (d.toInputState.feed data).2 := by
  unfold PacketState.generated
  rw [← feedTrace_states, List.countP_map]
  rfl

/-- The ids stay numbered in every call that sets no table over pending iterations. -/
theorem numbered_call {d : MPEGTSDemuxer} {c : Call} {count : Nat} {numbers : UInt16 → List Nat}
    (h : Numbered d.toPacketState count numbers) (hguard : SetsTableWhenIdle d c) :
    ∃ count' numbers', Numbered (d.call c).1.toPacketState count' numbers' ∧
      count' ≤ count + (d.callTrace c).countP (fun entry =>
        entry.1.stores entry.2.header.pid && entry.1.startsIteration entry.2.header) := by
  by_cases hquery : c.isFeedOrQuery = true
  · rcases call_of_isFeedOrQuery hquery d with ⟨data, rfl⟩ | ⟨hstate, _⟩ | ⟨hstate, _⟩
    · obtain ⟨numbers', hnum⟩ := h.processPackets (d.toInputState.feed data).2
      refine ⟨count + d.generated (d.toInputState.feed data).2, numbers', ?_, le_of_eq ?_⟩
      · show Numbered (d.feedData data).toPacketState _ _
        rw [toPacketState_feedData]
        exact hnum
      · show _ = count + (d.feedTrace data).countP _
        rw [generated_feedData]
    · rw [hstate]
      exact ⟨count, numbers, h.finalizeAll, Nat.le_add_right _ _⟩
    · rw [hstate]
      exact ⟨count, numbers, h, Nat.le_add_right _ _⟩
  cases c with
  | clearIteration pid iterId =>
    have hsub : ∀ q, ((d.clearIteration pid iterId).view q).ids.Sublist (d.view q).ids := by
      intro q
      rw [PacketState.view_clearIteration]
      by_cases hq : q = pid
      · subst hq
        rw [Function.update_self]
        refine List.Sublist.append ?_ (List.Sublist.refl _)
        unfold StreamView.stored
        cases (d.view q).stream with
        | none => simp [StreamIterations.removeIteration]
        | some stream => exact List.Sublist.map _ List.eraseP_sublist
      · rw [Function.update_of_ne hq]
    obtain ⟨numbers', hnum, _⟩ := h.of_sublist (d.clearIteration pid iterId).toPacketState rfl hsub
    exact ⟨count, numbers', hnum, Nat.le_add_right _ _⟩
  | clearStream pid =>
    have hsub : ∀ q, ((d.clearStream pid).view q).ids.Sublist (d.view q).ids := by
      intro q
      rw [PacketState.view_clearStream]
      by_cases hq : q = pid
      · subst hq
        rw [Function.update_self]
        refine List.Sublist.append ?_ (List.Sublist.refl _)
        unfold StreamView.stored
        cases (d.view q).stream with
        | none => exact List.Sublist.refl _
        | some stream => exact List.nil_sublist _
      · rw [Function.update_of_ne hq]
    obtain ⟨numbers', hnum, _⟩ := h.of_sublist (d.clearStream pid).toPacketState
      (PacketState.nextIterationId_clearStream d pid) hsub
    exact ⟨count, numbers', hnum, Nat.le_add_right _ _⟩
  | clearAll => exact ⟨0, _, Numbered.of_empty rfl (fun _ => rfl), Nat.zero_le _⟩
  | setProgramsTable table =>
    have hnone := hguard table rfl
    refine ⟨0, _, Numbered.of_empty rfl ?_, Nat.zero_le _⟩
    intro pid
    have hpending : ((d.setProgramsTable table).view pid).pending = none := hnone pid
    show ((d.setProgramsTable table).view pid).ids = []
    rw [StreamView.ids_of_pending_none hpending]
    rfl
  | _ => exact absurd rfl hquery

/-- The ids stay numbered in every run that sets no table over pending iterations, with at most
as many numbers as the run generates iterations. -/
theorem numbered_run {calls : List Call} (hguard : Transducer.Along call SetsTableWhenIdle {} calls) :
    ∃ count numbers, Numbered (run {} calls).toPacketState count numbers ∧
      count ≤ generatedIterations {} calls := by
  have hinv := Transducer.traced_invariant call callTrace SetsTableWhenIdle
    (fun d l => ∃ count numbers, Numbered d.toPacketState count numbers ∧
      count ≤ l.countP (fun entry =>
        entry.1.stores entry.2.header.pid && entry.1.startsIteration entry.2.header))
    ?_ ⟨0, _, Numbered.empty, Nat.zero_le _⟩ hguard (l := [])
  · rw [List.nil_append] at hinv
    exact hinv
  · rintro d c l ⟨count, numbers, hnum, hle⟩ hc
    obtain ⟨count', numbers', hnum', hle'⟩ := numbered_call hnum hc
    refine ⟨count', numbers', hnum', ?_⟩
    rw [List.countP_append]
    omega

end MPEGTSDemuxer

end MinimalMpegTS
