import MinimalMpegTS.Proofs.Programs

/-!
# Discovered streams

A PID comes to hold something when a packet of it is stored, and when `clearIteration` is called
with it: the call creates the stream that it looks for. Every other operation leaves the set of
PIDs as it is or makes it smaller.
-/

namespace MinimalMpegTS

open MPEGTSDemuxer

/-! ### One operation -/

lemma held_processPacket {s : PacketState} {packet : TSPacket} {pid : UInt16}
    (h : (s.processPacket packet).Held pid) :
    s.Held pid ∨ (isSystemPID pid = false ∧ packet.header.pid = pid) := by
  unfold PacketState.Held at h ⊢
  rw [(PacketState.processPacket_adds s packet).view] at h
  by_cases hpid : pid = packet.header.pid
  · subst hpid
    split at h
    · next hstores =>
      unfold PacketState.stores at hstores
      simp only [Bool.and_eq_true, Bool.not_eq_true'] at hstores
      exact .inr ⟨hstores.1, rfl⟩
    · exact .inl h
  · left
    split at h
    · rwa [Function.update_of_ne hpid] at h
    · exact h

lemma held_processPackets {s : PacketState} {packets : List TSPacket} {pid : UInt16}
    (h : (s.processPackets packets).Held pid) :
    s.Held pid ∨ (isSystemPID pid = false ∧ ∃ packet ∈ packets, packet.header.pid = pid) := by
  induction packets generalizing s with
  | nil => exact .inl h
  | cons packet packets ih =>
    rw [PacketState.processPackets_cons] at h
    rcases ih h with hheld | ⟨hsystem, other, hmem, hpid⟩
    · rcases held_processPacket hheld with hheld | ⟨hsystem, hpid⟩
      · exact .inl hheld
      · exact .inr ⟨hsystem, packet, List.mem_cons_self, hpid⟩
    · exact .inr ⟨hsystem, other, List.mem_cons_of_mem packet hmem, hpid⟩

lemma held_finalized {d : MPEGTSDemuxer} {pid : UInt16} (h : d.finalized.Held pid) : d.Held pid := by
  rw [← stream_finalized_ne_none]
  unfold PacketState.Held at h
  have hpending : (d.finalized.view pid).pending = none := by
    have hview := PacketState.view_finalizeAllIterations d.toPacketState pid
    exact (congrArg StreamView.pending hview).trans (StreamView.pending_finalize _ _)
  rcases h with hstream | hne
  · exact hstream
  · exact absurd hpending hne

/-- Where the PIDs that hold something after an operation come from. -/
theorem held_call {d : MPEGTSDemuxer} {c : Call} {pid : UInt16} (h : (d.call c).1.Held pid) :
    d.Held pid ∨ (∃ iterId, c = .clearIteration pid iterId) ∨
      (isSystemPID pid = false ∧ ∃ packet ∈ (d.callTrace c).map Prod.snd, packet.header.pid = pid) := by
  by_cases hquery : c.isFeedOrQuery = true
  · rcases call_of_isFeedOrQuery hquery d with ⟨data, rfl⟩ | ⟨hstate, _⟩ | ⟨hstate, _⟩
    · have hfeed : (d.feedData data).toPacketState.Held pid := h
      rw [toPacketState_feedData] at hfeed
      have htrace : (d.callTrace (.feedData data)).map Prod.snd = (d.toInputState.feed data).2 :=
        feedTrace_packets d data
      rw [htrace]
      rcases held_processPackets hfeed with hheld | hpacket
      · exact .inl hheld
      · exact .inr (.inr hpacket)
    · rw [hstate] at h
      exact .inl (held_finalized h)
    · rw [hstate] at h
      exact .inl h
  cases c with
  | clearIteration p iterId =>
    by_cases hpid : pid = p
    · subst hpid
      exact .inr (.inl ⟨iterId, rfl⟩)
    · left
      have hheld : (d.clearIteration p iterId).toPacketState.Held pid := h
      unfold PacketState.Held at hheld
      rwa [PacketState.view_clearIteration, Function.update_of_ne hpid] at hheld
  | clearStream p =>
    left
    have hheld : (d.clearStream p).toPacketState.Held pid := h
    unfold PacketState.Held at hheld ⊢
    rw [PacketState.view_clearStream] at hheld
    by_cases hpid : pid = p
    · subst hpid
      rw [Function.update_self] at hheld
      rcases hheld with hstream | hpending
      · left
        intro hnone
        rw [hnone] at hstream
        exact hstream rfl
      · exact .inr hpending
    · rwa [Function.update_of_ne hpid] at hheld
  | clearAll =>
    rcases h with hstream | hpending
    · exact absurd rfl hstream
    · exact absurd rfl hpending
  | setProgramsTable table =>
    rcases h with hstream | hpending
    · exact absurd rfl hstream
    · exact .inl (.inr hpending)
  | _ => exact absurd rfl hquery

/-! ### Runs -/

/-- The PID is not a system PID, and a packet of it has been processed during these calls. -/
def StreamReceived (calls : List Call) (pid : UInt16) : Prop :=
  isSystemPID pid = false ∧ ∃ packet ∈ processedPackets {} calls, packet.header.pid = pid

/-- Every reported PID has been received: the discovered ones, and those of the programs as long as
no PMT has been parsed. -/
structure OnlyReceived (calls : List Call) : Prop where
  discovered : ∀ pid ∈ (run {} calls).getDiscoveredPIDs.2, StreamReceived calls pid
  programs : (run {} calls).parsedPmts = ∅ → ∀ program ∈ (run {} calls).getPrograms.2,
    ∀ pid ∈ program.streamPids, StreamReceived calls pid

/-- Every call of `clearIteration` is for a PID that has been received before. -/
def ClearsReceived (calls : List Call) : Prop :=
  ∀ before pid iterId, before ++ [.clearIteration pid iterId] <+: calls → StreamReceived before pid

lemma processedPackets_concat (d : MPEGTSDemuxer) (calls : List Call) (c : Call) :
    d.processedPackets (calls ++ [c]) =
      d.processedPackets calls ++ ((d.run calls).callTrace c).map Prod.snd := by
  unfold processedPackets runTrace run
  rw [Transducer.trace_append, List.map_append, Transducer.trace_cons, Transducer.trace_nil,
    List.append_nil]

lemma run_concat (d : MPEGTSDemuxer) (calls : List Call) (c : Call) :
    d.run (calls ++ [c]) = ((d.run calls).call c).1 := by
  unfold run
  rw [Transducer.final_append, Transducer.final_cons, Transducer.final_nil]

lemma StreamReceived.concat {calls : List Call} {pid : UInt16} (h : StreamReceived calls pid)
    (c : Call) : StreamReceived (calls ++ [c]) pid := by
  obtain ⟨hsystem, packet, hpacket, hpid⟩ := h
  refine ⟨hsystem, packet, ?_, hpid⟩
  rw [processedPackets_concat]
  exact List.mem_append_left _ hpacket

/-- Something is held for received PIDs only. -/
theorem received_of_held {calls : List Call} (hclears : ClearsReceived calls) {pid : UInt16}
    (h : (run {} calls).Held pid) : StreamReceived calls pid := by
  induction calls using List.reverseRecOn with
  | nil =>
    rcases h with hstream | hpending
    · exact absurd rfl hstream
    · exact absurd rfl hpending
  | append_singleton calls c ih =>
    rw [run_concat] at h
    rcases held_call h with hheld | ⟨iterId, rfl⟩ | ⟨hsystem, packet, hpacket, hpid⟩
    · have hbefore : ClearsReceived calls := fun before p iterId hpart =>
        hclears before p iterId (hpart.trans (List.prefix_append calls [c]))
      exact (ih hbefore hheld).concat c
    · exact (hclears calls pid iterId (List.prefix_refl _)).concat _
    · refine ⟨hsystem, packet, ?_, hpid⟩
      rw [processedPackets_concat]
      exact List.mem_append_right _ hpacket

/-- Only received PIDs are reported throughout a run exactly if it clears iterations of received PIDs
only. -/
theorem only_received_iff (calls : List Call) :
    (∀ before, before <+: calls → OnlyReceived before) ↔ ClearsReceived calls := by
  constructor
  · intro h before pid iterId hpart
    have hdiscovered : pid ∈ (run {} (before ++ [.clearIteration pid iterId])).getDiscoveredPIDs.2 := by
      have hview := PacketState.view_clearIteration (run {} before) pid iterId
      rw [discovered_iff_held, run_concat]
      left
      show (((run {} before).clearIteration pid iterId).view pid).stream ≠ none
      rw [hview, Function.update_self]
      exact Option.some_ne_none _
    obtain ⟨hsystem, packet, hpacket, hpid⟩ := (h _ hpart).discovered pid hdiscovered
    rw [processedPackets_concat] at hpacket
    refine ⟨hsystem, packet, ?_, hpid⟩
    rcases List.mem_append.mp hpacket with hpacket | hpacket
    · exact hpacket
    · cases hpacket
  · intro hclears before hpart
    have hbefore : ClearsReceived before := fun front pid iterId hfront =>
      hclears front pid iterId (hfront.trans hpart)
    constructor
    · intro pid hpid
      rw [discovered_iff_held] at hpid
      exact received_of_held hbefore hpid
    · intro hparsed program hprogram pid hpid
      obtain ⟨p, stream, _, hstream, rfl⟩ := (mem_getPrograms_streams hparsed program).mp hprogram
      obtain rfl := List.mem_singleton.mp hpid
      apply received_of_held hbefore
      rw [← stream_finalized_ne_none, hstream]
      exact Option.some_ne_none stream

/-- Clearing an iteration of the PAT's PID makes it a discovered stream. -/
theorem clearIteration_discovers : ¬OnlyReceived [.clearIteration pidPat 1] := by
  intro h
  have hdiscovered : pidPat ∈ (run {} [.clearIteration pidPat 1]).getDiscoveredPIDs.2 := by
    decide +kernel
  obtain ⟨hsystem, _⟩ := h.discovered pidPat hdiscovered
  exact absurd hsystem (by decide)

end MinimalMpegTS
