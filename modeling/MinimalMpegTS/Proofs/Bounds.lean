import MinimalMpegTS.Proofs.ClearAll
import MinimalMpegTS.Proofs.ClockQueries
import MinimalMpegTS.Proofs.SectionRuns
import MinimalMpegTS.Proofs.Services
import MinimalMpegTS.Proofs.StateInvariant

/-!
# What the demultiplexer holds

Whatever is fed, the buffer, the accumulators of the sections, the clock histories and what is kept
about pending iterations stay within fixed bounds. Only payload and parsed tables can grow.
-/

namespace MinimalMpegTS

open MPEGTSDemuxer PacketState

/-! ### Maps keyed by PID -/

namespace PidMap

variable {α : Type} {m : PidMap α}

lemma length_keys_le (hkeys : ∀ pid ∈ m, pid < 8192) : m.keys.length ≤ 8192 := by
  have hnodup : (m.keys.map UInt16.toNat).Nodup :=
    m.keys_nodup.map (fun _ _ h => UInt16.toNat_inj.mp h)
  have hsubset : m.keys.map UInt16.toNat ⊆ List.range 8192 := by
    intro n hn
    obtain ⟨pid, hpid, rfl⟩ := List.mem_map.mp hn
    exact List.mem_range.mpr (UInt16.lt_iff_toNat_lt.mp (hkeys pid (AList.mem_keys.mpr hpid)))
  have hlength := (hnodup.subperm hsubset).length_le
  rwa [List.length_map, List.length_range] at hlength

lemma sum_size_le (hkeys : ∀ pid ∈ m, pid < 8192) (size : α → Nat) {bound : Nat}
    (hsize : ∀ pid value, m.lookup pid = some value → size value ≤ bound) :
    (m.entries.map (fun entry => size entry.2)).sum ≤ 8192 * bound := by
  have hle : ∀ n ∈ m.entries.map (fun entry => size entry.2), n ≤ bound := by
    intro n hn
    obtain ⟨entry, hentry, rfl⟩ := List.mem_map.mp hn
    exact hsize entry.1 entry.2 (AList.mem_lookup_iff.mpr hentry)
  have hsum := List.sum_le_card_nsmul _ bound hle
  have hlength : m.entries.length ≤ 8192 := by
    have hkeysLength := length_keys_le hkeys
    unfold AList.keys at hkeysLength
    rwa [List.keys, List.length_map] at hkeysLength
  rw [List.length_map, smul_eq_mul] at hsum
  exact hsum.trans (Nat.mul_le_mul_right bound hlength)

end PidMap

/-! ### Accumulators -/

lemma PSIAccumulator.Coherent.length_le {acc : PSIAccumulator} (h : Coherent acc) :
    acc.buffer.length ≤ 4097 := by
  rcases h with rfl | ⟨data, hincomplete, rfl⟩
  · exact Nat.zero_le _
  · show data.length ≤ 4097
    by_contra hlong
    have hthree : 3 ≤ data.length := by omega
    have hhigh := Nat.mod_lt (data.getD 1 0).toNat (show 0 < 2 ^ 4 by decide)
    have hlow := (data.getD 2 0).toNat_lt
    apply hincomplete
    unfold Complete
    rw [sectionSize_eq hthree]
    unfold lengthField
    omega

lemma coherent_pmtAccumulators (packets : List TSPacket) {pid : UInt16} {acc : PSIAccumulator}
    (h : (processPackets {} packets).pmtAccumulators.lookup pid = some acc) :
    PSIAccumulator.Coherent acc := by
  induction packets using List.reverseRecOn generalizing pid acc with
  | nil => cases h
  | append_singleton packets packet ih =>
    rw [processPackets_append] at h
    have hreads := (processPacket_readsTables (processPackets {} packets) packet).pmtAccumulators pid
    have hlookup := hreads.symm.trans h
    split at hlookup
    · exact .inl (Option.some.inj hlookup).symm
    · obtain ⟨before, hbefore, rfl⟩ := Option.map_eq_some_iff.mp hlookup
      unfold nextPmt
      split
      · exact coherent_accumulate (ih hbefore) packet
      · exact ih hbefore

/-! ### PIDs of packets -/

lemma TSPacket.Received.pid_lt {packet : TSPacket} (h : packet.Received) :
    packet.header.pid < 8192 := by
  obtain ⟨data, hdata, haccept⟩ := h
  obtain ⟨-, rfl⟩ := TSPacket.accept_from hdata haccept
  have hhigh := Nat.mod_lt (TSPacket.value data 1) (show 0 < 32 by decide)
  have hlow : TSPacket.value data 2 < 256 := (data.getD 2 0).toNat_lt
  show UInt16.ofNat (TSPacket.value data 1 % 32 * 256 + TSPacket.value data 2) < 8192
  have hsum : TSPacket.value data 1 % 32 * 256 + TSPacket.value data 2 < 8192 := by omega
  rw [UInt16.lt_iff_toNat_lt, UInt16.toNat_ofNat_of_lt' (hsum.trans (by decide))]
  exact hsum

/-- Something is kept about the PID since a packet of it. -/
def StreamView.Seen (v : StreamView) : Prop :=
  v.pending.isSome = true ∨ v.pendingId.isSome = true ∨ v.lastCc.isSome = true

lemma StreamView.seen_invariant : ViewInvariant (fun pid v => v.Seen → pid < 8192) := by
  constructor
  · intro pid hseen
    rcases hseen with h | h | h
    · cases h
    · cases h
    · cases h
  · intro pid v h hseen
    apply h
    cases hp : v.pending with
    | none => rwa [finalize_of_none hp] at hseen
    | some it =>
      left
      rw [hp]
      rfl
  · intro v iterId packet _ hreceived _ _
    exact hreceived.pid_lt
  · intro pid v stream _ h
    exact h

lemma samples_tracker (calls : List Call) {pid : UInt16} {tracker : PCRTracker}
    (h : (run {} calls).pcrManager.trackers.lookup pid = some tracker) :
    tracker.samples =
      (addedSamples pid (processedPackets {} calls)).rtake PCRTracker.maxSamples := by
  rw [← (tracked_run calls).samples pid]
  unfold PCRManager.samplesOf PCRManager.getTracker
  rw [h]
  rfl

lemma tracker_pid_lt (calls : List Call) {pid : UInt16} {tracker : PCRTracker}
    (h : (run {} calls).pcrManager.trackers.lookup pid = some tracker) : pid < 8192 := by
  have hreceived := received_processedPackets {} calls
  obtain ⟨hcount, -⟩ := addedSamples_received pid hreceived
  have hpos := List.length_pos_of_ne_nil (trackersFilled_run calls pid tracker h).2
  rw [samples_tracker calls h, History.length_rtake, hcount] at hpos
  obtain ⟨packet, hpacket, hclock⟩ := List.countP_pos_iff.mp (Nat.lt_min.mp hpos).1
  have hpid := (Bool.and_eq_true_iff.mp hclock).1
  rw [← of_decide_eq_true hpid]
  exact (hreceived packet hpacket).pid_lt

/-! ### The whole state -/

/-- The bytes in the accumulators of sections. -/
def PacketState.sectionBytes (s : PacketState) : Nat :=
  s.patAccumulator.buffer.length +
    (s.pmtAccumulators.entries.map (fun entry => entry.2.buffer.length)).sum

/-- The samples of all clocks. -/
def PCRManager.sampleCount (manager : PCRManager) : Nat :=
  (manager.trackers.entries.map (fun entry => entry.2.samples.length)).sum

/-- The parts of the state that do not grow with the stream. -/
structure WithinBounds (d : MPEGTSDemuxer) : Prop where
  buffer : d.rawBuffer.length ≤ maxBufferSize
  sections : d.sectionBytes ≤ 8193 * 4097
  samples : d.pcrManager.sampleCount ≤ 8192 * PCRTracker.maxSamples
  pending : d.currentIterations.keys.length ≤ 8192
  pendingIds : d.currentIterationIds.keys.length ≤ 8192
  lastCc : d.lastCc.keys.length ≤ 8192

/-- After any calls with any data the state is within its bounds. -/
theorem withinBounds_run (calls : List Call) : WithinBounds (run {} calls) := by
  have hreach : Reachable (run {} calls) := ⟨calls, rfl⟩
  have hsound := sound_of_reachable hreach
  have hseen := StreamView.seen_invariant.of_reachable hreach
  constructor
  case buffer => exact (input_wellFormed_of_reachable hreach).bounded
  case sections =>
    have hpat := hsound.patAccumulator.length_le
    have hpmts : ((run {} calls).pmtAccumulators.entries.map
        (fun entry => entry.2.buffer.length)).sum ≤ 8192 * 4097 := by
      apply PidMap.sum_size_le hsound.pids (fun acc : PSIAccumulator => acc.buffer.length)
      intro pid acc hacc
      rw [← (readsAlike_run calls).pmtAccumulators] at hacc
      exact (coherent_pmtAccumulators _ hacc).length_le
    unfold sectionBytes
    omega
  case samples =>
    have hpids : ∀ pid ∈ (run {} calls).pcrManager.trackers, pid < 8192 := by
      intro pid hpid
      obtain ⟨tracker, htracker⟩ := Option.isSome_iff_exists.mp (AList.lookup_isSome.mpr hpid)
      exact tracker_pid_lt calls htracker
    apply PidMap.sum_size_le hpids (fun tracker : PCRTracker => tracker.samples.length)
    intro pid tracker htracker
    rw [samples_tracker calls htracker, History.length_rtake]
    exact Nat.min_le_right _ _
  case pending =>
    apply PidMap.length_keys_le
    intro pid hpid
    exact hseen pid (.inl (AList.lookup_isSome.mpr hpid))
  case pendingIds =>
    apply PidMap.length_keys_le
    intro pid hpid
    exact hseen pid (.inr (.inl (AList.lookup_isSome.mpr hpid)))
  case lastCc =>
    apply PidMap.length_keys_le
    intro pid hpid
    exact hseen pid (.inr (.inr (AList.lookup_isSome.mpr hpid)))

end MinimalMpegTS
