import MinimalMpegTS.Proofs.Iterations
import MinimalMpegTS.Proofs.Views

/-!
# The state between public calls

The buffer is bounded and holds no complete packet while synchronized, and what is kept per PID
about a pending iteration agrees: its id, its packets and the last counter.
-/

namespace MinimalMpegTS

open Framing MPEGTSDemuxer

/-! ### The input side -/

lemma length_limitBuffer_le (buffer : List UInt8) : (limitBuffer buffer).length ≤ maxBufferSize := by
  unfold limitBuffer
  split
  · rw [List.length_drop]
    omega
  · omega

/-- The buffer is bounded, is read from its start, and holds no complete packet when the
demultiplexer is synchronized. -/
structure InputState.WellFormed (state : InputState) : Prop where
  bounded : state.rawBuffer.length ≤ maxBufferSize
  syncOffset : state.syncOffset = 0
  drained : state.isSynchronized = true → state.rawBuffer.length < mpegtsPacketSize

namespace InputState

lemma wellFormed_readPackets {buffer : List UInt8} (h : buffer.length ≤ maxBufferSize) (start : Nat) :
    (readPackets buffer start).1.WellFormed := by
  unfold readPackets
  by_cases hall : AllAccepted (buffer.drop start)
  · have hlt : (restOf (buffer.drop start)).length < mpegtsPacketSize := hall
    have hsize : mpegtsPacketSize ≤ maxBufferSize := by decide
    rw [if_pos hall]
    constructor
    · show (restOf (buffer.drop start)).length ≤ maxBufferSize
      omega
    · rfl
    · intro _
      exact hlt
  · rw [if_neg hall]
    constructor
    · exact h
    · rfl
    · intro hsync
      cases hsync

lemma WellFormed.feed {state : InputState} (h : state.WellFormed) (data : List UInt8) :
    (state.feed data).1.WellFormed := by
  have hlimit := length_limitBuffer_le (state.rawBuffer ++ data)
  unfold InputState.feed
  by_cases hdata : data.isEmpty = true
  · rw [if_pos hdata]
    exact h
  · rw [if_neg hdata]
    dsimp only
    split
    · next hstart =>
      constructor
      · exact hlimit
      · exact h.syncOffset
      · intro hsync
        have hsync : state.isSynchronized = true := hsync
        unfold startPosition at hstart
        rw [if_pos hsync] at hstart
        cases hstart
    · exact wellFormed_readPackets hlimit _

end InputState

/-! ### Pending iterations -/

/-- What is kept about the pending iteration of a PID agrees. -/
structure StreamView.WellFormed (pid : UInt16) (v : StreamView) : Prop where
  sameKeys : v.pending.isSome = v.pendingId.isSome
  pending : ∀ it, v.pending = some it →
    isSystemPID pid = false ∧ 1 ≤ it.packetCount ∧ v.lastCc = some it.lastCc

namespace StreamView

lemma lastCc_addPacket (it : IterationData) (lastCc : Option UInt8) (packet : TSPacket) :
    (it.addPacket lastCc packet).lastCc = packet.header.continuityCounter := by
  rw [IterationData.addPacket_eq]

lemma packetCount_addPacket (it : IterationData) (lastCc : Option UInt8) (packet : TSPacket) :
    (it.addPacket lastCc packet).packetCount = it.packetCount + 1 := by
  rw [IterationData.addPacket_eq]

lemma wellFormed_invariant : ViewInvariant WellFormed := by
  constructor
  · intro pid
    constructor
    · rfl
    · intro it hit
      cases hit
  · intro pid v h
    cases hp : v.pending with
    | none =>
      rw [finalize_of_none hp]
      exact h
    | some it =>
      rw [finalize_of_some hp]
      constructor
      · rfl
      · intro it' hit'
        cases hit'
  · intro v iterId packet hpid _ h
    constructor
    · rw [pending_add, pendingId_add]
      by_cases hstart : v.starts packet.header = true
      · rw [if_pos hstart, if_pos hstart]
        rfl
      · -- the packet joins the iteration that is pending already
        rw [if_neg hstart, if_neg hstart, ← h.sameKeys]
        unfold starts at hstart
        cases hp : v.pending with
        | none => simp [hp] at hstart
        | some it => rfl
    · intro it hit
      rw [pending_add, Option.some.injEq] at hit
      rw [← hit, lastCc_add, packetCount_addPacket, lastCc_addPacket]
      exact ⟨hpid, Nat.le_add_left 1 _, rfl⟩
  · intro pid v stream _ h
    exact ⟨h.sameKeys, h.pending⟩

end StreamView

/-! ### The whole state -/

/-- What holds of a demultiplexer between public calls. -/
structure MPEGTSDemuxer.WellFormed (d : MPEGTSDemuxer) : Prop where
  bounded : d.rawBuffer.length ≤ maxBufferSize
  syncOffset : d.syncOffset = 0
  drained : d.isSynchronized = true → d.rawBuffer.length < mpegtsPacketSize
  sameKeys : ∀ pid, pid ∈ d.currentIterations ↔ pid ∈ d.currentIterationIds
  pids : ∀ pid ∈ d.currentIterations, isSystemPID pid = false ∧ pid ∈ d.lastCc
  pending : ∀ pid it, d.currentIterations.lookup pid = some it →
    1 ≤ it.packetCount ∧ d.lastCc.lookup pid = some it.lastCc

lemma input_wellFormed_of_reachable {d : MPEGTSDemuxer} (hd : Reachable d) :
    d.toInputState.WellFormed := by
  have hempty : InputState.WellFormed ⟨[], false, 0⟩ := by
    constructor
    · exact Nat.zero_le _
    · rfl
    · intro h
      cases h
  obtain ⟨calls, rfl⟩ := hd
  apply Transducer.invariant (fun d : MPEGTSDemuxer => d.toInputState.WellFormed) ?_ hempty
  intro d c h
  cases c with
  | feedData data =>
    show (d.feedData data).toInputState.WellFormed
    rw [feedData_eq]
    exact h.feed data
  | clearAll =>
    have hstate : (d.call .clearAll).1.toInputState = ⟨[], false, d.syncOffset⟩ := rfl
    rw [hstate, h.syncOffset]
    exact hempty
  | _ => exact h

/-- Every state between public calls is well formed. -/
theorem wellFormed_run (calls : List Call) : (run {} calls).WellFormed := by
  have hreach : Reachable (run {} calls) := ⟨calls, rfl⟩
  have hinput := input_wellFormed_of_reachable hreach
  have hview := StreamView.wellFormed_invariant.of_reachable hreach
  constructor
  · exact hinput.bounded
  · exact hinput.syncOffset
  · exact hinput.drained
  · intro pid
    rw [← AList.lookup_isSome, ← AList.lookup_isSome]
    exact Bool.eq_iff_iff.mp (hview pid).sameKeys
  · intro pid hpid
    obtain ⟨it, hit⟩ := Option.isSome_iff_exists.mp (AList.lookup_isSome.mpr hpid)
    obtain ⟨hsystem, _, hlast⟩ := (hview pid).pending it hit
    constructor
    · exact hsystem
    · exact AList.lookup_isSome.mp (Option.isSome_iff_exists.mpr ⟨it.lastCc, hlast⟩)
  · intro pid it hit
    exact ((hview pid).pending it hit).2

end MinimalMpegTS
