import MinimalMpegTS.Lib.Framing
import MinimalMpegTS.Model.Calls

/-!
# The input side of the demultiplexer

The processing loop interleaves reading packets off the buffer with processing them. This file
separates the two: `InputState.feed` says which packets a chunk of bytes yields and what stays
in the buffer, and `feedData_eq` shows that `feedData` is `feed` followed by the processing of
these packets in order. The same holds of the states that the loop passes through.
-/

namespace MinimalMpegTS

open Framing

/-- The packets accepted one after the other from the start of a buffer. -/
abbrev packetsOf (buffer : List UInt8) : List TSPacket :=
  frames mpegtsPacketSize TSPacket.accept buffer

/-- The bytes after these packets. -/
abbrev restOf (buffer : List UInt8) : List UInt8 :=
  leftover mpegtsPacketSize TSPacket.accept buffer

/-- All complete packets from the start of the buffer are accepted. -/
abbrev AllAccepted (buffer : List UInt8) : Prop :=
  Drained mpegtsPacketSize TSPacket.accept buffer

lemma packetSize_pos : 0 < mpegtsPacketSize := by decide

lemma packetAt_append {stream : List UInt8} (data : List UInt8) {pos : Nat}
    (h : pos + mpegtsPacketSize ≤ stream.length) :
    packetAt (stream ++ data) pos = packetAt stream pos := by
  have hdrop : mpegtsPacketSize ≤ (stream.drop pos).length := by
    rw [List.length_drop]
    omega
  unfold packetAt
  rw [List.drop_append_of_le_length (by omega), List.take_append_of_le_length hdrop]

namespace InputState

/-- Where reading starts in a buffer. -/
def startPosition (self : InputState) (buffer : List UInt8) : Option Nat :=
  if self.isSynchronized then some self.syncOffset else findSyncPosition buffer

/-- Read packets off a buffer. Nothing is dropped when a packet is rejected. -/
def readPackets (buffer : List UInt8) (start : Nat) : InputState × List TSPacket :=
  (if AllAccepted (buffer.drop start) then ⟨restOf (buffer.drop start), true, 0⟩
    else ⟨buffer, false, 0⟩, packetsOf (buffer.drop start))

/-- The input side of `feedData`: the state after a chunk and the packets it yields. -/
def feed (self : InputState) (data : List UInt8) : InputState × List TSPacket :=
  if data.isEmpty then (self, [])
  else
    let buffer := MPEGTSDemuxer.limitBuffer (self.rawBuffer ++ data)
    match self.startPosition buffer with
    | none => ({ self with rawBuffer := buffer }, [])
    | some start => readPackets buffer start

end InputState

lemma limitBuffer_suffix (buffer : List UInt8) : MPEGTSDemuxer.limitBuffer buffer <:+ buffer := by
  unfold MPEGTSDemuxer.limitBuffer
  split
  · exact List.drop_suffix _ _
  · exact List.suffix_refl _

lemma feed_rawBuffer_suffix (state : InputState) (data : List UInt8) :
    (state.feed data).1.rawBuffer <:+ state.rawBuffer ++ data := by
  have hlimit := limitBuffer_suffix (state.rawBuffer ++ data)
  unfold InputState.feed
  by_cases hdata : data.isEmpty = true
  · rw [if_pos hdata, List.isEmpty_iff.mp hdata, List.append_nil]
  · rw [if_neg hdata]
    dsimp only
    split
    · exact hlimit
    · next start _ =>
      unfold InputState.readPackets
      dsimp only
      split
      · exact ((List.drop_suffix _ _).trans (List.drop_suffix _ _)).trans hlimit
      · exact hlimit

lemma feed_syncOffset {state : InputState} (h : state.syncOffset = 0) (data : List UInt8) :
    (state.feed data).1.syncOffset = 0 := by
  unfold InputState.feed
  by_cases hdata : data.isEmpty = true
  · rw [if_pos hdata]
    exact h
  · rw [if_neg hdata]
    dsimp only
    split
    · exact h
    · unfold InputState.readPackets
      dsimp only
      split
      · rfl
      · rfl

namespace PacketState

/-- Process packets in order. -/
def processPackets (self : PacketState) (packets : List TSPacket) : PacketState :=
  packets.foldl processPacket self

/-- Each packet with the state in which it is processed. -/
def packetTrace : PacketState → List TSPacket → List (PacketState × TSPacket)
  | _, [] => []
  | self, packet :: packets => (self, packet) :: packetTrace (self.processPacket packet) packets

@[simp] lemma processPackets_nil (self : PacketState) : self.processPackets [] = self := rfl

@[simp] lemma processPackets_cons (self : PacketState) (p : TSPacket) (ps : List TSPacket) :
    self.processPackets (p :: ps) = (self.processPacket p).processPackets ps := rfl

lemma processPackets_append (self : PacketState) (ps qs : List TSPacket) :
    self.processPackets (ps ++ qs) = (self.processPackets ps).processPackets qs :=
  List.foldl_append

@[simp] lemma packetTrace_packets (self : PacketState) (ps : List TSPacket) :
    (self.packetTrace ps).map Prod.snd = ps := by
  induction ps generalizing self with
  | nil => rfl
  | cons p ps ih => rw [packetTrace, List.map_cons, ih]

end PacketState

lemma accept_head {data : List UInt8} {packet : TSPacket} (h : TSPacket.accept data = some packet) :
    data.head? = some mpegtsSyncByte := by
  cases data with
  | nil => simp [TSPacket.accept, TSPacket.parse, TSPacket.parseHeader] at h
  | cons byte data =>
    by_cases hb : byte = mpegtsSyncByte
    · simp [hb]
    · simp [TSPacket.accept, TSPacket.parse, TSPacket.parseHeader, hb] at h

namespace MPEGTSDemuxer

/-- The part of the buffer that the processing loop has not reached. -/
def unread (self : MPEGTSDemuxer) : List UInt8 := self.rawBuffer.drop self.syncOffset

lemma loopStep_finished {d : MPEGTSDemuxer} (h : d.unread.length < mpegtsPacketSize) :
    d.loopStep = .finished := by
  have hlen : ¬d.syncOffset + mpegtsPacketSize ≤ d.rawBuffer.length := by
    rw [unread, List.length_drop] at h
    omega
  rw [loopStep, if_neg hlen]

lemma loopStep_complete {d : MPEGTSDemuxer} (h : mpegtsPacketSize ≤ d.unread.length) :
    d.syncOffset + mpegtsPacketSize ≤ d.rawBuffer.length := by
  have hpos := packetSize_pos
  rw [unread, List.length_drop] at h
  omega

lemma loopStep_lostSync {d : MPEGTSDemuxer} (hlen : mpegtsPacketSize ≤ d.unread.length)
    (h : TSPacket.accept (d.unread.take mpegtsPacketSize) = none) :
    d.loopStep = .lostSync { d with isSynchronized := false, syncOffset := 0 } := by
  rw [loopStep, if_pos (loopStep_complete hlen)]
  dsimp only
  split
  · rfl
  · have hp : TSPacket.accept (packetAt d.rawBuffer d.syncOffset) = none := h
    rw [hp]

lemma loopStep_processed {d : MPEGTSDemuxer} {packet : TSPacket}
    (hlen : mpegtsPacketSize ≤ d.unread.length)
    (h : TSPacket.accept (d.unread.take mpegtsPacketSize) = some packet) :
    d.loopStep = .processed packet { d with
      toPacketState := d.toPacketState.processPacket packet
      syncOffset := d.syncOffset + mpegtsPacketSize } := by
  have hp : TSPacket.accept (packetAt d.rawBuffer d.syncOffset) = some packet := h
  rw [loopStep, if_pos (loopStep_complete hlen)]
  dsimp only
  rw [if_neg (not_not.mpr (accept_head hp)), hp]

lemma unread_next (d : MPEGTSDemuxer) (s : PacketState) :
    unread { d with toPacketState := s, syncOffset := d.syncOffset + mpegtsPacketSize } =
      d.unread.drop mpegtsPacketSize := by
  simp only [unread, List.drop_drop]

lemma length_drop_unread {d : MPEGTSDemuxer} {fuel : Nat}
    (hfuel : d.unread.length < mpegtsPacketSize + (fuel + 1)) :
    (d.unread.drop mpegtsPacketSize).length < mpegtsPacketSize + fuel := by
  have hpos := packetSize_pos
  rw [List.length_drop]
  omega

/-- The state that the processing loop ends in. -/
def drainedState (self : MPEGTSDemuxer) : MPEGTSDemuxer :=
  let state := self.toPacketState.processPackets (packetsOf self.unread)
  if AllAccepted self.unread then
    ⟨⟨restOf self.unread, self.isSynchronized, 0⟩, state⟩
  else ⟨⟨self.rawBuffer, false, 0⟩, state⟩

lemma drainedState_eq (buffer : List UInt8) (start : Nat) (s : PacketState) :
    drainedState ⟨⟨buffer, true, start⟩, s⟩ =
      ⟨(InputState.readPackets buffer start).1,
        s.processPackets (InputState.readPackets buffer start).2⟩ := by
  unfold drainedState InputState.readPackets unread
  by_cases hall : AllAccepted (buffer.drop start)
  · rw [if_pos hall, if_pos hall]
  · rw [if_neg hall, if_neg hall]

theorem processLoop_eq {fuel : Nat} {d : MPEGTSDemuxer}
    (hfuel : d.unread.length < mpegtsPacketSize + fuel) :
    processLoop fuel d = d.drainedState := by
  have hshort : ∀ e : MPEGTSDemuxer, e.unread.length < mpegtsPacketSize →
      e.eraseProcessed = e.drainedState := fun e he => by
    dsimp only [drainedState, packetsOf, restOf]
    rw [if_pos (drained_short he), frames_short he, leftover_short he]
    rfl
  induction fuel generalizing d with
  | zero => exact hshort d (by omega)
  | succ fuel ih =>
    rw [processLoop]
    by_cases hlen : mpegtsPacketSize ≤ d.unread.length
    · cases hx : TSPacket.accept (d.unread.take mpegtsPacketSize) with
      | none =>
        dsimp only [drainedState, packetsOf]
        rw [loopStep_lostSync hlen hx, if_neg (not_drained_reject hlen hx), frames_reject hx]
        rfl
      | some packet =>
        have hnext := unread_next d (d.toPacketState.processPacket packet)
        have hrest := length_drop_unread hfuel
        rw [loopStep_processed hlen hx]
        dsimp only
        rw [ih (by rw [hnext]; exact hrest)]
        dsimp only [drainedState, packetsOf, restOf, AllAccepted]
        rw [hnext, frames_accept packetSize_pos hlen hx, leftover_accept packetSize_pos hlen hx]
        simp only [drained_accept packetSize_pos hlen hx, PacketState.processPackets_cons]
    · rw [loopStep_finished (by omega)]
      exact hshort d (by omega)

/-- The states that the processing loop passes through. -/
theorem loopTrace_eq {fuel : Nat} {d : MPEGTSDemuxer}
    (hfuel : d.unread.length < mpegtsPacketSize + fuel) :
    (loopTrace fuel d).map (fun e => (e.1.toPacketState, e.2)) =
        d.toPacketState.packetTrace (packetsOf d.unread) ∧
      (loopTrace fuel d).map (fun e => e.1.syncOffset) =
        (List.range (packetsOf d.unread).length).map (d.syncOffset + mpegtsPacketSize * ·) ∧
      ∀ e ∈ loopTrace fuel d, e.1.rawBuffer = d.rawBuffer := by
  induction fuel generalizing d with
  | zero =>
    have hd : d.unread.length < mpegtsPacketSize := by omega
    dsimp only [packetsOf]
    rw [frames_short hd]
    simp [loopTrace, PacketState.packetTrace]
  | succ fuel ih =>
    rw [loopTrace]
    by_cases hlen : mpegtsPacketSize ≤ d.unread.length
    · cases hx : TSPacket.accept (d.unread.take mpegtsPacketSize) with
      | none =>
        dsimp only [packetsOf]
        rw [loopStep_lostSync hlen hx, frames_reject hx]
        simp [PacketState.packetTrace]
      | some packet =>
        have hnext := unread_next d (d.toPacketState.processPacket packet)
        have hrest := length_drop_unread hfuel
        rw [loopStep_processed hlen hx]
        dsimp only
        obtain ⟨hstates, hoffsets, hbuffer⟩ := ih (d := { d with
          toPacketState := d.toPacketState.processPacket packet
          syncOffset := d.syncOffset + mpegtsPacketSize })
          (by rw [hnext]; exact hrest)
        rw [hnext] at hstates hoffsets
        dsimp only [packetsOf] at hstates hoffsets ⊢
        rw [frames_accept packetSize_pos hlen hx]
        refine ⟨?_, ?_, ?_⟩
        · rw [List.map_cons, hstates, PacketState.packetTrace]
        · rw [List.map_cons, hoffsets, List.length_cons, List.range_succ_eq_map, List.map_cons,
            List.map_map, mul_zero, add_zero]
          congr 1
          apply List.map_congr_left
          intro i _
          simp only [Function.comp_apply, Nat.mul_succ]
          omega
        · intro e he
          rcases List.mem_cons.mp he with rfl | he
          · rfl
          · exact hbuffer e he
    · have hd : d.unread.length < mpegtsPacketSize := by omega
      dsimp only [packetsOf]
      rw [loopStep_finished hd, frames_short hd]
      simp [PacketState.packetTrace]

lemma loop_fuel (d : MPEGTSDemuxer) :
    d.unread.length < mpegtsPacketSize + d.rawBuffer.length := by
  have hpos := packetSize_pos
  rw [unread, List.length_drop]
  omega

lemma synchronize_eq (d : MPEGTSDemuxer) :
    d.synchronize = match d.toInputState.startPosition d.rawBuffer with
      | none => (d, false)
      | some start => ({ d with isSynchronized := true, syncOffset := start }, true) := by
  unfold synchronize tryFindValidIteration InputState.startPosition
  by_cases hs : d.isSynchronized = true
  · rw [if_pos hs, if_pos hs]
    rcases d with ⟨⟨_, _, _⟩, _⟩
    simp_all
  · rw [if_neg hs, if_neg hs]
    cases findSyncPosition d.rawBuffer <;> rfl

lemma startPosition_bufferData (d : MPEGTSDemuxer) (data : List UInt8) :
    (d.bufferData data).toInputState.startPosition (d.bufferData data).rawBuffer =
      d.toInputState.startPosition (limitBuffer (d.rawBuffer ++ data)) := rfl

/-- `feedData` reads packets off the buffer and processes them in order. -/
theorem feedData_eq (d : MPEGTSDemuxer) (data : List UInt8) :
    d.feedData data = ⟨(d.toInputState.feed data).1,
      d.toPacketState.processPackets (d.toInputState.feed data).2⟩ := by
  unfold feedData InputState.feed
  by_cases hdata : data.isEmpty = true
  · simp only [hdata, if_true, PacketState.processPackets_nil]
  · simp only [hdata, Bool.false_eq_true, if_false]
    rw [processBuffer, synchronize_eq]
    rw [startPosition_bufferData]
    cases d.toInputState.startPosition (limitBuffer (d.rawBuffer ++ data)) with
    | none => rfl
    | some start =>
      let e : MPEGTSDemuxer := { d.bufferData data with isSynchronized := true, syncOffset := start }
      change processLoop e.rawBuffer.length e = _
      rw [processLoop_eq (loop_fuel e)]
      exact drainedState_eq (limitBuffer (d.rawBuffer ++ data)) start d.toPacketState

/-- The states in which `feedData` processes packets. -/
theorem feedTrace_states (d : MPEGTSDemuxer) (data : List UInt8) :
    (d.feedTrace data).map (fun e => (e.1.toPacketState, e.2)) =
      d.toPacketState.packetTrace (d.toInputState.feed data).2 := by
  unfold feedTrace InputState.feed
  by_cases hdata : data.isEmpty = true
  · simp [hdata, PacketState.packetTrace]
  · simp only [hdata, Bool.false_eq_true, if_false]
    rw [synchronize_eq]
    rw [startPosition_bufferData]
    cases d.toInputState.startPosition (limitBuffer (d.rawBuffer ++ data)) with
    | none => rfl
    | some start => exact (loopTrace_eq (loop_fuel _)).1

lemma feedTrace_packets (d : MPEGTSDemuxer) (data : List UInt8) :
    (d.feedTrace data).map Prod.snd = (d.toInputState.feed data).2 := by
  have h := congrArg (List.map Prod.snd) (feedTrace_states d data)
  rwa [List.map_map, PacketState.packetTrace_packets] at h

end MPEGTSDemuxer

end MinimalMpegTS
