import MinimalMpegTS.Proofs.Calls
import MinimalMpegTS.Proofs.Windows

/-!
# New packets

A call that loses synchronization leaves the packets that it has processed in the buffer, and a later
call reads them again. The windows of a run of public calls tell the packets that are new from those
that were processed before. As long as no call starts to read in front of the end of a window that was
processed before, all packets are new. In a run that reads cleanly no call does.
-/

namespace MinimalMpegTS

open MPEGTSDemuxer

/-- The bytes that a call feeds. -/
def Call.fed : Call → List UInt8
  | .feedData data => data
  | _ => []

namespace Feeding

/-- Make a public call. -/
def call (self : Feeding) (c : Call) : Feeding × Answer :=
  (⟨self.stream ++ c.fed, (self.demuxer.call c).1⟩, (self.demuxer.call c).2)

/-- The windows that a public call processes. -/
def callWindows (self : Feeding) (c : Call) : List (Nat × TSPacket) :=
  (self.demuxer.callTrace c).map (fun entry =>
    ((self.stream ++ c.fed).length - entry.1.rawBuffer.length + entry.1.syncOffset, entry.2))

/-- The windows that a list of public calls processes. -/
def windowsIn (self : Feeding) (calls : List Call) : List (Nat × TSPacket) :=
  Transducer.trace call callWindows self calls

/-- The place in the stream where a call starts to read. -/
def readingPlace (self : Feeding) : Call → Option Nat
  | .feedData data =>
    if data.isEmpty then none
    else
      let buffer := limitBuffer (self.demuxer.rawBuffer ++ data)
      (self.demuxer.toInputState.startPosition buffer).map (fun start =>
        (self.stream ++ data).length - buffer.length + start)
  | _ => none

/-- The call reads behind all of these windows. -/
def ReadsBehind (old : List (Nat × TSPacket)) (self : Feeding) (c : Call) : Prop :=
  ∀ place ∈ self.readingPlace c, ∀ w ∈ old, w.1 + mpegtsPacketSize ≤ place

end Feeding

open Feeding

/-- The windows share no byte. -/
def apart (v w : Nat × TSPacket) : Bool :=
  decide (v.1 + mpegtsPacketSize ≤ w.1) || decide (w.1 + mpegtsPacketSize ≤ v.1)

/-- The packets that a list of calls processes in windows apart from all those that were processed
before. -/
def newPackets (before calls : List Call) : List TSPacket :=
  (((Transducer.final Feeding.call {} before).windowsIn calls).filter (fun w =>
    (windowsIn {} before).all (fun old => apart old w))).map Prod.snd

/-- No call starts to read in front of the end of a window that was processed before. -/
def RereadsNothing (before calls : List Call) : Prop :=
  Transducer.Along Feeding.call (ReadsBehind (windowsIn {} before))
    (Transducer.final Feeding.call {} before) calls

lemma rereadsNothing_getDiscoveredPIDs (before : List Call) :
    RereadsNothing before [.getDiscoveredPIDs] := by
  refine ⟨?_, trivial⟩
  intro place hplace
  cases hplace

namespace Feeding

lemma demuxer_final (f : Feeding) (calls : List Call) :
    (Transducer.final call f calls).demuxer = f.demuxer.run calls := by
  induction calls generalizing f with
  | nil => rfl
  | cons c calls ih => exact ih (f.call c).1

lemma windowsIn_packets (f : Feeding) (calls : List Call) :
    (f.windowsIn calls).map Prod.snd = f.demuxer.processedPackets calls := by
  induction calls generalizing f with
  | nil => rfl
  | cons c calls ih =>
    have hfirst : (f.callWindows c).map Prod.snd = (f.demuxer.callTrace c).map Prod.snd := by
      unfold callWindows
      rw [List.map_map]
      rfl
    have hrest := ih (f.call c).1
    unfold windowsIn processedPackets runTrace at hrest ⊢
    rw [Transducer.trace_cons, Transducer.trace_cons, List.map_append, List.map_append, hfirst, hrest]
    rfl

lemma le_of_mem_callWindows {f : Feeding} {c : Call} {w : Nat × TSPacket} (hw : w ∈ f.callWindows c) :
    ∃ place ∈ f.readingPlace c, place ≤ w.1 := by
  cases c with
  | feedData data =>
    by_cases hdata : data = []
    · subst hdata
      exact absurd hw List.not_mem_nil
    cases hstart : f.demuxer.toInputState.startPosition
        (limitBuffer (f.demuxer.rawBuffer ++ data)) with
    | none =>
      have hnone : f.callWindows (.feedData data) = [] := congrArg (List.map _) (feedTrace_none hstart)
      rw [hnone] at hw
      exact absurd hw List.not_mem_nil
    | some start =>
      have hposition : w.1 ∈ (f.windows data).map Prod.fst := List.mem_map_of_mem hw
      rw [windows_some hdata hstart] at hposition
      obtain ⟨i, _, hi⟩ := List.mem_map.mp hposition
      have hne : data.isEmpty = false := by simpa using hdata
      refine ⟨(f.stream ++ data).length - (limitBuffer (f.demuxer.rawBuffer ++ data)).length + start,
        ?_, by omega⟩
      unfold readingPlace
      dsimp only
      rw [hne, hstart]
      rfl
  | _ => exact absurd hw List.not_mem_nil

lemma le_of_mem_windowsIn {old : List (Nat × TSPacket)} {f : Feeding} {calls : List Call}
    (h : Transducer.Along call (ReadsBehind old) f calls) {w : Nat × TSPacket}
    (hw : w ∈ f.windowsIn calls) : ∀ v ∈ old, v.1 + mpegtsPacketSize ≤ w.1 := by
  induction calls generalizing f with
  | nil => exact absurd hw List.not_mem_nil
  | cons c calls ih =>
    rcases List.mem_append.mp hw with hw | hw
    · intro v hv
      obtain ⟨place, hplace, hle⟩ := le_of_mem_callWindows hw
      exact (h.1 place hplace v hv).trans hle
    · exact ih h.2 hw

end Feeding

/-- Where nothing is read again, all packets are new. -/
theorem newPackets_eq {before calls : List Call} (h : RereadsNothing before calls) :
    newPackets before calls = (run {} before).processedPackets calls := by
  unfold newPackets
  rw [List.filter_eq_self.mpr, windowsIn_packets, demuxer_final]
  intro w hw
  rw [List.all_eq_true]
  intro old hold
  have hle := le_of_mem_windowsIn h hw old hold
  unfold apart
  rw [decide_eq_true hle, Bool.true_or]

/-! ### Calls that read cleanly -/

/-- A data call reads cleanly. -/
def CallReadsCleanly (self : Feeding) : Call → Prop
  | .feedData data => ReadsCleanly self.demuxer data
  | _ => True

/-- The call keeps the buffer or empties it, and processes no packet. -/
structure KeepsInput (d e : MPEGTSDemuxer) : Prop where
  rawBuffer : e.rawBuffer <:+ d.rawBuffer
  totalPacketsProcessed : e.totalPacketsProcessed = d.totalPacketsProcessed

lemma keepsInput_call {c : Call} (h : c.isFeed = false) (d : MPEGTSDemuxer) :
    KeepsInput d (d.call c).1 ∧ d.callTrace c = [] := by
  have htotal := (PacketState.finalizeAllIterations_sameTables d.toPacketState).totalPacketsProcessed
  cases c with
  | feedData data => cases h
  | getPrograms => exact ⟨⟨List.suffix_rfl, htotal⟩, rfl⟩
  | getDiscoveredPIDs => exact ⟨⟨List.suffix_rfl, htotal⟩, rfl⟩
  | getIterationsSummary pid => exact ⟨⟨List.suffix_rfl, htotal⟩, rfl⟩
  | clearAll => exact ⟨⟨List.nil_suffix, htotal⟩, rfl⟩
  | _ => exact ⟨⟨List.suffix_rfl, rfl⟩, rfl⟩

namespace Feeding

lemma call_of_not_isFeed {c : Call} (h : c.isFeed = false) (f : Feeding) :
    (f.call c).1.stream = f.stream ∧ KeepsInput f.demuxer (f.call c).1.demuxer ∧
      f.callWindows c = [] := by
  obtain ⟨hkeeps, htrace⟩ := keepsInput_call h f.demuxer
  refine ⟨?_, hkeeps, ?_⟩
  · cases c with
    | feedData data => cases h
    | _ => exact List.append_nil f.stream
  · unfold callWindows
    rw [htrace]
    rfl

end Feeding

lemma Positioned.call {f : Feeding} {ws : List (Nat × TSPacket)} (h : Positioned f ws) (c : Call) :
    Positioned (f.call c).1 (ws ++ f.callWindows c) := by
  cases hc : c.isFeed with
  | true =>
    obtain ⟨data, rfl⟩ := feedData_of_isFeed hc
    exact positioned_feed h data
  | false =>
    obtain ⟨hstream, hkeeps, hnone⟩ := Feeding.call_of_not_isFeed hc f
    rw [hnone, List.append_nil]
    refine ⟨?_, ?_, ?_⟩
    · rw [hstream]
      exact hkeeps.rawBuffer.trans h.suffix
    · rw [hstream]
      exact h.packets
    · exact hkeeps.totalPacketsProcessed.trans h.total

lemma Consumed.call {f : Feeding} {ws : List (Nat × TSPacket)} (h : Consumed f ws)
    (hp : Positioned f ws) {c : Call} (hclean : CallReadsCleanly f c) :
    Consumed (f.call c).1 (ws ++ f.callWindows c) := by
  cases hc : c.isFeed with
  | true =>
    obtain ⟨data, rfl⟩ := feedData_of_isFeed hc
    exact consumed_feed h hp hclean
  | false =>
    obtain ⟨hstream, hkeeps, hnone⟩ := Feeding.call_of_not_isFeed hc f
    have hle := hkeeps.rawBuffer.length_le
    rw [hnone, List.append_nil]
    refine ⟨h.ordered, ?_⟩
    intro p hpm
    have hbefore := h.before p hpm
    rw [hstream]
    omega

/-- What is consumed lies in front of the place where the next call starts to read. -/
lemma Consumed.readsBehind {f : Feeding} {old ws : List (Nat × TSPacket)} (h : Consumed f ws)
    (hp : Positioned f ws) (hold : old ⊆ ws) (c : Call) : ReadsBehind old f c := by
  intro place hplace w hw
  have hbefore := h.before w.1 (List.mem_map_of_mem (hold hw))
  have hsuffix := hp.suffix.length_le
  cases c with
  | feedData data =>
    have hlimit := (limitBuffer_suffix (f.demuxer.rawBuffer ++ data)).length_le
    unfold readingPlace at hplace
    dsimp only at hplace
    split at hplace
    · cases hplace
    · obtain ⟨start, _, rfl⟩ := Option.map_eq_some_iff.mp hplace
      rw [List.length_append] at hlimit ⊢
      omega
  | _ => cases hplace

lemma readsBehind_along {f : Feeding} {old ws : List (Nat × TSPacket)} (h : Consumed f ws)
    (hp : Positioned f ws) (hold : old ⊆ ws) {calls : List Call}
    (hclean : Transducer.Along Feeding.call CallReadsCleanly f calls) :
    Transducer.Along Feeding.call (ReadsBehind old) f calls := by
  induction calls generalizing f ws with
  | nil => trivial
  | cons c calls ih =>
    refine ⟨h.readsBehind hp hold c, ?_⟩
    exact ih (h.call hp hclean.1) (hp.call c) (List.subset_append_of_subset_left _ hold) hclean.2

/-- A run whose data calls all read cleanly reads nothing again: only an early return of the processing
loop leaves processed packets in the buffer. -/
theorem rereadsNothing_of_readsCleanly {before calls : List Call}
    (h : Transducer.Along Feeding.call CallReadsCleanly {} (before ++ calls)) :
    RereadsNothing before calls := by
  obtain ⟨hbefore, hcalls⟩ := (Transducer.along_append Feeding.call CallReadsCleanly).mp h
  have hinv := Transducer.traced_invariant Feeding.call callWindows CallReadsCleanly
    (fun f ws => Positioned f ws ∧ Consumed f ws) ?_ (s := {}) (l := []) ?_ hbefore
  · obtain ⟨hp, hconsumed⟩ := hinv
    exact readsBehind_along hconsumed hp (List.Subset.refl _) hcalls
  · rintro f c ws ⟨hp, hconsumed⟩ hclean
    exact ⟨hp.call c, hconsumed.call hp hclean⟩
  · exact ⟨⟨List.suffix_refl _, List.forall_mem_nil _, rfl⟩, ⟨List.Pairwise.nil, List.forall_mem_nil _⟩⟩

end MinimalMpegTS
