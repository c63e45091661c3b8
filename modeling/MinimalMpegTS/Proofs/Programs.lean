import MinimalMpegTS.Proofs.Agreement
import MinimalMpegTS.Proofs.ProgramTable
import MinimalMpegTS.Proofs.Queries

/-!
# Reported programs

`getPrograms` reports one program for each parsed PMT, or one for each stream while no PMT has been
parsed. In both cases the totals of a program are the sums of what the summaries of its streams
list.
-/

namespace MinimalMpegTS

lemma mem_sortedEntries {α : Type} {m : PidMap α} {key : UInt16} {value : α} :
    (key, value) ∈ m.sortedEntries ↔ m.lookup key = some value := by
  unfold PidMap.sortedEntries
  rw [List.mem_filterMap]
  constructor
  · rintro ⟨k, _, hk⟩
    obtain ⟨v, hv, heq⟩ := Option.map_eq_some_iff.mp hk
    obtain ⟨rfl, rfl⟩ := Prod.mk.inj heq
    exact hv
  · intro h
    refine ⟨key, ?_, ?_⟩
    · rw [List.mem_insertionSort, ← AList.mem_keys, ← AList.lookup_isSome, h]
      rfl
    · rw [h]
      rfl

/-- Something is stored or pending for the PID. -/
def PacketState.Held (s : PacketState) (pid : UInt16) : Prop :=
  (s.view pid).stream ≠ none ∨ (s.view pid).pending ≠ none

namespace MPEGTSDemuxer

/-! ### Streams -/

lemma stream_finalized_ne_none (d : MPEGTSDemuxer) (pid : UInt16) :
    d.finalized.storage.getStream pid ≠ none ↔ d.Held pid := by
  have hview : (d.finalized.view pid).stream = ((d.view pid).finalize pid).stream :=
    congrArg StreamView.stream (PacketState.view_finalizeAllIterations d.toPacketState pid)
  have hget : d.finalized.storage.getStream pid = (d.finalized.view pid).stream := rfl
  unfold PacketState.Held
  rw [hget, hview]
  cases hp : (d.view pid).pending with
  | none => simp [StreamView.finalize_of_none hp]
  | some it => simp [StreamView.finalize_of_some hp]

lemma discovered_iff_held (d : MPEGTSDemuxer) (pid : UInt16) :
    pid ∈ d.getDiscoveredPIDs.2 ↔ d.Held pid := by
  rw [discovered_iff]
  exact stream_finalized_ne_none d pid

/-! ### The two modes -/

lemma parsedPmts_finalized (d : MPEGTSDemuxer) : d.finalized.parsedPmts = d.parsedPmts :=
  (PacketState.finalizeAllIterations_sameTables d.toPacketState).parsedPmts

lemma mem_getPrograms_streams {d : MPEGTSDemuxer} (h : d.parsedPmts = ∅) (program : ProgramInfo) :
    program ∈ d.getPrograms.2 ↔ ∃ pid stream, isProgramStream pid = true ∧
      d.finalized.storage.getStream pid = some stream ∧ programOfStream pid stream = program := by
  have hempty : d.finalized.parsedPmts.entries.isEmpty = true := by
    rw [parsedPmts_finalized, h]
    rfl
  unfold getPrograms
  dsimp only
  rw [if_pos hempty, List.mem_map]
  constructor
  · rintro ⟨⟨pid, stream⟩, hentry, hprogram⟩
    obtain ⟨hmem, hpid⟩ := List.mem_filter.mp hentry
    exact ⟨pid, stream, hpid, mem_sortedEntries.mp hmem, hprogram⟩
  · rintro ⟨pid, stream, hpid, hstream, hprogram⟩
    exact ⟨(pid, stream), List.mem_filter.mpr ⟨mem_sortedEntries.mpr hstream, hpid⟩, hprogram⟩

lemma mem_getPrograms_pmts {d : MPEGTSDemuxer} (h : d.parsedPmts ≠ ∅) (program : ProgramInfo) :
    program ∈ d.getPrograms.2 ↔ ∃ number pmt, d.parsedPmts.lookup number = some pmt ∧
      programOfPMT d.finalized.storage number pmt = program := by
  have hempty : ¬d.finalized.parsedPmts.entries.isEmpty = true := by
    rw [parsedPmts_finalized, List.isEmpty_iff]
    intro hnil
    exact h (AList.ext hnil)
  unfold getPrograms
  dsimp only
  rw [if_neg hempty, parsedPmts_finalized, List.mem_map]
  constructor
  · rintro ⟨⟨number, pmt⟩, hentry, hprogram⟩
    exact ⟨number, pmt, AList.mem_lookup_iff.mpr hentry, hprogram⟩
  · rintro ⟨number, pmt, hlookup, hprogram⟩
    exact ⟨⟨number, pmt⟩, AList.mem_lookup_iff.mp hlookup, hprogram⟩

/-! ### Totals -/

/-- The number of iterations listed for a PID. -/
def listedCount (d : MPEGTSDemuxer) (pid : UInt16) : Nat := (d.getIterationsSummary pid).2.length

/-- The sum of the sizes listed for a PID. -/
def listedSize (d : MPEGTSDemuxer) (pid : UInt16) : Nat :=
  ((d.getIterationsSummary pid).2.map
    (fun info => info.payloadNormalSize + info.payloadPrivateSize)).sum

/-- The totals of the program are those listed for its streams. -/
structure AddsUp (d : MPEGTSDemuxer) (program : ProgramInfo) : Prop where
  totalPayloadSize : program.totalPayloadSize = (program.streamPids.map d.listedSize).sum
  iterationCount : program.iterationCount = (program.streamPids.map d.listedCount).sum

lemma segmentsSize_add (it : IterationData) :
    segmentsSize .payloadNormal it + segmentsSize .payloadPrivate it =
      (it.payloads.map PayloadSegment.length).sum := by
  unfold segmentsSize
  induction it.payloads with
  | nil => rfl
  | cons segment segments ih =>
    rw [List.map_cons, List.sum_cons, ← ih]
    cases htype : segment.type with
    | payloadNormal => simp [htype, Nat.add_assoc]
    | payloadPrivate => simp [htype, Nat.add_left_comm]

lemma listedCount_eq (d : MPEGTSDemuxer) (pid : UInt16) : d.listedCount pid =
    (d.finalized.storage.getStream pid).elim 0 StreamIterations.getIterationCount := by
  unfold listedCount getIterationsSummary
  dsimp only
  cases d.finalized.storage.getStream pid with
  | none => rfl
  | some stream => exact List.length_map _

lemma listedSize_eq (d : MPEGTSDemuxer) (pid : UInt16) : d.listedSize pid =
    (d.finalized.storage.getStream pid).elim 0 streamPayloadSize := by
  unfold listedSize getIterationsSummary
  dsimp only
  cases d.finalized.storage.getStream pid with
  | none => rfl
  | some stream =>
    dsimp only [Option.elim_some]
    unfold streamPayloadSize
    rw [List.map_map]
    congr 1
    apply List.map_congr_left
    intro entry _
    exact segmentsSize_add entry.2

lemma sum_filterMap {α β : Type} (lookup : α → Option β) (size : β → Nat) (keys : List α) :
    ((keys.filterMap lookup).map size).sum = (keys.map (fun key => (lookup key).elim 0 size)).sum := by
  induction keys with
  | nil => rfl
  | cons key keys ih =>
    rw [List.filterMap_cons, List.map_cons, List.sum_cons, ← ih]
    cases lookup key with
    | none => exact (Nat.zero_add _).symm
    | some value => rfl

lemma addsUp_programOfPMT (d : MPEGTSDemuxer) (number : UInt16) (pmt : PMT) :
    AddsUp d (programOfPMT d.finalized.storage number pmt) := by
  have hstreams : pmt.streams.filterMap (fun info => d.finalized.storage.getStream info.elementaryPid) =
      (pmt.streams.map PMTStreamInfo.elementaryPid).filterMap d.finalized.storage.getStream := by
    rw [List.filterMap_map]
    rfl
  unfold programOfPMT
  constructor
  · dsimp only
    rw [hstreams, sum_filterMap]
    congr 1
    apply List.map_congr_left
    intro pid _
    exact (listedSize_eq d pid).symm
  · dsimp only
    rw [hstreams, sum_filterMap]
    congr 1
    apply List.map_congr_left
    intro pid _
    exact (listedCount_eq d pid).symm

lemma addsUp_programOfStream {d : MPEGTSDemuxer} {pid : UInt16} {stream : StreamIterations}
    (h : d.finalized.storage.getStream pid = some stream) : AddsUp d (programOfStream pid stream) := by
  unfold programOfStream
  constructor
  · dsimp only
    rw [List.map_singleton, List.sum_singleton, listedSize_eq, h, Option.elim_some]
  · dsimp only
    rw [List.map_singleton, List.sum_singleton, listedCount_eq, h, Option.elim_some]

/-- Every reported program adds up. -/
theorem addsUp_getPrograms (d : MPEGTSDemuxer) : ∀ program ∈ d.getPrograms.2, AddsUp d program := by
  intro program hprogram
  by_cases hparsed : d.parsedPmts = ∅
  · obtain ⟨pid, stream, _, hstream, rfl⟩ := (mem_getPrograms_streams hparsed program).mp hprogram
    exact addsUp_programOfStream hstream
  · obtain ⟨number, pmt, _, rfl⟩ := (mem_getPrograms_pmts hparsed program).mp hprogram
    exact addsUp_programOfPMT d number pmt

end MPEGTSDemuxer

end MinimalMpegTS
