import MinimalMpegTS.Model.BasicExample
import MinimalMpegTS.Proofs.CleanStream
import MinimalMpegTS.Proofs.PESDelivery
import MinimalMpegTS.Proofs.Provenance
import MinimalMpegTS.Proofs.StateInvariant

/-!
# The report of the example program

The numbers printed for a program are those printed for its iterations, and these are the packets
processed, cut at the unit starts. A clean file is processed as a whole, however long it is.
-/

namespace MinimalMpegTS

open MPEGTSDemuxer BasicExample InputState

/-! ### Reading -/

/-- The chunks that the read loop takes from a file. -/
def fileChunks (file : List UInt8) : List (List UInt8) :=
  if _ : file = [] then [] else file.take chunkSize :: fileChunks (file.drop chunkSize)
termination_by file.length
decreasing_by
  have hpos := List.length_pos_of_ne_nil ‹¬file = []›
  rw [List.length_drop]
  unfold chunkSize
  omega

lemma flatten_fileChunks (file : List UInt8) : (fileChunks file).flatten = file := by
  induction file using fileChunks.induct with
  | case1 =>
    rw [fileChunks, dif_pos rfl]
    rfl
  | case2 file hempty ih => rw [fileChunks, dif_neg hempty, List.flatten_cons, ih, List.take_append_drop]

lemma length_fileChunks (file : List UInt8) :
    ∀ data ∈ fileChunks file, data ≠ [] ∧ data.length ≤ chunkSize := by
  induction file using fileChunks.induct with
  | case1 =>
    rw [fileChunks, dif_pos rfl]
    intro data hdata
    cases hdata
  | case2 file hempty ih =>
    rw [fileChunks, dif_neg hempty]
    intro data hdata
    rcases List.mem_cons.mp hdata with rfl | hdata
    · refine ⟨?_, List.length_take_le _ _⟩
      intro hnil
      have hlength := congrArg List.length hnil
      have hpos := List.length_pos_of_ne_nil hempty
      rw [List.length_take, List.length_nil] at hlength
      unfold chunkSize at hlength
      omega
    · exact ih data hdata

lemma readLoop_run (demuxer : MPEGTSDemuxer) (totalBytes : Nat) (file : List UInt8) :
    (readLoop demuxer totalBytes file).1 = demuxer.run ((fileChunks file).map .feedData) := by
  induction demuxer, totalBytes, file using readLoop.induct with
  | case1 demuxer totalBytes =>
    rw [readLoop, dif_pos rfl, fileChunks, dif_pos rfl]
    rfl
  | case2 demuxer totalBytes file hempty buffer total next ih =>
    rw [readLoop, dif_neg hempty, fileChunks, dif_neg hempty]
    exact ih

lemma getPacketCount_feedData {demuxer : MPEGTSDemuxer} (h : demuxer.toInputState.WellFormed)
    (data : List UInt8) : (demuxer.feedData data).toInputState.WellFormed ∧
      ((demuxer.feedData data).isSynchronized = true → (demuxer.feedData data).getPacketCount = 0) := by
  have hfed : (demuxer.feedData data).toInputState.WellFormed := by
    rw [feedData_eq]
    exact h.feed data
  refine ⟨hfed, ?_⟩
  intro hsync
  exact Nat.div_eq_of_lt (hfed.drained hsync)

lemma readLoop_progress {demuxer : MPEGTSDemuxer} (h : demuxer.toInputState.WellFormed)
    (totalBytes : Nat) (file : List UInt8) :
    (∀ line ∈ (readLoop demuxer totalBytes file).2,
      line.packets = 0 ∧ line.totalBytes ≤ totalBytes + file.length) ∧
    (file ≠ [] → (readLoop demuxer totalBytes file).1.isSynchronized = true →
      (readLoop demuxer totalBytes file).2.getLast? = some ⟨0, totalBytes + file.length⟩) := by
  induction demuxer, totalBytes, file using readLoop.induct with
  | case1 demuxer totalBytes =>
    rw [readLoop, dif_pos rfl]
    constructor
    · intro line hline
      cases hline
    · intro hne
      exact absurd rfl hne
  | case2 demuxer totalBytes file hempty buffer total next ih =>
    obtain ⟨hnext, hcount⟩ := getPacketCount_feedData h buffer
    obtain ⟨hlines, hlast⟩ := ih hnext
    have hlength : total + (file.drop chunkSize).length = totalBytes + file.length := by
      have hsplit : buffer.length + (file.drop chunkSize).length = file.length := by
        rw [← List.length_append, List.take_append_drop]
      show totalBytes + buffer.length + _ = _
      rw [Nat.add_assoc, hsplit]
    rw [hlength] at hlines hlast
    have hline : ∀ line ∈ if next.isSynchronized then [⟨next.getPacketCount, total⟩] else [],
        line = (⟨0, total⟩ : Progress) := by
      intro line hline
      split at hline
      · next hsync =>
        rw [List.mem_singleton.mp hline, hcount hsync]
      · cases hline
    rw [readLoop, dif_neg hempty]
    constructor
    · intro line hmem
      rcases List.mem_append.mp hmem with hmem | hmem
      · rw [hline line hmem, ← hlength]
        exact ⟨rfl, Nat.le_add_right _ _⟩
      · exact hlines line hmem
    · intro _ hsync
      show (_ ++ (readLoop next total (file.drop chunkSize)).2).getLast? = _
      by_cases hrest : file.drop chunkSize = []
      · -- the chunk is the last one
        have hend : readLoop next total (file.drop chunkSize) = (next, []) := by
          rw [readLoop, dif_pos hrest]
        have hstate : (readLoop next total (file.drop chunkSize)).1.isSynchronized = true := hsync
        rw [hend] at hstate
        rw [hend, List.append_nil, if_pos hstate, hcount hstate]
        rw [hrest, List.length_nil] at hlength
        rw [← hlength]
        rfl
      · rw [List.getLast?_append, hlast hrest hsync]
        rfl

/-! ### Reporting -/

lemma getIterationsSummary_finalized (d : MPEGTSDemuxer) (pid : UInt16) :
    (d.finalized.getIterationsSummary pid).2 = (d.getIterationsSummary pid).2 := by
  rw [getIterationsSummary_eq, getIterationsSummary_eq]
  congr 1
  show d.finalized.toPacketState.finalizeAllIterations.storage.iterationsOf pid =
    d.toPacketState.finalizeAllIterations.storage.iterationsOf pid
  rw [PacketState.iterationsOf_finalizeAllIterations, PacketState.iterationsOf_finalizeAllIterations]
  show ((d.toPacketState.finalizeAllIterations.view pid).finalize pid).stored = _
  rw [PacketState.view_finalizeAllIterations, StreamView.finalize_finalize]

/-- The lines of a stream as listed in a state. -/
def streamReport (d : MPEGTSDemuxer) (pid : UInt16) : StreamReport :=
  ⟨pid, (d.getIterationsSummary pid).2⟩

lemma reportStreams_eq {d e : MPEGTSDemuxer}
    (h : ∀ pid, (e.getIterationsSummary pid).2 = (d.getIterationsSummary pid).2)
    (pids : List UInt16) : (reportStreams e pids).2 = pids.map (streamReport d) ∧
      ∀ pid, ((reportStreams e pids).1.getIterationsSummary pid).2 = (d.getIterationsSummary pid).2 := by
  induction pids generalizing e with
  | nil => exact ⟨rfl, h⟩
  | cons pid pids ih =>
    have hnext : ∀ q, ((e.getIterationsSummary pid).1.getIterationsSummary q).2 =
        (d.getIterationsSummary q).2 := by
      intro q
      exact (getIterationsSummary_finalized e q).trans (h q)
    obtain ⟨hstreams, hstate⟩ := ih hnext
    refine ⟨?_, hstate⟩
    rw [reportStreams]
    dsimp only
    rw [hstreams, h pid]
    rfl

lemma reportPrograms_eq {d e : MPEGTSDemuxer}
    (h : ∀ pid, (e.getIterationsSummary pid).2 = (d.getIterationsSummary pid).2)
    (programs : List ProgramInfo) : (reportPrograms e programs).2 =
      programs.map (fun prog => ⟨prog, prog.streamPids.map (streamReport d)⟩) := by
  induction programs generalizing e with
  | nil => rfl
  | cons prog programs ih =>
    obtain ⟨hstreams, hstate⟩ := reportStreams_eq h prog.streamPids
    rw [reportPrograms]
    dsimp only
    rw [hstreams, ih hstate]
    rfl

lemma main_programs (file : List UInt8) : (main file).programs =
    (readLoop {} 0 file).1.getPrograms.2.map (fun prog =>
      ⟨prog, prog.streamPids.map (streamReport (readLoop {} 0 file).1)⟩) :=
  reportPrograms_eq (getIterationsSummary_finalized _) _

/-! ### Totals -/

/-- A listed iteration of the PID has a discontinuity. -/
def listedDiscontinuity (d : MPEGTSDemuxer) (pid : UInt16) : Bool :=
  (d.getIterationsSummary pid).2.any IterationInfo.hasDiscontinuity

lemma listedDiscontinuity_eq (d : MPEGTSDemuxer) (pid : UInt16) : listedDiscontinuity d pid =
    (d.finalized.storage.getStream pid).any StreamIterations.hasDiscontinuity := by
  unfold listedDiscontinuity getIterationsSummary
  dsimp only
  cases d.finalized.storage.getStream pid with
  | none => rfl
  | some stream => exact List.any_map

lemma hasDiscontinuity_getPrograms (d : MPEGTSDemuxer) : ∀ program ∈ d.getPrograms.2,
    program.hasDiscontinuity = program.streamPids.any (listedDiscontinuity d) := by
  intro program hprogram
  by_cases hparsed : d.parsedPmts = ∅
  · obtain ⟨pid, stream, _, hstream, rfl⟩ := (mem_getPrograms_streams hparsed program).mp hprogram
    show stream.hasDiscontinuity = [pid].any (listedDiscontinuity d)
    rw [List.any_cons, List.any_nil, Bool.or_false, listedDiscontinuity_eq, hstream]
    rfl
  · obtain ⟨number, pmt, _, rfl⟩ := (mem_getPrograms_pmts hparsed program).mp hprogram
    show List.any (pmt.streams.filterMap _) _ = List.any (pmt.streams.map _) _
    rw [List.any_filterMap, List.any_map]
    congr 1
    funext info
    rw [Function.comp_apply, listedDiscontinuity_eq]
    cases d.finalized.storage.getStream info.elementaryPid with
    | none => rfl
    | some stream => rfl

/-- The lines of a program add up, and its PIDs are those that the program has. -/
structure ProgramReport.AddsUp (report : ProgramReport) : Prop where
  pids : report.streams.map StreamReport.pid = report.program.streamPids
  size : report.program.totalPayloadSize = ((report.streams.flatMap StreamReport.iterations).map
    (fun info => info.payloadNormalSize + info.payloadPrivateSize)).sum
  count : report.program.iterationCount = (report.streams.flatMap StreamReport.iterations).length
  discontinuity : report.program.hasDiscontinuity =
    (report.streams.flatMap StreamReport.iterations).any IterationInfo.hasDiscontinuity

lemma addsUp_main {file : List UInt8} {report : ProgramReport} (h : report ∈ (main file).programs) :
    report.AddsUp := by
  rw [main_programs] at h
  obtain ⟨prog, hprog, rfl⟩ := List.mem_map.mp h
  have hadds := addsUp_getPrograms _ prog hprog
  constructor
  · show (prog.streamPids.map _).map _ = prog.streamPids
    rw [List.map_map]
    exact List.map_id _
  · show prog.totalPayloadSize = _
    rw [hadds.totalPayloadSize, List.flatMap_map, List.map_flatMap, List.flatMap_def,
      List.sum_flatten, List.map_map]
    rfl
  · show prog.iterationCount = _
    rw [hadds.iterationCount, List.flatMap_map, List.length_flatMap]
    rfl
  · show prog.hasDiscontinuity = _
    rw [hasDiscontinuity_getPrograms _ prog hprog, List.flatMap_map, List.any_flatMap]
    rfl

/-! ### What is reported -/

/-- The groups of packets that the iterations of a PID are made of: none for a system PID. -/
def reportedGroups (pid : UInt16) (packets : List TSPacket) : List (List TSPacket) :=
  if isSystemPID pid then []
  else (ownPackets pid packets).splitBy (fun _ p => !p.header.payloadUnitStart)

lemma listed_feeds (pid : UInt16) (chunks : List (List UInt8)) :
    List.Forall₂ IterationFrom (reportedGroups pid (processedPackets {} (chunks.map .feedData)))
      ((run {} (chunks.map .feedData)).getIterationsSummary pid).2 := by
  unfold reportedGroups
  by_cases hsys : isSystemPID pid = true
  · have hstores : PacketState.stores {} pid = false := by
      unfold PacketState.stores
      rw [hsys]
      rfl
    have hview : (run {} (chunks.map .feedData)).view pid = {} := by
      rw [run_feeds_packets]
      exact PacketState.view_foldl_of_not_stores PacketState.processPacket_adds hstores _
    have hlisted := iterationFrom_represents (hview ▸ StreamView.represents_empty)
    rw [if_pos hsys]
    exact hlisted
  · obtain ⟨u, hu, hgroups⟩ := represents_feeds (Bool.eq_false_of_not_eq_true hsys) chunks
    rw [if_neg hsys, ← hgroups]
    exact iterationFrom_represents hu

lemma listed_main {file : List UInt8} {report : ProgramReport} (h : report ∈ (main file).programs) :
    ∀ stream ∈ report.streams, List.Forall₂ IterationFrom
      (reportedGroups stream.pid (processedPackets {} ((fileChunks file).map .feedData)))
      stream.iterations := by
  rw [main_programs] at h
  obtain ⟨prog, _, rfl⟩ := List.mem_map.mp h
  intro stream hstream
  obtain ⟨pid, _, rfl⟩ := List.mem_map.mp hstream
  show List.Forall₂ IterationFrom _ ((readLoop {} 0 file).1.getIterationsSummary pid).2
  rw [readLoop_run]
  exact listed_feeds pid (fileChunks file)

lemma wellFormed_fresh : InputState.WellFormed ({} : MPEGTSDemuxer).toInputState :=
  input_wellFormed_of_reachable ⟨[], rfl⟩

/-- A file of packets that starts with three packets in a row of one PID, with no sync byte inside the
first. -/
structure CleanFile (ps : List (List UInt8)) (xs : List TSPacket) : Prop where
  accepted : AcceptedPackets ps xs
  start : ∃ x1 x2 x3 rest, xs = x1 :: x2 :: x3 :: rest ∧
    belongsToSameIteration x1 x2 = true ∧ belongsToSameIteration x2 x3 = true
  inner : ∀ first ∈ ps.head?, ∀ byte ∈ first.tail, byte ≠ mpegtsSyncByte

lemma allAccepted_prefix {front data : List UInt8} (h : AllAccepted data) (hfront : front <+: data) :
    AllAccepted front := by
  obtain ⟨back, rfl⟩ := hfront
  dsimp only [AllAccepted] at h ⊢
  rw [Framing.drained_iff packetSize_pos] at h ⊢
  intro i hi
  have hpos : mpegtsPacketSize * i + mpegtsPacketSize ≤ front.length := by
    rwa [Nat.mul_succ] at hi
  have hwindow := h i (by rw [List.length_append]; omega)
  have hsame := packetAt_append back hpos
  unfold packetAt at hsame
  rwa [hsame] at hwindow

namespace CleanFile

variable {ps : List (List UInt8)} {xs : List TSPacket} (h : CleanFile ps xs)
  {chunks : List (List UInt8)} (hfront : chunks.flatten <+: ps.flatten)
  (hne : ∀ data ∈ chunks, data ≠ [])
include h hfront hne

lemma final_feed (hfits : InputState.Fits {} chunks)
    (hlong : mpegtsPacketSize * 3 ≤ chunks.flatten.length) :
    Transducer.final InputState.feed {} chunks = ⟨restOf chunks.flatten, true, 0⟩ ∧
      InputState.packets {} chunks = packetsOf chunks.flatten := by
  obtain ⟨x1, x2, x3, rest, rfl, h12, h23⟩ := h.start
  obtain ⟨p1, ps1, h1, htail1, rfl⟩ := List.forall₂_cons_right_iff.mp h.accepted
  obtain ⟨p2, ps2, h2, htail2, rfl⟩ := List.forall₂_cons_right_iff.mp htail1
  obtain ⟨p3, ps3, h3, -, rfl⟩ := List.forall₂_cons_right_iff.mp htail2
  have hall := allAccepted_prefix (acceptedPackets_allAccepted h.accepted) hfront
  rw [List.flatten_cons, List.flatten_cons, List.flatten_cons] at hfront
  have hsync : firstSync [] chunks = some 0 := by
    apply firstSync_start
    · exact Nat.mul_pos packetSize_pos (by decide)
    · exact hlong
    · intro buffer hbuffer hlen
      obtain ⟨back, rfl⟩ :=
        take_of_prefix_packets h1.1 h2.1 h3.1 (hbuffer.trans hfront) hlen
      exact findSyncPosition_start h1 h2 h3 h12 h23 (h.inner p1 rfl)
  exact run_of_start hne hfits hsync hall

omit h hfront hne in
lemma length_rawBuffer_final (state : InputState) (chunks : List (List UInt8)) :
    (Transducer.final feed state chunks).rawBuffer.length ≤
      state.rawBuffer.length + chunks.flatten.length := by
  induction chunks generalizing state with
  | nil => exact Nat.le_refl _
  | cons data chunks ih =>
    have hstep := (feed_rawBuffer_suffix state data).length_le
    have hrest := ih (state.feed data).1
    rw [List.length_append] at hstep
    rw [Transducer.final_cons, List.flatten_cons, List.length_append]
    omega

lemma fits (hshort : ∀ data ∈ chunks, data.length + mpegtsPacketSize * 3 ≤ maxBufferSize) :
    InputState.Fits {} chunks := by
  induction chunks using List.reverseRecOn with
  | nil => trivial
  | append_singleton chunks data ih =>
    have hdata := hshort data (List.mem_append_right _ List.mem_cons_self)
    have hfront : chunks.flatten <+: ps.flatten := by
      rw [List.flatten_append] at hfront
      exact (List.prefix_append _ _).trans hfront
    have hnonempty : ∀ c ∈ chunks, c ≠ [] := fun c hc => hne c (List.mem_append_left _ hc)
    have hfits := ih hfront hnonempty (fun c hc => hshort c (List.mem_append_left _ hc))
    refine (Transducer.along_append feed _).mpr ⟨hfits, ?_, trivial⟩
    by_cases hlong : mpegtsPacketSize * 3 ≤ chunks.flatten.length
    · have hall := allAccepted_prefix (acceptedPackets_allAccepted h.accepted) hfront
      have hrest : (restOf chunks.flatten).length < mpegtsPacketSize := hall
      rw [(h.final_feed hfront hnonempty hfits hlong).1]
      dsimp only
      omega
    · have hheld := length_rawBuffer_final {} chunks
      have hstart : ({} : InputState).rawBuffer.length = 0 := rfl
      omega

end CleanFile

lemma reported_of_packet {file : List UInt8}
    (hparsed : (run {} ((fileChunks file).map .feedData)).parsedPmts = ∅) {pid : UInt16}
    (hsys : isSystemPID pid = false)
    (hpacket : ∃ p ∈ processedPackets {} ((fileChunks file).map .feedData), p.header.pid = pid) :
    ∃ report ∈ (main file).programs, report.program.streamPids = [pid] := by
  obtain ⟨p, hp, hpid⟩ := hpacket
  have hlisted := listed_feeds pid (fileChunks file)
  have hown : p ∈ ownPackets pid (processedPackets {} ((fileChunks file).map .feedData)) :=
    List.mem_filter.mpr ⟨hp, decide_eq_true hpid⟩
  have hgroups : reportedGroups pid (processedPackets {} ((fileChunks file).map .feedData)) ≠ [] := by
    unfold reportedGroups
    rw [hsys, if_neg (by decide)]
    intro hnil
    rw [List.splitBy_eq_nil.mp hnil] at hown
    cases hown
  cases hstream : (run {} ((fileChunks file).map .feedData)).finalized.storage.getStream pid with
  | none =>
    have hsummary : ((run {} ((fileChunks file).map .feedData)).getIterationsSummary pid).2 = [] := by
      unfold getIterationsSummary
      dsimp only
      rw [hstream]
    rw [hsummary] at hlisted
    exact absurd (List.forall₂_nil_right_iff.mp hlisted) hgroups
  | some stream =>
    have hprogram : isProgramStream pid = true := by
      unfold isProgramStream
      rw [hsys]
      rfl
    rw [main_programs, readLoop_run]
    exact ⟨_, List.mem_map_of_mem ((mem_getPrograms_streams hparsed (programOfStream pid stream)).mpr
      ⟨pid, stream, hprogram, hstream, rfl⟩), rfl⟩

/-- A clean file is processed as a whole, and every line of the report is about all packets of its
PID. Without a PMT every PID with packets is in the report. -/
theorem clean_file_reported {ps : List (List UInt8)} {xs : List TSPacket} (h : CleanFile ps xs) :
    (main ps.flatten).progress.getLast? = some ⟨0, ps.flatten.length⟩ ∧
      (∀ report ∈ (main ps.flatten).programs, report.AddsUp ∧ ∀ stream ∈ report.streams,
        List.Forall₂ IterationFrom (reportedGroups stream.pid xs) stream.iterations) ∧
      ((readLoop {} 0 ps.flatten).1.parsedPmts = ∅ → ∀ x ∈ xs, isSystemPID x.header.pid = false →
        ∃ report ∈ (main ps.flatten).programs, report.program.streamPids = [x.header.pid]) := by
  have hflatten := flatten_fileChunks ps.flatten
  have hchunks := length_fileChunks ps.flatten
  have hlong : mpegtsPacketSize * 3 ≤ ps.flatten.length := by
    obtain ⟨x1, x2, x3, rest, rfl, -, -⟩ := h.start
    rw [length_flatten_accepted h.accepted]
    simp only [List.length_cons, mpegtsPacketSize]
    omega
  have hfront : (fileChunks ps.flatten).flatten <+: ps.flatten := by rw [hflatten]
  have hne : ∀ data ∈ fileChunks ps.flatten, data ≠ [] := fun data hdata => (hchunks data hdata).1
  have hshort : ∀ data ∈ fileChunks ps.flatten,
      data.length + mpegtsPacketSize * 3 ≤ maxBufferSize := by
    intro data hdata
    have hle := (hchunks data hdata).2
    simp only [chunkSize, maxBufferSize, mpegtsPacketSize, maxBufferPackets] at hle ⊢
    omega
  obtain ⟨hfinal, hpackets⟩ := h.final_feed hfront hne (h.fits hfront hne hshort) (by rwa [hflatten])
  obtain ⟨hinput, hprocessed⟩ := run_feeds_input (fileChunks ps.flatten) {}
  have hall : processedPackets {} ((fileChunks ps.flatten).map .feedData) = xs := by
    rw [hflatten, (acceptedPackets_frames h.accepted).1] at hpackets
    exact hprocessed.trans hpackets
  refine ⟨?_, ?_, ?_⟩
  · have hsync : (readLoop {} 0 ps.flatten).1.isSynchronized = true := by
      rw [readLoop_run]
      exact congrArg InputState.isSynchronized (hinput.trans hfinal)
    have hlast := (readLoop_progress wellFormed_fresh 0 ps.flatten).2
      (List.ne_nil_of_length_pos (by simp only [mpegtsPacketSize] at hlong; omega)) hsync
    rwa [Nat.zero_add] at hlast
  · intro report hreport
    rw [← hall]
    exact ⟨addsUp_main hreport, listed_main hreport⟩
  · intro hparsed x hx hsys
    rw [readLoop_run] at hparsed
    rw [← hall] at hx
    exact reported_of_packet hparsed hsys ⟨x, hx, rfl⟩

/-- Three packets of a PID. -/
def threeWires : List (List UInt8) :=
  [0, 1, 2].map (fun cc => plainPacket 0x100 cc (cc == 0) (List.replicate 184 0xAA))

def threeRead : List TSPacket :=
  [0, 1, 2].map (fun cc => plainTSPacket 0x100 cc (cc == 0) (List.replicate 184 0xAA))

lemma cleanFile_three : CleanFile threeWires threeRead := by
  have haccept : ∀ cc : UInt8, cc < 16 → ∀ b,
      (plainPacket 0x100 cc b (List.replicate 184 0xAA)).length = mpegtsPacketSize ∧
        TSPacket.accept (plainPacket 0x100 cc b (List.replicate 184 0xAA)) =
          some (plainTSPacket 0x100 cc b (List.replicate 184 0xAA)) := by
    intro cc hcc b
    exact ⟨by rw [length_plainPacket, List.length_replicate], accept_plainPacket (by decide) hcc b _⟩
  constructor
  · exact .cons (haccept 0 (by decide) true) (.cons (haccept 1 (by decide) false)
      (.cons (haccept 2 (by decide) false) .nil))
  · exact ⟨_, _, _, _, rfl, by decide +kernel, by decide +kernel⟩
  · decide +kernel

theorem clean_file_reported_three :
    (main threeWires.flatten).progress.getLast? = some ⟨0, threeWires.flatten.length⟩ ∧
      (∀ report ∈ (main threeWires.flatten).programs, report.AddsUp ∧ ∀ stream ∈ report.streams,
        List.Forall₂ IterationFrom (reportedGroups stream.pid threeRead) stream.iterations) ∧
      ((readLoop {} 0 threeWires.flatten).1.parsedPmts = ∅ → ∀ x ∈ threeRead,
        isSystemPID x.header.pid = false →
          ∃ report ∈ (main threeWires.flatten).programs, report.program.streamPids = [x.header.pid]) :=
  clean_file_reported cleanFile_three

end MinimalMpegTS
