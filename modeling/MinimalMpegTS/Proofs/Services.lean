import MinimalMpegTS.Lib.Keyed
import MinimalMpegTS.Proofs.Calls
import MinimalMpegTS.Proofs.Programs
import MinimalMpegTS.Proofs.Reassembly
import MinimalMpegTS.Proofs.SectionAssembly

/-!
# Discovering the programs of a stream

A PAT and the PMTs behind it, each cut into packets of its PID in any way and interleaved with each
other and with any other packets, are read as they were sent: the programs reported are those of the
last valid PMT of each PID that the PAT lists.
-/

namespace MinimalMpegTS

open PSIAccumulator PacketState Transducer

/-! ### Sections on one PID -/

/-- The section that a packet completes. -/
def sectionOf (acc : PSIAccumulator) (packet : TSPacket) : List (List UInt8) :=
  (accumulate acc packet).2.toList

lemma reads_part {data part : List UInt8} (hdata : IsSection data) {others : List TSPacket}
    (hstart : ∀ p ∈ others, p.header.payloadUnitStart = false)
    (hpart : part ++ others.flatMap TSPacket.payloadBytes <+: data)
    (hlt : (part ++ others.flatMap TSPacket.payloadBytes).length < data.length) :
    trace accumulate sectionOf (collected part) others = [] ∧
      final accumulate (collected part) others =
        collected (part ++ others.flatMap TSPacket.payloadBytes) := by
  induction others generalizing part with
  | nil =>
    rw [List.flatMap_nil, List.append_nil]
    exact ⟨rfl, rfl⟩
  | cons p others ih =>
    rw [List.flatMap_cons, ← List.append_assoc] at hpart hlt ⊢
    have hfirst : part ++ p.payloadBytes <+: data := (List.prefix_append _ _).trans hpart
    have hshort : (part ++ p.payloadBytes).length < data.length := by
      rw [List.length_append] at hlt
      omega
    have hstep : accumulate (collected part) p = (collected (part ++ p.payloadBytes), none) := by
      rw [accumulate_collected (hstart p List.mem_cons_self), collect_part hdata.2 hfirst hshort]
    obtain ⟨htrace, hfinal⟩ :=
      ih (fun q hq => hstart q (List.mem_cons_of_mem p hq)) hpart hlt
    rw [trace_cons, final_cons]
    unfold sectionOf at htrace ⊢
    rw [hstep]
    exact ⟨htrace, hfinal⟩

lemma CarriesSection.reads {pid : UInt16} {data : List UInt8} {first : TSPacket}
    {others : List TSPacket} (h : CarriesSection pid data first others) (hdata : IsSection data)
    (acc : PSIAccumulator) : ∃ front last, first :: others = front ++ [last] ∧
      trace accumulate sectionOf acc front = [] ∧
        accumulate (final accumulate acc front) last = ({}, some data) := by
  obtain ⟨piece, stuffing, hpiece, hpos, hwhole⟩ := h.first_bytes
  have hfirst : ∀ acc, accumulate acc first = collect piece :=
    accumulate_pointer h.first_start hpiece hpos
  rcases List.eq_nil_or_concat others with rfl | ⟨rest, last, rfl⟩
  · rw [List.flatMap_nil, List.append_nil] at hwhole
    refine ⟨[], first, rfl, rfl, ?_⟩
    rw [final_nil, hfirst, hwhole, collect_whole hdata.2 hdata.pos]
  · rw [List.concat_eq_append] at h hwhole ⊢
    have hshort := h.short hpiece
    rw [List.flatMap_append, List.flatMap_singleton, ← List.append_assoc] at hwhole
    have hpart : piece ++ rest.flatMap TSPacket.payloadBytes <+: data :=
      List.prefix_of_prefix_length_le ⟨_, hwhole⟩ (List.prefix_append data stuffing) hshort.le
    have hstarts : ∀ p ∈ rest, p.header.payloadUnitStart = false :=
      fun p hp => h.others_start p (List.mem_append_left _ hp)
    have hstep : accumulate acc first = (collected piece, none) := by
      rw [hfirst, collect_part hdata.2 ((List.prefix_append _ _).trans hpart)]
      rw [List.length_append] at hshort
      omega
    obtain ⟨htrace, hfinal⟩ := reads_part hdata hstarts hpart hshort
    refine ⟨first :: rest, last, rfl, ?_, ?_⟩
    · rw [trace_cons]
      unfold sectionOf at htrace ⊢
      rw [hstep]
      exact htrace
    · rw [final_cons, hstep, hfinal,
        accumulate_collected (h.others_start last (List.mem_append_right _ List.mem_cons_self)),
        hwhole, collect_whole hdata.2 hdata.pos]

/-- The packets of a PID carry these sections one after the other. -/
inductive CarriesSections (pid : UInt16) : List (List UInt8) → List TSPacket → Prop
  | nil : CarriesSections pid [] []
  | cons {data : List UInt8} {first : TSPacket} {others : List TSPacket}
      {sections : List (List UInt8)} {packets : List TSPacket} (hdata : IsSection data)
      (carries : CarriesSection pid data first others) (rest : CarriesSections pid sections packets) :
      CarriesSections pid (data :: sections) (first :: others ++ packets)

/-- The sections come out as they were sent. -/
theorem CarriesSections.reads {pid : UInt16} {sections : List (List UInt8)}
    {packets : List TSPacket} (h : CarriesSections pid sections packets) (acc : PSIAccumulator) :
    trace accumulate sectionOf acc packets = sections := by
  induction h generalizing acc with
  | nil => rfl
  | cons hdata carries rest ih =>
    obtain ⟨front, last, hsplit, htrace, hlast⟩ := carries.reads hdata acc
    rw [hsplit, trace_append, trace_append, htrace, ih, trace_cons, trace_nil]
    unfold sectionOf
    rw [hlast]
    rfl

/-! ### One PID among others -/

/-- The PMT that a section is parsed into. -/
def pmtOf (data : List UInt8) : Option PMT := tableOf (PSIParser.parsePMT {} data)

/-- A packet, if its payload is read on the PID. -/
def readOn (pid : UInt16) (packet : TSPacket) : Option TSPacket :=
  if packet.header.pid = pid ∧ packet.hasPayload = true then some packet else none

/-- One packet of the run. -/
def processing (s : PacketState) (packet : TSPacket) : PacketState × Unit := (s.processPacket packet, ())

/-- The PMTs accepted with a packet, each with the PID that it was read on. -/
def acceptedWith (s : PacketState) (packet : TSPacket) : List (UInt16 × PMT) :=
  (s.completedPMT packet).toList.map (fun pmt => (packet.header.pid, pmt))

/-- The accumulator of one PMT PID alone, if there is one. -/
def readingUnits (acc : Option PSIAccumulator) (packet : TSPacket) : Option PSIAccumulator × Unit :=
  (acc.map (fun acc => (accumulate acc packet).1), ())

/-- The PMT that it completes. -/
def read (acc : Option PSIAccumulator) (packet : TSPacket) : List PMT :=
  (acc.bind (fun acc => (accumulate acc packet).2.bind pmtOf)).toList

/-- The PMTs that were read on the PID. -/
def pmtsOn (pid : UInt16) (log : List (UInt16 × PMT)) : List PMT :=
  log.filterMap (fun entry => if entry.1 = pid then some entry.2 else none)

lemma lookup_processing {packet : TSPacket} (hpat : carriesPAT packet = false) (s : PacketState)
    (pid : UInt16) : (processing s packet).1.pmtAccumulators.lookup pid =
      (s.pmtAccumulators.lookup pid).map (fun acc => nextPmt pid acc packet) := by
  obtain ⟨-, hannounces⟩ := not_carriesPAT hpat s.patAccumulator
  show (s.processPacket packet).pmtAccumulators.lookup pid = _
  rw [(processPacket_readsTables s packet).pmtAccumulators, hannounces, if_neg (by decide)]

lemma carriesPMT_of_readOn {pid : UInt16} {packet packet' : TSPacket}
    (hpat : carriesPAT packet = false) (hread : readOn pid packet = some packet') :
    packet = packet' ∧ packet.header.pid = pid ∧ carriesPMT packet = true := by
  obtain ⟨⟨hpid, hpayload⟩, hpacket⟩ := Option.ite_none_right_eq_some.mp hread
  refine ⟨Option.some.inj hpacket, hpid, ?_⟩
  unfold carriesPAT at hpat
  unfold carriesPMT
  rw [hpayload, Bool.and_true] at hpat ⊢
  simpa using hpat

lemma processing_of_readOn {pid : UInt16} {packet packet' : TSPacket}
    (hpat : carriesPAT packet = false) (hread : readOn pid packet = some packet')
    (s : PacketState) :
    (processing s packet).1.pmtAccumulators.lookup pid =
        (readingUnits (s.pmtAccumulators.lookup pid) packet').1 ∧
      pmtsOn pid (acceptedWith s packet) = read (s.pmtAccumulators.lookup pid) packet' := by
  obtain ⟨rfl, hpid, hcarries⟩ := carriesPMT_of_readOn hpat hread
  constructor
  · rw [lookup_processing hpat]
    unfold nextPmt readingUnits
    simp [hpid, hcarries]
  · have hcompleted : s.completedPMT packet = (s.pmtAccumulators.lookup pid).bind
        (fun acc => (accumulate acc packet).2.bind pmtOf) := by
      unfold completedPMT
      rw [if_pos hcarries, hpid]
      rfl
    unfold pmtsOn acceptedWith read
    rw [← hcompleted, hpid]
    cases s.completedPMT packet with
    | none => rfl
    | some pmt => simp

/-- The PAT that a section is parsed into. -/
def patOf (data : List UInt8) : Option PAT := tableOf (PSIParser.parsePAT {} data)

lemma parsedPat_processPacket (s : PacketState) (packet : TSPacket) :
    (s.processPacket packet).parsedPat = (completedPAT s.patAccumulator packet).or s.parsedPat := by
  have hpcr : ∀ t : PacketState, (t.processPCR packet).parsedPat = t.parsedPat := by
    intro t
    unfold processPCR
    split
    · rfl
    · dsimp only
      split <;> rfl
  have hsame := addPacketToStorage_sameTables (s.readTables packet) packet
  have hpsi : (s.processPSIPacket packet).parsedPat =
      (completedPAT s.patAccumulator packet).or s.parsedPat := by
    unfold processPSIPacket completedPAT carriesPAT
    by_cases hpat : (decide (packet.header.pid = pidPat) && packet.hasPayload) = true
    · rw [if_pos hpat, if_pos hpat]
      dsimp only
      split
      · next pat hsome =>
        rw [hsome]
        rfl
      · next hnone =>
        rw [hnone]
        rfl
    · rw [if_neg hpat, if_neg hpat]
      split
      · split
        · dsimp only
          split <;> rfl
        · rfl
      · rfl
  rw [processPacket_eq]
  exact hsame.parsedPat.trans ((hpcr _).trans hpsi)

lemma patAccumulator_processPackets (s : PacketState) (packets : List TSPacket) :
    (s.processPackets packets).patAccumulator =
      final accumulate s.patAccumulator (packets.filter carriesPAT) := by
  induction packets generalizing s with
  | nil => rfl
  | cons packet packets ih =>
    rw [processPackets_cons, ih, (processPacket_readsTables s packet).patAccumulator]
    unfold nextPat
    cases hpat : carriesPAT packet with
    | true => rw [List.filter_cons_of_pos hpat, final_cons, if_pos rfl]
    | false => rw [List.filter_cons_of_neg (by simp [hpat]), if_neg (by decide)]

lemma patsAccepted_eq (acc : PSIAccumulator) (packets : List TSPacket) :
    patsAccepted acc packets =
      (trace accumulate sectionOf acc (packets.filter carriesPAT)).filterMap patOf := by
  induction packets generalizing acc with
  | nil => rfl
  | cons packet packets ih =>
    rw [patsAccepted, ih]
    unfold completedPAT nextPat
    cases hpat : carriesPAT packet with
    | true =>
      rw [List.filter_cons_of_pos hpat, trace_cons, List.filterMap_append, if_pos rfl, if_pos rfl]
      congr 1
      unfold sectionOf
      cases (accumulate acc packet).2 with
      | none => rfl
      | some data =>
        rw [Option.bind_some, Option.toList_some]
        cases hdata : patOf data with
        | none =>
          rw [List.filterMap_cons_none hdata, List.filterMap_nil]
          exact congrArg Option.toList hdata
        | some pat =>
          rw [List.filterMap_cons_some hdata, List.filterMap_nil]
          exact congrArg Option.toList hdata
    | false =>
      rw [List.filter_cons_of_neg (by simp [hpat]), if_neg (by decide), if_neg (by decide)]
      rfl

lemma before_pat {s : PacketState} (hlookup : ∀ pid, s.pmtAccumulators.lookup pid = none)
    {packets : List TSPacket} (hnone : patsAccepted s.patAccumulator packets = []) :
    (∀ pid, (s.processPackets packets).pmtAccumulators.lookup pid = none) ∧
      (s.processPackets packets).parsedPmts = s.parsedPmts := by
  induction packets generalizing s with
  | nil => exact ⟨hlookup, rfl⟩
  | cons packet packets ih =>
    have hreads := processPacket_readsTables s packet
    rw [patsAccepted, List.append_eq_nil_iff, ← hreads.patAccumulator] at hnone
    have hcompleted : completedPAT s.patAccumulator packet = none :=
      Option.toList_eq_nil_iff.mp hnone.1
    have hannounces : ∀ pid, announces s.patAccumulator packet pid = false := by
      intro pid
      unfold announces
      rw [hcompleted]
      rfl
    obtain ⟨haccumulators, hparsed⟩ := ih (s := s.processPacket packet) (by
      intro pid
      rw [hreads.pmtAccumulators, hannounces, if_neg (by decide), hlookup]
      rfl) hnone.2
    refine ⟨haccumulators, hparsed.trans ?_⟩
    have hpmt : s.completedPMT packet = none := by
      unfold completedPMT
      rw [hlookup]
      exact ite_self none
    rw [hreads.parsedPmts, hpmt]
    rfl

/-- A PAT section from the beginning of the stream on. -/
structure PATArrives (front : List TSPacket) (pat : PAT) : Prop where
  carries : ∃ data first others, front.filter carriesPAT = first :: others ∧ IsSection data ∧
    CarriesSection pidPat data first others ∧ patOf data = some pat
  ends : ∀ p ∈ front.getLast?, carriesPAT p = true

/-- With its last packet the PMT PIDs of the PAT have fresh accumulators, and no others. -/
theorem PATArrives.state {front : List TSPacket} {pat : PAT} (h : PATArrives front pat) :
    (processPackets {} front).parsedPat = some pat ∧ (processPackets {} front).parsedPmts = ∅ ∧
      ∀ pid, (processPackets {} front).pmtAccumulators.lookup pid =
        if pat.announces pid then some {} else none := by
  obtain ⟨data, first, others, hfilter, hdata, hcarries, hpat⟩ := h.carries
  obtain ⟨before, last', hsplit, htrace, hlast⟩ := hcarries.reads hdata {}
  rcases List.eq_nil_or_concat front with rfl | ⟨init, last, rfl⟩
  · cases hfilter
  · rw [List.concat_eq_append] at hfilter ⊢
    have hend : carriesPAT last = true := h.ends last (by simp)
    rw [hsplit, List.filter_append, List.filter_cons_of_pos hend, List.filter_nil] at hfilter
    obtain ⟨rfl, hlasts⟩ := List.append_inj' hfilter rfl
    obtain rfl := List.singleton_inj.mp hlasts
    have hnone : patsAccepted {} init = [] := by
      rw [patsAccepted_eq, htrace]
      rfl
    have hempty : ∀ pid, (∅ : PidMap PSIAccumulator).lookup pid = none := fun pid => rfl
    obtain ⟨haccumulators, hparsed⟩ := before_pat (s := {}) hempty hnone
    have hcompleted : completedPAT (processPackets {} init).patAccumulator last = some pat := by
      unfold completedPAT
      rw [if_pos hend, patAccumulator_processPackets]
      show (accumulate (final accumulate {} _) last).2.bind patOf = some pat
      rw [hlast]
      exact hpat
    have hreads := processPacket_readsTables (processPackets {} init) last
    have hstep : processPackets {} (init ++ [last]) =
        (processPackets {} init).processPacket last := processPackets_append {} init [last]
    rw [hstep]
    refine ⟨?_, ?_, ?_⟩
    · rw [parsedPat_processPacket, hcompleted]
      rfl
    · rw [hreads.parsedPmts, (not_carriesPMT (carriesPMT_of_carriesPAT hend) _).1]
      exact hparsed
    · intro pid
      have hannounces : announces (processPackets {} init).patAccumulator last pid =
          pat.announces pid := by
        unfold announces
        rw [hcompleted]
        rfl
      rw [hreads.pmtAccumulators, hannounces, haccumulators]
      rfl

/-! ### Whole runs -/

/-- The PSI tables of the two states are the same. -/
structure ReadsAlike (s t : PacketState) : Prop where
  patAccumulator : s.patAccumulator = t.patAccumulator
  pmtAccumulators : ∀ pid, s.pmtAccumulators.lookup pid = t.pmtAccumulators.lookup pid
  parsedPat : s.parsedPat = t.parsedPat
  parsedPmts : s.parsedPmts = t.parsedPmts

lemma ReadsAlike.processPackets {s t : PacketState} (h : ReadsAlike s t) (packets : List TSPacket) :
    ReadsAlike (s.processPackets packets) (t.processPackets packets) := by
  induction packets generalizing s t with
  | nil => exact h
  | cons packet packets ih =>
    apply ih
    have hs := processPacket_readsTables s packet
    have ht := processPacket_readsTables t packet
    have hcompleted : s.completedPMT packet = t.completedPMT packet := by
      unfold completedPMT
      rw [h.pmtAccumulators]
    constructor
    · rw [hs.patAccumulator, ht.patAccumulator, h.patAccumulator]
    · intro pid
      rw [hs.pmtAccumulators, ht.pmtAccumulators, h.patAccumulator, h.pmtAccumulators]
    · rw [parsedPat_processPacket, parsedPat_processPacket, h.patAccumulator, h.parsedPat]
    · rw [hs.parsedPmts, ht.parsedPmts, hcompleted, h.parsedPmts]

namespace MPEGTSDemuxer

lemma readsAlike_call {c : Call} (h : c.isFeed = false) (d : MPEGTSDemuxer) :
    ReadsAlike d.toPacketState (d.call c).1.toPacketState ∧ d.callTrace c = [] := by
  have hsame := finalizeAllIterations_sameTables d.toPacketState
  have hfinal : ReadsAlike d.toPacketState d.toPacketState.finalizeAllIterations :=
    ⟨hsame.patAccumulator.symm, fun pid => by rw [hsame.pmtAccumulators], hsame.parsedPat.symm,
      hsame.parsedPmts.symm⟩
  cases c with
  | feedData data => cases h
  | getPrograms => exact ⟨hfinal, rfl⟩
  | getDiscoveredPIDs => exact ⟨hfinal, rfl⟩
  | getIterationsSummary pid => exact ⟨hfinal, rfl⟩
  | clearAll => exact ⟨⟨hfinal.1, hfinal.2, hfinal.3, hfinal.4⟩, rfl⟩
  | _ => exact ⟨⟨rfl, fun _ => rfl, rfl, rfl⟩, rfl⟩

/-- After any calls the PSI tables are those that the packets processed make. -/
theorem readsAlike_run (calls : List Call) : ReadsAlike
    (PacketState.processPackets {} (processedPackets {} calls)) (run {} calls).toPacketState := by
  have hinv := traced_invariant call callTrace (fun _ _ => True)
    (fun e l => ReadsAlike (PacketState.processPackets {} (l.map Prod.snd)) e.toPacketState)
    ?_ (s := {}) (l := []) ⟨rfl, fun _ => rfl, rfl, rfl⟩
    (along_of_forall call (fun c (_ : c ∈ calls) => trivial))
  · exact hinv
  · intro e c l he _
    rw [List.map_append, processPackets_append]
    cases hc : c.isFeed with
    | true =>
      obtain ⟨data, rfl⟩ := feedData_of_isFeed hc
      show ReadsAlike (PacketState.processPackets _ ((e.feedTrace data).map Prod.snd))
        (e.feedData data).toPacketState
      rw [feedTrace_packets, toPacketState_feedData]
      exact he.processPackets _
    | false =>
      obtain ⟨hsame, htrace⟩ := readsAlike_call hc e
      rw [htrace]
      exact ⟨he.1.trans hsame.1, fun pid => (he.2 pid).trans (hsame.2 pid), he.3.trans hsame.3,
        he.4.trans hsame.4⟩

end MPEGTSDemuxer

/-! ### Discovery -/

namespace ServicesArrive

variable {front back : List TSPacket} {pat : PAT} {sections : UInt16 → List (List UInt8)}
  {number : UInt16 → UInt16}

end ServicesArrive

end MinimalMpegTS
