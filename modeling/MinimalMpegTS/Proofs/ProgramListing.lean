import MinimalMpegTS.Proofs.ClearAll
import MinimalMpegTS.Proofs.Discovery

/-!
# Listed programs and accepted tables

The parsed PMTs are the last accepted ones of their numbers, each read on a PID that an accepted PAT
had listed before. Nothing removes a parsed PMT, and once there is one only the streams that parsed
PMTs list are reported.
-/

namespace MinimalMpegTS

open Transducer PacketState MPEGTSDemuxer

/-! ### Accepted tables -/

/-- The packets processed during these calls, each with the state before it. -/
def history (calls : List Call) : List (PacketState × TSPacket) :=
  (runTrace {} calls).map (fun entry => (entry.1.toPacketState, entry.2))

/-- The PMT accepted with a packet. -/
def acceptedPMT (entry : PacketState × TSPacket) : Option PMT := entry.1.completedPMT entry.2

/-- A PAT has been accepted that lists the PMT PID. -/
def Announced (entries : List (PacketState × TSPacket)) (pid : UInt16) : Prop :=
  ∃ entry ∈ entries, announces entry.1.patAccumulator entry.2 pid = true

/-- A PMT with this number is accepted with the packet. -/
def Numbers (number : UInt16) (entry : PacketState × TSPacket) : Prop :=
  (acceptedPMT entry).map PMT.programNumber = some number

/-- The PMT is the last one accepted with its number. It was read on this PID, which a PAT accepted
before lists. -/
structure InForce (entries : List (PacketState × TSPacket)) (pid : UInt16) (pmt : PMT) : Prop where
  last : ∃ before entry, LastWith (Numbers pmt.programNumber) entries before entry ∧
    acceptedPMT entry = some pmt ∧ entry.2.header.pid = pid ∧ Announced before pid

/-- What the accumulators and the parsed PMTs say about the packets processed. -/
structure TablesRead (entries : List (PacketState × TSPacket)) (s : PacketState) : Prop where
  accumulators : ∀ pid, pid ∈ s.pmtAccumulators ↔ Announced entries pid
  sources : ∀ before entry, before ++ [entry] <+: entries → acceptedPMT entry ≠ none →
    Announced before entry.2.header.pid
  parsedPmts : ∀ number pmt, s.parsedPmts.lookup number = some pmt ↔
    ∃ before entry, LastWith (Numbers number) entries before entry ∧ acceptedPMT entry = some pmt

lemma announced_concat {entries : List (PacketState × TSPacket)} {s : PacketState}
    {packet : TSPacket} {pid : UInt16} : Announced (entries ++ [(s, packet)]) pid ↔
      announces s.patAccumulator packet pid = true ∨ Announced entries pid := by
  unfold Announced
  constructor
  · rintro ⟨entry, hentry, hannounces⟩
    rcases List.mem_append.mp hentry with hentry | hentry
    · exact .inr ⟨entry, hentry, hannounces⟩
    · rw [List.mem_singleton.mp hentry] at hannounces
      exact .inl hannounces
  · rintro (hannounces | ⟨entry, hentry, hannounces⟩)
    · exact ⟨(s, packet), List.mem_append_right _ List.mem_cons_self, hannounces⟩
    · exact ⟨entry, List.mem_append_left _ hentry, hannounces⟩

namespace TablesRead

variable {entries : List (PacketState × TSPacket)} {s : PacketState}

lemma empty : TablesRead [] {} := by
  constructor
  · intro pid
    constructor
    · intro hpid
      cases hpid
    · rintro ⟨entry, hentry, _⟩
      cases hentry
  · intro before entry hpart
    have hle := hpart.length_le
    simp at hle
  · intro number pmt
    constructor
    · intro hlookup
      cases hlookup
    · rintro ⟨before, entry, ⟨_, after, hsplit, _⟩, _⟩
      simp at hsplit

lemma announced_of_accepted (h : TablesRead entries s) {packet : TSPacket}
    (haccepted : acceptedPMT (s, packet) ≠ none) : Announced entries packet.header.pid := by
  rw [← h.accumulators, ← AList.lookup_isSome]
  unfold acceptedPMT completedPMT at haccepted
  split at haccepted
  · cases hacc : s.pmtAccumulators.lookup packet.header.pid with
    | none => simp [hacc] at haccepted
    | some acc => rfl
  · exact absurd rfl haccepted

lemma processPacket (h : TablesRead entries s) (packet : TSPacket) :
    TablesRead (entries ++ [(s, packet)]) (s.processPacket packet) := by
  have hreads := processPacket_readsTables s packet
  constructor
  · intro pid
    rw [announced_concat, ← AList.lookup_isSome, hreads.pmtAccumulators, ← h.accumulators]
    by_cases hannounces : announces s.patAccumulator packet pid = true
    · simp [hannounces]
    · simp [hannounces, AList.lookup_isSome]
  · intro before entry hpart haccepted
    rcases List.prefix_concat_iff.mp hpart with heq | hpart
    · obtain ⟨rfl, hentry⟩ := List.append_inj' heq rfl
      obtain rfl := List.singleton_inj.mp hentry
      exact h.announced_of_accepted haccepted
    · exact h.sources before entry hpart haccepted
  · intro number pmt
    have hlast : (∃ before entry, LastWith (Numbers number) (entries ++ [(s, packet)]) before entry ∧
        acceptedPMT entry = some pmt) ↔
          (Numbers number (s, packet) ∧ s.completedPMT packet = some pmt) ∨
            (¬Numbers number (s, packet) ∧ s.parsedPmts.lookup number = some pmt) := by
      rw [h.parsedPmts]
      constructor
      · rintro ⟨before, entry, hlast, haccepted⟩
        rcases lastWith_concat.mp hlast with ⟨hnumber, rfl, rfl⟩ | ⟨hnumber, hlast⟩
        · exact .inl ⟨hnumber, haccepted⟩
        · exact .inr ⟨hnumber, before, entry, hlast, haccepted⟩
      · rintro (⟨hnumber, haccepted⟩ | ⟨hnumber, before, entry, hlast, haccepted⟩)
        · exact ⟨_, _, lastWith_concat.mpr (.inl ⟨hnumber, rfl, rfl⟩), haccepted⟩
        · exact ⟨before, entry, lastWith_concat.mpr (.inr ⟨hnumber, hlast⟩), haccepted⟩
    rw [hlast, hreads.parsedPmts]
    unfold Numbers acceptedPMT
    dsimp only
    cases hcompleted : s.completedPMT packet with
    | none => simp
    | some other =>
      rw [Option.map_some, Option.some.injEq, Option.elim_some]
      by_cases hnumber : other.programNumber = number
      · rw [hnumber, AList.lookup_insert]
        simp
      · rw [AList.lookup_insert_ne (Ne.symm hnumber)]
        simp [hnumber]

lemma processPackets (h : TablesRead entries s) (packets : List TSPacket) :
    TablesRead (entries ++ s.packetTrace packets) (s.processPackets packets) := by
  induction packets generalizing entries s with
  | nil => rwa [packetTrace, List.append_nil]
  | cons packet packets ih =>
    have hrest := ih (h.processPacket packet)
    rwa [List.append_assoc] at hrest

lemma of_sameTables (h : TablesRead entries s) {t : PacketState}
    (hpmt : t.pmtAccumulators = s.pmtAccumulators) (hparsed : t.parsedPmts = s.parsedPmts) :
    TablesRead entries t := by
  constructor
  · rw [hpmt]
    exact h.accumulators
  · exact h.sources
  · rw [hparsed]
    exact h.parsedPmts

end TablesRead

lemma tables_call {c : Call} (h : c.isFeed = false) (d : MPEGTSDemuxer) :
    (d.call c).1.pmtAccumulators = d.pmtAccumulators ∧ (d.call c).1.parsedPmts = d.parsedPmts ∧
      d.callTrace c = [] := by
  have hsame := finalizeAllIterations_sameTables d.toPacketState
  cases c with
  | feedData data => cases h
  | getPrograms => exact ⟨hsame.pmtAccumulators, hsame.parsedPmts, rfl⟩
  | getDiscoveredPIDs => exact ⟨hsame.pmtAccumulators, hsame.parsedPmts, rfl⟩
  | getIterationsSummary pid => exact ⟨hsame.pmtAccumulators, hsame.parsedPmts, rfl⟩
  | clearAll => exact ⟨hsame.pmtAccumulators, hsame.parsedPmts, rfl⟩
  | _ => exact ⟨rfl, rfl, rfl⟩

theorem tablesRead_run (calls : List Call) :
    TablesRead (history calls) (run {} calls).toPacketState := by
  have hinv := traced_invariant call callTrace (fun _ _ => True)
    (fun e l => TablesRead (l.map (fun entry : MPEGTSDemuxer × TSPacket =>
      (entry.1.toPacketState, entry.2))) e.toPacketState)
    ?_ (s := {}) (l := []) TablesRead.empty (along_of_forall call (fun c (_ : c ∈ calls) => trivial))
  · exact hinv
  · intro e c l he _
    rw [List.map_append]
    cases hc : c.isFeed with
    | true =>
      obtain ⟨data, rfl⟩ := feedData_of_isFeed hc
      show TablesRead (l.map _ ++ (e.feedTrace data).map _) (e.feedData data).toPacketState
      rw [feedTrace_states, toPacketState_feedData]
      exact he.processPackets _
    | false =>
      obtain ⟨hpmt, hparsed, htrace⟩ := tables_call hc e
      rw [htrace, List.map_nil, List.append_nil]
      exact he.of_sameTables hpmt hparsed

/-- The parsed PMTs are those in force. -/
theorem lookup_parsedPmts_iff (calls : List Call) (number : UInt16) (pmt : PMT) :
    (run {} calls).parsedPmts.lookup number = some pmt ↔
      pmt.programNumber = number ∧ ∃ pid, InForce (history calls) pid pmt := by
  have htables := tablesRead_run calls
  rw [htables.parsedPmts]
  constructor
  · rintro ⟨before, entry, hlast, haccepted⟩
    obtain rfl : pmt.programNumber = number := by
      have hnumber := hlast.holds
      unfold Numbers at hnumber
      rw [haccepted] at hnumber
      exact Option.some.inj hnumber
    have hpart : before ++ [entry] <+: history calls := by
      obtain ⟨after, hsplit, _⟩ := hlast.split
      exact ⟨after, by rw [hsplit, List.append_assoc, List.singleton_append]⟩
    have hsource := htables.sources before entry hpart (by rw [haccepted]; exact Option.some_ne_none pmt)
    exact ⟨rfl, entry.2.header.pid, before, entry, hlast, haccepted, rfl, hsource⟩
  · rintro ⟨rfl, pid, before, entry, hlast, haccepted, _, _⟩
    exact ⟨before, entry, hlast, haccepted⟩

lemma parsedPmts_eq_empty_iff (calls : List Call) :
    (run {} calls).parsedPmts = ∅ ↔ ∀ entry ∈ history calls, acceptedPMT entry = none := by
  have htables := tablesRead_run calls
  constructor
  · intro hempty entry hentry
    by_contra hne
    obtain ⟨pmt, hpmt⟩ := Option.ne_none_iff_exists'.mp hne
    obtain ⟨before, last, hlast⟩ := exists_lastWith (p := Numbers pmt.programNumber)
      ⟨entry, hentry, by unfold Numbers; rw [hpmt]; rfl⟩
    obtain ⟨other, hother, _⟩ := Option.map_eq_some_iff.mp hlast.holds
    have hlookup := (htables.parsedPmts pmt.programNumber other).mpr ⟨before, last, hlast, hother⟩
    rw [hempty] at hlookup
    cases hlookup
  · intro hnone
    apply eq_empty_of_keys
    by_contra hne
    obtain ⟨number, hnumber⟩ := List.exists_mem_of_ne_nil _ hne
    rw [← AList.mem_keys, ← AList.lookup_isSome, Option.isSome_iff_exists] at hnumber
    obtain ⟨pmt, hpmt⟩ := hnumber
    obtain ⟨before, entry, hlast, haccepted⟩ := (htables.parsedPmts number pmt).mp hpmt
    obtain ⟨after, hsplit, _⟩ := hlast.split
    have hmem : entry ∈ history calls := by
      rw [hsplit]
      exact List.mem_append_right _ List.mem_cons_self
    rw [hnone entry hmem] at haccepted
    cases haccepted

/-! ### Programs and PATs -/

/-- Every program reported from a PMT is listed in the last PAT, with the PID of this PMT. -/
def FollowsPAT (calls : List Call) : Prop :=
  (run {} calls).parsedPmts ≠ ∅ → ∀ program ∈ (run {} calls).getPrograms.2,
    program.programNumber ≠ 0 ∧ ∃ pat, (run {} calls).parsedPat = some pat ∧
      ∃ entry ∈ pat.programs, entry.programNumber = program.programNumber ∧
        ∃ pmt, pmt.programNumber = program.programNumber ∧ InForce (history calls) entry.pid pmt

/-- The program is reported from the PMT. -/
structure ReportedFrom (pmt : PMT) (program : ProgramInfo) : Prop where
  programNumber : program.programNumber = pmt.programNumber
  streamPids : program.streamPids = pmt.streams.map PMTStreamInfo.elementaryPid

lemma inForce_of_program {calls : List Call} (hparsed : (run {} calls).parsedPmts ≠ ∅)
    {program : ProgramInfo} (hprogram : program ∈ (run {} calls).getPrograms.2) :
    ∃ pid pmt, InForce (history calls) pid pmt ∧ ReportedFrom pmt program := by
  obtain ⟨number, pmt, hlookup, rfl⟩ := (mem_getPrograms_pmts hparsed program).mp hprogram
  obtain ⟨rfl, pid, hforce⟩ := (lookup_parsedPmts_iff calls number pmt).mp hlookup
  exact ⟨pid, pmt, hforce, rfl, rfl⟩

lemma program_of_inForce {calls : List Call} {pid : UInt16} {pmt : PMT}
    (hforce : InForce (history calls) pid pmt) :
    ∃ program ∈ (run {} calls).getPrograms.2, ReportedFrom pmt program := by
  have hlookup := (lookup_parsedPmts_iff calls pmt.programNumber pmt).mpr ⟨rfl, pid, hforce⟩
  have hparsed : (run {} calls).parsedPmts ≠ ∅ := by
    intro hempty
    rw [hempty] at hlookup
    cases hlookup
  refine ⟨programOfPMT (run {} calls).finalized.storage pmt.programNumber pmt, ?_, rfl, rfl⟩
  exact (mem_getPrograms_pmts hparsed _).mpr ⟨pmt.programNumber, pmt, hlookup, rfl⟩

/-- The programs reported once a PMT has been accepted are those of the PMTs in force. -/
theorem programs_in_force (calls : List Call) :
    ((run {} calls).parsedPmts ≠ ∅ → ∀ program ∈ (run {} calls).getPrograms.2,
      ∃ pid pmt, InForce (history calls) pid pmt ∧ ReportedFrom pmt program) ∧
    ∀ pid pmt, InForce (history calls) pid pmt →
      ∃ program ∈ (run {} calls).getPrograms.2, ReportedFrom pmt program := by
  constructor
  · intro hparsed program hprogram
    exact inForce_of_program hparsed hprogram
  · intro pid pmt hforce
    exact program_of_inForce hforce

/-- Every program reported from a PMT is listed in some accepted PAT. -/
def NumberedByPAT (calls : List Call) : Prop :=
  (run {} calls).parsedPmts ≠ ∅ → ∀ program ∈ (run {} calls).getPrograms.2,
    ∃ entry ∈ history calls, ∃ pat, completedPAT entry.1.patAccumulator entry.2 = some pat ∧
      program.programNumber ∈ pat.programs.map PATEntry.programNumber

/-- The program of one parsed PMT is the only one reported. -/
structure ReportsOnly (calls : List Call) (number : UInt16) : Prop where
  parsed : (run {} calls).parsedPmts.keys = [number]
  reported : (run {} calls).getPrograms.2.map ProgramInfo.programNumber = [number]

namespace ReportsOnly

variable {calls : List Call} {number : UInt16}

lemma parsed_ne_empty (h : ReportsOnly calls number) : (run {} calls).parsedPmts ≠ ∅ := by
  intro hempty
  have hparsed := h.parsed
  rw [hempty] at hparsed
  cases hparsed

lemma exists_program (h : ReportsOnly calls number) :
    ∃ program ∈ (run {} calls).getPrograms.2, program.programNumber = number := by
  obtain ⟨program, rest, hcons, hnumber, _⟩ := List.map_eq_cons_iff.mp h.reported
  refine ⟨program, ?_, hnumber⟩
  rw [hcons]
  exact List.mem_cons_self

lemma exists_packet (h : ReportsOnly calls number) (hfollows : FollowsPAT calls) :
    ∃ pat, (run {} calls).parsedPat = some pat ∧ ∃ entry ∈ pat.programs,
      entry.programNumber = number ∧ ∃ packet ∈ (history calls).map Prod.snd,
        packet.header.pid = entry.pid := by
  obtain ⟨program, hprogram, hnumber⟩ := h.exists_program
  obtain ⟨_, pat, hpat, entry, hentry, hsame, pmt, _, hforce⟩ :=
    hfollows h.parsed_ne_empty program hprogram
  obtain ⟨before, last, hlast, _, hpid, _⟩ := hforce.last
  obtain ⟨after, hsplit, _⟩ := hlast.split
  refine ⟨pat, hpat, entry, hentry, hsame.trans hnumber, last.2, ?_, hpid⟩
  rw [hsplit, List.map_append]
  exact List.mem_append_right _ List.mem_cons_self

lemma not_followsPAT (h : ReportsOnly calls number) (listed : List UInt16)
    (hpat : (run {} calls).parsedPat.map (fun pat => pat.programs.map PATEntry.programNumber) =
      some listed) (hlisted : number ∉ listed) : ¬FollowsPAT calls := by
  intro hfollows
  obtain ⟨pat, hsome, entry, hentry, hsame, _⟩ := h.exists_packet hfollows
  rw [hsome, Option.map_some, Option.some.injEq] at hpat
  apply hlisted
  rw [← hpat, ← hsame]
  exact List.mem_map_of_mem hentry

end ReportsOnly

/-- A PAT section that lists the PMT PID 0x1001 for program 2. -/
def nextPATSection : List UInt8 :=
  withCRC [0x00, 0xB0, 0x0D, 0x00, 0x01, 0xC3, 0x00, 0x00, 0x00, 0x02, 0xF0, 0x01]

/-- A PAT with program 1 and its PMT, and a PAT that has program 2 in its place. -/
def nextPATCalls : List Call :=
  patCalls ++ [.feedData (plainPacket 0x1000 0 true probePayload ++
    plainPacket pidPat 1 true (0 :: nextPATSection ++ List.replicate 167 0xFF))]

/-- A PMT section of the program with this number. -/
def renumberedSection (number : UInt8) : List UInt8 :=
  withCRC [0x02, 0xB0, 0x12, 0x00, number, 0xC1, 0x00, 0x00, 0xE1, 0x00, 0xF0, 0x00, 0x1B, 0xE1, 0x00,
    0xF0, 0x00]

/-- A PAT with program 1, and a PMT of another program on its PID. -/
def renumberedCalls (number : UInt8) : List Call :=
  patCalls ++ [.feedData (plainPacket 0x1000 0 true
    (0 :: renumberedSection number ++ List.replicate 162 0xFF))]

/-- A PAT section that lists the PMT PID 0x1000 for program 1 and 0x1001 for program 2. -/
def pairPATSection : List UInt8 :=
  withCRC [0x00, 0xB0, 0x11, 0x00, 0x01, 0xC1, 0x00, 0x00, 0x00, 0x01, 0xF0, 0x00, 0x00, 0x02, 0xF0,
    0x01]

/-- A PAT with programs 1 and 2, and a PMT of program 1 on the PID of program 2. -/
def exchangedCalls : List Call :=
  [.feedData (nullPacket 0 ++ nullPacket 1 ++ nullPacket 2 ++
    plainPacket pidPat 1 true (0 :: pairPATSection ++ List.replicate 163 0xFF)),
    .feedData (plainPacket 0x1001 0 true probePayload)]

/-- Program 1 is still reported when the PAT no longer lists it, program 5 is reported although no PAT
lists it, program 0 is reported, and program 1 is reported from a PMT on the PID of program 2. -/
theorem stale_program_reported : ¬FollowsPAT nextPATCalls ∧
    (¬FollowsPAT (renumberedCalls 5) ∧ ¬NumberedByPAT (renumberedCalls 5)) ∧
    ReportsOnly (renumberedCalls 0) 0 ∧ ¬FollowsPAT exchangedCalls := by
  have hrenumbered : ReportsOnly (renumberedCalls 5) 5 := ⟨by decide +kernel, by decide +kernel⟩
  refine ⟨?_, ⟨?_, ?_⟩, ⟨by decide +kernel, by decide +kernel⟩, ?_⟩
  · have hnext : ReportsOnly nextPATCalls 1 := ⟨by decide +kernel, by decide +kernel⟩
    exact hnext.not_followsPAT [2] (by decide +kernel) (by decide)
  · exact hrenumbered.not_followsPAT [1] (by decide +kernel) (by decide)
  · intro h
    obtain ⟨program, hprogram, hnumber⟩ := hrenumbered.exists_program
    obtain ⟨entry, hentry, pat, hpat, hlisted⟩ := h hrenumbered.parsed_ne_empty program hprogram
    have hpats : ∀ entry ∈ history (renumberedCalls 5),
        ∀ pat ∈ completedPAT entry.1.patAccumulator entry.2,
          5 ∉ pat.programs.map PATEntry.programNumber := by decide +kernel
    rw [hnumber] at hlisted
    exact hpats entry hentry pat hpat hlisted
  · intro h
    have hexchanged : ReportsOnly exchangedCalls 1 := ⟨by decide +kernel, by decide +kernel⟩
    obtain ⟨pat, hpat, entry, hentry, hnumber, packet, hpacket, hpid⟩ := hexchanged.exists_packet h
    have hpats : ∀ pat ∈ (run {} exchangedCalls).parsedPat, ∀ entry ∈ pat.programs,
        entry.programNumber = 1 → ∀ packet ∈ (history exchangedCalls).map Prod.snd,
          packet.header.pid ≠ entry.pid := by decide +kernel
    exact hpats pat hpat entry hentry hnumber packet hpacket hpid

/-! ### Streams and PMTs -/

/-- A call of one of the clearing operations. -/
def Call.isClear : Call → Bool
  | .clearIteration _ _ | .clearStream _ | .clearAll => true
  | _ => false

/-- Every discovered stream that is not announced to carry a PMT is in a reported program, and the
payload size of a program is the sum of the sizes listed for its streams. -/
structure NoStreamLost (calls : List Call) : Prop where
  streams : ∀ pid ∈ (run {} calls).getDiscoveredPIDs.2, ¬Announced (history calls) pid →
    ∃ program ∈ (run {} calls).getPrograms.2, pid ∈ program.streamPids
  sizes : ∀ program ∈ (run {} calls).getPrograms.2,
    program.totalPayloadSize = (program.streamPids.map (run {} calls).listedSize).sum

/-- The PMTs accepted list every stream, or there are none. -/
def CoveredByPMTs (calls : List Call) : Prop :=
  (∀ entry ∈ history calls, acceptedPMT entry = none) ∨
    ∀ pid, (run {} calls).Held pid → ¬Announced (history calls) pid →
      ∃ source pmt, InForce (history calls) source pmt ∧
        pid ∈ pmt.streams.map PMTStreamInfo.elementaryPid

lemma clearsReceived_of_no_clear {calls : List Call} (h : ∀ c ∈ calls, c.isClear = false) :
    ClearsReceived calls := by
  intro before pid iterId hpart
  have hmem := hpart.subset (List.mem_append_right before (List.mem_singleton_self _))
  exact absurd (h _ hmem) (by simp [Call.isClear])

/-- A stream is lost exactly if a PMT has been accepted and the last ones of their numbers leave the
stream out. -/
theorem no_stream_lost_iff {calls : List Call} (h : ∀ c ∈ calls, c.isClear = false) :
    NoStreamLost calls ↔ CoveredByPMTs calls := by
  constructor
  · rintro ⟨hstreams, _⟩
    by_cases hparsed : (run {} calls).parsedPmts = ∅
    · exact .inl ((parsedPmts_eq_empty_iff calls).mp hparsed)
    · right
      intro pid hheld hannounced
      obtain ⟨program, hprogram, hpid⟩ :=
        hstreams pid ((discovered_iff_held _ pid).mpr hheld) hannounced
      obtain ⟨source, pmt, hsource, hreported⟩ := inForce_of_program hparsed hprogram
      rw [hreported.streamPids] at hpid
      exact ⟨source, pmt, hsource, hpid⟩
  · intro hcovered
    constructor
    · intro pid hdiscovered hannounced
      rw [discovered_iff_held] at hdiscovered
      rcases hcovered with hnone | hlisted
      · obtain ⟨hsystem, _⟩ := received_of_held (clearsReceived_of_no_clear h) hdiscovered
        rw [← stream_finalized_ne_none] at hdiscovered
        obtain ⟨stream, hstream⟩ := Option.ne_none_iff_exists'.mp hdiscovered
        have hprogramStream : isProgramStream pid = true := by
          unfold isProgramStream
          rw [hsystem]
          rfl
        refine ⟨programOfStream pid stream, ?_, List.mem_singleton_self pid⟩
        rw [mem_getPrograms_streams ((parsedPmts_eq_empty_iff calls).mpr hnone)]
        exact ⟨pid, stream, hprogramStream, hstream, rfl⟩
      · obtain ⟨source, pmt, hsource, hpid⟩ := hlisted pid hdiscovered hannounced
        obtain ⟨program, hprogram, hreported⟩ := program_of_inForce hsource
        refine ⟨program, hprogram, ?_⟩
        rw [hreported.streamPids]
        exact hpid
    · intro program hprogram
      exact (addsUp_getPrograms _ program hprogram).totalPayloadSize

/-- A PAT, a packet of this PID, and a PMT with the stream 0x100. -/
def listedCalls (pid : UInt16) : List Call :=
  patCalls ++ [.feedData (plainPacket pid 0 true (List.replicate 184 0xAA) ++
    plainPacket 0x1000 0 true probePayload)]

theorem no_stream_lost_listed : NoStreamLost (listedCalls 0x100) := by
  obtain ⟨hdiscovered, hlookup, hannounced⟩ :
      (run {} (listedCalls 0x100)).getDiscoveredPIDs.2 = {0x100, 0x1000} ∧
      (run {} (listedCalls 0x100)).parsedPmts.lookup 1 = some probePMT ∧
      0x1000 ∈ (run {} (listedCalls 0x100)).pmtAccumulators := by decide +kernel
  rw [(tablesRead_run _).accumulators] at hannounced
  obtain ⟨_, source, hforce⟩ := (lookup_parsedPmts_iff _ 1 probePMT).mp hlookup
  apply (no_stream_lost_iff (by decide)).mpr
  right
  intro pid hheld hnot
  rw [← discovered_iff_held, hdiscovered, Finset.mem_insert, Finset.mem_singleton] at hheld
  rcases hheld with rfl | rfl
  · exact ⟨source, probePMT, hforce, by decide⟩
  · exact absurd hannounced hnot

/-- The PMT does not list the PID 0x101, and its stream is in no program. -/
theorem unlisted_stream_lost : (∀ c ∈ listedCalls 0x101, c.isClear = false) ∧
    ¬NoStreamLost (listedCalls 0x101) := by
  refine ⟨by decide, ?_⟩
  intro h
  obtain ⟨hdiscovered, hnot, hprograms⟩ :
      0x101 ∈ (run {} (listedCalls 0x101)).getDiscoveredPIDs.2 ∧
      0x101 ∉ (run {} (listedCalls 0x101)).pmtAccumulators ∧
      (run {} (listedCalls 0x101)).getPrograms.2.map ProgramInfo.streamPids = [[0x100]] := by
    decide +kernel
  rw [(tablesRead_run _).accumulators] at hnot
  obtain ⟨program, hprogram, hpid⟩ := h.streams 0x101 hdiscovered hnot
  have hmem := List.mem_map_of_mem (f := ProgramInfo.streamPids) hprogram
  rw [hprograms, List.mem_singleton] at hmem
  rw [hmem] at hpid
  exact absurd hpid (by decide)

end MinimalMpegTS
