import MinimalMpegTS.Proofs.Packets
import MinimalMpegTS.Proofs.Tables

/-!
# PMT sections spread over packets

The packets of a PMT PID are assembled into the section that they carry, whatever packets of
other PIDs come in between, unless one of these completes a PAT that lists the PID: the PAT
replaces the accumulator and the section is lost.
-/

namespace MinimalMpegTS

open PSIAccumulator PacketState

/-- The PATs that a list of packets completes. -/
def patsAccepted : PSIAccumulator → List TSPacket → List PAT
  | _, [] => []
  | acc, packet :: packets =>
    (completedPAT acc packet).toList ++ patsAccepted (nextPat acc packet) packets

/-- A section of the size that its length field says, and the PMT that it is parsed into. -/
structure PMTSection (data : List UInt8) (pmt : PMT) : Prop where
  size : sectionSize data = data.length
  parsed : PSIParser.parsePMT {} data = some (pmt, true)

/-- The packets of a PID that carry a section: the first one starts with a pointer field of 0, and
only the last one reaches the end of the section, which stuffing may follow. -/
structure CarriesSection (pid : UInt16) (data : List UInt8) (first : TSPacket)
    (others : List TSPacket) : Prop where
  pids : ∀ packet ∈ first :: others, packet.header.pid = pid
  payloads : ∀ packet ∈ first :: others, packet.hasPayload = true
  first_start : first.header.payloadUnitStart = true
  others_start : ∀ packet ∈ others, packet.header.payloadUnitStart = false
  first_piece : 1 < first.payloadBytes.length
  last_piece : ((first :: others).dropLast.flatMap TSPacket.payloadBytes).length ≤ data.length
  bytes : ∃ stuffing, (first :: others).flatMap TSPacket.payloadBytes = 0 :: (data ++ stuffing)

/-- The payload bytes of the packets of a PID. -/
def payloadsOf (pid : UInt16) (packets : List TSPacket) : List UInt8 :=
  (packets.filter (fun packet => packet.header.pid = pid)).flatMap TSPacket.payloadBytes

lemma PMTSection.pos {data : List UInt8} {pmt : PMT} (h : PMTSection data pmt) : 0 < data.length := by
  cases data with
  | nil =>
    have hparsed := h.parsed
    simp [PSIParser.parsePMT] at hparsed
  | cons byte data => exact Nat.succ_pos _

/-! ### The accumulator of the PID -/

section Middle

variable {pid : UInt16} {s : PacketState} {middle : List TSPacket}

lemma lookup_idle (hacc : s.pmtAccumulators.lookup pid = some {})
    (hstart : ∀ packet ∈ middle, packet.header.pid = pid → packet.header.payloadUnitStart = false) :
    (s.processPackets middle).pmtAccumulators.lookup pid = some {} := by
  induction middle generalizing s with
  | nil => exact hacc
  | cons packet middle ih =>
    apply ih
    · rw [(processPacket_readsTables s packet).pmtAccumulators, hacc]
      split
      · rfl
      · rw [Option.map_some]
        unfold nextPmt
        by_cases hpid : packet.header.pid = pid
        · rw [accumulate_idle (hstart packet List.mem_cons_self hpid), ite_self]
        · simp [hpid]
    · intro p hp
      exact hstart p (List.mem_cons_of_mem packet hp)

/-- Between the fragments the accumulator collects the section, until a PAT replaces it. -/
theorem lookup_middle {data part : List UInt8} {pmt : PMT} (hsection : PMTSection data pmt)
    (hpid : pid ≠ pidPat) (hacc : s.pmtAccumulators.lookup pid = some (collected part))
    (hpackets : ∀ packet ∈ middle, packet.header.pid = pid →
      packet.hasPayload = true ∧ packet.header.payloadUnitStart = false)
    (hpart : part ++ payloadsOf pid middle <+: data)
    (hlt : (part ++ payloadsOf pid middle).length < data.length) :
    (s.processPackets middle).pmtAccumulators.lookup pid =
      if (patsAccepted s.patAccumulator middle).any (fun pat => pat.announces pid) then some {}
      else some (collected (part ++ payloadsOf pid middle)) := by
  induction middle generalizing s part with
  | nil =>
    have hnil : payloadsOf pid [] = [] := rfl
    rw [hnil, List.append_nil]
    exact hacc
  | cons packet middle ih =>
    have hreads := processPacket_readsTables s packet
    have hlookup := hreads.pmtAccumulators pid
    have hmiddle : ∀ p ∈ middle, p.header.pid = pid →
        p.hasPayload = true ∧ p.header.payloadUnitStart = false :=
      fun p hp => hpackets p (List.mem_cons_of_mem packet hp)
    have hany : (patsAccepted s.patAccumulator (packet :: middle)).any (fun pat => pat.announces pid) =
        (announces s.patAccumulator packet pid ||
          (patsAccepted (s.processPacket packet).patAccumulator middle).any
            (fun pat => pat.announces pid)) := by
      rw [hreads.patAccumulator]
      unfold announces
      rw [patsAccepted, List.any_append]
      cases completedPAT s.patAccumulator packet with
      | none => rfl
      | some pat => simp
    rw [processPackets_cons, hany]
    by_cases hannounces : announces s.patAccumulator packet pid = true
    · rw [if_pos hannounces] at hlookup
      rw [hannounces, Bool.true_or, if_pos rfl]
      exact lookup_idle hlookup (fun p hp hq => (hmiddle p hp hq).2)
    · rw [if_neg hannounces, hacc, Option.map_some] at hlookup
      rw [Bool.not_eq_true] at hannounces
      rw [hannounces, Bool.false_or]
      by_cases hq : packet.header.pid = pid
      · obtain ⟨hpayload, hstart⟩ := hpackets packet List.mem_cons_self hq
        have hcons : payloadsOf pid (packet :: middle) =
            packet.payloadBytes ++ payloadsOf pid middle := by
          unfold payloadsOf
          rw [List.filter_cons_of_pos (by simpa using hq), List.flatMap_cons]
        rw [hcons, ← List.append_assoc] at hpart hlt ⊢
        have hcollect := collect_part hsection.size ((List.prefix_append _ _).trans hpart)
          (by rw [List.length_append] at hlt; omega)
        have hnext : nextPmt pid (collected part) packet = collected (part ++ packet.payloadBytes) := by
          unfold nextPmt carriesPMT
          rw [accumulate_collected hstart, hcollect, hq]
          simp [hpid, hpayload]
        rw [hnext] at hlookup
        exact ih hlookup hmiddle hpart hlt
      · have hcons : payloadsOf pid (packet :: middle) = payloadsOf pid middle := by
          unfold payloadsOf
          rw [List.filter_cons_of_neg (by simpa using hq)]
        rw [hcons] at hpart hlt ⊢
        have hnext : nextPmt pid (collected part) packet = collected part := by
          unfold nextPmt
          simp [hq]
        rw [hnext] at hlookup
        exact ih hlookup hmiddle hpart hlt

end Middle

lemma parsedPmts_of_section {s : PacketState} {packet : TSPacket} {data : List UInt8} {pmt : PMT}
    (hsection : PMTSection data pmt) (hcarries : carriesPMT packet = true) {acc : PSIAccumulator}
    (hacc : s.pmtAccumulators.lookup packet.header.pid = some acc) {stuffing : List UInt8}
    (hbytes : accumulate acc packet = collect (data ++ stuffing)) :
    (s.processPacket packet).parsedPmts.lookup pmt.programNumber = some pmt := by
  have hcompleted : s.completedPMT packet = some pmt := by
    unfold completedPMT
    rw [if_pos hcarries, hacc, Option.bind_some, hbytes, collect_whole hsection.size hsection.pos,
      Option.bind_some, hsection.parsed]
    rfl
  rw [(processPacket_readsTables s packet).parsedPmts, hcompleted]
  exact AList.lookup_insert _

lemma parsedPmts_of_idle {s : PacketState} {packet : TSPacket}
    (hstart : packet.header.payloadUnitStart = false)
    (hacc : s.pmtAccumulators.lookup packet.header.pid = some {}) :
    (s.processPacket packet).parsedPmts = s.parsedPmts := by
  have hcompleted : s.completedPMT packet = none := by
    unfold completedPMT
    rw [hacc, Option.bind_some, accumulate_idle hstart]
    exact ite_self none
  rw [(processPacket_readsTables s packet).parsedPmts, hcompleted]
  rfl

lemma patsAccepted_other {packet : TSPacket} (h : packet.header.pid ≠ pidPat)
    (acc : PSIAccumulator) (packets : List TSPacket) :
    patsAccepted acc (packet :: packets) = patsAccepted acc packets := by
  have hnot : carriesPAT packet = false := by
    unfold carriesPAT
    simp [h]
  have hnone : completedPAT acc packet = none := by
    unfold completedPAT
    rw [hnot, if_neg (by decide)]
  rw [patsAccepted, hnone, (not_carriesPAT hnot acc).1]
  rfl

lemma patsAccepted_concat {packet : TSPacket} (h : packet.header.pid ≠ pidPat)
    (acc : PSIAccumulator) (packets : List TSPacket) :
    patsAccepted acc (packets ++ [packet]) = patsAccepted acc packets := by
  induction packets generalizing acc with
  | nil => exact patsAccepted_other h acc []
  | cons p packets ih => rw [List.cons_append, patsAccepted, ih, patsAccepted]

/-- A PMT PID has an accumulator once a PAT that lists it has been accepted. -/
theorem announced_of_patsAccepted {s : PacketState} {pid : UInt16} {packets : List TSPacket}
    {pat : PAT} (hpat : pat ∈ patsAccepted s.patAccumulator packets)
    (hpid : pat.announces pid = true) : pid ∈ (s.processPackets packets).pmtAccumulators := by
  induction packets generalizing s with
  | nil => cases hpat
  | cons packet packets ih =>
    have hreads := processPacket_readsTables s packet
    rw [patsAccepted, List.mem_append, Option.mem_toList] at hpat
    obtain hfirst | hlater := hpat
    · apply mem_pmtAccumulators_processPackets (s := s.processPacket packet)
      have hannounces : announces s.patAccumulator packet pid = true := by
        unfold announces
        rw [hfirst]
        exact hpid
      rw [← AList.lookup_isSome, hreads.pmtAccumulators, if_pos hannounces]
      rfl
    · rw [← hreads.patAccumulator] at hlater
      exact ih hlater

namespace CarriesSection

variable {pid : UInt16} {data : List UInt8} {first : TSPacket} {others : List TSPacket}

lemma first_bytes (h : CarriesSection pid data first others) :
    ∃ piece stuffing, first.payloadBytes = 0 :: piece ∧ 0 < piece.length ∧
      piece ++ others.flatMap TSPacket.payloadBytes = data ++ stuffing := by
  obtain ⟨stuffing, hbytes⟩ := h.bytes
  have hlen := h.first_piece
  rw [List.flatMap_cons] at hbytes
  cases hfirst : first.payloadBytes with
  | nil =>
    rw [hfirst, List.length_nil] at hlen
    omega
  | cons pointer piece =>
    rw [hfirst, List.cons_append] at hbytes
    rw [hfirst, List.length_cons] at hlen
    have hpointer := List.head_eq_of_cons_eq hbytes
    exact ⟨piece, stuffing, by rw [hpointer], by omega, List.tail_eq_of_cons_eq hbytes⟩

lemma short {last : TSPacket} (h : CarriesSection pid data first (others ++ [last]))
    {piece : List UInt8} (hpiece : first.payloadBytes = 0 :: piece) :
    (piece ++ others.flatMap TSPacket.payloadBytes).length < data.length := by
  have hlast := h.last_piece
  rw [← List.cons_append, List.dropLast_concat, List.flatMap_cons, hpiece, List.length_append,
    List.length_cons] at hlast
  rw [List.length_append]
  omega

lemma carriesPMT (h : CarriesSection pid data first others) (hpid : pid ≠ pidPat) :
    PacketState.carriesPMT first = true := by
  unfold PacketState.carriesPMT
  rw [h.pids first List.mem_cons_self, h.payloads first List.mem_cons_self]
  simpa using hpid

end CarriesSection

lemma assembled_after_first {s : PacketState} {pid : UInt16} (hpid : pid ≠ pidPat)
    {data part stuffing : List UInt8} {pmt : PMT} (hsection : PMTSection data pmt)
    (hacc : s.pmtAccumulators.lookup pid = some (collected part)) {middle : List TSPacket}
    {last : TSPacket} (hlast : last.header.pid = pid)
    (hpackets : ∀ packet ∈ middle ++ [last], packet.header.pid = pid →
      packet.hasPayload = true ∧ packet.header.payloadUnitStart = false)
    (hwhole : part ++ payloadsOf pid middle ++ last.payloadBytes = data ++ stuffing)
    (hshort : (part ++ payloadsOf pid middle).length < data.length) :
    (s.processPackets (middle ++ [last])).parsedPmts.lookup pmt.programNumber = some pmt ↔
      (patsAccepted s.patAccumulator middle).any (fun pat => pat.announces pid) = false ∨
      (s.processPackets middle).parsedPmts.lookup pmt.programNumber = some pmt := by
  subst hlast
  obtain ⟨hpayload, hstart⟩ := hpackets last (List.mem_append_right middle List.mem_cons_self) rfl
  have hpart := List.prefix_of_prefix_length_le ⟨_, hwhole⟩ (List.prefix_append data stuffing)
    hshort.le
  have hlookup := lookup_middle hsection hpid hacc
    (fun p hp => hpackets p (List.mem_append_left [last] hp)) hpart hshort
  have hend : s.processPackets (middle ++ [last]) = (s.processPackets middle).processPacket last := by
    rw [processPackets_append]
    rfl
  rw [hend]
  cases hany : (patsAccepted s.patAccumulator middle).any
    (fun pat => pat.announces last.header.pid) with
  | true =>
    rw [hany, if_pos rfl] at hlookup
    rw [parsedPmts_of_idle hstart hlookup]
    simp
  | false =>
    rw [hany, if_neg (by decide)] at hlookup
    have hcarries : carriesPMT last = true := by
      unfold carriesPMT
      rw [hpayload]
      simpa using hpid
    have hbytes : accumulate (collected (part ++ payloadsOf last.header.pid middle)) last =
        collect (data ++ stuffing) := by
      rw [accumulate_collected hstart, hwhole]
    have hstored := parsedPmts_of_section hsection hcarries hlookup hbytes
    exact ⟨fun _ => .inl rfl, fun _ => hstored⟩

/-- A PMT section is assembled exactly if no PAT that lists its PID is completed between its first
and its last packet, or if its PMT is already there before the last packet. -/
theorem pmt_assembled_iff {s : PacketState} {pid : UInt16} (hpid : pid ≠ pidPat)
    (hannounced : pid ∈ s.pmtAccumulators) {data : List UInt8} {pmt : PMT}
    (hsection : PMTSection data pmt) (front middle : List TSPacket) {first : TSPacket}
    (hcarries : CarriesSection pid data first (middle.filter (fun p => p.header.pid = pid)))
    (hlast : ∀ packet ∈ middle.getLast?, packet.header.pid = pid) :
    (s.processPackets (front ++ first :: middle)).parsedPmts.lookup pmt.programNumber = some pmt ↔
      (∀ pat ∈ patsAccepted (s.processPackets front).patAccumulator middle,
        pat.announces pid = false) ∨
      (s.processPackets (front ++ (first :: middle).dropLast)).parsedPmts.lookup
        pmt.programNumber = some pmt := by
  rw [processPackets_append, processPackets_append]
  set t := s.processPackets front with ht
  obtain ⟨piece, stuffing, hpiece, hpos, hwhole⟩ := hcarries.first_bytes
  have hfirst : first.header.pid = pid := hcarries.pids first List.mem_cons_self
  have hcarriesFirst := hcarries.carriesPMT hpid
  obtain ⟨acc, hacc⟩ : ∃ acc, t.pmtAccumulators.lookup pid = some acc := by
    have hmem := mem_pmtAccumulators_processPackets hannounced front
    rw [← AList.lookup_isSome] at hmem
    exact Option.isSome_iff_exists.mp hmem
  have hstart : accumulate acc first = collect piece :=
    accumulate_pointer hcarries.first_start hpiece hpos acc
  obtain rfl | ⟨rest, last, hconcat⟩ := List.eq_nil_or_concat middle
  · rw [List.filter_nil, List.flatMap_nil, List.append_nil] at hwhole
    rw [← hfirst] at hacc
    constructor
    · intro _
      left
      intro pat hpat
      cases hpat
    · intro _
      apply parsedPmts_of_section hsection hcarriesFirst hacc
      rw [hstart, hwhole]
  · rw [List.concat_eq_append] at hconcat
    subst hconcat
    have hlastPid : last.header.pid = pid := hlast last (by simp)
    have hfilter : (rest ++ [last]).filter (fun p => p.header.pid = pid) =
        rest.filter (fun p => p.header.pid = pid) ++ [last] := by
      rw [List.filter_append]
      simp [hlastPid]
    have hpackets : ∀ packet ∈ rest ++ [last], packet.header.pid = pid →
        packet.hasPayload = true ∧ packet.header.payloadUnitStart = false := by
      intro packet hpacket hq
      have hothers : packet ∈ (rest ++ [last]).filter (fun p => p.header.pid = pid) := by
        rw [List.mem_filter]
        exact ⟨hpacket, by simpa using hq⟩
      exact ⟨hcarries.payloads packet (List.mem_cons_of_mem first hothers),
        hcarries.others_start packet hothers⟩
    rw [hfilter] at hcarries hwhole
    have hshort := hcarries.short hpiece
    rw [List.flatMap_append, List.flatMap_singleton, ← List.append_assoc] at hwhole
    have hpart : piece <+: data := (List.prefix_append piece _).trans
      (List.prefix_of_prefix_length_le ⟨_, hwhole⟩ (List.prefix_append data stuffing) hshort.le)
    have hreads := processPacket_readsTables t first
    have hcollected : (t.processPacket first).pmtAccumulators.lookup pid = some (collected piece) := by
      have hnot : carriesPAT first = false := by
        unfold carriesPAT
        simp [hfirst, hpid]
      rw [hreads.pmtAccumulators, (not_carriesPAT hnot _).2, hacc, if_neg (by decide),
        Option.map_some]
      unfold nextPmt
      rw [hfirst, hcarriesFirst, hstart, collect_part hsection.size hpart
        (by rw [List.length_append] at hshort; omega)]
      simp
    have hmain := assembled_after_first hpid hsection hcollected hlastPid hpackets hwhole hshort
    have hpat : (t.processPacket first).patAccumulator = t.patAccumulator := by
      rw [hreads.patAccumulator]
      unfold nextPat carriesPAT
      simp [hfirst, hpid]
    rw [← List.cons_append, List.dropLast_concat, List.cons_append, processPackets_cons,
      processPackets_cons, hmain, hpat, patsAccepted_concat (by rw [hlastPid]; exact hpid),
      List.any_eq_false]
    simp only [Bool.not_eq_true]

/-! ### A repeated PAT -/

/-- A section with its CRC. -/
def withCRC (body : List UInt8) : List UInt8 :=
  let crc := PSIParser.calculateCRC32 body
  body ++ [(crc >>> 24).toUInt8, (crc >>> 16).toUInt8, (crc >>> 8).toUInt8, crc.toUInt8]

/-- A PAT section that lists the PMT PID 0x1000 for program 1. -/
def samplePATSection : List UInt8 :=
  withCRC [0x00, 0xB0, 0x0D, 0x00, 0x01, 0xC1, 0x00, 0x00, 0x00, 0x01, 0xF0, 0x00]

/-- A PMT section of program 1 with 180 bytes of descriptors and one stream. -/
def samplePMTSection : List UInt8 :=
  withCRC ([0x02, 0xB0, 0xC6, 0x00, 0x01, 0xC1, 0x00, 0x00, 0xE1, 0x00, 0xF0, 0xB4] ++
    List.replicate 180 0x00 ++ [0x1B, 0xE1, 0x00, 0xF0, 0x00])

def samplePMT : PMT :=
  { header :=
      { tableId := tableIdPmt
        sectionSyntaxIndicator := true
        sectionLength := 198
        tableIdExtension := 1
        currentNextIndicator := true }
    programNumber := 1
    pcrPid := 0x100
    programInfoLength := 180
    programDescriptors := List.replicate 180 0x00
    streams := [{ streamType := ⟨0x1B⟩, elementaryPid := 0x100 }]
    crc32 := PSIParser.calculateCRC32 (samplePMTSection.take 197) }

def patPacket : TSPacket :=
  plainTSPacket pidPat 0 true (0 :: samplePATSection ++ List.replicate 167 0xFF)

def pmtPacket1 : TSPacket := plainTSPacket 0x1000 0 true (0 :: samplePMTSection.take 183)

def pmtPacket2 : TSPacket :=
  plainTSPacket 0x1000 1 false (samplePMTSection.drop 183 ++ List.replicate 166 0xFF)

lemma pmtSection_sample : PMTSection samplePMTSection samplePMT := by
  constructor
  · decide +kernel
  · decide +kernel

lemma carriesSection_sample :
    CarriesSection 0x1000 samplePMTSection pmtPacket1 [pmtPacket2] := by
  refine ⟨by decide +kernel, by decide +kernel, rfl, by decide +kernel, by decide +kernel,
    by decide +kernel, List.replicate 166 0xFF, by decide +kernel⟩

theorem pmt_assembled_sample :
    (PacketState.processPackets (PacketState.processPackets {} [patPacket])
      [pmtPacket1, pmtPacket2]).parsedPmts.lookup samplePMT.programNumber = some samplePMT := by
  have h := pmt_assembled_iff (s := PacketState.processPackets {} [patPacket]) (by decide)
    (by decide +kernel) pmtSection_sample [] [pmtPacket2] carriesSection_sample (by decide +kernel)
  exact h.mpr (.inl (by decide +kernel))

/-- When the PAT is repeated between the two packets of the section, the PMT is lost. -/
theorem repeated_pat_loses_pmt :
    (0x1000 ∈ (PacketState.processPackets {} [patPacket]).pmtAccumulators) ∧
      PMTSection samplePMTSection samplePMT ∧
      CarriesSection 0x1000 samplePMTSection pmtPacket1
        ([patPacket, pmtPacket2].filter (fun p => p.header.pid = 0x1000)) ∧
      (PacketState.processPackets (PacketState.processPackets {} [patPacket])
        [pmtPacket1, patPacket, pmtPacket2]).parsedPmts.lookup samplePMT.programNumber = none := by
  refine ⟨by decide +kernel, pmtSection_sample, ?_, by decide +kernel⟩
  have hfilter : [patPacket, pmtPacket2].filter (fun p => p.header.pid = 0x1000) = [pmtPacket2] := by
    decide +kernel
  rw [hfilter]
  exact carriesSection_sample

end MinimalMpegTS
