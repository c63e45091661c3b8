import MinimalMpegTS.Proofs.Store

/-!
# The tables read from the stream

What an accumulator holds is the beginning of a section, and a payload either extends it or
completes the section. Processing a packet changes the PAT accumulator, the accumulators of the
announced PMT PIDs and the parsed PMTs as `nextPat`, `nextPmt` and `completedPMT` say, and nothing
else of the packet state plays a part in it.
-/

namespace MinimalMpegTS

/-! ### Sections -/

namespace PSIAccumulator

/-- The size of the section that starts with these bytes, 0 if its length field is not there yet. -/
def sectionSize : List UInt8 → Nat
  | _ :: byte1 :: byte2 :: _ => 3 + (((byte1 &&& 0x0F).toUInt16 <<< 8) ||| byte2.toUInt16).toNat
  | _ => 0

/-- The bytes hold a whole section. -/
def Complete (data : List UInt8) : Prop := 0 < sectionSize data ∧ sectionSize data ≤ data.length

instance (data : List UInt8) : Decidable (Complete data) :=
  inferInstanceAs (Decidable (_ ∧ _))

/-- The accumulator that has received the beginning of a section. -/
def collected (data : List UInt8) : PSIAccumulator :=
  { buffer := data, expectedLength := sectionSize data, synced := true }

/-- What the bytes since the start of a section lead to: the accumulator and the section. -/
def collect (data : List UInt8) : PSIAccumulator × Option (List UInt8) :=
  if Complete data then ({}, some (data.take (sectionSize data))) else (collected data, none)

/-- The accumulator waits for a start, or it holds the beginning of a section. -/
def Coherent (acc : PSIAccumulator) : Prop :=
  acc = {} ∨ ∃ data, ¬Complete data ∧ acc = collected data

lemma sectionSize_short {data : List UInt8} (h : data.length < 3) : sectionSize data = 0 := by
  match data with
  | [] => rfl
  | [_] => rfl
  | [_, _] => rfl
  | _ :: _ :: _ :: _ =>
    simp only [List.length_cons] at h
    omega

lemma three_le_sectionSize {data : List UInt8} (h : 3 ≤ data.length) : 3 ≤ sectionSize data := by
  match data with
  | [] => simp at h
  | [_] => simp at h
  | [_, _] => simp at h
  | _ :: _ :: _ :: _ => exact Nat.le_add_right _ _

lemma sectionSize_append {front : List UInt8} (h : 3 ≤ front.length) (back : List UInt8) :
    sectionSize (front ++ back) = sectionSize front := by
  match front with
  | [] => simp at h
  | [_] => simp at h
  | [_, _] => simp at h
  | _ :: _ :: _ :: _ => rfl

lemma not_complete_short {data : List UInt8} (h : data.length < 3) : ¬Complete data := by
  unfold Complete
  rw [sectionSize_short h]
  omega

lemma collect_whole {data : List UInt8} (hsize : sectionSize data = data.length)
    (hpos : 0 < data.length) (stuffing : List UInt8) :
    collect (data ++ stuffing) = ({}, some data) := by
  have hthree : 3 ≤ data.length := by
    by_contra hlt
    rw [sectionSize_short (by omega)] at hsize
    omega
  have happend : sectionSize (data ++ stuffing) = data.length := by
    rw [sectionSize_append hthree, hsize]
  have hcomplete : Complete (data ++ stuffing) := by
    unfold Complete
    rw [happend, List.length_append]
    omega
  unfold collect
  rw [if_pos hcomplete, happend, List.take_left]

lemma collect_part {data part : List UInt8} (hsize : sectionSize data = data.length)
    (hpart : part <+: data) (hlt : part.length < data.length) :
    collect part = (collected part, none) := by
  have hnot : ¬Complete part := by
    by_cases hthree : 3 ≤ part.length
    · obtain ⟨back, rfl⟩ := hpart
      rw [sectionSize_append hthree] at hsize
      unfold Complete
      omega
    · exact not_complete_short (by omega)
  unfold collect
  rw [if_neg hnot]

lemma append_eq {acc : PSIAccumulator} (h : acc.synced = true) {data buffer : List UInt8}
    (hbuffer : acc.buffer ++ data = buffer) {size : Nat}
    (hsize : (if acc.expectedLength = 0 then sectionSize buffer else acc.expectedLength) = size) :
    acc.append data = if 0 < size ∧ size ≤ buffer.length then
      ({ acc with buffer := buffer, expectedLength := size, complete := true }, true)
      else ({ acc with buffer := buffer, expectedLength := size }, false) := by
  subst hsize
  have hshort : sectionSize buffer = 0 → (if acc.expectedLength = 0 then sectionSize buffer
      else acc.expectedLength) = acc.expectedLength := by
    intro hzero
    split
    · rename_i hexpected
      rw [hzero, hexpected]
    · rfl
  unfold append
  rw [h, hbuffer]
  match buffer with
  | [] =>
    rw [hshort rfl]
    simp
  | [_] =>
    rw [hshort rfl]
    simp
  | [_, _] =>
    rw [hshort rfl]
    simp
  | _ :: _ :: _ :: _ => simp [sectionSize]

lemma sectionSize_known (front data : List UInt8) :
    (if sectionSize front = 0 then sectionSize (front ++ data) else sectionSize front) =
      sectionSize (front ++ data) := by
  by_cases hlen : 3 ≤ front.length
  · rw [sectionSize_append hlen, ite_self]
  · rw [if_pos (sectionSize_short (by omega))]

lemma append_collected (front data : List UInt8) :
    (collected front).append data = if Complete (front ++ data) then
      ({ collected (front ++ data) with complete := true }, true)
      else (collected (front ++ data), false) := append_eq rfl rfl (sectionSize_known front data)

end PSIAccumulator

/-- The PAT lists a PMT PID for some program. -/
def PAT.announces (pat : PAT) (pid : UInt16) : Bool :=
  pat.programs.any (fun entry => entry.programNumber != 0 && entry.pid == pid)

namespace PacketState

open PSIAccumulator

lemma accumulate_of_append {acc : PSIAccumulator} {packet : TSPacket} {data : List UInt8}
    {front : List UInt8} (h : acc.addData packet.payloadBytes packet.header.payloadUnitStart =
      (collected front).append data) : accumulate acc packet = collect (front ++ data) := by
  unfold accumulate collect
  rw [h, append_collected]
  by_cases hcomplete : Complete (front ++ data)
  · rw [if_pos hcomplete, if_pos hcomplete]
    have hpos : (front ++ data).take (sectionSize (front ++ data)) ≠ [] := by
      intro hnil
      have hlen := congrArg List.length hnil
      rw [List.length_take, List.length_nil] at hlen
      have hle := hcomplete.2
      have hlt := hcomplete.1
      omega
    obtain ⟨byte, rest, hcons⟩ := List.exists_cons_of_ne_nil hpos
    have hsection : ({ collected (front ++ data) with complete := true } : PSIAccumulator).getSection =
        ({}, some ((front ++ data).take (sectionSize (front ++ data)))) := rfl
    simp only [hsection, hcons]
  · rw [if_neg hcomplete, if_neg hcomplete]

lemma accumulate_collected {packet : TSPacket} (h : packet.header.payloadUnitStart = false)
    (front : List UInt8) :
    accumulate (collected front) packet = collect (front ++ packet.payloadBytes) := by
  apply accumulate_of_append
  unfold addData
  rw [h]
  rfl

lemma accumulate_idle {packet : TSPacket} (h : packet.header.payloadUnitStart = false) :
    accumulate {} packet = ({}, none) := by
  unfold accumulate addData
  rw [h]
  rfl

lemma accumulate_start {packet : TSPacket} (h : packet.header.payloadUnitStart = true)
    (acc : PSIAccumulator) : accumulate acc packet = accumulate {} packet := by
  unfold accumulate addData
  rw [h]
  rfl

lemma accumulate_pointer {packet : TSPacket} (h : packet.header.payloadUnitStart = true)
    {pointer : UInt8} {rest : List UInt8} (hbytes : packet.payloadBytes = pointer :: rest)
    (hlt : pointer.toNat < rest.length) (acc : PSIAccumulator) :
    accumulate acc packet = collect (rest.drop pointer.toNat) := by
  rw [← List.nil_append (rest.drop _)]
  apply accumulate_of_append
  unfold addData
  rw [h, hbytes]
  simp only [if_pos hlt, if_true]
  rfl

lemma coherent_collect (data : List UInt8) : Coherent (collect data).1 := by
  unfold collect
  by_cases h : Complete data
  · rw [if_pos h]
    exact .inl rfl
  · rw [if_neg h]
    exact .inr ⟨data, h, rfl⟩

/-- Accumulators stay coherent. -/
theorem coherent_accumulate {acc : PSIAccumulator} (hacc : Coherent acc) (packet : TSPacket) :
    Coherent (accumulate acc packet).1 := by
  cases hstart : packet.header.payloadUnitStart with
  | true =>
    cases hbytes : packet.payloadBytes with
    | nil =>
      have hcollect : accumulate acc packet = collect ([] ++ []) := by
        apply accumulate_of_append
        unfold addData
        rw [hstart, hbytes]
        rfl
      rw [hcollect]
      exact coherent_collect _
    | cons pointer rest =>
      by_cases hlt : pointer.toNat < rest.length
      · rw [accumulate_pointer hstart hbytes hlt]
        exact coherent_collect _
      · left
        unfold accumulate addData
        rw [hstart, hbytes]
        simp only [if_neg hlt, if_true]
        rfl
  | false =>
    obtain rfl | ⟨data, _, rfl⟩ := hacc
    · rw [accumulate_idle hstart]
      exact .inl rfl
    · rw [accumulate_collected hstart]
      exact coherent_collect _

/-! ### What a packet does to the tables -/

/-- The packet is read as a part of the PAT. -/
def carriesPAT (packet : TSPacket) : Bool := packet.header.pid = pidPat && packet.hasPayload

/-- The PAT accumulator after a packet. -/
def nextPat (acc : PSIAccumulator) (packet : TSPacket) : PSIAccumulator :=
  if carriesPAT packet then (accumulate acc packet).1 else acc

/-- The PAT that a packet completes. -/
def completedPAT (acc : PSIAccumulator) (packet : TSPacket) : Option PAT :=
  if carriesPAT packet then
    (accumulate acc packet).2.bind (fun data => tableOf (PSIParser.parsePAT {} data))
  else none

/-- The packet is read as a part of a PMT, if its PID has an accumulator. -/
def carriesPMT (packet : TSPacket) : Bool := packet.header.pid != pidPat && packet.hasPayload

/-- The accumulator of a PMT PID after a packet. -/
def nextPmt (pid : UInt16) (acc : PSIAccumulator) (packet : TSPacket) : PSIAccumulator :=
  if packet.header.pid = pid && carriesPMT packet then (accumulate acc packet).1 else acc

/-- The PMT that a packet completes. -/
def completedPMT (self : PacketState) (packet : TSPacket) : Option PMT :=
  if carriesPMT packet then
    (self.pmtAccumulators.lookup packet.header.pid).bind (fun acc =>
      (accumulate acc packet).2.bind (fun data => tableOf (PSIParser.parsePMT {} data)))
  else none

/-- The packet completes a PAT that lists the PMT PID. -/
def announces (acc : PSIAccumulator) (packet : TSPacket) (pid : UInt16) : Bool :=
  (completedPAT acc packet).any (fun pat => pat.announces pid)

lemma lookup_createAccumulators (programs : List PATEntry) (accumulators : PidMap PSIAccumulator)
    (pid : UInt16) : (createAccumulators accumulators programs).lookup pid =
      if programs.any (fun entry => entry.programNumber != 0 && entry.pid == pid) then some {}
      else accumulators.lookup pid := by
  induction programs generalizing accumulators with
  | nil => rfl
  | cons entry programs ih =>
    have hcons : createAccumulators accumulators (entry :: programs) = createAccumulators
        (if entry.programNumber ≠ 0 then accumulators.insert entry.pid {} else accumulators)
        programs := rfl
    rw [hcons, ih, List.any_cons]
    by_cases hany : programs.any (fun entry => entry.programNumber != 0 && entry.pid == pid) = true
    · rw [hany, Bool.or_true]
      rfl
    · rw [Bool.not_eq_true] at hany
      rw [hany, Bool.or_false, if_neg (by decide)]
      by_cases hzero : entry.programNumber = 0
      · simp [hzero]
      · by_cases hpid : entry.pid = pid
        · subst hpid
          simp [hzero]
        · simp [hzero, hpid, AList.lookup_insert_ne (Ne.symm hpid)]

lemma processPCR_tables (s : PacketState) (packet : TSPacket) :
    (s.processPCR packet).patAccumulator = s.patAccumulator ∧
      (s.processPCR packet).pmtAccumulators = s.pmtAccumulators ∧
      (s.processPCR packet).parsedPmts = s.parsedPmts := by
  unfold processPCR
  split
  · exact ⟨rfl, rfl, rfl⟩
  · dsimp only
    split <;> exact ⟨rfl, rfl, rfl⟩

lemma processPacket_tables (s : PacketState) (packet : TSPacket) :
    (s.processPacket packet).patAccumulator = (s.processPSIPacket packet).patAccumulator ∧
      (s.processPacket packet).pmtAccumulators = (s.processPSIPacket packet).pmtAccumulators ∧
      (s.processPacket packet).parsedPmts = (s.processPSIPacket packet).parsedPmts := by
  obtain ⟨hpat, hpmt, hparsed⟩ := processPCR_tables (s.processPSIPacket packet) packet
  have hsame := addPacketToStorage_sameTables (s.readTables packet) packet
  rw [processPacket_eq]
  exact ⟨hsame.patAccumulator.trans hpat, hsame.pmtAccumulators.trans hpmt,
    hsame.parsedPmts.trans hparsed⟩

/-- What a packet does to the accumulators and the parsed PMTs. -/
structure ReadsTables (s : PacketState) (packet : TSPacket) (s' : PacketState) : Prop where
  patAccumulator : s'.patAccumulator = nextPat s.patAccumulator packet
  pmtAccumulators : ∀ pid, s'.pmtAccumulators.lookup pid =
    if announces s.patAccumulator packet pid then some {}
    else (s.pmtAccumulators.lookup pid).map (fun acc => nextPmt pid acc packet)
  parsedPmts : s'.parsedPmts =
    (s.completedPMT packet).elim s.parsedPmts (fun pmt => s.parsedPmts.insert pmt.programNumber pmt)

lemma carriesPMT_of_carriesPAT {packet : TSPacket} (h : carriesPAT packet = true) :
    carriesPMT packet = false := by
  unfold carriesPAT at h
  unfold carriesPMT
  simp_all

lemma not_carriesPMT {packet : TSPacket} (h : carriesPMT packet = false) (s : PacketState) :
    s.completedPMT packet = none ∧ ∀ pid, (s.pmtAccumulators.lookup pid).map
      (fun acc => nextPmt pid acc packet) = s.pmtAccumulators.lookup pid := by
  constructor
  · unfold completedPMT
    rw [h, if_neg (by decide)]
  · intro pid
    unfold nextPmt
    simp only [h, Bool.and_false, Bool.false_eq_true, if_false, Option.map_id']

lemma not_carriesPAT {packet : TSPacket} (h : carriesPAT packet = false) (acc : PSIAccumulator) :
    nextPat acc packet = acc ∧ ∀ pid, announces acc packet pid = false := by
  constructor
  · unfold nextPat
    rw [h, if_neg (by decide)]
  · intro pid
    unfold announces completedPAT
    rw [h, if_neg (by decide)]
    rfl

lemma readsTables_of_carriesPAT (s : PacketState) {packet : TSPacket}
    (h : carriesPAT packet = true) : ReadsTables s packet (s.processPSIPacket packet) := by
  obtain ⟨hcompleted, hnext⟩ := not_carriesPMT (carriesPMT_of_carriesPAT h) s
  have hif : (decide (packet.header.pid = pidPat) && packet.hasPayload) = true := h
  have hpat : nextPat s.patAccumulator packet = (accumulate s.patAccumulator packet).1 := if_pos h
  have htable : completedPAT s.patAccumulator packet = (accumulate s.patAccumulator packet).2.bind
      (fun data => tableOf (PSIParser.parsePAT {} data)) := if_pos h
  unfold processPSIPacket
  rw [if_pos hif]
  dsimp only
  split
  · rename_i pat hsome
    refine ⟨hpat.symm, ?_, ?_⟩
    · intro pid
      have hannounces : announces s.patAccumulator packet pid = pat.announces pid := by
        unfold announces
        rw [htable, hsome]
        rfl
      rw [hannounces, hnext]
      exact lookup_createAccumulators pat.programs s.pmtAccumulators pid
    · rw [hcompleted]
      rfl
  · rename_i hnone
    refine ⟨hpat.symm, ?_, ?_⟩
    · intro pid
      have hannounces : announces s.patAccumulator packet pid = false := by
        unfold announces
        rw [htable, hnone]
        rfl
      rw [hannounces, hnext]
      rfl
    · rw [hcompleted]
      rfl

lemma readsTables_of_carriesPMT (s : PacketState) {packet : TSPacket}
    (h : carriesPMT packet = true) {acc : PSIAccumulator}
    (hacc : s.pmtAccumulators.lookup packet.header.pid = some acc) :
    ReadsTables s packet (s.processPSIPacket packet) := by
  have hpid : packet.header.pid ≠ pidPat ∧ packet.hasPayload = true := by
    simpa [carriesPMT] using h
  have hnot : carriesPAT packet = false := by
    unfold carriesPAT
    simp [hpid.1]
  obtain ⟨hpat, hannounces⟩ := not_carriesPAT hnot s.patAccumulator
  have hif : ¬(decide (packet.header.pid = pidPat) && packet.hasPayload) = true := by
    simp [hpid.1]
  have htable : s.completedPMT packet = (accumulate acc packet).2.bind
      (fun data => tableOf (PSIParser.parsePMT {} data)) := by
    unfold completedPMT
    rw [if_pos h, hacc]
    rfl
  have hlookup : ∀ pid, (s.pmtAccumulators.insert packet.header.pid
      (accumulate acc packet).1).lookup pid =
        if announces s.patAccumulator packet pid then some {}
        else (s.pmtAccumulators.lookup pid).map (fun acc => nextPmt pid acc packet) := by
    intro pid
    rw [hannounces, if_neg (by decide)]
    unfold nextPmt
    by_cases heq : pid = packet.header.pid
    · subst heq
      simp [hacc, h]
    · simp [AList.lookup_insert_ne heq, Ne.symm heq]
  unfold processPSIPacket
  rw [if_neg hif, hacc]
  dsimp only
  rw [if_pos hpid.2]
  split
  · rename_i pmt hsome
    refine ⟨hpat.symm, hlookup, ?_⟩
    rw [htable, hsome]
    rfl
  · rename_i hnone
    refine ⟨hpat.symm, hlookup, ?_⟩
    rw [htable, hnone]
    rfl

lemma readsTables_of_neither (s : PacketState) {packet : TSPacket} (hnot : carriesPAT packet = false)
    (h : carriesPMT packet = false ∨ s.pmtAccumulators.lookup packet.header.pid = none) :
    ReadsTables s packet (s.processPSIPacket packet) := by
  obtain ⟨hpat, hannounces⟩ := not_carriesPAT hnot s.patAccumulator
  have hif : (decide (packet.header.pid = pidPat) && packet.hasPayload) = false := hnot
  have hsame : s.processPSIPacket packet = s := by
    unfold processPSIPacket
    rw [hif, if_neg (by decide)]
    cases hacc : s.pmtAccumulators.lookup packet.header.pid with
    | none => rfl
    | some acc =>
      have hpayload : packet.hasPayload = false := by
        rw [hacc] at h
        simp only [reduceCtorEq, or_false] at h
        unfold carriesPMT at h
        unfold carriesPAT at hnot
        by_contra hne
        simp_all
      simp [hpayload]
  rw [hsame]
  refine ⟨hpat.symm, ?_, ?_⟩
  · intro pid
    rw [hannounces, if_neg (by decide)]
    obtain hnone | hnone := h
    · exact ((not_carriesPMT hnone s).2 pid).symm
    · by_cases heq : packet.header.pid = pid
      · rw [← heq, hnone]
        rfl
      · unfold nextPmt
        simp [heq]
  · have hcompleted : s.completedPMT packet = none := by
      obtain hnone | hnone := h
      · exact (not_carriesPMT hnone s).1
      · unfold completedPMT
        rw [hnone]
        exact ite_self none
    rw [hcompleted]
    rfl

/-- Every packet reads the tables so. -/
theorem processPacket_readsTables (s : PacketState) (packet : TSPacket) :
    ReadsTables s packet (s.processPacket packet) := by
  have h : ReadsTables s packet (s.processPSIPacket packet) := by
    cases hpat : carriesPAT packet with
    | true => exact readsTables_of_carriesPAT s hpat
    | false =>
      cases hpmt : carriesPMT packet with
      | false => exact readsTables_of_neither s hpat (.inl hpmt)
      | true =>
        cases hacc : s.pmtAccumulators.lookup packet.header.pid with
        | none => exact readsTables_of_neither s hpat (.inr hacc)
        | some acc => exact readsTables_of_carriesPMT s hpmt hacc
  obtain ⟨hpat, hpmt, hparsed⟩ := processPacket_tables s packet
  refine ⟨hpat.trans h.patAccumulator, ?_, hparsed.trans h.parsedPmts⟩
  intro pid
  rw [hpmt]
  exact h.pmtAccumulators pid

lemma mem_pmtAccumulators_processPackets {s : PacketState} {pid : UInt16}
    (h : pid ∈ s.pmtAccumulators) (packets : List TSPacket) :
    pid ∈ (s.processPackets packets).pmtAccumulators := by
  induction packets generalizing s with
  | nil => exact h
  | cons packet packets ih =>
    apply ih
    rw [← AList.lookup_isSome, (processPacket_readsTables s packet).pmtAccumulators]
    split
    · rfl
    · rw [Option.isSome_map, AList.lookup_isSome]
      exact h

end PacketState

end MinimalMpegTS
