import MinimalMpegTS.Proofs.Grouping
import MinimalMpegTS.Proofs.Queries

/-!
# Packet loss

A gap in the continuity counters of a PID shows that packets were lost. The demultiplexer reports
an iteration as discontinuous when one of its packets has the discontinuity indicator set and does
not carry the successor of the last counter, so a gap is reported exactly if such a packet is in the
iteration of the packet behind the gap.
-/

namespace MinimalMpegTS

open MPEGTSDemuxer

/-- Between the packet at the index and the payload-carrying packet before it, packets are missing:
its counter neither repeats the one before nor follows it. -/
structure LossAt (packets : List TSPacket) (k : Nat) (first second : TSPacket) : Prop where
  behind : packets[k]? = some second
  before : ∃ j < k, packets[j]? = some first ∧
    ∀ i p, j < i → i < k → packets[i]? = some p → p.hasPayload = false
  payloads : first.hasPayload = true ∧ second.hasPayload = true
  gap : second.header.continuityCounter ≠ first.header.continuityCounter ∧
    second.header.continuityCounter ≠ (first.header.continuityCounter + 1) % 16

/-- The item at index `k` of the joined parts is in the part at index `i`. -/
structure PartAt {α : Type} (parts : List (List α)) (k i : Nat) (part : List α) : Prop where
  index : parts[i]? = some part
  le : (parts.take i).flatten.length ≤ k
  lt : k < (parts.take i).flatten.length + part.length

/-- The packets of a PID. -/
def ownPackets (pid : UInt16) (packets : List TSPacket) : List TSPacket :=
  packets.filter (fun p => p.header.pid = pid)

/-- Every loss in the packets of the PID is reported in the summary of the iteration that contains
the packet behind the gap. -/
def LossFlagged (d : MPEGTSDemuxer) (pid : UInt16) (packets : List TSPacket) : Prop :=
  ∀ k first second, LossAt (ownPackets pid packets) k first second →
    ∃ i group info, PartAt (groupsOf pid packets) k i group ∧
      (d.getIterationsSummary pid).2[i]? = some info ∧ info.hasDiscontinuity = true

/-- Every packet behind a gap is in one iteration with a packet that has the discontinuity indicator
set and does not carry the successor of the last counter. -/
def LossAnnounced (pid : UInt16) (packets : List TSPacket) : Prop :=
  ∀ k first second, LossAt (ownPackets pid packets) k first second →
    ∃ i group, PartAt (groupsOf pid packets) k i group ∧ ∃ x ∈ group, CarriesDiscontinuity x

lemma hasDiscontinuity_groupInfo (group : List CountedPacket) :
    (groupInfo group).hasDiscontinuity = true ↔ ∃ x ∈ group, CarriesDiscontinuity x := by
  cases group with
  | nil =>
    constructor
    · intro h
      cases h
    · rintro ⟨x, hx, _⟩
      exact absurd hx List.not_mem_nil
  | cons x rest =>
    have hinfo : (groupInfo (x :: rest)).hasDiscontinuity =
        (iterationOf (x :: rest)).discontinuityDetected := rfl
    rw [hinfo, iterationOf_cons, List.any_eq_true]
    constructor
    · rintro ⟨y, hy, hann⟩
      exact ⟨y, hy, (announcedDiscontinuity_iff y).mp hann⟩
    · rintro ⟨y, hy, hann⟩
      exact ⟨y, hy, (announcedDiscontinuity_iff y).mpr hann⟩

lemma summary_processPackets (state : InputState) {s : PacketState} {pid : UInt16}
    (hstores : s.stores pid = true) (hempty : s.view pid = {}) (packets : List TSPacket) :
    summaryOf ⟨state, s.processPackets packets⟩ pid = (groupsOf pid packets).map groupInfo := by
  have hrep := PacketState.represents_foldl PacketState.processPacket_adds hstores
    (u := Batches.empty) (by rw [hempty]; exact StreamView.represents_empty) packets
  rw [hempty] at hrep
  rw [summaryOf_represents hrep, Batches.closed_pushes]
  rfl

/-- Packet loss is reported exactly if it is announced. -/
theorem loss_flagged_iff (state : InputState) {s : PacketState} {pid : UInt16}
    (hstores : s.stores pid = true) (hempty : s.view pid = {}) (packets : List TSPacket) :
    LossFlagged ⟨state, s.processPackets packets⟩ pid packets ↔ LossAnnounced pid packets := by
  have hsummary := summary_processPackets state hstores hempty packets
  have hlisted : ∀ (i : Nat) (group : List CountedPacket), (groupsOf pid packets)[i]? = some group →
      ∃ info : IterationInfo,
        ((⟨state, s.processPackets packets⟩ : MPEGTSDemuxer).getIterationsSummary pid).2[i]? =
          some info ∧ info.hasDiscontinuity = (groupInfo group).hasDiscontinuity := by
    intro i group hgroup
    have hinfo := congrArg (fun infos => infos[i]?) hsummary
    unfold summaryOf at hinfo
    simp only [List.getElem?_map, hgroup, Option.map_some, Option.map_eq_some_iff] at hinfo
    obtain ⟨info, hget, heq⟩ := hinfo
    refine ⟨info, hget, ?_⟩
    rw [← heq]
  constructor
  · intro h k first second hloss
    obtain ⟨i, group, info, hpart, hget, hflag⟩ := h k first second hloss
    refine ⟨i, group, hpart, ?_⟩
    obtain ⟨info', hget', hsame⟩ := hlisted i group hpart.index
    rw [hget, Option.some.injEq] at hget'
    rw [← hasDiscontinuity_groupInfo, ← hsame, ← hget']
    exact hflag
  · intro h k first second hloss
    obtain ⟨i, group, hpart, hann⟩ := h k first second hloss
    obtain ⟨info, hget, hsame⟩ := hlisted i group hpart.index
    refine ⟨i, group, info, hpart, hget, ?_⟩
    rw [hsame, hasDiscontinuity_groupInfo]
    exact hann

/-- A packet, and one behind a gap with the discontinuity indicator set. -/
def announcedLoss : List TSPacket :=
  [plainTSPacket 0x100 0 true [],
    { plainTSPacket 0x100 7 false [] with
      hasAdaptation := true, adaptationField := { discontinuityIndicator := true } }]

theorem loss_flagged_announced :
    LossFlagged ⟨{}, PacketState.processPackets {} announcedLoss⟩ 0x100 announcedLoss := by
  have hgroups : groupsOf 0x100 announcedLoss =
      [[((none, announcedLoss[0]) : CountedPacket), (some 0, announcedLoss[1])]] := by decide
  refine (loss_flagged_iff {} (by decide) rfl announcedLoss).mpr ?_
  intro k first second hloss
  have hone : k = 1 := by
    obtain ⟨j, hj, _⟩ := hloss.before
    obtain ⟨hlt, _⟩ := List.getElem?_eq_some_iff.mp hloss.behind
    have hlength : (ownPackets 0x100 announcedLoss).length = 2 := by decide
    omega
  refine ⟨0, _, ⟨congrArg (fun groups => groups[0]?) hgroups, ?_, ?_⟩, (some 0, announcedLoss[1]), ?_, ?_⟩
  · exact Nat.zero_le k
  · rw [hone]
    decide
  · exact List.mem_cons_of_mem _ List.mem_cons_self
  · exact ⟨⟨_, rfl, rfl⟩, 0, rfl, by decide⟩

/-- Three packets of a unit, and a packet with the counter 7 behind them. -/
def lossStream : List UInt8 :=
  threePackets ++ plainPacket 0x100 7 false (List.replicate 184 0xAA)

/-- The four packets are in one iteration, which is listed without a discontinuity. -/
theorem loss_not_flagged : ¬LossFlagged (run {} [.feedData lossStream]) 0x100
    (processedPackets {} [.feedData lossStream]) := by
  have hcounters : (ownPackets 0x100 (processedPackets {} [.feedData lossStream])).map
      (fun p => (p.header.continuityCounter, p.hasPayload)) =
        [(0, true), (1, true), (2, true), (7, true)] := by decide +kernel
  have hsummary : ((run {} [.feedData lossStream]).getIterationsSummary 0x100).2.map
      IterationInfo.hasDiscontinuity = [false] := by decide +kernel
  intro h
  obtain ⟨p0, ps, hpackets, _, hps⟩ := List.map_eq_cons_iff.mp hcounters
  obtain ⟨p1, ps', hps', _, hps⟩ := List.map_eq_cons_iff.mp hps
  obtain ⟨p2, ps'', hps'', h2, hps⟩ := List.map_eq_cons_iff.mp hps
  obtain ⟨p3, ps3, hps3, h3, _⟩ := List.map_eq_cons_iff.mp hps
  obtain ⟨hcc2, hload2⟩ := Prod.mk.inj h2
  obtain ⟨hcc3, hload3⟩ := Prod.mk.inj h3
  have hloss : LossAt (ownPackets 0x100 (processedPackets {} [.feedData lossStream])) 3 p2 p3 := by
    rw [hpackets, hps', hps'', hps3]
    refine ⟨rfl, ⟨2, by decide, rfl, ?_⟩, ⟨hload2, hload3⟩, ?_⟩
    · intro i p hlow hhigh
      omega
    · rw [hcc2, hcc3]
      decide
  obtain ⟨i, group, info, _, hget, hflag⟩ := h 3 p2 p3 hloss
  have hnone : ∀ info ∈ ((run {} [.feedData lossStream]).getIterationsSummary 0x100).2,
      info.hasDiscontinuity = false := by
    intro info hinfo
    have hmem := List.mem_map_of_mem (f := IterationInfo.hasDiscontinuity) hinfo
    rw [hsummary, List.mem_singleton] at hmem
    exact hmem
  rw [hnone info (List.mem_of_getElem? hget)] at hflag
  cases hflag

end MinimalMpegTS
