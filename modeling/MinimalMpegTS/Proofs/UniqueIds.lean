import MinimalMpegTS.Proofs.Calls
import MinimalMpegTS.Proofs.Packets

/-!
# Uniqueness of iteration ids

Ids are unique in every run that sets no program table while an iteration is pending.
`setProgramsTable` resets the counter of the storage and keeps the pending iterations, so
otherwise an id can be handed out a second time.
-/

namespace MinimalMpegTS

open MPEGTSDemuxer

/-- The ids of all stored and pending iterations are distinct, and every listed iteration is
retrieved under its id. -/
structure UniqueIds (d : MPEGTSDemuxer) : Prop where
  nodup : ∀ pid, (d.view pid).ids.Nodup
  disjoint : ∀ p q, p ≠ q → (d.view p).ids.Disjoint (d.view q).ids
  retrievable : ∀ pid, List.Forall₂
    (fun info entry => info = iterationInfo entry.1 entry.2 ∧
      (d.getIterationsSummary pid).1.getAllPayloads pid info.iterationId =
        entry.2.payloads.map (payloadBuffer entry.2))
    (d.getIterationsSummary pid).2 ((d.getIterationsSummary pid).1.storage.iterationsOf pid)

lemma getIterationsSummary_eq (d : MPEGTSDemuxer) (pid : UInt16) :
    (d.getIterationsSummary pid).2 =
      (d.finalized.storage.iterationsOf pid).map (fun entry => iterationInfo entry.1 entry.2) := by
  unfold getIterationsSummary DemuxerStreamStorage.iterationsOf
  dsimp only
  cases d.finalized.storage.getStream pid with
  | none => rfl
  | some stream => rfl

lemma findIteration_eq (d : MPEGTSDemuxer) (pid : UInt16) (iterId : UInt32) :
    d.findIteration pid iterId =
      ((d.storage.iterationsOf pid).find? (fun pair => pair.1 == iterId)).map Prod.snd := by
  unfold findIteration DemuxerStreamStorage.iterationsOf
  cases d.storage.getStream pid with
  | none => rfl
  | some stream => rfl

lemma find?_of_nodup {l : List (UInt32 × IterationData)} (h : (l.map Prod.fst).Nodup)
    {entry : UInt32 × IterationData} (hmem : entry ∈ l) :
    l.find? (fun pair => pair.1 == entry.1) = some entry := by
  induction l with
  | nil => exact absurd hmem List.not_mem_nil
  | cons first l ih =>
    rw [List.map_cons, List.nodup_cons] at h
    rcases List.mem_cons.mp hmem with rfl | hmem
    · simp
    · have hne : first.1 ≠ entry.1 := by
        intro heq
        exact h.1 (heq ▸ List.mem_map_of_mem hmem)
      rw [List.find?_cons_of_neg (by simpa using hne)]
      exact ih h.2 hmem

lemma getAllPayloads_of_nodup {d : MPEGTSDemuxer} {pid : UInt16}
    (h : ((d.storage.iterationsOf pid).map Prod.fst).Nodup) {entry : UInt32 × IterationData}
    (hmem : entry ∈ d.storage.iterationsOf pid) :
    d.getAllPayloads pid entry.1 = entry.2.payloads.map (payloadBuffer entry.2) := by
  unfold getAllPayloads
  rw [findIteration_eq, find?_of_nodup h hmem]
  rfl

lemma retrievable_of_nodup {d : MPEGTSDemuxer} {pid : UInt16}
    (h : ((d.finalized.storage.iterationsOf pid).map Prod.fst).Nodup) :
    List.Forall₂ (fun info entry => info = iterationInfo entry.1 entry.2 ∧
      (d.getIterationsSummary pid).1.getAllPayloads pid info.iterationId =
        entry.2.payloads.map (payloadBuffer entry.2))
      (d.getIterationsSummary pid).2 ((d.getIterationsSummary pid).1.storage.iterationsOf pid) := by
  have hstate : (d.getIterationsSummary pid).1 = d.finalized := rfl
  rw [getIterationsSummary_eq, hstate, List.forall₂_map_left_iff, List.forall₂_same]
  intro entry hmem
  exact ⟨rfl, getAllPayloads_of_nodup h hmem⟩

/-- Distinct numbers give distinct ids until the counter comes back to its start. -/
theorem uniqueIds_of_numbered {d : MPEGTSDemuxer} {count : Nat} {numbers : UInt16 → List Nat}
    (h : Numbered d.toPacketState count numbers) (hcount : count ≤ 2 ^ 32) : UniqueIds d := by
  refine ⟨h.ids_nodup hcount, ?_, ?_⟩
  · intro p q hpq
    exact h.ids_disjoint hcount hpq
  · intro pid
    apply retrievable_of_nodup
    have hfin := h.finalizeAll.ids_nodup hcount pid
    exact hfin.sublist (List.sublist_append_left _ _)

/-- In every run that generates fewer than `2 ^ 32` iterations and sets program tables only when
no iteration is pending, ids are unique and every listed iteration is retrievable. -/
theorem run_uniqueIds (calls : List Call)
    (hguard : Transducer.Along call SetsTableWhenIdle {} calls)
    (hcount : generatedIterations {} calls < 2 ^ 32) : UniqueIds (run {} calls) := by
  obtain ⟨count, numbers, hnum, hle⟩ := numbered_run hguard
  exact uniqueIds_of_numbered hnum (hle.trans hcount.le)

/-- Three packets of one unit, and the next unit of the PID. -/
def unitCalls : List Call :=
  [.feedData (plainPacket 0x100 0 true (List.replicate 184 0xAA) ++
      plainPacket 0x100 1 false (List.replicate 184 0xAA) ++
      plainPacket 0x100 2 false (List.replicate 184 0xAA)),
    .feedData (plainPacket 0x100 3 true (List.replicate 184 0xBB))]

theorem run_uniqueIds_unitCalls : UniqueIds (run {} unitCalls) := by
  refine run_uniqueIds unitCalls ⟨?_, ?_, trivial⟩ (by decide +kernel)
  · intro table h
    cases h
  · intro table h
    cases h

/-- The same data with a program table set in between. -/
def tableOverPendingCalls : List Call :=
  [unitCalls[0], .setProgramsTable ⟨AList.singleton 1 [0x100]⟩, unitCalls[1]]

/-- Both units then get the id 1, and the second one cannot be retrieved. -/
theorem table_over_pending_repeats_id :
    generatedIterations {} tableOverPendingCalls < 2 ^ 32 ∧
      ((run {} tableOverPendingCalls).view 0x100).ids = [1, 1] ∧
      ¬UniqueIds (run {} tableOverPendingCalls) := by
  have hids : ((run {} tableOverPendingCalls).view 0x100).ids = [1, 1] := by decide +kernel
  refine ⟨by decide +kernel, hids, ?_⟩
  intro h
  have hnodup := h.nodup 0x100
  rw [hids] at hnodup
  simp at hnodup

end MinimalMpegTS
