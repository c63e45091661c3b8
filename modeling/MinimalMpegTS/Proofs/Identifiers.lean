import MinimalMpegTS.Proofs.Store

/-!
# Iteration ids

The ids of the stored and the pending iteration of a PID, in order, are the ids of some of the
iterations generated since the id counter was last reset. `Numbered` says which of them, as
natural numbers, so that the wrap of the 32-bit counter shows only where the ids are compared.
-/

namespace MinimalMpegTS

namespace StreamView

/-- The ids of the stored iterations and of the pending one. -/
def ids (v : StreamView) : List UInt32 :=
  v.stored.map Prod.fst ++ (v.pending.map (fun _ => v.pendingId.getD 0)).toList

@[simp] lemma ids_finalize (v : StreamView) (pid : UInt16) : (v.finalize pid).ids = v.ids := by
  unfold ids
  rw [pending_finalize, stored_finalize]
  cases v.pending with
  | none => simp
  | some iteration => simp

lemma ids_of_pending_none {v : StreamView} (h : v.pending = none) :
    v.ids = v.stored.map Prod.fst := by
  unfold ids
  rw [h]
  simp

lemma ids_add (v : StreamView) (iterId : UInt32) (packet : TSPacket) :
    (v.add iterId packet).ids = if v.starts packet.header then v.ids ++ [iterId] else v.ids := by
  by_cases h : v.starts packet.header = true
  · have hstored := ids_of_pending_none (pending_finalize v packet.header.pid)
    rw [ids_finalize] at hstored
    unfold ids at hstored ⊢
    rw [stored_add, pending_add, pendingId_add, if_pos h, if_pos h, if_pos h, if_pos h, ← hstored]
    simp
  · have hpending : v.pending.isSome = true := by
      unfold starts at h
      cases hp : v.pending with
      | none => simp [hp] at h
      | some iteration => rfl
    obtain ⟨iteration, hit⟩ := Option.isSome_iff_exists.mp hpending
    unfold ids
    rw [stored_add, pending_add, pendingId_add, if_neg h, if_neg h, if_neg h, if_neg h, hit]
    simp

end StreamView

/-- The id of the `n`-th iteration after a reset of the counter. -/
def iterationId (n : Nat) : UInt32 := UInt32.ofNat (n + 1)

lemma iterationId_lt {m n : Nat} (hn : n + 1 < 2 ^ 32) (h : m < n) :
    iterationId m < iterationId n := by
  unfold iterationId
  rw [UInt32.lt_iff_toNat_lt, UInt32.toNat_ofNat', UInt32.toNat_ofNat']
  rw [Nat.mod_eq_of_lt (by omega), Nat.mod_eq_of_lt hn]
  omega

lemma iterationId_inj {m n : Nat} (hm : m < 2 ^ 32) (hn : n < 2 ^ 32)
    (h : iterationId m = iterationId n) : m = n := by
  unfold iterationId at h
  have hnat := congrArg UInt32.toNat h
  rw [UInt32.toNat_ofNat', UInt32.toNat_ofNat'] at hnat
  omega

/-- `count` iterations were generated since the last reset, and the iterations held for each PID
are those with these numbers. -/
structure Numbered (s : PacketState) (count : Nat) (numbers : UInt16 → List Nat) : Prop where
  next : s.storage.nextIterationId = iterationId count
  ids : ∀ pid, (s.view pid).ids = (numbers pid).map iterationId
  increasing : ∀ pid, (numbers pid).Pairwise (· < ·)
  bounded : ∀ pid, ∀ n ∈ numbers pid, n < count
  disjoint : ∀ p q, p ≠ q → (numbers p).Disjoint (numbers q)

namespace Numbered

lemma empty : Numbered {} 0 (fun _ => []) := by
  refine ⟨rfl, fun _ => rfl, ?_, ?_, ?_⟩ <;> simp

lemma iterationId_succ (n : Nat) : iterationId (n + 1) = iterationId n + 1 := by
  unfold iterationId
  rw [← UInt32.ofNat_one, ← UInt32.ofNat_add]

variable {s s' : PacketState} {count : Nat} {numbers : UInt16 → List Nat}

/-- A packet that starts an iteration takes the next number. -/
theorem addPacket (h : Numbered s count numbers) {packet : TSPacket}
    (hadd : PacketState.AddsPacket s packet s') :
    if s.stores packet.header.pid && s.startsIteration packet.header then
      Numbered s' (count + 1)
        (Function.update numbers packet.header.pid (numbers packet.header.pid ++ [count]))
    else Numbered s' count numbers := by
  have hids : ∀ pid, (s'.view pid).ids =
      if pid = packet.header.pid ∧ s.stores packet.header.pid = true ∧
        s.startsIteration packet.header = true then
        (s.view pid).ids ++ [s.storage.nextIterationId] else (s.view pid).ids := by
    intro pid
    rw [hadd.view]
    by_cases hs : s.stores packet.header.pid = true
    · by_cases hpid : pid = packet.header.pid
      · subst hpid
        rw [if_pos hs, Function.update_self, StreamView.ids_add, ← PacketState.startsIteration_eq]
        simp [hs]
      · rw [if_pos hs, Function.update_of_ne hpid]
        simp [hpid]
    · simp [hs]
  by_cases hnew : (s.stores packet.header.pid && s.startsIteration packet.header) = true
  · have hboth : s.stores packet.header.pid = true ∧ s.startsIteration packet.header = true := by
      simpa using hnew
    rw [if_pos hnew]
    refine ⟨?_, ?_, ?_, ?_, ?_⟩
    · rw [hadd.nextIterationId, if_pos hnew, h.next, iterationId_succ]
    · intro pid
      rw [hids]
      by_cases hpid : pid = packet.header.pid
      · subst hpid
        rw [if_pos ⟨rfl, hboth⟩, Function.update_self, h.ids, h.next, List.map_append]
        rfl
      · rw [if_neg (fun hc => hpid hc.1), Function.update_of_ne hpid, h.ids]
    · intro pid
      by_cases hpid : pid = packet.header.pid
      · subst hpid
        rw [Function.update_self, List.pairwise_append]
        refine ⟨h.increasing _, List.pairwise_singleton _ _, ?_⟩
        intro a ha b hb
        rw [List.mem_singleton.mp hb]
        exact h.bounded _ a ha
      · rw [Function.update_of_ne hpid]
        exact h.increasing pid
    · intro pid n hn
      by_cases hpid : pid = packet.header.pid
      · subst hpid
        rw [Function.update_self, List.mem_append, List.mem_singleton] at hn
        rcases hn with hn | hn
        · exact Nat.lt_succ_of_lt (h.bounded _ n hn)
        · omega
      · rw [Function.update_of_ne hpid] at hn
        exact Nat.lt_succ_of_lt (h.bounded pid n hn)
    · have hfresh : ∀ q, q ≠ packet.header.pid →
          (numbers packet.header.pid ++ [count]).Disjoint (numbers q) := by
        intro q hq
        rw [List.disjoint_append_left]
        refine ⟨h.disjoint _ _ (Ne.symm hq), ?_⟩
        rw [List.singleton_disjoint]
        intro hc
        exact lt_irrefl _ (h.bounded q count hc)
      intro p q hpq
      by_cases hp : p = packet.header.pid
      · subst hp
        rw [Function.update_self, Function.update_of_ne (Ne.symm hpq)]
        exact hfresh q (Ne.symm hpq)
      · rw [Function.update_of_ne hp]
        by_cases hq : q = packet.header.pid
        · subst hq
          rw [Function.update_self]
          exact (hfresh p hp).symm
        · rw [Function.update_of_ne hq]
          exact h.disjoint p q hpq
  · rw [if_neg hnew]
    refine ⟨?_, ?_, h.increasing, h.bounded, h.disjoint⟩
    · rw [hadd.nextIterationId, if_neg hnew, h.next]
    · intro pid
      have hnot : ¬(pid = packet.header.pid ∧ s.stores packet.header.pid = true ∧
          s.startsIteration packet.header = true) := by
        rintro ⟨_, h1, h2⟩
        exact hnew (by simp [h1, h2])
      rw [hids, if_neg hnot, h.ids]

/-- Iterations may be moved from pending to stored or dropped. -/
theorem of_sublist (h : Numbered s count numbers) (s' : PacketState)
    (hnext : s'.storage.nextIterationId = s.storage.nextIterationId)
    (hids : ∀ pid, (s'.view pid).ids.Sublist (s.view pid).ids) :
    ∃ numbers', Numbered s' count numbers' ∧ ∀ pid, (numbers' pid).Sublist (numbers pid) := by
  have hsub : ∀ pid, ∃ l, List.Sublist l (numbers pid) ∧ (s'.view pid).ids = l.map iterationId := by
    intro pid
    have hl := hids pid
    rw [h.ids] at hl
    obtain ⟨l, hl, hmap⟩ := List.sublist_map_iff.mp hl
    exact ⟨l, hl, hmap⟩
  choose numbers' hsub' hmap using hsub
  refine ⟨numbers', ⟨?_, hmap, ?_, ?_, ?_⟩, hsub'⟩
  · rw [hnext, h.next]
  · intro pid
    exact (h.increasing pid).sublist (hsub' pid)
  · intro pid n hn
    exact h.bounded pid n ((hsub' pid).subset hn)
  · intro p q hpq a ha hb
    exact h.disjoint p q hpq ((hsub' p).subset ha) ((hsub' q).subset hb)

lemma finalizeAll (h : Numbered s count numbers) : Numbered s.finalizeAllIterations count numbers := by
  refine ⟨?_, ?_, h.increasing, h.bounded, h.disjoint⟩
  · rw [PacketState.nextIterationId_finalizeAllIterations, h.next]
  · intro pid
    rw [PacketState.view_finalizeAllIterations, StreamView.ids_finalize, h.ids]

lemma ids_increasing (h : Numbered s count numbers) (hcount : count < 2 ^ 32) (pid : UInt16) :
    (s.view pid).ids.Pairwise (· < ·) := by
  rw [h.ids, List.pairwise_map]
  refine (h.increasing pid).imp_of_mem ?_
  intro a b _ hb hab
  have hbound := h.bounded pid b hb
  exact iterationId_lt (by omega) hab

lemma ids_nodup (h : Numbered s count numbers) (hcount : count ≤ 2 ^ 32) (pid : UInt16) :
    (s.view pid).ids.Nodup := by
  rw [h.ids]
  refine List.Pairwise.map iterationId ?_ ((h.increasing pid).imp_of_mem ?_) (R := fun m n =>
    m < n ∧ n < count)
  · rintro m n ⟨hmn, hn⟩ heq
    have hm : m = n := iterationId_inj (by omega) (by omega) heq
    omega
  · intro m n _ hn hmn
    exact ⟨hmn, h.bounded pid n hn⟩

lemma ids_disjoint (h : Numbered s count numbers) (hcount : count ≤ 2 ^ 32) {p q : UInt16}
    (hpq : p ≠ q) : (s.view p).ids.Disjoint (s.view q).ids := by
  intro a ha hb
  rw [h.ids] at ha hb
  obtain ⟨m, hm, rfl⟩ := List.mem_map.mp ha
  obtain ⟨n, hn, heq⟩ := List.mem_map.mp hb
  have hmb := h.bounded p m hm
  have hnb := h.bounded q n hn
  have hmn : n = m := iterationId_inj (by omega) (by omega) heq
  subst hmn
  exact h.disjoint p q hpq hm hn

end Numbered

end MinimalMpegTS
