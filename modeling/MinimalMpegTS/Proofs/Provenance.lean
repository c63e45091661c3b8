import MinimalMpegTS.Proofs.AdaptationField
import MinimalMpegTS.Proofs.ClearStream

/-!
# Where the listed iterations come from

Whatever calls are made, the packets of a PID that pass the filters fall into consecutive groups,
and every iteration that is listed or read back is made of one of these groups as a whole. The
calls that clear something only drop groups, so the listing is what is left of them, in order.
-/

namespace MinimalMpegTS

open MPEGTSDemuxer

/-! ### The packets of a PID that are stored -/

/-- The packet is one of the PID and passes the filters. -/
def PacketState.keeps (self : PacketState) (pid : UInt16) (packet : TSPacket) : Bool :=
  decide (packet.header.pid = pid) && self.stores pid

/-- The packets of a PID that are stored while packets are processed. -/
def PacketState.storedPackets (self : PacketState) (packets : List TSPacket) (pid : UInt16) :
    List TSPacket :=
  ((self.packetTrace packets).filter (fun entry => entry.1.keeps pid entry.2)).map Prod.snd

/-- The packets of a PID that are stored during a list of calls. -/
def MPEGTSDemuxer.storedPackets (self : MPEGTSDemuxer) (calls : List Call) (pid : UInt16) :
    List TSPacket :=
  ((self.runTrace calls).filter (fun entry => entry.1.keeps pid entry.2)).map Prod.snd

lemma storedPackets_cons (s : PacketState) (packet : TSPacket) (packets : List TSPacket)
    (pid : UInt16) : s.storedPackets (packet :: packets) pid =
      (if s.keeps pid packet then [packet] else []) ++
        (s.processPacket packet).storedPackets packets pid := by
  unfold PacketState.storedPackets
  rw [PacketState.packetTrace, List.filter_cons]
  split
  · rfl
  · rfl

lemma storedPackets_feedTrace (d : MPEGTSDemuxer) (data : List UInt8) (pid : UInt16) :
    ((d.feedTrace data).filter (fun entry => entry.1.keeps pid entry.2)).map Prod.snd =
      d.toPacketState.storedPackets (d.toInputState.feed data).2 pid := by
  unfold PacketState.storedPackets
  rw [← feedTrace_states, List.filter_map, List.map_map]
  rfl

/-! ### Groups -/

/-- The view is what is left of batches of these packets after some have been dropped. -/
def LeftOf (packets : List TSPacket) (v : StreamView) : Prop :=
  ∃ u all : Batches CountedPacket, StreamView.Represents u v ∧ u.Thins all ∧
    all.HeadsOnly startsUnit ∧ all.items.map Prod.snd = packets

namespace LeftOf

variable {packets : List TSPacket} {v : StreamView}

lemma empty : LeftOf [] {} :=
  ⟨Batches.empty, Batches.empty, StreamView.represents_empty, .refl _,
    Batches.headsOnly_empty startsUnit, rfl⟩

lemma finalize (h : LeftOf packets v) (pid : UInt16) : LeftOf packets (v.finalize pid) := by
  obtain ⟨u, all, hu, hthin, hheads, hitems⟩ := h
  refine ⟨u.close, all.close, StreamView.represents_finalize hu pid, hthin.close, hheads.close, ?_⟩
  rw [Batches.items_close, hitems]

lemma add (h : LeftOf packets v) (iterId : UInt32) (packet : TSPacket) :
    LeftOf (packets ++ [packet]) (v.add iterId packet) := by
  obtain ⟨u, all, hu, hthin, hheads, hitems⟩ := h
  refine ⟨_, _, StreamView.represents_add hu iterId packet, hthin.push startsUnit _,
    hheads.push _, ?_⟩
  rw [Batches.items_push, List.map_append, hitems]
  rfl

lemma drop (h : LeftOf packets v) {stream : Option StreamIterations}
    (hsub : ({ v with stream := stream } : StreamView).stored.Sublist v.stored) :
    LeftOf packets { v with stream := stream } := by
  obtain ⟨u, all, hu, hthin, hheads, hitems⟩ := h
  have hstored := hsub.map Prod.snd
  rw [hu.stored] at hstored
  obtain ⟨closed, hclosed, heq⟩ := List.sublist_map_iff.mp hstored
  have hne : ∀ g ∈ closed, g ≠ [] := fun g hg => u.closed_ne g (hclosed.subset hg)
  refine ⟨⟨closed, u.opened, hne⟩, all, ⟨heq, hu.pending⟩, ?_, hheads, hitems⟩
  exact Batches.Thins.trans ⟨hclosed, rfl⟩ hthin

lemma clear (h : LeftOf packets v) : LeftOf packets {} := by
  obtain ⟨u, all, _, _, hheads, hitems⟩ := h
  refine ⟨Batches.empty, all.close, StreamView.represents_empty, ⟨List.nil_sublist _, ?_⟩,
    hheads.close, ?_⟩
  · rw [Batches.opened_close, Batches.opened_empty]
  · rw [Batches.items_close, hitems]

end LeftOf

lemma stored_removeIteration_sublist (v : StreamView) (pid : UInt16) (iterId : UInt32) :
    ({ v with stream := some ((v.stream.getD { pid := pid }).removeIteration iterId) } :
      StreamView).stored.Sublist v.stored := by
  unfold StreamView.stored
  cases v.stream with
  | none => simp [StreamIterations.removeIteration]
  | some stream => exact List.eraseP_sublist

lemma stored_clear_sublist (v : StreamView) :
    ({ v with stream := v.stream.map StreamIterations.clear } : StreamView).stored.Sublist
      v.stored := by
  unfold StreamView.stored
  cases v.stream with
  | none => exact List.Sublist.refl _
  | some stream => exact List.nil_sublist _

/-! ### Steps -/

lemma leftOf_processPacket {packets : List TSPacket} {s : PacketState} {pid : UInt16}
    (h : LeftOf packets (s.view pid)) (packet : TSPacket) :
    LeftOf (packets ++ if s.keeps pid packet then [packet] else [])
      ((s.processPacket packet).view pid) := by
  rw [(PacketState.processPacket_adds s packet).view]
  unfold PacketState.keeps
  by_cases hpid : packet.header.pid = pid
  · subst hpid
    rw [decide_eq_true rfl, Bool.true_and]
    by_cases hstores : s.stores packet.header.pid = true
    · rw [if_pos hstores, if_pos hstores, Function.update_self]
      exact h.add _ packet
    · rw [if_neg hstores, if_neg hstores, List.append_nil]
      exact h
  · rw [decide_eq_false hpid, Bool.false_and, if_neg Bool.false_ne_true, List.append_nil]
    split
    · rwa [Function.update_of_ne (Ne.symm hpid)]
    · exact h

lemma leftOf_processPackets {packets : List TSPacket} {s : PacketState} {pid : UInt16}
    (h : LeftOf packets (s.view pid)) (more : List TSPacket) :
    LeftOf (packets ++ s.storedPackets more pid) ((s.processPackets more).view pid) := by
  induction more generalizing s packets with
  | nil =>
    show LeftOf (packets ++ []) (s.view pid)
    rwa [List.append_nil]
  | cons packet more ih =>
    rw [PacketState.processPackets_cons, storedPackets_cons, ← List.append_assoc]
    exact ih (leftOf_processPacket h packet)

lemma leftOf_call {packets : List TSPacket} {d : MPEGTSDemuxer} {pid : UInt16}
    (h : LeftOf packets (d.view pid)) (c : Call) :
    LeftOf (packets ++
        ((d.callTrace c).filter (fun entry => entry.1.keeps pid entry.2)).map Prod.snd)
      ((d.call c).1.view pid) := by
  by_cases hquery : c.isFeedOrQuery = true
  · rcases call_of_isFeedOrQuery hquery d with ⟨data, rfl⟩ | ⟨hstate, htrace⟩ | ⟨hstate, htrace⟩
    · show LeftOf (packets ++ ((d.feedTrace data).filter _).map Prod.snd)
        ((d.feedData data).toPacketState.view pid)
      rw [storedPackets_feedTrace, toPacketState_feedData]
      exact leftOf_processPackets h _
    · rw [hstate, htrace, List.filter_nil, List.map_nil, List.append_nil]
      show LeftOf packets (d.toPacketState.finalizeAllIterations.view pid)
      rw [PacketState.view_finalizeAllIterations]
      exact h.finalize pid
    · rw [hstate, htrace, List.filter_nil, List.map_nil, List.append_nil]
      exact h
  · have hnone : d.callTrace c = [] := by
      cases c with
      | feedData data => exact absurd rfl hquery
      | _ => rfl
    rw [hnone, List.filter_nil, List.map_nil, List.append_nil]
    cases c with
    | clearIteration p iterId =>
      show LeftOf packets ((d.clearIteration p iterId).view pid)
      rw [PacketState.view_clearIteration]
      by_cases hpid : pid = p
      · subst hpid
        rw [Function.update_self]
        exact h.drop (stored_removeIteration_sublist (d.view pid) pid iterId)
      · rwa [Function.update_of_ne hpid]
    | clearStream p =>
      show LeftOf packets ((d.clearStream p).view pid)
      rw [PacketState.view_clearStream]
      by_cases hpid : pid = p
      · subst hpid
        rw [Function.update_self]
        exact h.drop (stored_clear_sublist (d.view pid))
      · rwa [Function.update_of_ne hpid]
    | clearAll => exact h.clear
    | setProgramsTable table => exact h.drop (List.nil_sublist _)
    | _ => exact absurd rfl hquery

/-- In every run, what is held for a PID is left of batches of all its stored packets. -/
theorem leftOf_run (calls : List Call) (pid : UInt16) :
    LeftOf (storedPackets {} calls pid) ((run {} calls).view pid) := by
  have halong : Transducer.Along call (fun _ _ => True) {} calls :=
    Transducer.along_of_forall call (fun _ _ => trivial)
  have hinv := Transducer.traced_invariant call callTrace (fun _ _ => True)
    (fun d l => LeftOf ((l.filter (fun entry => entry.1.keeps pid entry.2)).map Prod.snd)
      (d.view pid)) ?_ (s := {}) LeftOf.empty halong (l := [])
  · exact hinv
  · intro d c l h _
    rw [List.filter_append, List.map_append]
    exact leftOf_call h c

/-! ### The listing -/

/-- The listed iteration is made of these packets, from the first to the last. -/
structure IterationFrom (group : List TSPacket) (info : IterationInfo) : Prop
    extends ListedFrom group info where
  ccStart : group.head?.map (fun p => p.header.continuityCounter) = some info.ccStart
  ccEnd : group.getLast?.map (fun p => p.header.continuityCounter) = some info.ccEnd
  hasDiscontinuity : info.hasDiscontinuity = true → ∃ p ∈ group, ∃ adapt,
    p.getAdaptationField = some adapt ∧ adapt.discontinuityIndicator = true

lemma iterationFrom_iterationInfo {group : List CountedPacket} (hgroup : group ≠ [])
    (iterId : UInt32) : IterationFrom (group.map Prod.snd)
      (iterationInfo iterId (StreamIterations.copyIteration (iterationOf group))) := by
  refine ⟨listedFrom_iterationInfo hgroup iterId, ?_, ?_, ?_⟩
  · rw [List.head?_map, Option.map_map]
    exact (ccStart_groupInfo group hgroup).symm
  · rw [List.getLast?_map, Option.map_map]
    exact (ccEnd_groupInfo group hgroup).symm
  · intro hflag
    obtain ⟨x, rest, rfl⟩ := List.exists_cons_of_ne_nil hgroup
    have hany : (x :: rest).any (fun y => announcedDiscontinuity y.1 y.2) = true := by
      rw [iterationOf_cons] at hflag
      exact hflag
    obtain ⟨y, hy, hannounced⟩ := List.any_eq_true.mp hany
    obtain ⟨⟨adapt, hadapt, hindicator⟩, _⟩ := (announcedDiscontinuity_iff y).mp hannounced
    exact ⟨y.2, List.mem_map_of_mem hy, adapt, hadapt, hindicator⟩

lemma iterationFrom_represents {d : MPEGTSDemuxer} {pid : UInt16} {u : Batches CountedPacket}
    (hu : StreamView.Represents u (d.view pid)) :
    List.Forall₂ IterationFrom (u.close.closed.map (List.map Prod.snd))
      (d.getIterationsSummary pid).2 :=
  listing_represents (fun _ hgroup iterId => iterationFrom_iterationInfo hgroup iterId) hu

/-- In every run, the packets of a PID that were stored fall into consecutive groups, of which only
the first packets may have PUSI set. The listed iterations are each made of one whole group, in the
order of the groups and no group twice, and what is read back under an id is that of a group. -/
theorem provenance (calls : List Call) (pid : UInt16) : ∃ groups : List (List TSPacket),
    groups.flatten = storedPackets {} calls pid ∧
      (∀ group ∈ groups, ∀ p ∈ group.tail, p.header.payloadUnitStart = false) ∧
      ∃ listed : List (List TSPacket), listed.Sublist groups ∧
        List.Forall₂ IterationFrom listed ((run {} calls).getIterationsSummary pid).2 ∧
        ∀ iterId, (run {} calls).finalized.getAllPayloads pid iterId = [] ∨
          ∃ group ∈ listed, ((run {} calls).finalized.getAllPayloads pid iterId).map
            (fun buffer => (buffer.type, buffer.bytes)) = group.flatMap TSPacket.pieces := by
  obtain ⟨u, all, hu, hthin, hheads, hitems⟩ := leftOf_run calls pid
  refine ⟨all.close.closed.map (List.map Prod.snd), ?_, ?_, u.close.closed.map (List.map Prod.snd),
    hthin.close.closed.map _, iterationFrom_represents hu, ?_⟩
  · rw [← List.map_flatten, Batches.flatten_closed_close, hitems]
  · intro group hgroup p hp
    obtain ⟨g, hg, rfl⟩ := List.mem_map.mp hgroup
    rw [← List.map_tail] at hp
    obtain ⟨x, hx, rfl⟩ := List.mem_map.mp hp
    exact hheads.close.1 g hg x hx
  · intro iterId
    have hfinal : StreamView.Represents u.close ((run {} calls).finalized.view pid) := by
      show StreamView.Represents u.close ((run {} calls).toPacketState.finalizeAllIterations.view pid)
      rw [PacketState.view_finalizeAllIterations]
      exact StreamView.represents_finalize hu pid
    unfold getAllPayloads
    cases hfind : (run {} calls).finalized.findIteration pid iterId with
    | none => exact .inl rfl
    | some it =>
      have hmem : it ∈ ((run {} calls).finalized.view pid).stored.map Prod.snd :=
        List.mem_map_of_mem (mem_iterationsOf_of_findIteration hfind)
      rw [hfinal.stored] at hmem
      obtain ⟨group, hgroup, rfl⟩ := List.mem_map.mp hmem
      refine .inr ⟨group.map Prod.snd, List.mem_map_of_mem hgroup, ?_⟩
      rw [List.flatMap_map]
      exact readBack_laid (laid_iterationOf group)

/-! ### How much is held -/

lemma length_bytes_le {packet : TSPacket} (h : packet.Received) :
    packet.privateBytes.length + packet.payloadBytes.length ≤ 184 := by
  obtain ⟨data, hdata, haccept⟩ := h
  obtain ⟨hformed, rfl⟩ := TSPacket.accept_from hdata haccept
  have hcut := hformed.cutFrom hdata
  have hprivate := TSPacket.length_privateBytes ⟨data, hdata, haccept⟩
  have hstart : 4 ≤ TSPacket.payloadStart data := by
    unfold TSPacket.payloadStart
    split
    · omega
    · omega
  have hpayload : (TSPacket.packetFrom data).payloadBytes.length ≤
      mpegtsPacketSize - TSPacket.payloadStart data := by
    cases hbit : TSPacket.bit data 3 4 with
    | true =>
      rw [TSPacket.length_payloadBytes ⟨data, hdata, haccept⟩ hbit]
      have hsize := (hcut.payload hbit).2
      omega
    | false =>
      have hnot : ¬(TSPacket.packetFrom data).hasPayload = true := by
        show ¬TSPacket.bit data 3 4 = true
        rw [hbit]
        exact Bool.false_ne_true
      unfold TSPacket.payloadBytes
      rw [if_neg hnot]
      exact Nat.zero_le _
  rw [hprivate]
  simp only [mpegtsPacketSize] at hpayload
  have hle := hformed.payloadStart_le
  cases hhas : TSPacket.hasPrivate data with
  | true =>
    rw [(hcut.privateData hhas).2]
    obtain ⟨hfits, hfield⟩ := hcut.privateFits hhas
    simp only [mpegtsPacketSize] at hle
    omega
  | false =>
    rw [(hcut.noPrivate hhas).2]
    omega

lemma received_processedPackets (d : MPEGTSDemuxer) (calls : List Call) :
    ∀ packet ∈ d.processedPackets calls, packet.Received := by
  induction calls generalizing d with
  | nil =>
    intro packet hpacket
    exact absurd hpacket List.not_mem_nil
  | cons c calls ih =>
    intro packet hpacket
    rw [processedPackets_cons] at hpacket
    rcases List.mem_append.mp hpacket with hpacket | hpacket
    · cases c with
      | feedData data =>
        have hfeed : packet ∈ (d.feedTrace data).map Prod.snd := hpacket
        rw [feedTrace_packets] at hfeed
        exact received_feed d.toInputState data hfeed
      | _ => exact absurd hpacket List.not_mem_nil
    · exact ih _ packet hpacket

lemma sizes_listedFrom {group : List TSPacket} {info : IterationInfo} (h : ListedFrom group info) :
    info.payloadNormalSize + info.payloadPrivateSize =
      (group.map (fun p => p.privateBytes.length + p.payloadBytes.length)).sum := by
  rw [h.payloadNormalSize, h.payloadPrivateSize, List.length_flatMap, List.length_flatMap,
    ← List.sum_map_add]
  congr 1
  apply List.map_congr_left
  intro p _
  exact Nat.add_comm _ _

lemma listedSize_le (calls : List Call) (pid : UInt16) : (run {} calls).listedSize pid ≤
    ((storedPackets {} calls pid).map
      (fun p => p.privateBytes.length + p.payloadBytes.length)).sum := by
  obtain ⟨u, all, hu, hthin, _, hitems⟩ := leftOf_run calls pid
  have hlisted := listedFrom_represents hu
  have hsizes : (run {} calls).listedSize pid = ((u.close.closed.map (List.map Prod.snd)).map
      (fun g => (g.map (fun p => p.privateBytes.length + p.payloadBytes.length)).sum)).sum := by
    unfold MPEGTSDemuxer.listedSize
    congr 1
    rw [eq_comm, ← List.forall₂_eq_eq_eq, List.forall₂_map_left_iff, List.forall₂_map_right_iff]
    exact hlisted.imp (fun _ _ h => (sizes_listedFrom h).symm)
  rw [hsizes, ← hitems, ← Batches.flatten_closed_close, List.map_flatten, List.map_flatten,
    List.sum_flatten]
  have hsub := (hthin.close.closed.map (List.map Prod.snd)).map
    (fun g => (g.map (fun p => p.privateBytes.length + p.payloadBytes.length)).sum)
  refine (hsub.sum_le_sum (fun _ _ => Nat.zero_le _)).trans (le_of_eq ?_)
  exact congrArg List.sum List.map_map.symm

lemma sum_countP_le {α κ : Type} [DecidableEq κ] (kind : α → κ) {kinds : List κ} (h : kinds.Nodup)
    (items : List α) :
    (kinds.map (fun k => items.countP (fun x => decide (kind x = k)))).sum ≤ items.length := by
  induction kinds generalizing items with
  | nil => exact Nat.zero_le _
  | cons k kinds ih =>
    obtain ⟨hk, hrest⟩ := List.nodup_cons.mp h
    have hothers := ih hrest (items.filter (fun x => !decide (kind x = k)))
    have hsame : kinds.map (fun k' => (items.filter (fun x => !decide (kind x = k))).countP
        (fun x => decide (kind x = k'))) =
          kinds.map (fun k' => items.countP (fun x => decide (kind x = k'))) := by
      apply List.map_congr_left
      intro k' hk'
      rw [List.countP_filter]
      apply List.countP_congr
      intro x _
      have hne : k' ≠ k := fun heq => hk (heq ▸ hk')
      simp only [Bool.and_eq_true, decide_eq_true_eq, Bool.not_eq_true', decide_eq_false_iff_not]
      constructor
      · exact fun hx => hx.1
      · exact fun hx => ⟨hx, fun hx' => hne (hx.symm.trans hx')⟩
    rw [hsame, ← List.countP_eq_length_filter] at hothers
    rw [List.map_cons, List.sum_cons, List.length_eq_countP_add_countP (fun x => decide (kind x = k))]
    refine Nat.add_le_add_left (hothers.trans (le_of_eq ?_)) _
    apply List.countP_congr
    intro x _
    simp

/-- In every run, the iterations that can be listed for all PIDs together hold at most 184 bytes for
each time a packet was processed. Packets that are read again count again. -/
theorem listed_within_packets (calls : List Call) {pids : List UInt16} (hpids : pids.Nodup) :
    (pids.map (run {} calls).listedSize).sum ≤ 184 * (processedPackets {} calls).length := by
  have hone : ∀ pid, (run {} calls).listedSize pid ≤ 184 *
      (processedPackets {} calls).countP (fun p => decide (p.header.pid = pid)) := by
    intro pid
    have hsub : (storedPackets {} calls pid).Sublist
        ((processedPackets {} calls).filter (fun p => decide (p.header.pid = pid))) := by
      unfold storedPackets processedPackets
      rw [List.filter_map]
      apply List.Sublist.map
      apply List.monotone_filter_right
      intro entry hkeeps
      unfold PacketState.keeps at hkeeps
      exact (Bool.and_eq_true_iff.mp hkeeps).1
    have hle : ∀ n ∈ (storedPackets {} calls pid).map
        (fun p => p.privateBytes.length + p.payloadBytes.length), n ≤ 184 := by
      intro n hn
      obtain ⟨p, hp, rfl⟩ := List.mem_map.mp hn
      exact length_bytes_le (received_processedPackets {} calls p
        (List.mem_of_mem_filter (hsub.subset hp)))
    have hsum := List.sum_le_card_nsmul _ 184 hle
    have hlength := hsub.length_le
    rw [← List.countP_eq_length_filter] at hlength
    rw [List.length_map, smul_eq_mul] at hsum
    have hlisted := listedSize_le calls pid
    omega
  have hcounts := sum_countP_le (fun p : TSPacket => p.header.pid) hpids (processedPackets {} calls)
  calc (pids.map (run {} calls).listedSize).sum
      ≤ (pids.map (fun pid => 184 *
          (processedPackets {} calls).countP (fun p => decide (p.header.pid = pid)))).sum :=
        List.sum_le_sum (fun pid _ => hone pid)
    _ = 184 * (pids.map (fun pid =>
          (processedPackets {} calls).countP (fun p => decide (p.header.pid = pid)))).sum :=
        List.sum_map_mul_left _ _ _
    _ ≤ 184 * (processedPackets {} calls).length := Nat.mul_le_mul_left 184 hcounts

theorem listed_within_packets_three :
    ([0x100, 0x101].map (run {} [.feedData threePackets]).listedSize).sum ≤
      184 * (processedPackets {} [.feedData threePackets]).length :=
  listed_within_packets [.feedData threePackets] (by decide)

end MinimalMpegTS
