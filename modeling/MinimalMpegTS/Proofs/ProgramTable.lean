import MinimalMpegTS.Proofs.NewPackets
import MinimalMpegTS.Proofs.Segments

/-!
# Filtering by a program table

After a table is set, packets of other PIDs are not stored. Iterations that are pending at that
moment survive the change, however, and are stored later. In the runs that read no processed packet
again the filter is exact if and only if every pending iteration is of a listed PID and has no payload
yet.
-/

namespace MinimalMpegTS

open MPEGTSDemuxer

/-! ### Pending iterations of reachable states -/

namespace PacketState

/-- The payload data of the pending iterations consists of pieces. -/
def PendingLaid (s : PacketState) : Prop :=
  ∀ pid it, (s.view pid).pending = some it → ∃ pieces, Laid pieces it

end PacketState

/-- In every reachable state the payload data of the pending iterations consists of pieces. -/
theorem reachable_pendingLaid {d : MPEGTSDemuxer} (hd : Reachable d) : d.PendingLaid := by
  intro pid it hit
  obtain ⟨pieces, hfilled⟩ := (segmented_of_reachable hd pid).pending it hit
  exact ⟨pieces, hfilled.laid⟩

/-! ### Where stored bytes come from -/

/-- The iterations of this PID are made of these packets, and the PID is listed. -/
structure FromPackets (listed : Finset UInt16) (packets : List TSPacket) (pid : UInt16)
    (v : StreamView) : Prop where
  listed : v.stream ≠ none ∨ v.pending ≠ none → pid ∈ listed
  stored : ∀ entry ∈ v.stored, ∃ group : List TSPacket, group.Sublist packets ∧
    (∀ p ∈ group, p.header.pid = pid) ∧ readBack entry.2 = group.flatMap TSPacket.pieces
  pending : ∀ it, v.pending = some it → ∃ group : List TSPacket, group.Sublist packets ∧
    (∀ p ∈ group, p.header.pid = pid) ∧ Laid (group.flatMap TSPacket.pieces) it

namespace FromPackets

variable {pids : Finset UInt16} {packets : List TSPacket} {pid : UInt16} {v : StreamView}

lemma mono (h : FromPackets pids packets pid v) {packets' : List TSPacket}
    (hsub : packets.Sublist packets') : FromPackets pids packets' pid v := by
  refine ⟨h.listed, ?_, ?_⟩
  · intro entry hentry
    obtain ⟨group, hgroup, hrest⟩ := h.stored entry hentry
    exact ⟨group, hgroup.trans hsub, hrest⟩
  · intro it hit
    obtain ⟨group, hgroup, hrest⟩ := h.pending it hit
    exact ⟨group, hgroup.trans hsub, hrest⟩

lemma finalize (h : FromPackets pids packets pid v) :
    FromPackets pids packets pid (v.finalize pid) := by
  cases hp : v.pending with
  | none => rwa [StreamView.finalize_of_none hp]
  | some it =>
    refine ⟨?_, ?_, ?_⟩
    · intro _
      exact h.listed (.inr (by rw [hp]; exact Option.some_ne_none it))
    · intro entry hentry
      rw [StreamView.stored_finalize, hp, List.mem_append] at hentry
      rcases hentry with hentry | hentry
      · exact h.stored entry hentry
      · obtain ⟨group, hgroup, hpid, hlaid⟩ := h.pending it hp
        have heq : entry = (v.pendingId.getD 0, StreamIterations.copyIteration it) := by
          simpa using hentry
        refine ⟨group, hgroup, hpid, ?_⟩
        rw [heq]
        exact readBack_laid hlaid
    · intro it' hit'
      rw [StreamView.pending_finalize] at hit'
      cases hit'

lemma add (h : FromPackets pids packets pid v) (hlisted : pid ∈ pids) (iterId : UInt32)
    {packet : TSPacket} (hpid : packet.header.pid = pid) :
    FromPackets pids (packets ++ [packet]) pid (v.add iterId packet) := by
  have hmono := h.mono (List.sublist_append_left packets [packet])
  refine ⟨fun _ => hlisted, ?_, ?_⟩
  · intro entry hentry
    rw [StreamView.stored_add] at hentry
    split at hentry
    · rw [hpid] at hentry
      exact hmono.finalize.stored entry hentry
    · exact hmono.stored entry hentry
  · intro it hit
    rw [StreamView.pending_add, Option.some.injEq] at hit
    subst hit
    by_cases hstart : v.starts packet.header = true
    · rw [if_pos hstart]
      refine ⟨[packet], List.sublist_append_right packets [packet], ?_, ?_⟩
      · intro p hp
        rwa [List.mem_singleton.mp hp]
      · have hlaid := IterationData.laid_addPacket (laid_start packet.header) v.lastCc packet
        simpa using hlaid
    · rw [if_neg hstart]
      obtain ⟨it, hit⟩ : ∃ it, v.pending = some it := by
        unfold StreamView.starts at hstart
        cases hp : v.pending with
        | none => simp [hp] at hstart
        | some it => exact ⟨it, rfl⟩
      obtain ⟨group, hgroup, hgroupPid, hlaid⟩ := h.pending it hit
      refine ⟨group ++ [packet], hgroup.append (List.Sublist.refl _), ?_, ?_⟩
      · intro p hp
        rcases List.mem_append.mp hp with hp | hp
        · exact hgroupPid p hp
        · rwa [List.mem_singleton.mp hp]
      · rw [hit, List.flatMap_append]
        have hadd := IterationData.laid_addPacket hlaid v.lastCc packet
        simpa using hadd

end FromPackets

/-- The iterations of all PIDs are made of these packets, and only listed PIDs are stored. -/
structure AllFromPackets (listed : Finset UInt16) (packets : List TSPacket) (s : PacketState) :
    Prop where
  stores : ∀ pid, s.stores pid = true → pid ∈ listed
  views : ∀ pid, FromPackets listed packets pid (s.view pid)

namespace AllFromPackets

variable {pids : Finset UInt16} {packets : List TSPacket} {s : PacketState}

lemma processPackets (h : AllFromPackets pids packets s) (more : List TSPacket) :
    AllFromPackets pids (packets ++ more) (s.processPackets more) := by
  induction more generalizing packets s with
  | nil => simpa using h
  | cons packet more ih =>
    have hadds := PacketState.processPacket_adds s packet
    have hstep : AllFromPackets pids (packets ++ [packet]) (s.processPacket packet) := by
      refine ⟨?_, ?_⟩
      · rw [hadds.stores]
        exact h.stores
      · intro pid
        have hmono := (h.views pid).mono (List.sublist_append_left packets [packet])
        rw [hadds.view]
        split
        · next hs =>
          by_cases hpid : pid = packet.header.pid
          · subst hpid
            rw [Function.update_self]
            exact (h.views _).add (h.stores _ hs) _ rfl
          · rwa [Function.update_of_ne hpid]
        · exact hmono
    have hrest := ih hstep
    rwa [List.append_assoc] at hrest

lemma finalizeAll (h : AllFromPackets pids packets s) :
    AllFromPackets pids packets s.finalizeAllIterations := by
  have hsame := PacketState.finalizeAllIterations_sameTables s
  refine ⟨?_, ?_⟩
  · intro pid
    unfold PacketState.stores
    rw [hsame.programsTableAvailable, hsame.knownProgramPids]
    exact h.stores pid
  · intro pid
    rw [PacketState.view_finalizeAllIterations]
    exact (h.views pid).finalize

end AllFromPackets

/-- What is stored in a run of data calls and queries comes from the packets of this run. -/
theorem allFromPackets_run {pids : Finset UInt16} {d : MPEGTSDemuxer}
    (h : AllFromPackets pids [] d.toPacketState) {calls : List Call}
    (hcalls : ∀ c ∈ calls, c.isFeedOrQuery = true) :
    AllFromPackets pids (d.processedPackets calls) (d.run calls).toPacketState := by
  apply packets_run (P := fun s l => AllFromPackets pids l s) _ _ h hcalls
  · intro s l more hs
    exact hs.processPackets more
  · intro s l hs
    exact hs.finalizeAll

/-! ### The filter -/

/-- The table is set after the calls `before`, and `calls` are made: only listed PIDs are reported, and
the bytes that the payload queries return come from packets in windows of the stream that are apart from
all those processed before the table was set. -/
structure FiltersFrom (before : List Call) (table : ProgramTable) (calls : List Call) : Prop where
  discovered : ∀ pid ∈ (run ((run {} before).setProgramsTable table) calls).getDiscoveredPIDs.2,
    pid ∈ tablePids table
  payloads : ∀ pid iterId, ∃ group : List TSPacket,
    group.Sublist (newPackets (before ++ [.setProgramsTable table]) calls) ∧
    (∀ p ∈ group, p.header.pid = pid) ∧
    ((run ((run {} before).setProgramsTable table) calls).getAllPayloads pid iterId).map
      (fun buffer => (buffer.type, buffer.bytes)) = group.flatMap TSPacket.pieces ∧
    ∀ type, ((run ((run {} before).setProgramsTable table) calls).getPayload pid iterId type).bytes =
        [] ∨
      ∃ piece ∈ group.flatMap TSPacket.pieces, piece.2 =
        ((run ((run {} before).setProgramsTable table) calls).getPayload pid iterId type).bytes

lemma mem_iterationsOf_of_findIteration {d : MPEGTSDemuxer} {pid : UInt16} {iterId : UInt32}
    {it : IterationData} (h : d.findIteration pid iterId = some it) :
    (iterId, it) ∈ d.storage.iterationsOf pid := by
  unfold findIteration at h
  unfold DemuxerStreamStorage.iterationsOf
  cases hstream : d.storage.getStream pid with
  | none => rw [hstream] at h; cases h
  | some stream =>
    rw [hstream] at h
    obtain ⟨entry, hfind, rfl⟩ := Option.map_eq_some_iff.mp h
    have hid := List.find?_some hfind
    have hmem := List.mem_of_find?_eq_some hfind
    rw [beq_iff_eq] at hid
    rwa [← hid]

lemma payloads_of_fromPackets {pids : Finset UInt16} {packets : List TSPacket} {e : MPEGTSDemuxer}
    {pid : UInt16} (h : FromPackets pids packets pid (e.view pid)) (iterId : UInt32) :
    ∃ group : List TSPacket, group.Sublist packets ∧ (∀ p ∈ group, p.header.pid = pid) ∧
      (e.getAllPayloads pid iterId).map (fun buffer => (buffer.type, buffer.bytes)) =
        group.flatMap TSPacket.pieces ∧
      ∀ type, (e.getPayload pid iterId type).bytes = [] ∨
        ∃ piece ∈ group.flatMap TSPacket.pieces, piece.2 = (e.getPayload pid iterId type).bytes := by
  unfold getAllPayloads getPayload
  cases hfind : e.findIteration pid iterId with
  | none =>
    refine ⟨[], List.nil_sublist _, by simp, rfl, ?_⟩
    intro type
    left
    rfl
  | some it =>
    obtain ⟨group, hsub, hpid, hread⟩ := h.stored _ (mem_iterationsOf_of_findIteration hfind)
    refine ⟨group, hsub, hpid, hread, ?_⟩
    intro type
    dsimp only
    cases hsegment : it.payloads.find? (fun payload => payload.type = type) with
    | none =>
      left
      rfl
    | some segment =>
      right
      have hmem := List.mem_of_find?_eq_some hsegment
      rw [← hread]
      exact ⟨_, List.mem_map_of_mem (List.mem_map_of_mem hmem), rfl⟩

lemma discovered_iff (d : MPEGTSDemuxer) (pid : UInt16) :
    pid ∈ d.getDiscoveredPIDs.2 ↔ (d.finalized.view pid).stream ≠ none := by
  show pid ∈ d.finalized.storage.streams.keys.toFinset ↔ _
  rw [List.mem_toFinset, ← AList.mem_keys, ← AList.lookup_isSome, Option.isSome_iff_ne_none]
  rfl

lemma pending_reported {d : MPEGTSDemuxer} (table : ProgramTable) {pid : UInt16} {it : IterationData}
    (hit : d.currentIterations.lookup pid = some it) :
    pid ∈ (run (d.setProgramsTable table) [.getDiscoveredPIDs]).getDiscoveredPIDs.2 ∧
      ∃ iterId, ((run (d.setProgramsTable table) [.getDiscoveredPIDs]).getAllPayloads pid
        iterId).length = it.payloads.length := by
  set e := run (d.setProgramsTable table) [.getDiscoveredPIDs]
  set iterId := ((d.setProgramsTable table).view pid).pendingId.getD 0
  have hview : e.view pid = ((d.setProgramsTable table).view pid).finalize pid :=
    PacketState.view_finalizeAllIterations _ pid
  have hpending : ((d.setProgramsTable table).view pid).pending = some it := hit
  rw [StreamView.finalize_of_some hpending] at hview
  have hstream : (e.view pid).stream = some (StreamIterations.addIteration { pid := pid } iterId it) := by
    rw [hview]
    rfl
  constructor
  · rw [discovered_iff]
    show (e.finalizeAllIterations.view pid).stream ≠ none
    have hnone : (e.view pid).pending = none := by rw [hview]
    rw [PacketState.view_finalizeAllIterations, StreamView.finalize_of_none hnone, hstream]
    exact Option.some_ne_none _
  · have hfind : e.findIteration pid iterId = some (StreamIterations.copyIteration it) := by
      have hget : e.storage.getStream pid = (e.view pid).stream := rfl
      unfold findIteration
      rw [hget, hstream]
      simp [StreamIterations.addIteration, StreamIterations.getIteration]
    refine ⟨iterId, ?_⟩
    unfold getAllPayloads
    rw [hfind]
    simp [StreamIterations.copyIteration]

lemma allFromPackets_setProgramsTable {d : MPEGTSDemuxer} (hd : Reachable d) {table : ProgramTable}
    (h : ∀ pid it, d.currentIterations.lookup pid = some it →
      pid ∈ tablePids table ∧ it.payloads = []) :
    AllFromPackets (tablePids table) [] (d.setProgramsTable table).toPacketState := by
  refine ⟨?_, ?_⟩
  · intro pid hpid
    unfold PacketState.stores setProgramsTable at hpid
    simp only [Bool.not_true, Bool.false_or, Bool.and_eq_true, decide_eq_true_eq] at hpid
    exact hpid.2
  · intro pid
    refine ⟨?_, ?_, ?_⟩
    · rintro (hstream | hpending)
      · exact absurd rfl hstream
      · obtain ⟨it, hit⟩ := Option.ne_none_iff_exists'.mp hpending
        exact (h pid it hit).1
    · intro entry hentry
      exact absurd hentry List.not_mem_nil
    · intro it hit
      obtain ⟨pieces, hpieces⟩ := reachable_pendingLaid hd pid it hit
      have hnil : pieces = [] := by
        have hpayloads := hpieces.payloads
        rw [(h pid it hit).2] at hpayloads
        cases pieces with
        | nil => rfl
        | cons piece pieces => cases hpayloads
      rw [hnil] at hpieces
      exact ⟨[], List.Sublist.refl _, by simp, hpieces⟩

/-- The table filters in every run of data calls and queries that read no processed packet again if and
only if, when it is set, the pending iterations are of listed PIDs and have no payload. -/
theorem setProgramsTable_filters_iff (before : List Call) (table : ProgramTable) :
    (∀ calls : List Call, (∀ c ∈ calls, c.isFeedOrQuery = true) →
      RereadsNothing (before ++ [.setProgramsTable table]) calls → FiltersFrom before table calls) ↔
      ∀ pid it, (run {} before).currentIterations.lookup pid = some it →
        pid ∈ tablePids table ∧ it.payloads = [] := by
  constructor
  · intro h pid it hit
    have hfilter := h [.getDiscoveredPIDs] (by simp [Call.isFeedOrQuery])
      (rereadsNothing_getDiscoveredPIDs _)
    obtain ⟨hreported, iterId, hlength⟩ := pending_reported table hit
    refine ⟨hfilter.discovered pid hreported, ?_⟩
    have hnil : newPackets (before ++ [.setProgramsTable table]) [.getDiscoveredPIDs] = [] := rfl
    obtain ⟨group, hgroup, _, hread, _⟩ := hfilter.payloads pid iterId
    rw [hnil] at hgroup
    rw [List.sublist_nil.mp hgroup, List.flatMap_nil, List.map_eq_nil_iff] at hread
    rw [hread, List.length_nil] at hlength
    exact List.eq_nil_of_length_eq_zero hlength.symm
  · intro h calls hcalls hreads
    have hset : run {} (before ++ [.setProgramsTable table]) =
        (run {} before).setProgramsTable table :=
      Transducer.final_append call {} before [.setProgramsTable table]
    have hrun := allFromPackets_run (allFromPackets_setProgramsTable ⟨before, rfl⟩ h) hcalls
    rw [← hset, ← newPackets_eq hreads, hset] at hrun
    refine ⟨?_, ?_⟩
    · intro pid hpid
      rw [discovered_iff] at hpid
      exact (hrun.finalizeAll.views pid).listed (.inl hpid)
    · intro pid iterId
      exact payloads_of_fromPackets (hrun.views pid) iterId

/-- Three packets of the PID 0x100, still pending after the call. -/
def pendingCalls : List Call :=
  [.feedData (plainPacket 0x100 0 true (List.replicate 184 0xAA) ++
    plainPacket 0x100 1 false (List.replicate 184 0xAA) ++
    plainPacket 0x100 2 false (List.replicate 184 0xAA))]

/-- The table lists the PID, nothing is pending when it is set, and the stream goes on. -/
theorem setProgramsTable_filters_idle :
    FiltersFrom (pendingCalls ++ [.getDiscoveredPIDs]) ⟨AList.singleton 1 [0x100]⟩
      [.feedData (plainPacket 0x100 3 true (List.replicate 184 0xBB))] := by
  apply (setProgramsTable_filters_iff (pendingCalls ++ [Call.getDiscoveredPIDs])
    ⟨AList.singleton 1 [0x100]⟩).mpr
  · intro pid it hit
    have hrun : run {} (pendingCalls ++ [.getDiscoveredPIDs]) = (run {} pendingCalls).finalized :=
      Transducer.final_append call {} pendingCalls [.getDiscoveredPIDs]
    rw [hrun] at hit
    generalize run {} pendingCalls = d at hit
    have hnone : (d.finalizeAllIterations.view pid).pending = none := by
      rw [PacketState.view_finalizeAllIterations, StreamView.pending_finalize]
    cases hnone.symm.trans hit
  · simp [Call.isFeedOrQuery]
  · refine ⟨?_, trivial⟩
    unfold Feeding.ReadsBehind
    decide +kernel

/-- A pending iteration of a PID that the table does not list is reported by the next query, and
its bytes are returned. -/
theorem pending_survives_table :
    ¬∀ calls : List Call, (∀ c ∈ calls, c.isFeedOrQuery = true) →
      FiltersFrom pendingCalls ⟨AList.singleton 1 [0x200]⟩ calls := by
  intro h
  have hfilter := (h [] (by simp)).discovered 0x100 (by decide +kernel)
  revert hfilter
  decide +kernel

/-- Nothing is pending when the table is set, but the three packets are still in the buffer: they are
read again, and their bytes are returned. -/
theorem reread_survives_table :
    ¬FiltersFrom [.feedData (threePackets ++ List.replicate 188 0), .getDiscoveredPIDs]
      ⟨AList.singleton 1 [0x100]⟩ [.feedData [0], .getDiscoveredPIDs] := by
  intro h
  obtain ⟨group, hgroup, _, hread, _⟩ := h.payloads 0x100 1
  have hnil : newPackets [.feedData (threePackets ++ List.replicate 188 0), .getDiscoveredPIDs,
      .setProgramsTable ⟨AList.singleton 1 [0x100]⟩] [.feedData [0], .getDiscoveredPIDs] = [] := by
    decide +kernel
  have hempty : group = [] := List.sublist_nil.mp (hnil ▸ hgroup)
  rw [hempty] at hread
  have hlength := congrArg List.length hread
  revert hlength
  decide +kernel

end MinimalMpegTS
