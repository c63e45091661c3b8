import MinimalMpegTS.Proofs.Input

/-!
# What the demultiplexer holds per PID

Four maps keyed by PID hold the stored iterations, the pending iteration, its id and the last
continuity counter. `PacketState.view` reads the four of them at one PID, and each operation on
the maps is an operation on the view of the PIDs that it touches. Finalizing touches every PID
in the same way, adding a packet touches the packet's PID, and the tables read from the stream
(PSI and PCR) touch none.
-/

namespace MinimalMpegTS

namespace DemuxerStreamStorage

/-- The stored iterations of a PID with their ids. -/
def iterationsOf (self : DemuxerStreamStorage) (pid : UInt16) : List (UInt32 × IterationData) :=
  match self.getStream pid with
  | none => []
  | some stream => stream.iterations

/-- The stored iterations of all PIDs with their ids. -/
def allIterations (self : DemuxerStreamStorage) : List (UInt32 × IterationData) :=
  self.getAllStreams.flatMap (fun entry => entry.2.iterations)

end DemuxerStreamStorage

/-- What the demultiplexer holds about one PID. -/
structure StreamView where
  stream : Option StreamIterations := none
  pending : Option IterationData := none
  pendingId : Option UInt32 := none
  lastCc : Option UInt8 := none

namespace StreamView

/-- The stored iterations with their ids. -/
def stored (v : StreamView) : List (UInt32 × IterationData) :=
  match v.stream with
  | none => []
  | some stream => stream.iterations

/-- Store the pending iteration, if there is one. -/
def finalize (pid : UInt16) (v : StreamView) : StreamView :=
  match v.pending with
  | none => v
  | some iteration =>
    { v with
      stream := some ((v.stream.getD { pid := pid }).addIteration (v.pendingId.getD 0) iteration)
      pending := none
      pendingId := none }

/-- The packet starts a new iteration. -/
def starts (v : StreamView) (header : TSPacketHeader) : Bool :=
  v.pending.isNone || header.payloadUnitStart

/-- Store the pending iteration and start a new one. -/
def startNew (v : StreamView) (iterId : UInt32) (header : TSPacketHeader) : StreamView :=
  { v.finalize header.pid with
    pending := some (.start header)
    pendingId := some iterId }

/-- Add a packet to the pending iteration. -/
def join (v : StreamView) (packet : TSPacket) : StreamView :=
  { v with
    pending := some ((v.pending.getD {}).addPacket v.lastCc packet)
    lastCc := some packet.header.continuityCounter }

/-- Add a packet; a new iteration gets the given id. -/
def add (v : StreamView) (iterId : UInt32) (packet : TSPacket) : StreamView :=
  (if v.starts packet.header then v.startNew iterId packet.header else v).join packet

lemma finalize_of_none {v : StreamView} (h : v.pending = none) (pid : UInt16) :
    v.finalize pid = v := by
  unfold finalize
  rw [h]

lemma finalize_of_some {v : StreamView} {iteration : IterationData}
    (h : v.pending = some iteration) (pid : UInt16) :
    v.finalize pid = { v with
      stream := some ((v.stream.getD { pid := pid }).addIteration (v.pendingId.getD 0) iteration)
      pending := none
      pendingId := none } := by
  unfold finalize
  rw [h]

@[simp] lemma pending_finalize (v : StreamView) (pid : UInt16) : (v.finalize pid).pending = none := by
  cases h : v.pending with
  | none => rw [finalize_of_none h, h]
  | some iteration => rw [finalize_of_some h]

@[simp] lemma lastCc_finalize (v : StreamView) (pid : UInt16) : (v.finalize pid).lastCc = v.lastCc := by
  cases h : v.pending with
  | none => rw [finalize_of_none h]
  | some iteration => rw [finalize_of_some h]

@[simp] lemma finalize_finalize (v : StreamView) (pid : UInt16) :
    (v.finalize pid).finalize pid = v.finalize pid :=
  finalize_of_none (pending_finalize v pid) pid

lemma stored_finalize (v : StreamView) (pid : UInt16) :
    (v.finalize pid).stored = v.stored ++
      (v.pending.map (fun it => (v.pendingId.getD 0, StreamIterations.copyIteration it))).toList := by
  cases h : v.pending with
  | none => rw [finalize_of_none h]; simp
  | some iteration =>
    rw [finalize_of_some h]
    unfold stored
    cases v.stream <;> simp [StreamIterations.addIteration]

lemma stored_add (v : StreamView) (iterId : UInt32) (packet : TSPacket) :
    (v.add iterId packet).stored =
      if v.starts packet.header then (v.finalize packet.header.pid).stored else v.stored := by
  unfold add
  split
  · rfl
  · rfl

lemma pending_add (v : StreamView) (iterId : UInt32) (packet : TSPacket) :
    (v.add iterId packet).pending =
      some ((if v.starts packet.header then .start packet.header else v.pending.getD {}).addPacket
        v.lastCc packet) := by
  unfold add
  split
  · simp [join, startNew]
  · rfl

lemma pendingId_add (v : StreamView) (iterId : UInt32) (packet : TSPacket) :
    (v.add iterId packet).pendingId =
      if v.starts packet.header then some iterId else v.pendingId := by
  unfold add
  split
  · rfl
  · rfl

@[simp] lemma lastCc_add (v : StreamView) (iterId : UInt32) (packet : TSPacket) :
    (v.add iterId packet).lastCc = some packet.header.continuityCounter := rfl

end StreamView

namespace PacketState

/-- The maps keyed by PID, read at one PID. -/
def view (self : PacketState) (pid : UInt16) : StreamView :=
  ⟨self.storage.getStream pid, self.currentIterations.lookup pid,
    self.currentIterationIds.lookup pid, self.lastCc.lookup pid⟩

/-- The operation leaves everything but the storage of iterations as it is. -/
structure SameTables (s s' : PacketState) : Prop where
  programsTableAvailable : s'.programsTableAvailable = s.programsTableAvailable
  knownProgramPids : s'.knownProgramPids = s.knownProgramPids
  patAccumulator : s'.patAccumulator = s.patAccumulator
  pmtAccumulators : s'.pmtAccumulators = s.pmtAccumulators
  parsedPat : s'.parsedPat = s.parsedPat
  parsedPmts : s'.parsedPmts = s.parsedPmts
  pcrManager : s'.pcrManager = s.pcrManager
  totalPacketsProcessed : s'.totalPacketsProcessed = s.totalPacketsProcessed

lemma SameTables.refl (s : PacketState) : SameTables s s := ⟨rfl, rfl, rfl, rfl, rfl, rfl, rfl, rfl⟩

lemma SameTables.trans {s t u : PacketState} (h : SameTables s t) (h' : SameTables t u) :
    SameTables s u :=
  ⟨h'.1.trans h.1, h'.2.trans h.2, h'.3.trans h.3, h'.4.trans h.4, h'.5.trans h.5, h'.6.trans h.6,
    h'.7.trans h.7, h'.8.trans h.8⟩

/-- The operation leaves the storage of iterations and the program table as they are. -/
structure SameStore (s s' : PacketState) : Prop where
  storage : s'.storage = s.storage
  programsTableAvailable : s'.programsTableAvailable = s.programsTableAvailable
  knownProgramPids : s'.knownProgramPids = s.knownProgramPids
  currentIterationIds : s'.currentIterationIds = s.currentIterationIds
  currentIterations : s'.currentIterations = s.currentIterations
  lastCc : s'.lastCc = s.lastCc
  totalPacketsProcessed : s'.totalPacketsProcessed = s.totalPacketsProcessed

lemma SameStore.refl (s : PacketState) : SameStore s s := ⟨rfl, rfl, rfl, rfl, rfl, rfl, rfl⟩

lemma SameStore.trans {s t u : PacketState} (h : SameStore s t) (h' : SameStore t u) :
    SameStore s u :=
  ⟨h'.1.trans h.1, h'.2.trans h.2, h'.3.trans h.3, h'.4.trans h.4, h'.5.trans h.5, h'.6.trans h.6,
    h'.7.trans h.7⟩

lemma SameStore.view {s s' : PacketState} (h : SameStore s s') : s'.view = s.view := by
  funext pid
  unfold PacketState.view
  rw [h.storage, h.currentIterations, h.currentIterationIds, h.lastCc]

lemma SameStore.stores {s s' : PacketState} (h : SameStore s s') : s'.stores = s.stores := by
  funext pid
  unfold PacketState.stores
  rw [h.programsTableAvailable, h.knownProgramPids]

@[simp] lemma stored_view (s : PacketState) (pid : UInt16) :
    (s.view pid).stored = s.storage.iterationsOf pid := rfl

lemma startsIteration_eq (s : PacketState) (header : TSPacketHeader) :
    s.startsIteration header = (s.view header.pid).starts header := rfl

/-! ### Finalizing -/

lemma finalizeIteration_sameTables (s : PacketState) (pid : UInt16) :
    SameTables s (s.finalizeIteration pid) := by
  unfold finalizeIteration
  split
  · exact SameTables.refl s
  · exact ⟨rfl, rfl, rfl, rfl, rfl, rfl, rfl, rfl⟩

@[simp] lemma nextIterationId_finalizeIteration (s : PacketState) (pid : UInt16) :
    (s.finalizeIteration pid).storage.nextIterationId = s.storage.nextIterationId := by
  unfold finalizeIteration
  split
  · rfl
  · rfl

lemma view_finalizeIteration (s : PacketState) (pid : UInt16) :
    (s.finalizeIteration pid).view = Function.update s.view pid ((s.view pid).finalize pid) := by
  funext q
  cases hp : s.currentIterations.lookup pid with
  | none =>
    have hs : s.finalizeIteration pid = s := by
      unfold finalizeIteration
      rw [hp]
    rw [hs, StreamView.finalize_of_none hp, Function.update_eq_self]
  | some iteration =>
    have hs : (s.view pid).pending = some iteration := hp
    rw [StreamView.finalize_of_some hs]
    unfold finalizeIteration
    rw [hp]
    by_cases hq : q = pid
    · subst hq
      simp [view, DemuxerStreamStorage.putStream, DemuxerStreamStorage.getStream,
        DemuxerStreamStorage.getOrCreateStream, AList.lookup_insert, AList.lookup_erase]
    · rw [Function.update_of_ne hq]
      simp [view, DemuxerStreamStorage.putStream, DemuxerStreamStorage.getStream,
        AList.lookup_insert_ne hq, AList.lookup_erase_ne hq]

section FinalizeFold

variable (pids : List UInt16) (s : PacketState)

private lemma finalizeFold_sameTables : SameTables s (pids.foldl finalizeIteration s) := by
  induction pids generalizing s with
  | nil => exact SameTables.refl s
  | cons pid pids ih => exact (finalizeIteration_sameTables s pid).trans (ih _)

private lemma finalizeFold_nextIterationId :
    (pids.foldl finalizeIteration s).storage.nextIterationId = s.storage.nextIterationId := by
  induction pids generalizing s with
  | nil => rfl
  | cons pid pids ih => rw [List.foldl_cons, ih, nextIterationId_finalizeIteration]

private lemma finalizeFold_view (q : UInt16) :
    (pids.foldl finalizeIteration s).view q =
      if q ∈ pids then (s.view q).finalize q else s.view q := by
  induction pids generalizing s with
  | nil => simp
  | cons pid pids ih =>
    rw [List.foldl_cons, ih, view_finalizeIteration]
    by_cases hq : q = pid
    · subst hq
      rw [Function.update_self, StreamView.finalize_finalize, ite_self, if_pos List.mem_cons_self]
    · simp [hq]

end FinalizeFold

lemma finalizeAllIterations_sameTables (s : PacketState) : SameTables s s.finalizeAllIterations :=
  finalizeFold_sameTables _ s

@[simp] lemma nextIterationId_finalizeAllIterations (s : PacketState) :
    s.finalizeAllIterations.storage.nextIterationId = s.storage.nextIterationId :=
  finalizeFold_nextIterationId _ s

/-- Finalizing all iterations finalizes the view of every PID. -/
theorem view_finalizeAllIterations (s : PacketState) (pid : UInt16) :
    s.finalizeAllIterations.view pid = (s.view pid).finalize pid := by
  unfold finalizeAllIterations
  rw [finalizeFold_view]
  by_cases hpid : pid ∈ s.currentIterations.keys
  · rw [if_pos hpid]
  · have hnone : (s.view pid).pending = none := by
      rw [← AList.mem_keys] at hpid
      exact AList.lookup_eq_none.mpr hpid
    rw [if_neg hpid, StreamView.finalize_of_none hnone]

lemma iterationsOf_finalizeAllIterations (s : PacketState) (pid : UInt16) :
    s.finalizeAllIterations.storage.iterationsOf pid = ((s.view pid).finalize pid).stored :=
  congrArg StreamView.stored (view_finalizeAllIterations s pid)

/-! ### Adding a packet -/

lemma startNewIteration_sameTables (s : PacketState) (header : TSPacketHeader) :
    SameTables s (s.startNewIteration header) := by
  obtain ⟨h1, h2, h3, h4, h5, h6, h7, h8⟩ := finalizeIteration_sameTables s header.pid
  exact ⟨h1, h2, h3, h4, h5, h6, h7, h8⟩

lemma view_startNewIteration (s : PacketState) (header : TSPacketHeader) :
    (s.startNewIteration header).view = Function.update s.view header.pid
      ((s.view header.pid).startNew s.storage.nextIterationId header) := by
  have hview := view_finalizeIteration s header.pid
  funext q
  have hq := congrFun hview q
  by_cases hpid : q = header.pid
  · subst hpid
    rw [Function.update_self] at hq ⊢
    unfold StreamView.startNew
    rw [← hq]
    simp [view, startNewIteration, DemuxerStreamStorage.generateIterationID,
      DemuxerStreamStorage.getStream, AList.lookup_insert]
  · rw [Function.update_of_ne hpid] at hq ⊢
    rw [← hq]
    simp [view, startNewIteration, DemuxerStreamStorage.generateIterationID,
      DemuxerStreamStorage.getStream, AList.lookup_insert_ne hpid]

lemma nextIterationId_startNewIteration (s : PacketState) (header : TSPacketHeader) :
    (s.startNewIteration header).storage.nextIterationId = s.storage.nextIterationId + 1 := by
  have h : (s.startNewIteration header).storage.nextIterationId =
      (s.finalizeIteration header.pid).storage.nextIterationId + 1 := rfl
  rw [h, nextIterationId_finalizeIteration]

lemma addPacketToStorage_of_not_stores {s : PacketState} {packet : TSPacket}
    (h : s.stores packet.header.pid = false) : s.addPacketToStorage packet = s := by
  unfold addPacketToStorage
  simp [h]

/-- `addPacketToStorage` after the filters and the start of a new iteration. -/
def joinPacket (s : PacketState) (packet : TSPacket) : PacketState :=
  { s with
    currentIterations := s.currentIterations.insert packet.header.pid
      (((s.currentIterations.lookup packet.header.pid).getD {}).addPacket
        (s.lastCc.lookup packet.header.pid) packet)
    lastCc := s.lastCc.insert packet.header.pid packet.header.continuityCounter }

lemma addPacketToStorage_of_stores {s : PacketState} {packet : TSPacket}
    (h : s.stores packet.header.pid = true) :
    s.addPacketToStorage packet = (if s.startsIteration packet.header then
      s.startNewIteration packet.header else s).joinPacket packet := by
  unfold addPacketToStorage
  simp only [h, Bool.not_true, Bool.false_eq_true, if_false]
  rfl

lemma view_joinPacket (s : PacketState) (packet : TSPacket) :
    (s.joinPacket packet).view =
      Function.update s.view packet.header.pid ((s.view packet.header.pid).join packet) := by
  funext q
  by_cases hpid : q = packet.header.pid
  · subst hpid
    rw [Function.update_self]
    simp [view, joinPacket, StreamView.join, AList.lookup_insert]
  · rw [Function.update_of_ne hpid]
    simp [view, joinPacket, AList.lookup_insert_ne hpid]

/-- Adding a packet changes the view of its PID only. -/
theorem view_addPacketToStorage {s : PacketState} {packet : TSPacket}
    (h : s.stores packet.header.pid = true) :
    (s.addPacketToStorage packet).view = Function.update s.view packet.header.pid
      ((s.view packet.header.pid).add s.storage.nextIterationId packet) := by
  rw [addPacketToStorage_of_stores h, view_joinPacket, startsIteration_eq]
  unfold StreamView.add
  by_cases hstart : (s.view packet.header.pid).starts packet.header = true
  · rw [if_pos hstart, if_pos hstart, view_startNewIteration, Function.update_self,
      Function.update_idem]
  · rw [if_neg hstart, if_neg hstart]

lemma nextIterationId_addPacketToStorage (s : PacketState) (packet : TSPacket) :
    (s.addPacketToStorage packet).storage.nextIterationId =
      if s.stores packet.header.pid && s.startsIteration packet.header then
        s.storage.nextIterationId + 1 else s.storage.nextIterationId := by
  cases h : s.stores packet.header.pid with
  | false => simp [addPacketToStorage_of_not_stores h]
  | true =>
    rw [addPacketToStorage_of_stores h]
    unfold joinPacket
    cases s.startsIteration packet.header with
    | false => simp
    | true => simp [nextIterationId_startNewIteration]

lemma addPacketToStorage_sameTables (s : PacketState) (packet : TSPacket) :
    SameTables s (s.addPacketToStorage packet) := by
  cases h : s.stores packet.header.pid with
  | false =>
    rw [addPacketToStorage_of_not_stores h]
    exact SameTables.refl s
  | true =>
    rw [addPacketToStorage_of_stores h]
    have hjoin : ∀ t : PacketState, SameTables t (t.joinPacket packet) :=
      fun t => ⟨rfl, rfl, rfl, rfl, rfl, rfl, rfl, rfl⟩
    split
    · exact (startNewIteration_sameTables s packet.header).trans (hjoin _)
    · exact hjoin s

/-! ### Processing a packet -/

lemma processPSIPacket_sameStore (s : PacketState) (packet : TSPacket) :
    SameStore s (s.processPSIPacket packet) := by
  unfold processPSIPacket
  split
  · dsimp only
    split <;> exact ⟨rfl, rfl, rfl, rfl, rfl, rfl, rfl⟩
  · split
    · split
      · dsimp only
        split <;> exact ⟨rfl, rfl, rfl, rfl, rfl, rfl, rfl⟩
      · exact SameStore.refl s
    · exact SameStore.refl s

lemma processPCR_sameStore (s : PacketState) (packet : TSPacket) :
    SameStore s (s.processPCR packet) := by
  unfold processPCR
  split
  · exact SameStore.refl s
  · dsimp only
    split <;> exact ⟨rfl, rfl, rfl, rfl, rfl, rfl, rfl⟩

/-- The state in which `processPacket` adds its packet to the storage. -/
def readTables (s : PacketState) (packet : TSPacket) : PacketState :=
  (s.processPSIPacket packet).processPCR packet

lemma readTables_sameStore (s : PacketState) (packet : TSPacket) :
    SameStore s (s.readTables packet) :=
  (processPSIPacket_sameStore s packet).trans (processPCR_sameStore _ packet)

lemma processPacket_eq (s : PacketState) (packet : TSPacket) :
    s.processPacket packet = { (s.readTables packet).addPacketToStorage packet with
      totalPacketsProcessed := ((s.readTables packet).addPacketToStorage packet).totalPacketsProcessed
        + 1 } := rfl

/-- The storage side of adding a packet: what happens to the views, the ids and the filter. -/
structure AddsPacket (s : PacketState) (packet : TSPacket) (s' : PacketState) : Prop where
  view : s'.view = if s.stores packet.header.pid then Function.update s.view packet.header.pid
    ((s.view packet.header.pid).add s.storage.nextIterationId packet) else s.view
  nextIterationId : s'.storage.nextIterationId =
    if s.stores packet.header.pid && s.startsIteration packet.header then
      s.storage.nextIterationId + 1 else s.storage.nextIterationId
  stores : s'.stores = s.stores

theorem addPacketToStorage_adds (s : PacketState) (packet : TSPacket) :
    AddsPacket s packet (s.addPacketToStorage packet) := by
  have htables := addPacketToStorage_sameTables s packet
  refine ⟨?_, nextIterationId_addPacketToStorage s packet, ?_⟩
  · by_cases h : s.stores packet.header.pid = true
    · rw [if_pos h, view_addPacketToStorage h]
    · rw [if_neg h, addPacketToStorage_of_not_stores (by simpa using h)]
  · funext pid
    unfold PacketState.stores
    rw [htables.programsTableAvailable, htables.knownProgramPids]

theorem processPacket_adds (s : PacketState) (packet : TSPacket) :
    AddsPacket s packet (s.processPacket packet) := by
  have hsame := readTables_sameStore s packet
  obtain ⟨hview, hnext, hstores⟩ := addPacketToStorage_adds (s.readTables packet) packet
  rw [startsIteration_eq, hsame.view, hsame.stores, hsame.storage] at *
  exact ⟨hview, hnext, hstores⟩

lemma totalPacketsProcessed_processPacket (s : PacketState) (packet : TSPacket) :
    (s.processPacket packet).totalPacketsProcessed = s.totalPacketsProcessed + 1 := by
  rw [processPacket_eq]
  dsimp only
  rw [(addPacketToStorage_sameTables _ packet).totalPacketsProcessed,
    (readTables_sameStore s packet).totalPacketsProcessed]

lemma totalPacketsProcessed_processPackets (s : PacketState) (packets : List TSPacket) :
    (s.processPackets packets).totalPacketsProcessed =
      s.totalPacketsProcessed + UInt64.ofNat packets.length := by
  induction packets generalizing s with
  | nil => simp
  | cons packet packets ih =>
    rw [processPackets_cons, ih, totalPacketsProcessed_processPacket,
      List.length_cons, UInt64.ofNat_add, add_assoc, add_comm 1]
    rfl

end PacketState

end MinimalMpegTS
