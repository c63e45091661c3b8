import MinimalMpegTS.Proofs.Calls
import MinimalMpegTS.Proofs.Queries

/-!
# Clearing one PID does not touch the others

The clearing calls for other PIDs can be left out of a run without any answer about a PID being
different. Two states agree on a PID when they have the same tables, the same view of the PID and,
for all PIDs, the same iterations under construction. The stored iterations of the other PIDs are
read by no step, so this agreement is kept.
-/

namespace MinimalMpegTS

open MPEGTSDemuxer

/-! ### The tables and the stored iterations -/

/-- The tables of one state together with the stored and pending iterations of another. -/
def PacketState.withStore (s store : PacketState) : PacketState :=
  { s with
    storage := store.storage
    currentIterationIds := store.currentIterationIds
    currentIterations := store.currentIterations
    lastCc := store.lastCc }

lemma withStore_of_sameTables {s t : PacketState} (h : PacketState.SameTables s t) :
    t = s.withStore t := by
  obtain ⟨h1, h2, h3, h4, h5, h6, h7, h8⟩ := h
  cases s
  cases t
  dsimp only at *
  subst h1 h2 h3 h4 h5 h6 h7 h8
  rfl

lemma PacketState.SameTables.symm {s t : PacketState} (h : PacketState.SameTables s t) :
    PacketState.SameTables t s :=
  ⟨h.1.symm, h.2.symm, h.3.symm, h.4.symm, h.5.symm, h.6.symm, h.7.symm, h.8.symm⟩

lemma sameTables_withStore (s store : PacketState) :
    PacketState.SameTables s (s.withStore store) := ⟨rfl, rfl, rfl, rfl, rfl, rfl, rfl, rfl⟩

lemma processPSIPacket_withStore (s store : PacketState) (packet : TSPacket) :
    (s.withStore store).processPSIPacket packet = (s.processPSIPacket packet).withStore store := by
  unfold PacketState.processPSIPacket PacketState.withStore
  dsimp only
  split
  · split
    · rfl
    · rfl
  · cases s.pmtAccumulators.lookup packet.header.pid with
    | none => rfl
    | some accumulator =>
      dsimp only
      split
      · split
        · rfl
        · rfl
      · rfl

lemma processPCR_withStore (s store : PacketState) (packet : TSPacket) :
    (s.withStore store).processPCR packet = (s.processPCR packet).withStore store := by
  unfold PacketState.processPCR PacketState.withStore
  cases packet.getAdaptationField with
  | none => rfl
  | some adaptation =>
    dsimp only
    split
    · rfl
    · rfl

lemma sameTables_processPacket {s t : PacketState} (h : PacketState.SameTables s t)
    (packet : TSPacket) : PacketState.SameTables (s.processPacket packet) (t.processPacket packet) := by
  have hread : t.readTables packet = (s.readTables packet).withStore t := by
    have ht := withStore_of_sameTables h
    unfold PacketState.readTables
    rw [← processPCR_withStore, ← processPSIPacket_withStore, ← ht]
  have hs := PacketState.addPacketToStorage_sameTables (s.readTables packet) packet
  have ht := PacketState.addPacketToStorage_sameTables ((s.readTables packet).withStore t) packet
  obtain ⟨h1, h2, h3, h4, h5, h6, h7, h8⟩ := (hs.symm.trans (sameTables_withStore _ t)).trans ht
  rw [PacketState.processPacket_eq, PacketState.processPacket_eq, hread]
  exact ⟨h1, h2, h3, h4, h5, h6, h7, congrArg (· + 1) h8⟩

namespace StreamView

/-- The iteration under construction, without the stored ones. -/
def unstored (v : StreamView) : StreamView := { v with stream := none }

lemma unstored_finalize (v : StreamView) (pid : UInt16) :
    (v.finalize pid).unstored = (v.unstored.finalize pid).unstored := by
  cases h : v.pending with
  | none =>
    have h' : v.unstored.pending = none := h
    rw [finalize_of_none h, finalize_of_none h']
    rfl
  | some iteration =>
    have h' : v.unstored.pending = some iteration := h
    rw [finalize_of_some h, finalize_of_some h']
    rfl

lemma unstored_add (v : StreamView) (iterId : UInt32) (packet : TSPacket) :
    (v.add iterId packet).unstored = (v.unstored.add iterId packet).unstored := by
  unfold add
  cases hstart : v.starts packet.header with
  | true =>
    have hstart' : v.unstored.starts packet.header = true := hstart
    rw [if_pos hstart', if_pos rfl]
    unfold join startNew unstored
    dsimp only
    rw [lastCc_finalize, lastCc_finalize]
  | false =>
    have hstart' : ¬v.unstored.starts packet.header = true := by
      show ¬v.starts packet.header = true
      rw [hstart]
      exact Bool.false_ne_true
    rw [if_neg hstart', if_neg Bool.false_ne_true]
    rfl

end StreamView

/-! ### Agreement on a PID -/

/-- The states agree on everything but the stored iterations of other PIDs. -/
structure AgreeOn (pid : UInt16) (s t : PacketState) : Prop where
  tables : PacketState.SameTables s t
  nextIterationId : s.storage.nextIterationId = t.storage.nextIterationId
  unstored : ∀ q, (s.view q).unstored = (t.view q).unstored
  view : s.view pid = t.view pid

namespace AgreeOn

variable {pid : UInt16} {s t : PacketState}

lemma refl (pid : UInt16) (s : PacketState) : AgreeOn pid s s :=
  ⟨.refl s, rfl, fun _ => rfl, rfl⟩

lemma stores (h : AgreeOn pid s t) : s.stores = t.stores := by
  funext q
  unfold PacketState.stores
  rw [h.tables.programsTableAvailable, h.tables.knownProgramPids]

lemma startsIteration (h : AgreeOn pid s t) (header : TSPacketHeader) :
    s.startsIteration header = t.startsIteration header := by
  have hpending := congrArg StreamView.pending (h.unstored header.pid)
  show ((s.view header.pid).pending.isNone || _) = ((t.view header.pid).pending.isNone || _)
  exact congrArg (fun pending => pending.isNone || header.payloadUnitStart) hpending

lemma processPacket (h : AgreeOn pid s t) (packet : TSPacket) :
    AgreeOn pid (s.processPacket packet) (t.processPacket packet) := by
  have hs := PacketState.processPacket_adds s packet
  have ht := PacketState.processPacket_adds t packet
  refine ⟨sameTables_processPacket h.tables packet, ?_, ?_, ?_⟩
  · rw [hs.nextIterationId, ht.nextIterationId, h.stores, h.startsIteration, h.nextIterationId]
  · intro q
    rw [hs.view, ht.view, h.stores, h.nextIterationId]
    split
    · by_cases hq : q = packet.header.pid
      · subst hq
        rw [Function.update_self, Function.update_self, StreamView.unstored_add, h.unstored,
          ← StreamView.unstored_add]
      · rw [Function.update_of_ne hq, Function.update_of_ne hq, h.unstored]
    · exact h.unstored q
  · rw [hs.view, ht.view, h.stores, h.nextIterationId]
    split
    · by_cases hq : pid = packet.header.pid
      · subst hq
        rw [Function.update_self, Function.update_self, h.view]
      · rw [Function.update_of_ne hq, Function.update_of_ne hq, h.view]
    · exact h.view

lemma processPackets (h : AgreeOn pid s t) (packets : List TSPacket) :
    AgreeOn pid (s.processPackets packets) (t.processPackets packets) := by
  induction packets generalizing s t with
  | nil => exact h
  | cons packet packets ih => exact ih (h.processPacket packet)

lemma finalizeAll (h : AgreeOn pid s t) :
    AgreeOn pid s.finalizeAllIterations t.finalizeAllIterations := by
  have hs := PacketState.finalizeAllIterations_sameTables s
  have ht := PacketState.finalizeAllIterations_sameTables t
  refine ⟨(hs.symm.trans h.tables).trans ht, ?_, ?_, ?_⟩
  · rw [PacketState.nextIterationId_finalizeAllIterations,
      PacketState.nextIterationId_finalizeAllIterations, h.nextIterationId]
  · intro q
    rw [PacketState.view_finalizeAllIterations, PacketState.view_finalizeAllIterations,
      StreamView.unstored_finalize, h.unstored, ← StreamView.unstored_finalize]
  · rw [PacketState.view_finalizeAllIterations, PacketState.view_finalizeAllIterations, h.view]

end AgreeOn

/-! ### Calls -/

/-- The call clears something of another PID. -/
def Call.clearsOther (pid : UInt16) : Call → Bool
  | .clearIteration p _ | .clearStream p => p != pid
  | _ => false

/-- The call does not ask for the stored iterations of another PID. -/
def Call.isAbout (pid : UInt16) : Call → Bool
  | .getPrograms | .getDiscoveredPIDs => false
  | .getIterationsSummary p | .getPayload p _ _ | .getAllPayloads p _ => p == pid
  | _ => true

/-- A call that writes back one stream leaves all but the stored iterations of its PID alone. -/
structure ChangesStream (pid : UInt16) (s s' : PacketState) : Prop where
  tables : PacketState.SameTables s s'
  nextIterationId : s'.storage.nextIterationId = s.storage.nextIterationId
  unstored : ∀ q, (s'.view q).unstored = (s.view q).unstored
  others : ∀ q, q ≠ pid → s'.view q = s.view q

lemma changesStream_update {pid : UInt16} {s s' : PacketState} {stream : Option StreamIterations}
    (htables : PacketState.SameTables s s')
    (hnext : s'.storage.nextIterationId = s.storage.nextIterationId)
    (hview : s'.view = Function.update s.view pid { s.view pid with stream := stream }) :
    ChangesStream pid s s' := by
  refine ⟨htables, hnext, ?_, ?_⟩
  · intro q
    rw [hview]
    by_cases hq : q = pid
    · subst hq
      rw [Function.update_self]
      rfl
    · rw [Function.update_of_ne hq]
  · intro q hq
    rw [hview, Function.update_of_ne hq]

lemma clearIteration_changesStream (d : MPEGTSDemuxer) (pid : UInt16) (iterId : UInt32) :
    ChangesStream pid d.toPacketState (d.clearIteration pid iterId).toPacketState :=
  changesStream_update ⟨rfl, rfl, rfl, rfl, rfl, rfl, rfl, rfl⟩ rfl
    (PacketState.view_clearIteration d pid iterId)

lemma clearStream_changesStream (d : MPEGTSDemuxer) (pid : UInt16) :
    ChangesStream pid d.toPacketState (d.clearStream pid).toPacketState :=
  changesStream_update ⟨rfl, rfl, rfl, rfl, rfl, rfl, rfl, rfl⟩
    (PacketState.nextIterationId_clearStream d pid) (PacketState.view_clearStream d pid)

lemma AgreeOn.skip {pid other : UInt16} {s s' t : PacketState} (h : AgreeOn pid s t)
    (hother : other ≠ pid) (hs : ChangesStream other s s') : AgreeOn pid s' t := by
  refine ⟨hs.tables.symm.trans h.tables, ?_, ?_, ?_⟩
  · rw [hs.nextIterationId, h.nextIterationId]
  · intro q
    rw [hs.unstored, h.unstored]
  · rw [hs.others pid (Ne.symm hother), h.view]

lemma AgreeOn.both {pid : UInt16} {s s' t t' : PacketState} (h : AgreeOn pid s t)
    (hs : ChangesStream pid s s') (ht : ChangesStream pid t t') (hview : s'.view pid = t'.view pid) :
    AgreeOn pid s' t' := by
  refine ⟨(hs.tables.symm.trans h.tables).trans ht.tables, ?_, ?_, hview⟩
  · rw [hs.nextIterationId, ht.nextIterationId, h.nextIterationId]
  · intro q
    rw [hs.unstored, ht.unstored, h.unstored]

/-- The states have the same input side and agree on the PID. -/
structure Agree (pid : UInt16) (d e : MPEGTSDemuxer) : Prop where
  input : d.toInputState = e.toInputState
  packets : AgreeOn pid d.toPacketState e.toPacketState

lemma Agree.finalized {pid : UInt16} {d e : MPEGTSDemuxer} (h : Agree pid d e) :
    Agree pid d.finalized e.finalized := ⟨h.input, h.packets.finalizeAll⟩

lemma Agree.call {pid : UInt16} {d e : MPEGTSDemuxer} (h : Agree pid d e) {c : Call}
    (hc : c.clearsOther pid = false) : Agree pid (d.call c).1 (e.call c).1 := by
  cases c with
  | feedData data =>
    refine ⟨?_, ?_⟩
    · show (d.feedData data).toInputState = (e.feedData data).toInputState
      rw [feedData_eq, feedData_eq, h.input]
    · show AgreeOn pid (d.feedData data).toPacketState (e.feedData data).toPacketState
      rw [toPacketState_feedData, toPacketState_feedData, h.input]
      exact h.packets.processPackets _
  | getPrograms => exact h.finalized
  | getDiscoveredPIDs => exact h.finalized
  | getIterationsSummary p => exact h.finalized
  | clearIteration p iterId =>
    obtain rfl : p = pid := by simpa [Call.clearsOther] using hc
    refine ⟨h.input, h.packets.both (clearIteration_changesStream d p iterId)
      (clearIteration_changesStream e p iterId) ?_⟩
    show (d.clearIteration p iterId).view p = (e.clearIteration p iterId).view p
    rw [PacketState.view_clearIteration, PacketState.view_clearIteration, Function.update_self,
      Function.update_self, h.packets.view]
  | clearStream p =>
    obtain rfl : p = pid := by simpa [Call.clearsOther] using hc
    refine ⟨h.input, h.packets.both (clearStream_changesStream d p)
      (clearStream_changesStream e p) ?_⟩
    show (d.clearStream p).view p = (e.clearStream p).view p
    rw [PacketState.view_clearStream, PacketState.view_clearStream, Function.update_self,
      Function.update_self, h.packets.view]
  | clearAll =>
    have htables := h.packets.finalizeAll.tables
    have hoffset : d.syncOffset = e.syncOffset := congrArg InputState.syncOffset h.input
    constructor
    · show InputState.mk [] false d.syncOffset = InputState.mk [] false e.syncOffset
      rw [hoffset]
    · exact ⟨⟨htables.1, htables.2, htables.3, htables.4, htables.5, htables.6, htables.7,
        htables.8⟩, rfl, fun _ => rfl, rfl⟩
  | setProgramsTable table =>
    have htables := h.packets.tables
    refine ⟨h.input, ⟨rfl, rfl, htables.3, htables.4, htables.5, htables.6, htables.7, htables.8⟩,
      rfl, h.packets.unstored, ?_⟩
    exact h.packets.unstored pid
  | _ => exact h

lemma Agree.answer {pid : UInt16} {d e : MPEGTSDemuxer} (h : Agree pid d e) {c : Call}
    (hc : c.isAbout pid = true) : (d.call c).2 = (e.call c).2 := by
  have hstream : d.storage.getStream pid = e.storage.getStream pid :=
    congrArg StreamView.stream h.packets.view
  have hfind : ∀ iterId, d.findIteration pid iterId = e.findIteration pid iterId := by
    intro iterId
    unfold findIteration
    rw [hstream]
  have hmanager := h.packets.tables.pcrManager
  cases c with
  | getIterationsSummary p =>
    obtain rfl : p = pid := by simpa [Call.isAbout] using hc
    have hfinal : d.finalized.storage.getStream p = e.finalized.storage.getStream p :=
      congrArg StreamView.stream h.finalized.packets.view
    show Answer.summary _ = Answer.summary _
    unfold getIterationsSummary
    dsimp only
    rw [hfinal]
  | getPayload p iterId type =>
    obtain rfl : p = pid := by simpa [Call.isAbout] using hc
    show Answer.payload _ = Answer.payload _
    unfold getPayload
    rw [hfind]
  | getAllPayloads p iterId =>
    obtain rfl : p = pid := by simpa [Call.isAbout] using hc
    show Answer.payloads _ = Answer.payloads _
    unfold getAllPayloads
    rw [hfind]
  | getPrograms => cases hc
  | getDiscoveredPIDs => cases hc
  | isSynchronized => exact congrArg (fun input => Answer.flag input.isSynchronized) h.input
  | getBufferOccupancy => exact congrArg (fun input => Answer.size input.rawBuffer.length) h.input
  | getPacketCount =>
    exact congrArg (fun input => Answer.size (input.rawBuffer.length / mpegtsPacketSize)) h.input
  | hasProgramsTable => exact congrArg Answer.flag h.packets.tables.programsTableAvailable.symm
  | getPCRStats p =>
    show Answer.pcrStats _ = Answer.pcrStats _
    unfold getPCRStats
    rw [hmanager]
  | getAllPCRStats =>
    show Answer.allPcrStats _ = Answer.allPcrStats _
    rw [hmanager]
  | getPIDsWithPCR =>
    show Answer.pids _ = Answer.pids _
    rw [hmanager]
  | getLastPCR p =>
    show Answer.pcr _ = Answer.pcr _
    unfold getLastPCR
    rw [hmanager]
  | _ => rfl

/-- A run agrees with the one without the calls that clear other PIDs. -/
theorem agree_run (calls : List Call) (pid : UInt16) :
    Agree pid (run {} calls) (run {} (calls.filter (fun c => !c.clearsOther pid))) := by
  apply Transducer.filter_simulation call (fun c => !c.clearsOther pid) (fun d e _ => Agree pid d e)
  · intro d e c _ hkept h
    exact h.call (by simpa using hkept)
  · intro d e c _ hskipped h
    cases c with
    | clearIteration p iterId =>
      have hne : p ≠ pid := by simpa [Call.clearsOther] using hskipped
      exact ⟨h.input, h.packets.skip hne (clearIteration_changesStream d p iterId)⟩
    | clearStream p =>
      have hne : p ≠ pid := by simpa [Call.clearsOther] using hskipped
      exact ⟨h.input, h.packets.skip hne (clearStream_changesStream d p)⟩
    | _ => simp [Call.clearsOther] at hskipped
  · exact ⟨rfl, AgreeOn.refl pid _⟩

/-- The calls that clear something of other PIDs can be left out of any run: what is answered about
a PID afterwards is the same. -/
theorem clears_local (calls : List Call) {pid : UInt16} {c : Call} (hc : c.isAbout pid = true) :
    ((run {} calls).call c).2 =
      ((run {} (calls.filter (fun c' => !c'.clearsOther pid))).call c).2 :=
  (agree_run calls pid).answer hc

/-- Three packets of the PID 0x101. -/
def otherPackets : List UInt8 :=
  [0, 1, 2].flatMap (fun cc => plainPacket 0x101 cc (cc == 0) (List.replicate 184 0xBB))

/-- The cleared PID has a stream with an iteration. -/
theorem clears_local_sample :
    let calls := [Call.feedData (threePackets ++ otherPackets), .getPrograms, .clearStream 0x101]
    (run {} (calls.take 2)).storage.iterationsOf 0x101 ≠ [] ∧
      ((run {} calls).call (.getIterationsSummary 0x100)).2 =
        ((run {} (calls.filter (fun c => !c.clearsOther 0x100))).call
          (.getIterationsSummary 0x100)).2 := by
  intro calls
  refine ⟨?_, clears_local _ rfl⟩
  decide +kernel

end MinimalMpegTS
