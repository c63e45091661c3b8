import MinimalMpegTS.Model.Packet
import MinimalMpegTS.Model.Storage
import MinimalMpegTS.Model.PSI
import MinimalMpegTS.Model.PCR

/-!
# The demultiplexer

The model of `mpegts_demuxer.hpp` and `mpegts_demuxer.cpp`. The members of the class are in two
records: `InputState` has those of the synchronization to the byte stream, `PacketState` those
that the processing of single packets reads and writes. The member `sync_validation_depth_` is
set to 3 by the constructor and never written again, so it is a constant here.
-/

namespace MinimalMpegTS

def syncValidationDepth : Nat := 3

structure InputState where
  rawBuffer : List UInt8 := []
  isSynchronized : Bool := false
  syncOffset : Nat := 0
  deriving DecidableEq

structure PacketState where
  storage : DemuxerStreamStorage := {}
  programsTableAvailable : Bool := false
  knownProgramPids : Finset UInt16 := ∅
  currentIterationIds : PidMap UInt32 := ∅
  currentIterations : PidMap IterationData := ∅
  lastCc : PidMap UInt8 := ∅
  patAccumulator : PSIAccumulator := {}
  pmtAccumulators : PidMap PSIAccumulator := ∅
  parsedPat : Option PAT := none
  parsedPmts : PidMap PMT := ∅
  pcrManager : PCRManager := {}
  totalPacketsProcessed : UInt64 := 0

/-- A demultiplexer. A freshly constructed one is `{}`. -/
structure MPEGTSDemuxer extends InputState, PacketState

/-! ### Iterations -/

/-- Store bytes in the buffer of an iteration and add a segment for them. -/
def IterationData.store (self : IterationData) (type : PayloadType) (bytes : List UInt8) :
    IterationData :=
  { self with
    payloadData := self.payloadData ++ bytes
    payloads := self.payloads ++ [{ type := type, data := none, length := bytes.length,
                                    offsetInStream := self.payloadData.length }] }

/-- The iteration that a packet with this header starts. -/
def IterationData.start (header : TSPacketHeader) : IterationData :=
  { firstCc := header.continuityCounter, payloadUnitStartSeen := header.payloadUnitStart }

/-- The packet has the discontinuity indicator set and does not carry the successor of the
last counter of its PID. -/
def announcedDiscontinuity (lastCc : Option UInt8) (packet : TSPacket) : Bool :=
  match lastCc with
  | none => false
  | some lastCc =>
    packet.header.continuityCounter != (lastCc + 1) % 16 &&
      match packet.getAdaptationField with
      | none => false
      | some adapt => adapt.discontinuityIndicator

/-- What `addPacketToStorage` does to the current iteration of the PID. -/
def IterationData.addPacket (self : IterationData) (lastCc : Option UInt8) (packet : TSPacket) :
    IterationData :=
  let self := { self with
    lastCc := packet.header.continuityCounter
    packetCount := self.packetCount + 1
    discontinuityDetected := self.discontinuityDetected || announcedDiscontinuity lastCc packet }
  let self := if 0 < packet.getPrivateDataLength then
    self.store .payloadPrivate packet.privateBytes else self
  if packet.hasPayload && decide (0 < packet.payloadSize) then
    self.store .payloadNormal packet.payloadBytes else self

namespace PacketState

def finalizeIteration (self : PacketState) (pid : UInt16) : PacketState :=
  match self.currentIterations.lookup pid with
  | none => self
  | some iteration =>
    let iterId := (self.currentIterationIds.lookup pid).getD 0
    let stream := self.storage.getOrCreateStream pid
    { self with
      storage := self.storage.putStream pid (stream.addIteration iterId iteration)
      currentIterations := self.currentIterations.erase pid
      currentIterationIds := self.currentIterationIds.erase pid }

def finalizeAllIterations (self : PacketState) : PacketState :=
  self.currentIterations.keys.foldl finalizeIteration self

/-- The packet's PID passes the filters of `addPacketToStorage`. -/
def stores (self : PacketState) (pid : UInt16) : Bool :=
  !isSystemPID pid && (!self.programsTableAvailable || decide (pid ∈ self.knownProgramPids))

/-- The packet starts a new iteration: it is the first one of its PID or it has PUSI set. -/
def startsIteration (self : PacketState) (header : TSPacketHeader) : Bool :=
  (self.currentIterations.lookup header.pid).isNone || header.payloadUnitStart

/-- Finish the current iteration of the packet's PID, if any, and start a new one. -/
def startNewIteration (self : PacketState) (header : TSPacketHeader) : PacketState :=
  let self := self.finalizeIteration header.pid
  let (iterId, storage) := self.storage.generateIterationID
  { self with
    storage := storage
    currentIterationIds := self.currentIterationIds.insert header.pid iterId
    currentIterations := self.currentIterations.insert header.pid (.start header) }

def addPacketToStorage (self : PacketState) (packet : TSPacket) : PacketState :=
  let header := packet.header
  let pid := header.pid
  if !self.stores pid then self
  else
    let self := if self.startsIteration header then self.startNewIteration header else self
    let iteration := (self.currentIterations.lookup pid).getD {}
    { self with
      currentIterations := self.currentIterations.insert pid
        (iteration.addPacket (self.lastCc.lookup pid) packet)
      lastCc := self.lastCc.insert pid header.continuityCounter }

/-- Add a payload to an accumulator and take the section out if it is complete. -/
def accumulate (accumulator : PSIAccumulator) (packet : TSPacket) :
    PSIAccumulator × Option (List UInt8) :=
  match accumulator.addData packet.payloadBytes packet.header.payloadUnitStart with
  | (accumulator, false) => (accumulator, none)
  | (accumulator, true) =>
    match accumulator.getSection with
    | (accumulator, some (byte :: section')) => (accumulator, some (byte :: section'))
    | (accumulator, _) => (accumulator, none)

/-- A section parsed into a fresh table object. -/
def tableOf {α : Type} (parsed : Option (α × Bool)) : Option α :=
  match parsed with
  | some (table, true) => some table
  | _ => none

/-- Create accumulators for the PMT PIDs that a PAT announces. -/
def createAccumulators (accumulators : PidMap PSIAccumulator) (programs : List PATEntry) :
    PidMap PSIAccumulator :=
  programs.foldl (fun accumulators entry =>
    if entry.programNumber ≠ 0 then accumulators.insert entry.pid {} else accumulators) accumulators

def acceptPAT (self : PacketState) (pat : PAT) : PacketState :=
  { self with
    parsedPat := some pat
    pmtAccumulators := createAccumulators self.pmtAccumulators pat.programs }

def acceptPMT (self : PacketState) (pmt : PMT) : PacketState :=
  { self with parsedPmts := self.parsedPmts.insert pmt.programNumber pmt }

def processPSIPacket (self : PacketState) (packet : TSPacket) : PacketState :=
  if packet.header.pid = pidPat && packet.hasPayload then
    let (accumulator, section?) := accumulate self.patAccumulator packet
    let self := { self with patAccumulator := accumulator }
    match section?.bind (fun data => tableOf (PSIParser.parsePAT {} data)) with
    | some pat => self.acceptPAT pat
    | none => self
  else
    match self.pmtAccumulators.lookup packet.header.pid with
    | some accumulator =>
      if packet.hasPayload then
        let (accumulator, section?) := accumulate accumulator packet
        let self := { self with
          pmtAccumulators := self.pmtAccumulators.insert packet.header.pid accumulator }
        match section?.bind (fun data => tableOf (PSIParser.parsePMT {} data)) with
        | some pmt => self.acceptPMT pmt
        | none => self
      else self
    | none => self

def processPCR (self : PacketState) (packet : TSPacket) : PacketState :=
  match packet.getAdaptationField with
  | none => self
  | some adaptation =>
    let pcr : PCR := ⟨adaptation.pcrBase, adaptation.pcrExtension⟩
    if adaptation.pcrFlag && pcr.isValid then
      { self with
        pcrManager := self.pcrManager.addPCR packet.header.pid pcr self.totalPacketsProcessed
          packet.header.continuityCounter }
    else self

/-- The body of the processing loop for an accepted packet. -/
def processPacket (self : PacketState) (packet : TSPacket) : PacketState :=
  let self := ((self.processPSIPacket packet).processPCR packet).addPacketToStorage packet
  { self with totalPacketsProcessed := self.totalPacketsProcessed + 1 }

end PacketState

/-! ### Synchronization -/

/-- The packet bytes at a position of the buffer. -/
def packetAt (buffer : List UInt8) (pos : Nat) : List UInt8 :=
  (buffer.drop pos).take mpegtsPacketSize

def belongsToSameIteration (p1 p2 : TSPacket) : Bool :=
  let h1 := p1.header
  let h2 := p2.header
  let expectedCc := (h1.continuityCounter + 1) % 16
  let unexpectedJump := h2.continuityCounter != expectedCc &&
    match p2.getAdaptationField with
    | none => true
    | some adapt => !adapt.discontinuityIndicator
  !unexpectedJump && !(p1.hasPayload && h1.pid != h2.pid)

/-- The candidate found at a position, if it goes on from the last one. -/
def candidateAt (buffer : List UInt8) (candidates : List TSPacket) (pos : Nat) : Option TSPacket :=
  if buffer[pos]? = some mpegtsSyncByte then
    match TSPacket.accept (packetAt buffer pos) with
    | none => none
    | some candidate =>
      match candidates.getLast? with
      | none => some candidate
      | some last => if belongsToSameIteration last candidate then some candidate else none
  else none

/-- The adaptive search for further candidates, with a bound on the number of rounds. -/
def searchCandidates (buffer : List UInt8) (maxSearch : Nat) :
    Nat → List TSPacket → Nat → List TSPacket
  | 0, candidates, _ => candidates
  | fuel + 1, candidates, searchPos =>
    if candidates.length < syncValidationDepth ∧ searchPos + mpegtsPacketSize ≤ maxSearch then
      match candidateAt buffer candidates searchPos with
      | some candidate =>
        searchCandidates buffer maxSearch fuel (candidates ++ [candidate])
          (searchPos + mpegtsPacketSize)
      | none => searchCandidates buffer maxSearch fuel candidates (searchPos + 1)
    else candidates

/-- Neighbouring candidates belong to the same iteration. -/
def validSequence : List TSPacket → Bool
  | p1 :: p2 :: rest => belongsToSameIteration p1 p2 && validSequence (p2 :: rest)
  | _ => true

/-- The body of the scan for sync positions: the position is accepted. -/
def isSyncPosition (buffer : List UInt8) (startPos : Nat) : Bool :=
  match candidateAt buffer [] startPos with
  | none => false
  | some packet1 =>
    let maxSearch := min (startPos + mpegtsPacketSize * 10) buffer.length
    let candidates := searchCandidates buffer maxSearch maxSearch [packet1] (startPos + 1)
    decide (syncValidationDepth ≤ candidates.length) && validSequence candidates

/-- The position that `tryFindValidIteration` finds. -/
def findSyncPosition (buffer : List UInt8) : Option Nat :=
  let minBufferForSync := mpegtsPacketSize * 3
  if buffer.length < minBufferForSync then none
  else (List.range (buffer.length - minBufferForSync + 1)).find? (isSyncPosition buffer)

namespace MPEGTSDemuxer

def tryFindValidIteration (self : MPEGTSDemuxer) : MPEGTSDemuxer × Bool :=
  match findSyncPosition self.rawBuffer with
  | some startPos => ({ self with syncOffset := startPos }, true)
  | none => (self, false)

/-- What one round of the processing loop does. -/
inductive LoopStep
  | finished
  | lostSync (demuxer : MPEGTSDemuxer)
  | processed (packet : TSPacket) (demuxer : MPEGTSDemuxer)

def loopStep (self : MPEGTSDemuxer) : LoopStep :=
  if self.syncOffset + mpegtsPacketSize ≤ self.rawBuffer.length then
    let lost := { self with isSynchronized := false, syncOffset := 0 }
    let packetData := packetAt self.rawBuffer self.syncOffset
    if packetData.head? ≠ some mpegtsSyncByte then .lostSync lost
    else
      match TSPacket.accept packetData with
      | none => .lostSync lost
      | some packet =>
        .processed packet { self with
          toPacketState := self.toPacketState.processPacket packet
          syncOffset := self.syncOffset + mpegtsPacketSize }
  else .finished

def eraseProcessed (self : MPEGTSDemuxer) : MPEGTSDemuxer :=
  { self with rawBuffer := self.rawBuffer.drop self.syncOffset, syncOffset := 0 }

/-- The processing loop, with a bound on the number of rounds. -/
def processLoop : Nat → MPEGTSDemuxer → MPEGTSDemuxer
  | 0, self => self.eraseProcessed
  | fuel + 1, self =>
    match self.loopStep with
    | .finished => self.eraseProcessed
    | .lostSync demuxer => demuxer
    | .processed _ demuxer => processLoop fuel demuxer

/-- The state before each packet that the processing loop processes, with the packet. -/
def loopTrace : Nat → MPEGTSDemuxer → List (MPEGTSDemuxer × TSPacket)
  | 0, _ => []
  | fuel + 1, self =>
    match self.loopStep with
    | .processed packet demuxer => (self, packet) :: loopTrace fuel demuxer
    | _ => []

/-- The beginning of `processBuffer`: the flag tells whether to go on. -/
def synchronize (self : MPEGTSDemuxer) : MPEGTSDemuxer × Bool :=
  if self.isSynchronized then (self, true)
  else
    match self.tryFindValidIteration with
    | (self, true) => ({ self with isSynchronized := true }, true)
    | (self, false) => (self, false)

def processBuffer (self : MPEGTSDemuxer) : MPEGTSDemuxer :=
  match self.synchronize with
  | (self, true) => processLoop self.rawBuffer.length self
  | (self, false) => self

/-- Keep the last `MAX_BUFFER_SIZE` bytes. -/
def limitBuffer (buffer : List UInt8) : List UInt8 :=
  if maxBufferSize < buffer.length then buffer.drop (buffer.length - maxBufferSize) else buffer

/-- The demultiplexer with a chunk in its buffer, before the buffer is processed. -/
def bufferData (self : MPEGTSDemuxer) (data : List UInt8) : MPEGTSDemuxer :=
  { self with rawBuffer := limitBuffer (self.rawBuffer ++ data) }

def feedData (self : MPEGTSDemuxer) (data : List UInt8) : MPEGTSDemuxer :=
  if data.isEmpty then self else (self.bufferData data).processBuffer

/-- The states and packets that `feedData` passes through in the processing loop. -/
def feedTrace (self : MPEGTSDemuxer) (data : List UInt8) : List (MPEGTSDemuxer × TSPacket) :=
  if data.isEmpty then []
  else
    match (self.bufferData data).synchronize with
    | (self, true) => loopTrace self.rawBuffer.length self
    | (_, false) => []

/-! ### Queries and data management -/

/-- A query that finalizes the pending iterations first. -/
def finalized (self : MPEGTSDemuxer) : MPEGTSDemuxer :=
  { self with toPacketState := self.toPacketState.finalizeAllIterations }

/-- The sum of the segment lengths of all iterations of a stream. -/
def streamPayloadSize (stream : StreamIterations) : Nat :=
  (stream.iterations.map (fun pair => (pair.2.payloads.map PayloadSegment.length).sum)).sum

/-- The program information collected from a parsed PMT. -/
def programOfPMT (storage : DemuxerStreamStorage) (progNum : UInt16) (pmt : PMT) : ProgramInfo :=
  let streams := pmt.streams.filterMap (fun info => storage.getStream info.elementaryPid)
  { programNumber := progNum
    streamPids := pmt.streams.map PMTStreamInfo.elementaryPid
    totalPayloadSize := (streams.map streamPayloadSize).sum
    iterationCount := (streams.map StreamIterations.getIterationCount).sum
    hasDiscontinuity := streams.any StreamIterations.hasDiscontinuity }

/-- The program information for a stream without a PMT. -/
def programOfStream (pid : UInt16) (stream : StreamIterations) : ProgramInfo :=
  { programNumber := 0
    streamPids := [pid]
    totalPayloadSize := streamPayloadSize stream
    iterationCount := stream.getIterationCount
    hasDiscontinuity := stream.hasDiscontinuity }

def getPrograms (self : MPEGTSDemuxer) : MPEGTSDemuxer × List ProgramInfo :=
  let self := self.finalized
  (self,
    if self.parsedPmts.entries.isEmpty then
      (self.storage.getAllStreams.filter (fun entry => isProgramStream entry.1)).map
        (fun entry => programOfStream entry.1 entry.2)
    else self.parsedPmts.entries.map (fun entry => programOfPMT self.storage entry.1 entry.2))

def getDiscoveredPIDs (self : MPEGTSDemuxer) : MPEGTSDemuxer × Finset UInt16 :=
  let self := self.finalized
  (self, self.storage.getDiscoveredPIDs)

/-- The total length of the segments of a type. -/
def segmentsSize (type : PayloadType) (iteration : IterationData) : Nat :=
  ((iteration.payloads.filter (fun payload => payload.type = type)).map PayloadSegment.length).sum

def iterationInfo (iterId : UInt32) (iteration : IterationData) : IterationInfo :=
  { iterationId := iterId
    payloadNormalSize := segmentsSize .payloadNormal iteration
    payloadPrivateSize := segmentsSize .payloadPrivate iteration
    hasDiscontinuity := iteration.discontinuityDetected
    ccStart := iteration.firstCc
    ccEnd := iteration.lastCc
    packetCount := iteration.packetCount }

def getIterationsSummary (self : MPEGTSDemuxer) (pid : UInt16) :
    MPEGTSDemuxer × List IterationInfo :=
  let self := self.finalized
  (self,
    match self.storage.getStream pid with
    | none => []
    | some stream => stream.iterations.map (fun pair => iterationInfo pair.1 pair.2))

/-- The buffer returned for a segment of a stored iteration. -/
def payloadBuffer (iteration : IterationData) (payload : PayloadSegment) : PayloadBuffer :=
  { data := payload.data.map iteration.payloadData.drop
    length := payload.length
    type := payload.type }

/-- The stored iteration that the payload queries look up. -/
def findIteration (self : MPEGTSDemuxer) (pid : UInt16) (iterId : UInt32) : Option IterationData :=
  (self.storage.getStream pid).bind (fun stream => stream.getIteration iterId)

def getPayload (self : MPEGTSDemuxer) (pid : UInt16) (iterId : UInt32) (type : PayloadType) :
    PayloadBuffer :=
  match self.findIteration pid iterId with
  | none => {}
  | some iteration =>
    match iteration.payloads.find? (fun payload => payload.type = type) with
    | none => {}
    | some payload => payloadBuffer iteration payload

def getAllPayloads (self : MPEGTSDemuxer) (pid : UInt16) (iterId : UInt32) :
    List PayloadBuffer :=
  match self.findIteration pid iterId with
  | none => []
  | some iteration => iteration.payloads.map (payloadBuffer iteration)

def clearIteration (self : MPEGTSDemuxer) (pid : UInt16) (iterId : UInt32) : MPEGTSDemuxer :=
  let stream := (self.storage.getOrCreateStream pid).removeIteration iterId
  { self with storage := self.storage.putStream pid stream }

def clearStream (self : MPEGTSDemuxer) (pid : UInt16) : MPEGTSDemuxer :=
  { self with storage := self.storage.clearStream pid }

/-- The loop of the source erases from the map that it walks: with anything pending its behaviour is
undefined, and it can crash. The loop is taken here to visit each pending iteration once, which is exact
where nothing is pending. -/
def clearAll (self : MPEGTSDemuxer) : MPEGTSDemuxer :=
  let self := self.finalized
  { self with
    storage := self.storage.clear
    rawBuffer := []
    isSynchronized := false
    currentIterations := ∅
    currentIterationIds := ∅
    lastCc := ∅ }

def getBufferOccupancy (self : MPEGTSDemuxer) : Nat := self.rawBuffer.length

def getPacketCount (self : MPEGTSDemuxer) : Nat := self.rawBuffer.length / mpegtsPacketSize

/-- All PIDs of a program table. -/
def tablePids (table : ProgramTable) : Finset UInt16 :=
  (table.programs.sortedEntries.flatMap Prod.snd).toFinset

def setProgramsTable (self : MPEGTSDemuxer) (table : ProgramTable) : MPEGTSDemuxer :=
  { self with
    programsTableAvailable := true
    knownProgramPids := tablePids table
    storage := self.storage.clear }

def getPCRStats (self : MPEGTSDemuxer) (pid : UInt16) : Option PCRStats :=
  (self.pcrManager.getTracker pid).map PCRTracker.getStats

def getLastPCR (self : MPEGTSDemuxer) (pid : UInt16) : Option PCR :=
  (self.pcrManager.getTracker pid).bind PCRTracker.getLastPCR

end MPEGTSDemuxer

end MinimalMpegTS
