import MinimalMpegTS.Lib.Transducer
import MinimalMpegTS.Model.Demuxer

/-!
# The public interface

The public operations of `MPEGTSDemuxer` as the inputs of a machine, and their results as its
answers. A run of the demultiplexer is a run of this machine from a freshly constructed object.
-/

namespace MinimalMpegTS

inductive Call
  | feedData (data : List UInt8)
  | getPrograms
  | getDiscoveredPIDs
  | getIterationsSummary (pid : UInt16)
  | getPayload (pid : UInt16) (iterId : UInt32) (type : PayloadType)
  | getAllPayloads (pid : UInt16) (iterId : UInt32)
  | clearIteration (pid : UInt16) (iterId : UInt32)
  | clearStream (pid : UInt16)
  | clearAll
  | isSynchronized
  | getBufferOccupancy
  | getPacketCount
  | setProgramsTable (table : ProgramTable)
  | hasProgramsTable
  | getPCRStats (pid : UInt16)
  | getAllPCRStats
  | getPIDsWithPCR
  | getLastPCR (pid : UInt16)

/-- A data call or a query that does not clear anything. -/
def Call.isFeedOrQuery : Call → Bool
  | .clearIteration _ _ | .clearStream _ | .clearAll | .setProgramsTable _ => false
  | _ => true

/-- A data call. -/
def Call.isFeed : Call → Bool
  | .feedData _ => true
  | _ => false

/-- A query that finalizes the pending iterations. -/
def Call.isListing : Call → Bool
  | .getPrograms | .getDiscoveredPIDs | .getIterationsSummary _ => true
  | _ => false

inductive Answer
  | done
  | programs (programs : List ProgramInfo)
  | discovered (pids : Finset UInt16)
  | summary (iterations : List IterationInfo)
  | payload (buffer : PayloadBuffer)
  | payloads (buffers : List PayloadBuffer)
  | flag (value : Bool)
  | size (value : Nat)
  | pcrStats (stats : Option PCRStats)
  | allPcrStats (stats : List PCRStats)
  | pids (pids : List UInt16)
  | pcr (value : Option PCR)

namespace MPEGTSDemuxer

def call (self : MPEGTSDemuxer) : Call → MPEGTSDemuxer × Answer
  | .feedData data => (self.feedData data, .done)
  | .getPrograms => (self.getPrograms.1, .programs self.getPrograms.2)
  | .getDiscoveredPIDs => (self.getDiscoveredPIDs.1, .discovered self.getDiscoveredPIDs.2)
  | .getIterationsSummary pid =>
    ((self.getIterationsSummary pid).1, .summary (self.getIterationsSummary pid).2)
  | .getPayload pid iterId type => (self, .payload (self.getPayload pid iterId type))
  | .getAllPayloads pid iterId => (self, .payloads (self.getAllPayloads pid iterId))
  | .clearIteration pid iterId => (self.clearIteration pid iterId, .done)
  | .clearStream pid => (self.clearStream pid, .done)
  | .clearAll => (self.clearAll, .done)
  | .isSynchronized => (self, .flag self.isSynchronized)
  | .getBufferOccupancy => (self, .size self.getBufferOccupancy)
  | .getPacketCount => (self, .size self.getPacketCount)
  | .setProgramsTable table => (self.setProgramsTable table, .done)
  | .hasProgramsTable => (self, .flag self.programsTableAvailable)
  | .getPCRStats pid => (self, .pcrStats (self.getPCRStats pid))
  | .getAllPCRStats => (self, .allPcrStats self.pcrManager.getAllStats)
  | .getPIDsWithPCR => (self, .pids self.pcrManager.getPIDsWithPCR)
  | .getLastPCR pid => (self, .pcr (self.getLastPCR pid))

/-- The demultiplexer after a list of calls. -/
def run (self : MPEGTSDemuxer) (calls : List Call) : MPEGTSDemuxer :=
  Transducer.final call self calls

/-- A state that some list of calls leads to from a freshly constructed object. -/
def Reachable (self : MPEGTSDemuxer) : Prop := ∃ calls, self = run {} calls

/-- The states and packets that a call passes through in the processing loop. -/
def callTrace (self : MPEGTSDemuxer) : Call → List (MPEGTSDemuxer × TSPacket)
  | .feedData data => self.feedTrace data
  | _ => []

/-- The states and packets that a list of calls passes through in the processing loop. -/
def runTrace (self : MPEGTSDemuxer) (calls : List Call) : List (MPEGTSDemuxer × TSPacket) :=
  Transducer.trace call callTrace self calls

/-- The packets processed during a list of calls. -/
def processedPackets (self : MPEGTSDemuxer) (calls : List Call) : List TSPacket :=
  (self.runTrace calls).map Prod.snd

/-- The number of iterations that a list of calls generates. -/
def generatedIterations (self : MPEGTSDemuxer) (calls : List Call) : Nat :=
  (self.runTrace calls).countP (fun entry =>
    entry.1.stores entry.2.header.pid && entry.1.startsIteration entry.2.header)

end MPEGTSDemuxer

end MinimalMpegTS
