import MinimalMpegTS.Model.Types

/-!
# Storage of demultiplexed streams

The model of `mpegts_storage.hpp` and `mpegts_storage.cpp`.
-/

namespace MinimalMpegTS

structure StreamIterations where
  pid : UInt16
  iterations : List (UInt32 × IterationData) := []
  observedCcValues : Finset UInt8 := ∅

namespace StreamIterations

/-- Point the segment into the copied payload data. -/
def fixSegment (payloadSize : Nat) (segment : PayloadSegment) : PayloadSegment :=
  if segment.offsetInStream < payloadSize then
    { segment with data := some segment.offsetInStream }
  else segment

/-- The copy of an iteration that `addIteration` stores. -/
def copyIteration (data : IterationData) : IterationData :=
  { data with payloads := data.payloads.map (fixSegment data.payloadData.length) }

def addIteration (self : StreamIterations) (iterId : UInt32) (data : IterationData) :
    StreamIterations :=
  { self with
    iterations := self.iterations ++ [(iterId, copyIteration data)]
    observedCcValues := insert data.lastCc (insert data.firstCc self.observedCcValues) }

def getIteration (self : StreamIterations) (iterId : UInt32) : Option IterationData :=
  (self.iterations.find? (fun pair => pair.1 == iterId)).map Prod.snd

def removeIteration (self : StreamIterations) (iterId : UInt32) : StreamIterations :=
  { self with iterations := self.iterations.eraseP (fun pair => pair.1 == iterId) }

def clear (self : StreamIterations) : StreamIterations :=
  { self with iterations := [], observedCcValues := ∅ }

def getIterationCount (self : StreamIterations) : Nat := self.iterations.length

def hasDiscontinuity (self : StreamIterations) : Bool :=
  self.iterations.any (fun pair => pair.2.discontinuityDetected)

end StreamIterations

structure DemuxerStreamStorage where
  streams : PidMap StreamIterations := ∅
  nextIterationId : UInt32 := 1

namespace DemuxerStreamStorage

/-- The stream that `getOrCreateStream` returns a reference to. -/
def getOrCreateStream (self : DemuxerStreamStorage) (pid : UInt16) : StreamIterations :=
  (self.streams.lookup pid).getD { pid := pid }

/-- Write back a stream obtained from `getOrCreateStream`. -/
def putStream (self : DemuxerStreamStorage) (pid : UInt16) (stream : StreamIterations) :
    DemuxerStreamStorage :=
  { self with streams := self.streams.insert pid stream }

def getStream (self : DemuxerStreamStorage) (pid : UInt16) : Option StreamIterations :=
  self.streams.lookup pid

def getAllStreams (self : DemuxerStreamStorage) : List (UInt16 × StreamIterations) :=
  self.streams.sortedEntries

/-- The identifier handed out by `generateIterationID`, and the storage after it. -/
def generateIterationID (self : DemuxerStreamStorage) : UInt32 × DemuxerStreamStorage :=
  (self.nextIterationId, { self with nextIterationId := self.nextIterationId + 1 })

def clearStream (self : DemuxerStreamStorage) (pid : UInt16) : DemuxerStreamStorage :=
  match self.streams.lookup pid with
  | some stream => { self with streams := self.streams.insert pid stream.clear }
  | none => self

def clear (_ : DemuxerStreamStorage) : DemuxerStreamStorage :=
  { streams := ∅, nextIterationId := 1 }

def getDiscoveredPIDs (self : DemuxerStreamStorage) : Finset UInt16 :=
  self.streams.keys.toFinset

end DemuxerStreamStorage

end MinimalMpegTS
