import Mathlib

/-!
# Constants and data types of the demultiplexer

The model of `include/mpegts_types.hpp`. Sizes and indices are natural numbers, fields of a
fixed width are machine words. A `std::map` or `std::unordered_map` keyed by PID is an
association list with distinct keys; where the code walks over a `std::map`, it does so in
the order of the keys.
-/

namespace MinimalMpegTS

/-- `MPEGTS_PACKET_SIZE` -/
abbrev mpegtsPacketSize : Nat := 188

/-- `MPEGTS_SYNC_BYTE` -/
def mpegtsSyncByte : UInt8 := 0x47

/-- `MAX_BUFFER_PACKETS` -/
abbrev maxBufferPackets : Nat := 100

/-- `MAX_BUFFER_SIZE` -/
abbrev maxBufferSize : Nat := mpegtsPacketSize * maxBufferPackets

def pidPat : UInt16 := 0x0000
def pidCat : UInt16 := 0x0001
def pidTsdt : UInt16 := 0x0002
def pidNull : UInt16 := 0x1FFF

inductive PayloadType
  | payloadNormal
  | payloadPrivate
  deriving DecidableEq, Repr

inductive AdaptationFieldControl
  | reserved
  | payloadOnly
  | adaptationOnly
  | adaptationPayload
  deriving DecidableEq, Repr

/-- The cast of a two-bit field to the enumeration. -/
def AdaptationFieldControl.ofBits (bits : UInt8) : AdaptationFieldControl :=
  if bits = 1 then .payloadOnly
  else if bits = 2 then .adaptationOnly
  else if bits = 3 then .adaptationPayload
  else .reserved

/-- A segment of the payload data of an iteration. `data` is the position in the iteration's
`payloadData` that the pointer refers to, `none` for a null pointer. -/
structure PayloadSegment where
  type : PayloadType := .payloadNormal
  data : Option Nat := none
  length : Nat := 0
  offsetInStream : Nat := 0
  deriving DecidableEq, Repr

structure IterationData where
  payloads : List PayloadSegment := []
  payloadData : List UInt8 := []
  discontinuityDetected : Bool := false
  payloadUnitStartSeen : Bool := false
  isComplete : Bool := false
  firstCc : UInt8 := 0
  lastCc : UInt8 := 0
  packetCount : Nat := 0
  bufferPosition : Nat := 0
  deriving DecidableEq, Repr

/-- A returned payload. `data` holds the bytes from the pointer to the end of the buffer it
points into, `none` for a null pointer. -/
structure PayloadBuffer where
  data : Option (List UInt8) := none
  length : Nat := 0
  type : PayloadType := .payloadNormal
  deriving DecidableEq, Repr

/-- The bytes a caller reads through a returned payload. -/
def PayloadBuffer.bytes (buffer : PayloadBuffer) : List UInt8 :=
  (buffer.data.getD []).take buffer.length

structure IterationInfo where
  iterationId : UInt32 := 0
  payloadNormalSize : Nat := 0
  payloadPrivateSize : Nat := 0
  hasDiscontinuity : Bool := false
  ccStart : UInt8 := 0
  ccEnd : UInt8 := 0
  packetCount : Nat := 0
  deriving DecidableEq, Repr

structure ProgramInfo where
  programNumber : UInt16 := 0
  streamPids : List UInt16 := []
  totalPayloadSize : Nat := 0
  iterationCount : Nat := 0
  hasDiscontinuity : Bool := false
  deriving DecidableEq, Repr

/-- A map keyed by 16-bit numbers. -/
abbrev PidMap (α : Type) := AList (fun _ : UInt16 => α)

/-- The entries of a `std::map` in the order in which it is walked. -/
def PidMap.sortedEntries {α : Type} (m : PidMap α) : List (UInt16 × α) :=
  (m.keys.insertionSort (· ≤ ·)).filterMap (fun k => (m.lookup k).map (fun v => (k, v)))

structure ProgramTable where
  programs : PidMap (List UInt16)

def isSystemPID (pid : UInt16) : Bool :=
  pid == pidPat || pid == pidCat || pid == pidTsdt || pid == pidNull

def isProgramStream (pid : UInt16) : Bool := !isSystemPID pid

/-- Subtraction of `size_t` values. -/
def sizeSub (a b : Nat) : Nat := if b ≤ a then a - b else 2 ^ 64 + a - b

/-- Bit `n` of a byte, as the code reads flags. -/
def bitAt (byte : UInt8) (n : UInt8) : Bool := (byte >>> n) &&& 0x01 != 0

end MinimalMpegTS
