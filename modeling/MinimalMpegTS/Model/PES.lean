import MinimalMpegTS.Model.PSI

/-!
# Packetized elementary streams

The model of `mpegts_pes.hpp` and `mpegts_pes.cpp`: timestamps, the PES header, the accumulator
that assembles PES packets from packet payloads, and the manager of the accumulators of all PIDs. As
in the section parsers, a parser takes the object that it fills in, and reading outside the given
bytes gives `none`.
-/

namespace MinimalMpegTS

def pesStartCode : UInt32 := 0x000001

def streamIdProgramStreamMap : UInt8 := 0xBC
def streamIdPrivateStream2 : UInt8 := 0xBF
def streamIdEcmStream : UInt8 := 0xF0
def streamIdEmmStream : UInt8 := 0xF1
def streamIdDsmccStream : UInt8 := 0xF2
def streamIdH222EStream : UInt8 := 0xF8
def streamIdProgramStreamDirectory : UInt8 := 0xFF

structure Timestamp where
  value : UInt64 := 0
  deriving DecidableEq, Repr

def Timestamp.isValid (self : Timestamp) : Bool := decide (self.value < (1 : UInt64) <<< 33)

/-- `TS_MAX`: a timestamp has 33 bits. -/
def tsMax : Int64 := (1 : Int64) <<< 33

def timestampDifference (ts1 ts2 : Timestamp) : Int64 :=
  let diff := ts2.value.toInt64 - ts1.value.toInt64
  if diff > tsMax / 2 then diff - tsMax
  else if diff < -tsMax / 2 then diff + tsMax
  else diff

structure PESHeader where
  startCode : UInt32 := 0
  streamId : UInt8 := 0
  packetLength : UInt16 := 0
  hasOptionalFields : Bool := false
  scramblingControl : UInt8 := 0
  priority : Bool := false
  dataAlignmentIndicator : Bool := false
  copyright : Bool := false
  originalOrCopy : Bool := false
  ptsDtsFlags : UInt8 := 0
  hasPts : Bool := false
  hasDts : Bool := false
  escrFlag : Bool := false
  esRateFlag : Bool := false
  dsmTrickModeFlag : Bool := false
  additionalCopyInfoFlag : Bool := false
  crcFlag : Bool := false
  extensionFlag : Bool := false
  headerDataLength : UInt8 := 0
  pts : Option Timestamp := none
  dts : Option Timestamp := none
  deriving DecidableEq, Repr

def PESHeader.getHeaderSize (self : PESHeader) : Nat :=
  if !self.hasOptionalFields then 6 else 9 + self.headerDataLength.toNat

structure PESPacket where
  header : PESHeader := {}
  payload : List UInt8 := []
  complete : Bool := false
  deriving DecidableEq, Repr

namespace PESParser

def verifyStartCode (data : List UInt8) : Option Bool := do
  let byte0 : UInt8 ← data[0]?
  if byte0 ≠ 0x00 then some false
  else
    let byte1 : UInt8 ← data[1]?
    if byte1 ≠ 0x00 then some false
    else
      let byte2 : UInt8 ← data[2]?
      some (byte2 == 0x01)

/-- The first `none` stands for a read outside the buffer. -/
def extractTimestamp (data : Option (List UInt8)) : Option (Option Timestamp) :=
  match data with
  | none => some none
  | some data => do
    let byte0 : UInt8 ← data[0]?
    let byte1 : UInt8 ← data[1]?
    let byte2 : UInt8 ← data[2]?
    let byte3 : UInt8 ← data[3]?
    let byte4 : UInt8 ← data[4]?
    some (some ⟨(((byte0 &&& 0x0E).toUInt64 >>> 1) <<< 30) ||| (byte1.toUInt64 <<< 22) |||
      (((byte2 &&& 0xFE).toUInt64 >>> 1) <<< 15) ||| (byte3.toUInt64 <<< 7) |||
      ((byte4 &&& 0xFE).toUInt64 >>> 1)⟩)

/-- The stream ids without optional fields. -/
def lacksOptionalFields (streamId : UInt8) : Bool :=
  streamId == streamIdProgramStreamMap || streamId == streamIdPrivateStream2 ||
    streamId == streamIdEcmStream || streamId == streamIdEmmStream ||
    streamId == streamIdProgramStreamDirectory || streamId == streamIdDsmccStream ||
    streamId == streamIdH222EStream

/-- The end of `parseHeader`, which reads the DTS behind the PTS. -/
def parseDts (header : PESHeader) (data : List UInt8) (pos : Nat) : Option (PESHeader × Bool) :=
  if header.hasDts then
    if data.length < pos + 5 then some (header, false)
    else do
      let dts ← extractTimestamp (some (data.drop pos))
      some ({ header with dts := dts }, true)
  else some (header, true)

/-- The part of `parseHeader` that reads the timestamps. -/
def parseTimestamps (header : PESHeader) (data : List UInt8) : Option (PESHeader × Bool) :=
  if header.hasPts then
    if data.length < 9 + 5 then some (header, false)
    else do
      let pts ← extractTimestamp (some (data.drop 9))
      parseDts { header with pts := pts } data (9 + 5)
  else parseDts header data 9

def parseHeader (header : PESHeader) (data : List UInt8) : Option (PESHeader × Bool) := do
  if data.length < 6 then
    some (header, false)
  else
    let startCodeOk ← verifyStartCode data
    if !startCodeOk then
      some (header, false)
    else
      let streamId : UInt8 ← data[3]?
      let packetLength ← PSIParser.readField16 0xFF data 4
      let header := { header with
        startCode := pesStartCode
        streamId := streamId
        packetLength := packetLength
        hasOptionalFields := !lacksOptionalFields streamId }
      if !header.hasOptionalFields then
        some (header, true)
      else if data.length < 9 then
        some (header, false)
      else
        let flags1 : UInt8 ← data[6]?
        let flags2 : UInt8 ← data[7]?
        let headerDataLength : UInt8 ← data[8]?
        let ptsDtsFlags := (flags2 >>> 6) &&& 0x03
        let header := { header with
          scramblingControl := (flags1 >>> 4) &&& 0x03
          priority := flags1 &&& 0x08 != 0
          dataAlignmentIndicator := flags1 &&& 0x04 != 0
          copyright := flags1 &&& 0x02 != 0
          originalOrCopy := flags1 &&& 0x01 != 0
          ptsDtsFlags := ptsDtsFlags
          hasPts := ptsDtsFlags == 0x02 || ptsDtsFlags == 0x03
          hasDts := ptsDtsFlags == 0x03
          escrFlag := flags2 &&& 0x20 != 0
          esRateFlag := flags2 &&& 0x10 != 0
          dsmTrickModeFlag := flags2 &&& 0x08 != 0
          additionalCopyInfoFlag := flags2 &&& 0x04 != 0
          crcFlag := flags2 &&& 0x02 != 0
          extensionFlag := flags2 &&& 0x01 != 0
          headerDataLength := headerDataLength }
        if data.length < 9 + headerDataLength.toNat then
          some (header, false)
        else
          parseTimestamps header data

def parsePacket (packet : PESPacket) (data : List UInt8) : Option (PESPacket × Bool) := do
  let (header, headerOk) ← parseHeader packet.header data
  let packet := { packet with header := header }
  if !headerOk then
    some (packet, false)
  else if data.length < header.getHeaderSize then
    some (packet, false)
  else
    let payload ← PSIParser.readBytes data header.getHeaderSize (data.length - header.getHeaderSize)
    some ({ packet with payload := payload, complete := true }, true)

end PESParser

/-- Assembles PES packets from packet payloads. A fresh accumulator is `{}`. -/
structure PESAccumulator where
  buffer : List UInt8 := []
  expectedLength : Nat := 0
  synced : Bool := false
  complete : Bool := false
  deriving DecidableEq, Repr

namespace PESAccumulator

def reset (_ : PESAccumulator) : PESAccumulator := {}

def isComplete (self : PESAccumulator) : Bool := self.complete

def parseAndCheckComplete (self : PESAccumulator) : PESAccumulator × Bool :=
  if self.buffer.length < 6 then (self, false)
  else if PESParser.verifyStartCode self.buffer ≠ some true then (self.reset, false)
  else
    match PSIParser.readField16 0xFF self.buffer 4 with
    | none => (self, false)
    | some pesPacketLength =>
      if pesPacketLength = 0 then
        match PESParser.parseHeader {} self.buffer with
        | some (tempHeader, true) =>
          if tempHeader.getHeaderSize ≤ self.buffer.length then
            ({ self with expectedLength := 0, complete := true }, true)
          else (self, false)
        | _ => (self, false)
      else
        let self := { self with expectedLength := 6 + pesPacketLength.toNat }
        if self.expectedLength ≤ self.buffer.length then ({ self with complete := true }, true)
        else (self, false)

def addData (self : PESAccumulator) (data : List UInt8) (payloadUnitStart : Bool) :
    PESAccumulator × Bool :=
  if data.isEmpty then (self, false)
  else
    let self := if payloadUnitStart then { self.reset with synced := true } else self
    if !self.synced then (self, false)
    else parseAndCheckComplete { self with buffer := self.buffer ++ data }

/-- The accumulator and the packet object afterwards, and whether a packet was available. -/
def getPacket (self : PESAccumulator) (packet : PESPacket) : PESAccumulator × PESPacket × Bool :=
  if !self.complete then (self, packet, false)
  else
    match PESParser.parsePacket packet self.buffer with
    | some (packet, true) => (self.reset, packet, true)
    | some (packet, false) => (self, packet, false)
    | none => (self, packet, false)

end PESAccumulator

structure PESManager where
  accumulators : PidMap PESAccumulator := ∅

namespace PESManager

/-- The accumulator that `getAccumulator` returns a reference to, and the manager after it. -/
def getAccumulator (self : PESManager) (pid : UInt16) : PESManager × PESAccumulator :=
  match self.accumulators.lookup pid with
  | some accumulator => (self, accumulator)
  | none => ({ self with accumulators := self.accumulators.insert pid {} }, {})

/-- Write back an accumulator obtained from `getAccumulator`. -/
def putAccumulator (self : PESManager) (pid : UInt16) (accumulator : PESAccumulator) : PESManager :=
  { self with accumulators := self.accumulators.insert pid accumulator }

def hasAccumulator (self : PESManager) (pid : UInt16) : Bool :=
  (self.accumulators.lookup pid).isSome

def removeAccumulator (self : PESManager) (pid : UInt16) : PESManager :=
  { self with accumulators := self.accumulators.erase pid }

def clear (_ : PESManager) : PESManager := { accumulators := ∅ }

def getPIDs (self : PESManager) : List UInt16 := self.accumulators.sortedEntries.map Prod.fst

end PESManager

end MinimalMpegTS
