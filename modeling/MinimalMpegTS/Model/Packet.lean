import MinimalMpegTS.Model.Types

/-!
# Transport stream packets

The model of `mpegts_packet.hpp` and `mpegts_packet.cpp`. Parsing works on a `TSPacket` object
that may have been used before, so the functions take the object and return what they leave in
it together with their result. A pointer into a buffer is the list of bytes from it to the end
of the buffer; reading outside the buffer gives `none`.
-/

namespace MinimalMpegTS

structure TSPacketHeader where
  syncByte : UInt8 := 0
  transportErrorIndicator : Bool := false
  payloadUnitStart : Bool := false
  transportPriority : Bool := false
  pid : UInt16 := 0
  scramblingControl : UInt8 := 0
  adaptationControl : AdaptationFieldControl := .reserved
  continuityCounter : UInt8 := 0
  deriving DecidableEq, Repr

structure TSAdaptationField where
  length : UInt8 := 0
  discontinuityIndicator : Bool := false
  randomAccessIndicator : Bool := false
  esPriorityIndicator : Bool := false
  pcrFlag : Bool := false
  opcrFlag : Bool := false
  splicingPointFlag : Bool := false
  transportPrivateDataFlag : Bool := false
  adaptationExtensionFlag : Bool := false
  pcrBase : UInt64 := 0
  pcrExtension : UInt16 := 0
  privateDataLength : UInt8 := 0
  privateData : Option (List UInt8) := none
  deriving DecidableEq, Repr

/-- A packet object. A fresh one is `{}`. -/
structure TSPacket where
  header : TSPacketHeader := {}
  adaptationField : TSAdaptationField := {}
  payloadData : Option (List UInt8) := none
  payloadSize : Nat := 0
  hasAdaptation : Bool := false
  hasPayload : Bool := false
  valid : Bool := false
  deriving DecidableEq, Repr

namespace TSPacket

def isValid (self : TSPacket) : Bool := self.valid

def getAdaptationField (self : TSPacket) : Option TSAdaptationField :=
  if self.hasAdaptation then some self.adaptationField else none

def getPrivateData (self : TSPacket) : Option (List UInt8) :=
  if self.hasAdaptation && self.adaptationField.transportPrivateDataFlag then
    self.adaptationField.privateData
  else none

def getPrivateDataLength (self : TSPacket) : Nat :=
  if self.hasAdaptation && self.adaptationField.transportPrivateDataFlag then
    self.adaptationField.privateDataLength.toNat
  else 0

def parseHeader (self : TSPacket) (data : List UInt8) : Option (TSPacket × Bool) := do
  let byte0 : UInt8 ← data[0]?
  let header := { self.header with syncByte := byte0 }
  if byte0 ≠ mpegtsSyncByte then
    some ({ self with header := header }, false)
  else
    let byte1 : UInt8 ← data[1]?
    let byte2 : UInt8 ← data[2]?
    let byte3 : UInt8 ← data[3]?
    let header := { header with
      transportErrorIndicator := bitAt byte1 7
      payloadUnitStart := bitAt byte1 6
      transportPriority := bitAt byte1 5
      pid := ((byte1 &&& 0x1F).toUInt16 <<< 8) ||| byte2.toUInt16
      scramblingControl := (byte3 >>> 6) &&& 0x03
      adaptationControl := .ofBits ((byte3 >>> 4) &&& 0x03)
      continuityCounter := byte3 &&& 0x0F }
    some ({ self with header := header },
      !header.transportErrorIndicator && header.adaptationControl != .reserved)

def parseAdaptationField (self : TSPacket) (data : List UInt8) (offset : Nat) :
    Option (TSPacket × Bool) := do
  if mpegtsPacketSize ≤ offset then
    some (self, false)
  else
    let length : UInt8 ← data[offset]?
    let field := { self.adaptationField with length := length }
    let fieldEnd := offset + 1 + length.toNat
    if length = 0 then
      some ({ self with adaptationField := field }, true)
    else if mpegtsPacketSize < fieldEnd then
      some ({ self with adaptationField := field }, false)
    else
      let flags : UInt8 ← data[offset + 1]?
      let field := { field with
        discontinuityIndicator := bitAt flags 7
        randomAccessIndicator := bitAt flags 6
        esPriorityIndicator := bitAt flags 5
        pcrFlag := bitAt flags 4
        opcrFlag := bitAt flags 3
        splicingPointFlag := bitAt flags 2
        transportPrivateDataFlag := bitAt flags 1
        adaptationExtensionFlag := bitAt flags 0 }
      let flagged := { self with adaptationField := field }
      let afterFlags := offset + 2
      let afterPcr := if field.pcrFlag then afterFlags + 6 else afterFlags
      let afterOpcr := if field.opcrFlag then afterPcr + 6 else afterPcr
      let afterSplice := if field.splicingPointFlag then afterOpcr + 1 else afterOpcr
      if field.pcrFlag && decide (fieldEnd < afterPcr) then
        some (flagged, false)
      else if field.opcrFlag && decide (fieldEnd < afterOpcr) then
        some (flagged, false)
      else if field.splicingPointFlag && decide (fieldEnd < afterSplice) then
        some (flagged, false)
      else if field.transportPrivateDataFlag then
        if fieldEnd < afterSplice + 1 then
          some (flagged, false)
        else
          let privateLength : UInt8 ← data[afterSplice]?
          let field := { field with privateDataLength := privateLength }
          if fieldEnd < afterSplice + 1 + privateLength.toNat then
            some ({ self with adaptationField := field }, false)
          else
            some ({ self with adaptationField :=
              { field with privateData := some (data.drop (afterSplice + 1)) } }, true)
      else
        some (flagged, true)

/-- The adaptation control announces an adaptation field. -/
def announcesAdaptation (control : AdaptationFieldControl) : Bool :=
  control == .adaptationOnly || control == .adaptationPayload

/-- The adaptation control announces a payload. -/
def announcesPayload (control : AdaptationFieldControl) : Bool :=
  control == .payloadOnly || control == .adaptationPayload

/-- The payload part of `parse`, for a payload at `offset`. -/
def parsePayload (self : TSPacket) (data : List UInt8) (offset : Nat) : TSPacket :=
  if announcesPayload self.header.adaptationControl then
    { self with
      hasPayload := true
      payloadData := some (data.drop offset)
      payloadSize := sizeSub mpegtsPacketSize offset
      valid := true }
  else { self with valid := true }

def parse (self : TSPacket) (data : List UInt8) : Option (TSPacket × Bool) := do
  let (packet, headerOk) ← self.parseHeader data
  if !headerOk then
    some ({ packet with valid := false }, false)
  else if announcesAdaptation packet.header.adaptationControl then
    let (packet, fieldOk) ← parseAdaptationField { packet with hasAdaptation := true } data 4
    if !fieldOk then
      some ({ packet with valid := false }, false)
    else
      some (packet.parsePayload data (4 + (1 + packet.adaptationField.length.toNat)), true)
  else
    some (packet.parsePayload data 4, true)

/-- A fresh packet object after `parse(data) && isValid()`; `none` when the test fails. -/
def accept (data : List UInt8) : Option TSPacket :=
  match parse {} data with
  | some (packet, true) => if packet.isValid then some packet else none
  | _ => none

/-- The bytes read through `getPrivateData` and `getPrivateDataLength`. -/
def privateBytes (self : TSPacket) : List UInt8 :=
  (self.getPrivateData.getD []).take self.getPrivateDataLength

/-- The bytes read through `getPayload` and `getPayloadSize`. -/
def payloadBytes (self : TSPacket) : List UInt8 :=
  if self.hasPayload then (self.payloadData.getD []).take self.payloadSize else []

end TSPacket

end MinimalMpegTS
