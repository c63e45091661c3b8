import MinimalMpegTS.Model.Types

/-!
# Program specific information

The model of `mpegts_psi.hpp` and `mpegts_psi.cpp`: section headers, PAT and PMT parsing, the
CRC and the accumulator that assembles sections from packets. A parser takes the object it
fills in and returns what it leaves in it together with its result; reading outside the given
bytes gives `none`.
-/

namespace MinimalMpegTS

def tableIdPat : UInt8 := 0x00
def tableIdPmt : UInt8 := 0x02

structure PSISectionHeader where
  tableId : UInt8 := 0
  sectionSyntaxIndicator : Bool := false
  sectionLength : UInt16 := 0
  tableIdExtension : UInt16 := 0
  versionNumber : UInt8 := 0
  currentNextIndicator : Bool := false
  sectionNumber : UInt8 := 0
  lastSectionNumber : UInt8 := 0
  deriving DecidableEq, Repr

structure PATEntry where
  programNumber : UInt16
  pid : UInt16
  deriving DecidableEq, Repr

structure PAT where
  header : PSISectionHeader := {}
  transportStreamId : UInt16 := 0
  programs : List PATEntry := []
  crc32 : UInt32 := 0
  deriving DecidableEq, Repr

/-- 0 if the program is not listed. -/
def PAT.getPMTPID (self : PAT) (programNumber : UInt16) : UInt16 :=
  match self.programs.find? (fun entry =>
      entry.programNumber == programNumber && entry.programNumber != 0) with
  | some entry => entry.pid
  | none => 0

/-- The network information table has the program number 0 and is skipped. -/
def PAT.getProgramNumbers (self : PAT) : List UInt16 :=
  (self.programs.map PATEntry.programNumber).filter (fun number => number != 0)

/-- A stream type: every byte is a value of the enumeration's underlying type. -/
structure StreamType where
  code : UInt8
  deriving DecidableEq, Repr

structure PMTStreamInfo where
  streamType : StreamType := ⟨0⟩
  elementaryPid : UInt16 := 0
  esInfoLength : UInt16 := 0
  descriptors : List UInt8 := []
  deriving DecidableEq, Repr

structure PMT where
  header : PSISectionHeader := {}
  programNumber : UInt16 := 0
  pcrPid : UInt16 := 0
  programInfoLength : UInt16 := 0
  programDescriptors : List UInt8 := []
  streams : List PMTStreamInfo := []
  crc32 : UInt32 := 0
  deriving DecidableEq, Repr

namespace PMT

def getPIDsByType (self : PMT) (type : StreamType) : List UInt16 :=
  (self.streams.filter (fun stream => stream.streamType = type)).map PMTStreamInfo.elementaryPid

def getAllPIDs (self : PMT) : List UInt16 := self.streams.map PMTStreamInfo.elementaryPid

def getStreamInfo (self : PMT) (pid : UInt16) : Option PMTStreamInfo :=
  self.streams.find? (fun stream => stream.elementaryPid == pid)

end PMT

namespace PSIParser

def crc32Table : Array UInt32 := #[
  0x00000000, 0x04c11db7, 0x09823b6e, 0x0d4326d9, 0x130476dc, 0x17c56b6b, 0x1a864db2,
  0x1e475005, 0x2608edb8, 0x22c9f00f, 0x2f8ad6d6, 0x2b4bcb61, 0x350c9b64, 0x31cd86d3,
  0x3c8ea00a, 0x384fbdbd, 0x4c11db70, 0x48d0c6c7, 0x4593e01e, 0x4152fda9, 0x5f15adac,
  0x5bd4b01b, 0x569796c2, 0x52568b75, 0x6a1936c8, 0x6ed82b7f, 0x639b0da6, 0x675a1011,
  0x791d4014, 0x7ddc5da3, 0x709f7b7a, 0x745e66cd, 0x9823b6e0, 0x9ce2ab57, 0x91a18d8e,
  0x95609039, 0x8b27c03c, 0x8fe6dd8b, 0x82a5fb52, 0x8664e6e5, 0xbe2b5b58, 0xbaea46ef,
  0xb7a96036, 0xb3687d81, 0xad2f2d84, 0xa9ee3033, 0xa4ad16ea, 0xa06c0b5d, 0xd4326d90,
  0xd0f37027, 0xddb056fe, 0xd9714b49, 0xc7361b4c, 0xc3f706fb, 0xceb42022, 0xca753d95,
  0xf23a8028, 0xf6fb9d9f, 0xfbb8bb46, 0xff79a6f1, 0xe13ef6f4, 0xe5ffeb43, 0xe8bccd9a,
  0xec7dd02d, 0x34867077, 0x30476dc0, 0x3d044b19, 0x39c556ae, 0x278206ab, 0x23431b1c,
  0x2e003dc5, 0x2ac12072, 0x128e9dcf, 0x164f8078, 0x1b0ca6a1, 0x1fcdbb16, 0x018aeb13,
  0x054bf6a4, 0x0808d07d, 0x0cc9cdca, 0x7897ab07, 0x7c56b6b0, 0x71159069, 0x75d48dde,
  0x6b93dddb, 0x6f52c06c, 0x6211e6b5, 0x66d0fb02, 0x5e9f46bf, 0x5a5e5b08, 0x571d7dd1,
  0x53dc6066, 0x4d9b3063, 0x495a2dd4, 0x44190b0d, 0x40d816ba, 0xaca5c697, 0xa864db20,
  0xa527fdf9, 0xa1e6e04e, 0xbfa1b04b, 0xbb60adfc, 0xb6238b25, 0xb2e29692, 0x8aad2b2f,
  0x8e6c3698, 0x832f1041, 0x87ee0df6, 0x99a95df3, 0x9d684044, 0x902b669d, 0x94ea7b2a,
  0xe0b41de7, 0xe4750050, 0xe9362689, 0xedf73b3e, 0xf3b06b3b, 0xf771768c, 0xfa325055,
  0xfef34de2, 0xc6bcf05f, 0xc27dede8, 0xcf3ecb31, 0xcbffd686, 0xd5b88683, 0xd1799b34,
  0xdc3abded, 0xd8fba05a, 0x690ce0ee, 0x6dcdfd59, 0x608edb80, 0x644fc637, 0x7a089632,
  0x7ec98b85, 0x738aad5c, 0x774bb0eb, 0x4f040d56, 0x4bc510e1, 0x46863638, 0x42472b8f,
  0x5c007b8a, 0x58c1663d, 0x558240e4, 0x51435d53, 0x251d3b9e, 0x21dc2629, 0x2c9f00f0,
  0x285e1d47, 0x36194d42, 0x32d850f5, 0x3f9b762c, 0x3b5a6b9b, 0x0315d626, 0x07d4cb91,
  0x0a97ed48, 0x0e56f0ff, 0x1011a0fa, 0x14d0bd4d, 0x19939b94, 0x1d528623, 0xf12f560e,
  0xf5ee4bb9, 0xf8ad6d60, 0xfc6c70d7, 0xe22b20d2, 0xe6ea3d65, 0xeba91bbc, 0xef68060b,
  0xd727bbb6, 0xd3e6a601, 0xdea580d8, 0xda649d6f, 0xc423cd6a, 0xc0e2d0dd, 0xcda1f604,
  0xc960ebb3, 0xbd3e8d7e, 0xb9ff90c9, 0xb4bcb610, 0xb07daba7, 0xae3afba2, 0xaafbe615,
  0xa7b8c0cc, 0xa379dd7b, 0x9b3660c6, 0x9ff77d71, 0x92b45ba8, 0x9675461f, 0x8832161a,
  0x8cf30bad, 0x81b02d74, 0x857130c3, 0x5d8a9099, 0x594b8d2e, 0x5408abf7, 0x50c9b640,
  0x4e8ee645, 0x4a4ffbf2, 0x470cdd2b, 0x43cdc09c, 0x7b827d21, 0x7f436096, 0x7200464f,
  0x76c15bf8, 0x68860bfd, 0x6c47164a, 0x61043093, 0x65c52d24, 0x119b4be9, 0x155a565e,
  0x18197087, 0x1cd86d30, 0x029f3d35, 0x065e2082, 0x0b1d065b, 0x0fdc1bec, 0x3793a651,
  0x3352bbe6, 0x3e119d3f, 0x3ad08088, 0x2497d08d, 0x2056cd3a, 0x2d15ebe3, 0x29d4f654,
  0xc5a92679, 0xc1683bce, 0xcc2b1d17, 0xc8ea00a0, 0xd6ad50a5, 0xd26c4d12, 0xdf2f6bcb,
  0xdbee767c, 0xe3a1cbc1, 0xe760d676, 0xea23f0af, 0xeee2ed18, 0xf0a5bd1d, 0xf464a0aa,
  0xf9278673, 0xfde69bc4, 0x89b8fd09, 0x8d79e0be, 0x803ac667, 0x84fbdbd0, 0x9abc8bd5,
  0x9e7d9662, 0x933eb0bb, 0x97ffad0c, 0xafb010b1, 0xab710d06, 0xa6322bdf, 0xa2f33668,
  0xbcb4666d, 0xb8757bda, 0xb5365d03, 0xb1f740b4]

def calculateCRC32 (data : List UInt8) : UInt32 :=
  data.foldl (fun crc byte =>
    (crc <<< 8) ^^^ crc32Table.getD (((crc >>> 24) ^^^ byte.toUInt32) &&& 0xFF).toNat 0) 0xFFFFFFFF

/-- A big-endian 32-bit word. -/
def readWord32 (data : List UInt8) (offset : Nat) : Option UInt32 := do
  let byte0 : UInt8 ← data[offset]?
  let byte1 : UInt8 ← data[offset + 1]?
  let byte2 : UInt8 ← data[offset + 2]?
  let byte3 : UInt8 ← data[offset + 3]?
  some ((byte0.toUInt32 <<< 24) ||| (byte1.toUInt32 <<< 16) ||| (byte2.toUInt32 <<< 8) |||
    byte3.toUInt32)

/-- A big-endian field of the lower bits of two bytes, those of the first one under `mask`. -/
def readField16 (mask : UInt8) (data : List UInt8) (offset : Nat) : Option UInt16 := do
  let byte0 : UInt8 ← data[offset]?
  let byte1 : UInt8 ← data[offset + 1]?
  some (((byte0 &&& mask).toUInt16 <<< 8) ||| byte1.toUInt16)

/-- The bytes from `offset` on that a vector is assigned from. -/
def readBytes (data : List UInt8) (offset length : Nat) : Option (List UInt8) :=
  if offset + length ≤ data.length then some ((data.drop offset).take length) else none

def verifyCRC32 (data : List UInt8) (length : Nat) : Option Bool := do
  if length < 4 then
    some false
  else
    let expectedCrc ← readWord32 data (length - 4)
    some (calculateCRC32 (data.take (length - 4)) == expectedCrc)

/-- The number of header bytes is 0 on error. -/
def parseSectionHeader (header : PSISectionHeader) (data : List UInt8) :
    Option (PSISectionHeader × Nat) := do
  if data.length < 3 then
    some (header, 0)
  else
    let byte0 : UInt8 ← data[0]?
    let byte1 : UInt8 ← data[1]?
    let sectionLength ← readField16 0x0F data 1
    let header := { header with
      tableId := byte0
      sectionSyntaxIndicator := bitAt byte1 7
      sectionLength := sectionLength }
    if !header.sectionSyntaxIndicator then
      some (header, 3)
    else if data.length < 8 then
      some (header, 0)
    else
      let tableIdExtension ← readField16 0xFF data 3
      let byte5 : UInt8 ← data[5]?
      let byte6 : UInt8 ← data[6]?
      let byte7 : UInt8 ← data[7]?
      some ({ header with
        tableIdExtension := tableIdExtension
        versionNumber := (byte5 >>> 1) &&& 0x1F
        currentNextIndicator := bitAt byte5 0
        sectionNumber := byte6
        lastSectionNumber := byte7 }, 8)

/-- The loop over the program entries, with a bound on the number of rounds. -/
def parsePrograms (data : List UInt8) (entriesEnd : Nat) :
    Nat → Nat → List PATEntry → Option (List PATEntry)
  | 0, _, programs => some programs
  | fuel + 1, offset, programs =>
    if offset + 4 ≤ entriesEnd then do
      let programNumber ← readField16 0xFF data offset
      let pid ← readField16 0x1F data (offset + 2)
      parsePrograms data entriesEnd fuel (offset + 4) (programs ++ [⟨programNumber, pid⟩])
    else some programs

def parsePAT (pat : PAT) (data : List UInt8) : Option (PAT × Bool) := do
  if data.length < 8 then
    some (pat, false)
  else
    let (header, headerSize) ← parseSectionHeader pat.header data
    let pat := { pat with header := header }
    let totalSectionLength := 3 + header.sectionLength.toNat
    if headerSize = 0 then
      some (pat, false)
    else if header.tableId ≠ tableIdPat then
      some (pat, false)
    else if data.length < totalSectionLength then
      some (pat, false)
    else
      let crcOk ← verifyCRC32 data totalSectionLength
      if !crcOk then
        some (pat, false)
      else
        let entriesEnd := sizeSub totalSectionLength 4
        let programs ← parsePrograms data entriesEnd entriesEnd headerSize pat.programs
        let crc ← readWord32 data entriesEnd
        some ({ pat with
          transportStreamId := header.tableIdExtension
          programs := programs
          crc32 := crc }, true)

/-- The loop over the elementary streams, with a bound on the number of rounds; the flag tells
whether it ran to its end. -/
def parseStreams (data : List UInt8) (streamsEnd : Nat) :
    Nat → Nat → List PMTStreamInfo → Option (List PMTStreamInfo × Bool)
  | 0, _, streams => some (streams, true)
  | fuel + 1, offset, streams =>
    if offset + 5 ≤ streamsEnd then do
      let streamType : UInt8 ← data[offset]?
      let elementaryPid ← readField16 0x1F data (offset + 1)
      let esInfoLength ← readField16 0x0F data (offset + 3)
      if streamsEnd < offset + 5 + esInfoLength.toNat && esInfoLength != 0 then
        some (streams, false)
      else
        let descriptors ← readBytes data (offset + 5) esInfoLength.toNat
        parseStreams data streamsEnd fuel (offset + 5 + esInfoLength.toNat) (streams ++
          [{ streamType := ⟨streamType⟩
             elementaryPid := elementaryPid
             esInfoLength := esInfoLength
             descriptors := descriptors }])
    else some (streams, true)

def parsePMT (pmt : PMT) (data : List UInt8) : Option (PMT × Bool) := do
  if data.length < 12 then
    some (pmt, false)
  else
    let (header, headerSize) ← parseSectionHeader pmt.header data
    let pmt := { pmt with header := header }
    let totalSectionLength := 3 + header.sectionLength.toNat
    if headerSize = 0 then
      some (pmt, false)
    else if header.tableId ≠ tableIdPmt then
      some (pmt, false)
    else if data.length < totalSectionLength then
      some (pmt, false)
    else
      let crcOk ← verifyCRC32 data totalSectionLength
      if !crcOk then
        some (pmt, false)
      else
        let pcrPid ← readField16 0x1F data headerSize
        let programInfoLength ← readField16 0x0F data (headerSize + 2)
        let pmt := { pmt with
          programNumber := header.tableIdExtension
          pcrPid := pcrPid
          programInfoLength := programInfoLength }
        let offset := headerSize + 4
        if programInfoLength != 0 && decide (data.length < offset + programInfoLength.toNat) then
          some (pmt, false)
        else
          let descriptors ← readBytes data offset programInfoLength.toNat
          let pmt := if programInfoLength = 0 then pmt else
            { pmt with programDescriptors := descriptors }
          let streamsEnd := sizeSub totalSectionLength 4
          let (streams, streamsOk) ← parseStreams data streamsEnd streamsEnd
            (offset + programInfoLength.toNat) pmt.streams
          let pmt := { pmt with streams := streams }
          if !streamsOk then
            some (pmt, false)
          else
            let crc ← readWord32 data streamsEnd
            some ({ pmt with crc32 := crc }, true)

end PSIParser

/-- Assembles a section from packet payloads. A fresh accumulator is `{}`. -/
structure PSIAccumulator where
  buffer : List UInt8 := []
  expectedLength : Nat := 0
  complete : Bool := false
  synced : Bool := false
  deriving DecidableEq, Repr

namespace PSIAccumulator

def reset (_ : PSIAccumulator) : PSIAccumulator := {}

/-- The part of `addData` after the pointer field. -/
def append (self : PSIAccumulator) (data : List UInt8) : PSIAccumulator × Bool :=
  if !self.synced then (self, false)
  else
    let buffer := self.buffer ++ data
    let expectedLength :=
      match buffer with
      | _ :: byte1 :: byte2 :: _ =>
        if self.expectedLength = 0 then
          3 + (((byte1 &&& 0x0F).toUInt16 <<< 8) ||| byte2.toUInt16).toNat
        else self.expectedLength
      | _ => self.expectedLength
    let self := { self with buffer := buffer, expectedLength := expectedLength }
    if 0 < expectedLength && expectedLength ≤ buffer.length then
      ({ self with complete := true }, true)
    else (self, false)

def addData (self : PSIAccumulator) (data : List UInt8) (payloadUnitStart : Bool) :
    PSIAccumulator × Bool :=
  if payloadUnitStart then
    match data with
    | [] => append { self.reset with synced := true } []
    | pointer :: rest =>
      if pointer.toNat < rest.length then
        append { self.reset with synced := true } (rest.drop pointer.toNat)
      else (self.reset, false)
  else self.append data

/-- The section, `none` if it is not complete. -/
def getSection (self : PSIAccumulator) : PSIAccumulator × Option (List UInt8) :=
  if !self.complete then (self, none)
  else (self.reset, some (self.buffer.take self.expectedLength))

end PSIAccumulator

end MinimalMpegTS
