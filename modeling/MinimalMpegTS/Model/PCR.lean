import MinimalMpegTS.Model.Types

/-!
# Program clock references

The model of `mpegts_pcr.hpp` and `mpegts_pcr.cpp`: PCR values, the tracker of one PID with its
statistics, and the manager of all trackers. The demultiplexer uses neither the function that reads
a PCR off the bytes of an adaptation field nor the interpolation between samples.
-/

namespace MinimalMpegTS

structure PCR where
  base : UInt64 := 0
  extension : UInt16 := 0
  deriving DecidableEq, Repr

namespace PCR

def getValue27MHz (self : PCR) : UInt64 := self.base * 300 + self.extension.toUInt64

def isValid (self : PCR) : Bool :=
  decide (self.base < (1 : UInt64) <<< 33) && decide (self.extension < 300)

end PCR

/-- Read the PCR off an adaptation field from its flags byte on. The first `none` stands for a read
outside the buffer. -/
def extractPCR (adaptationField : Option (List UInt8)) (length : Nat) : Option (Option PCR) :=
  match adaptationField with
  | none => some none
  | some data => do
    if length < 6 then some none
    else
      let flags : UInt8 ← data[0]?
      if flags &&& 0x10 = 0 then some none
      else
        let byte0 : UInt8 ← data[1]?
        let byte1 : UInt8 ← data[2]?
        let byte2 : UInt8 ← data[3]?
        let byte3 : UInt8 ← data[4]?
        let byte4 : UInt8 ← data[5]?
        let byte5 : UInt8 ← data[6]?
        let pcr : PCR :=
          { base := (byte0.toUInt64 <<< 25) ||| (byte1.toUInt64 <<< 17) ||| (byte2.toUInt64 <<< 9) |||
              (byte3.toUInt64 <<< 1) ||| ((byte4 >>> 7).toUInt64 &&& 0x01)
            extension := ((byte4 &&& 0x01).toUInt16 <<< 8) ||| byte5.toUInt16 }
        if !pcr.isValid then some none else some (some pcr)

/-- `PCR_MAX`: the clock wraps at `2 ^ 33 * 300`. -/
def pcrMax : Int64 := ((1 : Int64) <<< 33) * 300

def pcrDifference (pcr1 pcr2 : PCR) : Int64 :=
  let v1 := pcr1.getValue27MHz.toInt64
  let v2 := pcr2.getValue27MHz.toInt64
  let diff := v2 - v1
  if diff > pcrMax / 2 then diff - pcrMax
  else if diff < -pcrMax / 2 then diff + pcrMax
  else diff

def pcrDifferenceMs (pcr1 pcr2 : PCR) : Float := (pcrDifference pcr1 pcr2).toFloat / 27000.0

structure PCRStats where
  pid : UInt16 := 0
  pcrCount : Nat := 0
  firstPcr : Option PCR := none
  lastPcr : Option PCR := none
  averageIntervalMs : Float := 0.0
  maxJitterMs : Float := 0.0
  discontinuityDetected : Bool := false

structure PCRSample where
  pcr : PCR := {}
  packetNumber : UInt64 := 0
  continuityCounter : UInt8 := 0
  deriving DecidableEq, Repr

structure PCRTracker where
  pid : UInt16
  samples : List PCRSample := []
  averageIntervalMs : Float := 0.0
  maxJitterMs : Float := 0.0
  discontinuityDetected : Bool := false

namespace PCRTracker

def maxSamples : Nat := 1000
def expectedPcrIntervalMs : Float := 40.0
def discontinuityThresholdMs : Float := 100.0

def calculateInterval (s1 s2 : PCRSample) : Float := pcrDifferenceMs s1.pcr s2.pcr

/-- The check of a new sample against the last one. -/
def checkInterval (self : PCRTracker) (sample : PCRSample) : PCRTracker :=
  match self.samples.getLast? with
  | none => self
  | some last =>
    let interval := calculateInterval last sample
    let self := if interval < 0 || interval > discontinuityThresholdMs then
      { self with discontinuityDetected := true } else self
    if interval > 0 && interval < discontinuityThresholdMs then
      let jitter := (interval - expectedPcrIntervalMs).abs
      { self with maxJitterMs := if self.maxJitterMs < jitter then jitter else self.maxJitterMs }
    else self

/-- The average over the last 100 samples. -/
def updateStatistics (self : PCRTracker) : PCRTracker :=
  if self.samples.length < 2 then self
  else
    let recent := self.samples.drop (self.samples.length - min self.samples.length 100)
    let intervals := (recent.zip recent.tail).map (fun s => calculateInterval s.1 s.2)
    let validIntervals := intervals.filter
      (fun interval => interval > 0 && interval < discontinuityThresholdMs)
    if 0 < validIntervals.length then
      { self with averageIntervalMs :=
        validIntervals.foldl (· + ·) 0.0 / Float.ofNat validIntervals.length }
    else self

def addPCR (self : PCRTracker) (pcr : PCR) (packetNumber : UInt64) (cc : UInt8) : PCRTracker :=
  let sample : PCRSample := ⟨pcr, packetNumber, cc⟩
  let self := self.checkInterval sample
  let samples := self.samples ++ [sample]
  let samples := if maxSamples < samples.length then samples.tail else samples
  updateStatistics { self with samples := samples }

def getStats (self : PCRTracker) : PCRStats :=
  { pid := self.pid
    pcrCount := self.samples.length
    firstPcr := self.samples.head?.map PCRSample.pcr
    lastPcr := self.samples.getLast?.map PCRSample.pcr
    averageIntervalMs := self.averageIntervalMs
    maxJitterMs := self.maxJitterMs
    discontinuityDetected := self.discontinuityDetected }

def getLastPCR (self : PCRTracker) : Option PCR := self.samples.getLast?.map PCRSample.pcr

/-- The search of `interpolatePCR` from index `i` on: the last sample up to the packet with its index,
and the first one behind it. -/
def searchSamples (packetNumber : UInt64) (i : Nat) (before : Option (Nat × PCRSample)) :
    List PCRSample → Option (Nat × PCRSample) × Option PCRSample
  | [] => (before, none)
  | sample :: samples =>
    if sample.packetNumber ≤ packetNumber then
      searchSamples packetNumber (i + 1) (some (i, sample)) samples
    else (before, some sample)

/-- The conversion of a `double` to `uint64_t`, which cuts the fraction off. A `double` stands as the
exact rational number. -/
def truncate (x : ℚ) : UInt64 := UInt64.ofInt (x.num.tdiv x.den)

/-- The PCR of a time in ticks of 27 MHz. -/
def ofTicks (ticks : UInt64) : PCR := ⟨ticks / 300, (ticks % 300).toUInt16⟩

def interpolatePCR (self : PCRTracker) (packetNumber : UInt64) : Option PCR :=
  if self.samples.length < 2 then none
  else
    match searchSamples packetNumber 0 none self.samples with
    | (some (_, before), some after) =>
      let totalPackets := after.packetNumber - before.packetNumber
      let targetOffset := packetNumber - before.packetNumber
      if totalPackets = 0 then some before.pcr
      else
        let ratio : ℚ := targetOffset.toNat / totalPackets.toNat
        let pcrDiff := pcrDifference before.pcr after.pcr
        some (ofTicks (before.pcr.getValue27MHz + truncate (pcrDiff.toInt * ratio)))
    | (some (idx, s2), none) =>
      if 0 < idx then
        match self.samples[idx - 1]? with
        | none => none
        | some s1 =>
          let interval : ℚ := (pcrDifference s1.pcr s2.pcr).toInt / 27000
          let packetDiff := s2.packetNumber - s1.packetNumber
          if 0 < packetDiff ∧ 0 < interval then
            let msPerPacket := interval / packetDiff.toNat
            let extrapolationMs := msPerPacket * (packetNumber - s2.packetNumber).toNat
            some (ofTicks (s2.pcr.getValue27MHz + truncate (extrapolationMs * 27000)))
          else none
      else none
    | (none, _) => none

def clear (self : PCRTracker) : PCRTracker := { pid := self.pid }

end PCRTracker

structure PCRManager where
  trackers : PidMap PCRTracker := ∅

namespace PCRManager

def addPCR (self : PCRManager) (pid : UInt16) (pcr : PCR) (packetNumber : UInt64) (cc : UInt8) :
    PCRManager :=
  let tracker := (self.trackers.lookup pid).getD { pid := pid }
  { self with trackers := self.trackers.insert pid (tracker.addPCR pcr packetNumber cc) }

def getTracker (self : PCRManager) (pid : UInt16) : Option PCRTracker := self.trackers.lookup pid

def getAllStats (self : PCRManager) : List PCRStats :=
  self.trackers.sortedEntries.map (fun entry => entry.2.getStats)

def getPIDsWithPCR (self : PCRManager) : List UInt16 := self.trackers.sortedEntries.map Prod.fst

end PCRManager

end MinimalMpegTS
