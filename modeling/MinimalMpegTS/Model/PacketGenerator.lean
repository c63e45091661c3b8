import MinimalMpegTS.Model.Types

/-!
# The packet generator of the tests

The model of `test_packet_generator.hpp` and `test_packet_generator.cpp`. The random number engine and
the distributions of the standard library are a parameter; a `double` is a rational number.
-/

namespace MinimalMpegTS

/-- The configuration without `payload_size`, which is never read. -/
structure GeneratorConfig where
  pid : UInt16 := 0x100
  startingCc : UInt8 := 0
  includeAdaptation : Bool := false
  includePrivateData : Bool := false
  setPusi : Bool := false
  payloadPattern : UInt8 := 0xAA
  deriving DecidableEq, Repr

structure ScenarioConfig where
  validPacketCount : Nat := 10
  garbageBefore : Nat := 0
  garbageAfter : Nat := 0
  garbageBetweenMin : Nat := 0
  garbageBetweenMax : Nat := 0
  falseSyncProbability : ℚ := 0
  randomSeed : UInt32 := 12345

/-- A random number engine with the draws that the generator makes from it. -/
structure RandomEngine (σ : Type) where
  seed : UInt32 → σ
  /-- A draw of `uniform_int_distribution<int>(0, 255)`, as a byte. -/
  byte : σ → UInt8 × σ
  /-- A draw of `uniform_int_distribution<size_t>` between two bounds. -/
  size : Nat → Nat → σ → Nat × σ
  size_bounds : ∀ low high rng, low ≤ high → low ≤ (size low high rng).1 ∧ (size low high rng).1 ≤ high
  /-- Whether a draw of `uniform_real_distribution<double>(0.0, 1.0)` is below `0.01`. -/
  falseSync : σ → Bool × σ

structure PacketGenerator (σ : Type) where
  rng : σ
  packetPositions : List Nat := []

namespace PacketGenerator

def generateHeader (config : GeneratorConfig) : List UInt8 :=
  let byte1 : UInt8 := 0x00
  let byte1 := if config.setPusi then byte1 ||| 0x40 else byte1
  let byte1 := byte1 ||| ((config.pid >>> 8) &&& 0x1F).toUInt8
  let byte2 := (config.pid &&& 0xFF).toUInt8
  let adaptationControl : UInt8 := if config.includeAdaptation then 0x03 else 0x01
  let byte3 : UInt8 := 0x00
  let byte3 := byte3 ||| (adaptationControl <<< 4)
  let byte3 := byte3 ||| (config.startingCc &&& 0x0F)
  [mpegtsSyncByte, byte1, byte2, byte3]

def generateAdaptationField (includePrivateData : Bool) (privateData : List UInt8) : List UInt8 :=
  if !includePrivateData then
    [0x01, 0x00]
  else
    let totalLength := UInt8.ofNat (1 + 1 + privateData.length)
    [totalLength, 0x02, UInt8.ofNat privateData.length] ++ privateData

/-- The packet is built front to back: every byte of the initial `0xFF` is written over. -/
def generatePacket (config : GeneratorConfig) : List UInt8 :=
  let adaptation :=
    if config.includeAdaptation then
      let privateData : List UInt8 :=
        if config.includePrivateData then [0x01, 0x02, 0x03, 0x04, 0x05, 0x06, 0x07, 0x08] else []
      generateAdaptationField config.includePrivateData privateData
    else []
  let offset := 4 + adaptation.length
  let payloadRemaining := mpegtsPacketSize - offset
  generateHeader config ++ adaptation ++ List.replicate payloadRemaining config.payloadPattern

/-- The step of the continuity counter between two packets. -/
def nextConfig (config : GeneratorConfig) : GeneratorConfig :=
  { config with startingCc := (config.startingCc + 1) % 16 }

def generateSequence : Nat → GeneratorConfig → List UInt8
  | 0, _ => []
  | count + 1, config => generatePacket config ++ generateSequence count (nextConfig config)

variable {σ : Type} (engine : RandomEngine σ)

/-- The loop that draws the bytes. -/
def drawBytes (allowFalseSync : Bool) : Nat → σ → List UInt8 × σ
  | 0, rng => ([], rng)
  | size + 1, rng =>
    let (byte, rng) := engine.byte rng
    -- the sync byte is avoided if it is not allowed
    let byte := if !allowFalseSync && byte == mpegtsSyncByte then 0x46 else byte
    let (garbage, rng) := drawBytes allowFalseSync size rng
    (byte :: garbage, rng)

/-- The loop that writes false sync bytes. -/
def addFalseSync : List UInt8 → σ → List UInt8 × σ
  | [], rng => ([], rng)
  | byte :: garbage, rng =>
    let (hit, rng) := engine.falseSync rng
    let (garbage, rng) := addFalseSync garbage rng
    ((if hit then mpegtsSyncByte else byte) :: garbage, rng)

def generateGarbage (size : Nat) (allowFalseSync : Bool) (rng : σ) : List UInt8 × σ :=
  let (garbage, rng) := drawBytes engine allowFalseSync size rng
  if allowFalseSync then addFalseSync engine garbage rng else (garbage, rng)

/-- `generateGarbage` where the scenario has garbage of this size. -/
def scenarioGarbage (scenario : ScenarioConfig) (size : Nat) (rng : σ) : List UInt8 × σ :=
  if 0 < size then generateGarbage engine size (0 < scenario.falseSyncProbability) rng
  else ([], rng)

/-- The loop over the packets, with the number of packets left and the data so far. -/
def scenarioPackets (scenario : ScenarioConfig) :
    Nat → GeneratorConfig → List UInt8 → List Nat → σ → List UInt8 × List Nat × σ
  | 0, _, data, positions, rng => (data, positions, rng)
  | left + 1, config, data, positions, rng =>
    let positions := positions ++ [data.length]
    let data := data ++ generatePacket config
    let config := nextConfig config
    -- no garbage behind the last packet
    if 0 < left ∧ 0 < scenario.garbageBetweenMax then
      let (size, rng) := engine.size scenario.garbageBetweenMin scenario.garbageBetweenMax rng
      let (garbage, rng) := scenarioGarbage engine scenario size rng
      scenarioPackets scenario left config (data ++ garbage) positions rng
    else
      scenarioPackets scenario left config data positions rng

def generateScenario (scenario : ScenarioConfig) (genConfig : GeneratorConfig) :
    List UInt8 × PacketGenerator σ :=
  let rng := engine.seed scenario.randomSeed
  let (garbage, rng) := scenarioGarbage engine scenario scenario.garbageBefore rng
  let (data, positions, rng) :=
    scenarioPackets engine scenario scenario.validPacketCount genConfig garbage [] rng
  let (garbage, rng) := scenarioGarbage engine scenario scenario.garbageAfter rng
  (data ++ garbage, ⟨rng, positions⟩)

end PacketGenerator

/-! ### Predefined scenarios -/

namespace Scenarios

def garbagePrefix (garbageBytes packetCount : Nat) : ScenarioConfig :=
  { validPacketCount := packetCount, garbageBefore := garbageBytes }

def garbageBetween (minGarbage maxGarbage packetCount : Nat) : ScenarioConfig :=
  { validPacketCount := packetCount, garbageBetweenMin := minGarbage, garbageBetweenMax := maxGarbage }

end Scenarios

end MinimalMpegTS
