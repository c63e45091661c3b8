import MinimalMpegTS.Proofs.ExampleReport
import MinimalMpegTS.Proofs.GeneratedPackets

/-!
# Generated scenarios

What the demultiplexer makes of the scenarios that the tests generate without false sync bytes. Without
garbage between the packets everything is processed, and the listing is what was configured. With
garbage between them only the first packet is processed, again in each call.
-/

namespace MinimalMpegTS

open MPEGTSDemuxer PacketGenerator InputState

/-! ### Sequences -/

/-- The configurations of the packets of a sequence. -/
def configs : Nat → GeneratorConfig → List GeneratorConfig
  | 0, _ => []
  | count + 1, config => config :: configs count (nextConfig config)

lemma length_configs (count : Nat) (config : GeneratorConfig) : (configs count config).length = count := by
  induction count generalizing config with
  | zero => rfl
  | succ count ih => rw [configs, List.length_cons, ih]

lemma configs_alike {count : Nat} {config : GeneratorConfig} {c : GeneratorConfig}
    (h : c ∈ configs count config) : { c with startingCc := config.startingCc } = config := by
  induction count generalizing config with
  | zero => cases h
  | succ count ih =>
    rcases List.mem_cons.mp h with rfl | h
    · rfl
    · have hrest := congrArg (fun c' => { c' with startingCc := config.startingCc }) (ih h)
      exact hrest

lemma generateSequence_eq (count : Nat) (config : GeneratorConfig) :
    generateSequence count config = ((configs count config).map generatePacket).flatten := by
  induction count generalizing config with
  | zero => rfl
  | succ count ih => rw [generateSequence, configs, List.map_cons, List.flatten_cons, ih]

/-- The packet objects of a sequence. -/
def generatedTSPackets (count : Nat) (config : GeneratorConfig) : List TSPacket :=
  (configs count config).map generatedTSPacket

lemma acceptedPackets_generated (count : Nat) (config : GeneratorConfig) :
    AcceptedPackets ((configs count config).map generatePacket) (generatedTSPackets count config) := by
  unfold generatedTSPackets
  induction count generalizing config with
  | zero => exact .nil
  | succ count ih =>
    exact .cons ⟨length_generatePacket config, accept_generatePacket config⟩ (ih (nextConfig config))

/-! ### What is listed for a sequence -/

lemma bytesOfType_generated (config : GeneratorConfig) :
    (generatedTSPacket config).bytesOfType .payloadNormal = payloadBytesOf config ∧
      (generatedTSPacket config).bytesOfType .payloadPrivate = privateBytesOf config := by
  constructor
  · exact List.take_length
  · show (generatedTSPacket config).privateBytes = _
    unfold TSPacket.privateBytes TSPacket.getPrivateData TSPacket.getPrivateDataLength
    unfold generatedTSPacket privateBytesOf
    dsimp only
    cases config.includeAdaptation <;> cases config.includePrivateData <;> rfl

lemma mem_generatedTSPackets {count : Nat} {config : GeneratorConfig} {x : TSPacket}
    (h : x ∈ generatedTSPackets count config) : x.header.pid = config.pid % 8192 ∧
      x.header.payloadUnitStart = config.setPusi ∧
      x.bytesOfType .payloadNormal = payloadBytesOf config ∧
      x.bytesOfType .payloadPrivate = privateBytesOf config := by
  obtain ⟨c, hc, rfl⟩ := List.mem_map.mp h
  obtain ⟨hnormal, hprivate⟩ := bytesOfType_generated c
  have halike := configs_alike hc
  rw [hnormal, hprivate]
  rw [← halike]
  exact ⟨rfl, rfl, rfl, rfl⟩

/-- The lines that a listing has for a sequence: packets, payload bytes and private bytes. -/
def configuredLines (count : Nat) (config : GeneratorConfig) : List (Nat × Nat × Nat) :=
  if config.setPusi then
    List.replicate count (1, (payloadBytesOf config).length, (privateBytesOf config).length)
  else [(count, count * (payloadBytesOf config).length, count * (privateBytesOf config).length)]

def lineOf (info : IterationInfo) : Nat × Nat × Nat :=
  (info.packetCount, info.payloadNormalSize, info.payloadPrivateSize)

lemma ListedFrom.lineOf {config : GeneratorConfig} {count : Nat} {group : List TSPacket}
    {info : IterationInfo} (h : ListedFrom group info)
    (hgroup : ∀ x ∈ group, x ∈ generatedTSPackets count config) :
    MinimalMpegTS.lineOf info = (group.length, group.length * (payloadBytesOf config).length,
      group.length * (privateBytesOf config).length) := by
  have hsum : ∀ (type : PayloadType) (n : Nat), (∀ x ∈ group, (x.bytesOfType type).length = n) →
      (group.flatMap (fun p => p.bytesOfType type)).length = group.length * n := by
    intro type n hn
    rw [List.length_flatMap, List.map_congr_left hn, List.map_const', List.sum_replicate, smul_eq_mul]
  unfold MinimalMpegTS.lineOf
  rw [h.packetCount, h.payloadNormalSize, h.payloadPrivateSize,
    hsum .payloadNormal (payloadBytesOf config).length,
    hsum .payloadPrivate (privateBytesOf config).length]
  · intro x hx
    rw [(mem_generatedTSPackets (hgroup x hx)).2.2.2]
  · intro x hx
    rw [(mem_generatedTSPackets (hgroup x hx)).2.2.1]

lemma reportedGroups_generated {count : Nat} (hcount : 0 < count) {config : GeneratorConfig}
    (hsys : isSystemPID (config.pid % 8192) = false) :
    reportedGroups (config.pid % 8192) (generatedTSPackets count config) =
      if config.setPusi then (generatedTSPackets count config).map (fun x => [x])
      else [generatedTSPackets count config] := by
  have hlength : (generatedTSPackets count config).length = count := by
    unfold generatedTSPackets
    rw [List.length_map, length_configs]
  have hown : ownPackets (config.pid % 8192) (generatedTSPackets count config) =
      generatedTSPackets count config :=
    List.filter_eq_self.mpr (fun x hx => decide_eq_true (mem_generatedTSPackets hx).1)
  unfold reportedGroups
  rw [hsys, if_neg Bool.false_ne_true, hown]
  split
  · next hpusi =>
    have hlead : ∀ x ∈ ([] : List TSPacket), x.header.payloadUnitStart = false :=
      List.forall_mem_nil _
    have hunits := @Batches.splitBy_batches _ (fun p : TSPacket => p.header.payloadUnitStart) []
      ((generatedTSPackets count config).map (fun x => [x])) hlead ?_
    · rw [List.nil_append, if_pos rfl, List.nil_append] at hunits
      have hflat : ((generatedTSPackets count config).map (fun x => [x])).flatten =
          generatedTSPackets count config := by
        rw [← List.flatMap_def, List.flatMap_singleton']
      rwa [hflat] at hunits
    · intro b hb
      obtain ⟨x, hx, rfl⟩ := List.mem_map.mp hb
      refine ⟨x, [], rfl, (mem_generatedTSPackets hx).2.1.trans hpusi, ?_⟩
      intro y hy
      cases hy
  · next hpusi =>
    apply Batches.splitBy_single (fun p : TSPacket => p.header.payloadUnitStart)
    · exact List.ne_nil_of_length_pos (by omega)
    · intro x hx
      rw [(mem_generatedTSPackets (List.mem_of_mem_tail hx)).2.1]
      exact Bool.eq_false_of_not_eq_true hpusi

lemma lines_generated {count : Nat} (hcount : 0 < count) {config : GeneratorConfig}
    (hsys : isSystemPID (config.pid % 8192) = false) {infos : List IterationInfo}
    (h : List.Forall₂ ListedFrom
      (reportedGroups (config.pid % 8192) (generatedTSPackets count config)) infos) :
    infos.map lineOf = configuredLines count config := by
  have hlength : (generatedTSPackets count config).length = count := by
    unfold generatedTSPackets
    rw [List.length_map, length_configs]
  rw [reportedGroups_generated hcount hsys] at h
  have hlines : ∀ {groups : List (List TSPacket)} {infos : List IterationInfo},
      List.Forall₂ ListedFrom groups infos →
      (∀ group ∈ groups, ∀ x ∈ group, x ∈ generatedTSPackets count config) →
        infos.map lineOf = groups.map (fun group => (group.length,
          group.length * (payloadBytesOf config).length,
          group.length * (privateBytesOf config).length)) := by
    intro groups infos hlisted hgroups
    induction hlisted with
    | nil => rfl
    | cons hline _ ih =>
      rw [List.map_cons, List.map_cons, hline.lineOf (hgroups _ List.mem_cons_self),
        ih (fun group hgroup => hgroups group (List.mem_cons_of_mem _ hgroup))]
  unfold configuredLines
  split
  · next hpusi =>
    rw [if_pos hpusi] at h
    rw [hlines h, List.map_map]
    · have hsingle : ∀ x ∈ generatedTSPackets count config,
          ((fun group : List TSPacket => (group.length, group.length * (payloadBytesOf config).length,
            group.length * (privateBytesOf config).length)) ∘ fun x => [x]) x =
          (1, (payloadBytesOf config).length, (privateBytesOf config).length) := by
        intro x _
        simp
      rw [List.map_congr_left hsingle, List.map_const', hlength]
    · intro group hgroup x hx
      obtain ⟨y, hy, rfl⟩ := List.mem_map.mp hgroup
      rwa [List.mem_singleton.mp hx]
  · next hpusi =>
    rw [if_neg hpusi] at h
    rw [hlines h, List.map_singleton, hlength]
    intro group hgroup x hx
    rwa [← List.mem_singleton.mp hgroup]

lemma flatMap_generated {count : Nat} {config : GeneratorConfig} {f : TSPacket → List UInt8}
    {bytes : List UInt8} (hf : ∀ x ∈ generatedTSPackets count config, f x = bytes) :
    ((generatedTSPackets count config).filter (fun x => x.header.pid = config.pid % 8192)).flatMap f =
      (List.replicate count bytes).flatten := by
  have hown : (generatedTSPackets count config).filter (fun x => x.header.pid = config.pid % 8192) =
      generatedTSPackets count config :=
    List.filter_eq_self.mpr (fun x hx => decide_eq_true (mem_generatedTSPackets hx).1)
  have hlength : (generatedTSPackets count config).length = count := by
    unfold generatedTSPackets
    rw [List.length_map, length_configs]
  rw [hown, List.flatMap_def, List.map_congr_left hf, List.map_const', hlength]

/-! ### Garbage -/

section Scenario

variable {σ : Type} (engine : RandomEngine σ)

/-- Bytes without a sync byte. -/
def NoSync (bytes : List UInt8) : Prop := ∀ byte ∈ bytes, byte ≠ mpegtsSyncByte

lemma drawBytes_noSync (size : Nat) (rng : σ) : (drawBytes engine false size rng).1.length = size ∧
    NoSync (drawBytes engine false size rng).1 := by
  induction size generalizing rng with
  | zero =>
    refine ⟨rfl, ?_⟩
    intro byte hbyte
    cases hbyte
  | succ size ih =>
    obtain ⟨hlength, hnone⟩ := ih (engine.byte rng).2
    refine ⟨congrArg (· + 1) hlength, ?_⟩
    intro byte hbyte
    rcases List.mem_cons.mp hbyte with rfl | hbyte
    · split
      · decide
      · next hdrawn => simpa using hdrawn
    · exact hnone byte hbyte

lemma scenarioGarbage_noSync {scenario : ScenarioConfig} (hfalse : scenario.falseSyncProbability ≤ 0)
    (size : Nat) (rng : σ) : (scenarioGarbage engine scenario size rng).1.length = size ∧
      NoSync (scenarioGarbage engine scenario size rng).1 := by
  have hnot : decide (0 < scenario.falseSyncProbability) = false := decide_eq_false (not_lt.mpr hfalse)
  unfold scenarioGarbage generateGarbage
  rw [hnot]
  split
  · exact drawBytes_noSync engine size rng
  · next hsize =>
    refine ⟨(Nat.eq_zero_of_not_pos hsize).symm, ?_⟩
    intro byte hbyte
    cases hbyte

/-! ### Positions -/

lemma scenarioPackets_positions (scenario : ScenarioConfig) (left : Nat) (config : GeneratorConfig)
    (data : List UInt8) (positions : List Nat) (rng : σ) :
    data <+: (scenarioPackets engine scenario left config data positions rng).1 ∧
      ∀ whole, (scenarioPackets engine scenario left config data positions rng).1 <+: whole →
        (scenarioPackets engine scenario left config data positions rng).2.1.map (packetAt whole) =
          positions.map (packetAt whole) ++ (configs left config).map generatePacket := by
  induction left generalizing config data positions rng with
  | zero =>
    refine ⟨List.prefix_rfl, ?_⟩
    intro whole _
    rw [configs, List.map_nil, List.append_nil]
    rfl
  | succ left ih =>
    -- the rest of the loop goes on from the data with the packet, with or without garbage
    have hrest : ∀ (garbage : List UInt8) (rng : σ),
        data <+: (scenarioPackets engine scenario left (nextConfig config)
            (data ++ generatePacket config ++ garbage) (positions ++ [data.length]) rng).1 ∧
          ∀ whole, (scenarioPackets engine scenario left (nextConfig config)
              (data ++ generatePacket config ++ garbage) (positions ++ [data.length]) rng).1 <+: whole →
            (scenarioPackets engine scenario left (nextConfig config)
              (data ++ generatePacket config ++ garbage) (positions ++ [data.length]) rng).2.1.map
                (packetAt whole) =
              positions.map (packetAt whole) ++ (configs (left + 1) config).map generatePacket := by
      intro garbage rng
      obtain ⟨hfront, hpositions⟩ := ih (nextConfig config) (data ++ generatePacket config ++ garbage)
        (positions ++ [data.length]) rng
      refine ⟨?_, ?_⟩
      · exact ((List.prefix_append data _).trans (List.prefix_append _ garbage)).trans hfront
      · intro whole hwhole
        obtain ⟨back, hback⟩ := hfront.trans hwhole
        have hpacket : packetAt whole data.length = generatePacket config := by
          rw [← hback, List.append_assoc, List.append_assoc]
          exact packetAt_packet rfl (length_generatePacket config)
        rw [hpositions whole hwhole, List.map_append, List.map_singleton, hpacket, List.append_assoc]
        rfl
    rw [scenarioPackets]
    dsimp only
    split
    · exact hrest _ _
    · have h := hrest [] rng
      rwa [List.append_nil] at h

lemma generateScenario_positions (scenario : ScenarioConfig) (config : GeneratorConfig) :
    (generateScenario engine scenario config).2.packetPositions.map
        (packetAt (generateScenario engine scenario config).1) =
      (configs scenario.validPacketCount config).map generatePacket := by
  have h := (scenarioPackets_positions engine scenario scenario.validPacketCount config
    (scenarioGarbage engine scenario scenario.garbageBefore (engine.seed scenario.randomSeed)).1 []
    (scenarioGarbage engine scenario scenario.garbageBefore (engine.seed scenario.randomSeed)).2).2
    (generateScenario engine scenario config).1 (List.prefix_append _ _)
  exact h

/-! ### Scenarios without gaps -/

lemma scenarioPackets_noGaps {scenario : ScenarioConfig} (hgaps : scenario.garbageBetweenMax = 0)
    (left : Nat) (config : GeneratorConfig) (data : List UInt8) (positions : List Nat) (rng : σ) :
    (scenarioPackets engine scenario left config data positions rng).1 =
      data ++ generateSequence left config := by
  induction left generalizing config data positions with
  | zero =>
    rw [generateSequence, List.append_nil]
    rfl
  | succ left ih =>
    have hnot : ¬(0 < left ∧ 0 < scenario.garbageBetweenMax) := by omega
    rw [scenarioPackets, if_neg hnot, ih, generateSequence, List.append_assoc]

lemma generateScenario_noGaps {scenario : ScenarioConfig} (hgaps : scenario.garbageBetweenMax = 0)
    (hfalse : scenario.falseSyncProbability ≤ 0) (config : GeneratorConfig) :
    ∃ before after, NoSync before ∧ after.length = scenario.garbageAfter ∧
      (generateScenario engine scenario config).1 =
        before ++ (generateSequence scenario.validPacketCount config ++ after) := by
  set start := scenarioGarbage engine scenario scenario.garbageBefore
    (engine.seed scenario.randomSeed) with hstart
  set middle := scenarioPackets engine scenario scenario.validPacketCount config start.1 [] start.2
    with hmiddle
  have hnone : NoSync start.1 := (scenarioGarbage_noSync engine hfalse scenario.garbageBefore _).2
  have hpackets : middle.1 = start.1 ++ generateSequence scenario.validPacketCount config :=
    scenarioPackets_noGaps engine hgaps _ config start.1 [] start.2
  refine ⟨start.1, (scenarioGarbage engine scenario scenario.garbageAfter middle.2.2).1, hnone,
    (scenarioGarbage_noSync engine hfalse scenario.garbageAfter _).1, ?_⟩
  rw [← List.append_assoc, ← hpackets]
  rfl

end Scenario

/-! ### The first synchronization -/

lemma firstSync_behind {seen : List UInt8} {chunks : List (List UInt8)} {base : Nat}
    (hseen : findSyncPosition seen = none)
    (hwhole : findSyncPosition (seen ++ chunks.flatten) = some base)
    (hall : ∀ buffer, buffer <+: seen ++ chunks.flatten → ∀ start,
      findSyncPosition buffer = some start → start = base) : firstSync seen chunks = some base := by
  induction chunks generalizing seen with
  | nil =>
    rw [List.flatten_nil, List.append_nil, hseen] at hwhole
    cases hwhole
  | cons data chunks ih =>
    rw [List.flatten_cons, ← List.append_assoc] at hwhole hall
    unfold firstSync
    cases hfind : findSyncPosition (seen ++ data) with
    | none => exact ih hfind hwhole hall
    | some start => rw [hall _ (List.prefix_append _ _) start hfind]

lemma le_of_noSync {before back : List UInt8} (hbefore : NoSync before) {buffer : List UInt8}
    (hbuffer : buffer <+: before ++ back) {start : Nat}
    (hstart : isSyncPosition buffer start = true) : before.length ≤ start := by
  by_contra hlt
  have hbyte := syncByte_of_isSyncPosition hstart
  obtain ⟨rest, hrest⟩ := hbuffer
  have hlonger : (buffer ++ rest)[start]? = some mpegtsSyncByte := by
    rw [List.getElem?_append_left (List.getElem?_eq_some_iff.mp hbyte).1, hbyte]
  rw [hrest, List.getElem?_append_left (by omega)] at hlonger
  exact hbefore _ (List.mem_of_getElem? hlonger) rfl

lemma findSyncPosition_generated {before back : List UInt8} (hbefore : NoSync before)
    (config : GeneratorConfig) {buffer : List UInt8}
    (hbuffer : buffer <+: before ++ (generatePacket config ++ (generatePacket (nextConfig config) ++
      (generatePacket (nextConfig (nextConfig config)) ++ back)))) :
    findSyncPosition buffer =
      if before.length + mpegtsPacketSize * 3 ≤ buffer.length then some before.length else none := by
  split
  · next hlong =>
    obtain ⟨back', hback⟩ : before ++ (generatePacket config ++ (generatePacket (nextConfig config) ++
        generatePacket (nextConfig (nextConfig config)))) <+: buffer := by
      apply List.prefix_of_prefix_length_le _ hbuffer
      · simp only [List.length_append, length_generatePacket]
        omega
      · refine ⟨back, ?_⟩
        simp only [List.append_assoc]
    have hsync : isSyncPosition buffer before.length = true := by
      rw [← hback]
      simp only [List.append_assoc]
      exact isSyncPosition_generated before config back'
    refine findSyncPosition_eq_some.mpr ⟨hsync, hlong, ?_⟩
    intro pos hpos
    by_contra hfound
    have hle := le_of_noSync hbefore hbuffer (Bool.eq_true_of_not_eq_false hfound)
    omega
  · next hshort =>
    cases hfind : findSyncPosition buffer with
    | none => rfl
    | some start =>
      obtain ⟨hsync, hroom, -⟩ := findSyncPosition_eq_some.mp hfind
      have hle := le_of_noSync hbefore hbuffer hsync
      omega

lemma run_of_base {chunks : List (List UInt8)} {base : Nat} (hne : ∀ data ∈ chunks, data ≠ [])
    (hfits : Fits ⟨[], false, 0⟩ chunks) (hsync : firstSync [] chunks = some base)
    (hall : AllAccepted (chunks.flatten.drop base)) :
    Transducer.final feed ⟨[], false, 0⟩ chunks = ⟨restOf (chunks.flatten.drop base), true, 0⟩ ∧
      packets ⟨[], false, 0⟩ chunks = packetsOf (chunks.flatten.drop base) := by
  have hwindows : ∀ i, base + mpegtsPacketSize * (i + 1) ≤ ([] ++ chunks.flatten).length →
      TSPacket.accept (packetAt ([] ++ chunks.flatten) (base + mpegtsPacketSize * i)) ≠ none := by
    intro i hi
    rw [List.nil_append] at hi ⊢
    dsimp only [AllAccepted] at hall
    rw [Framing.drained_iff packetSize_pos] at hall
    have hwindow := hall i (by rw [List.length_drop]; omega)
    rwa [List.drop_drop] at hwindow
  have hpackets := packets_of_firstSync [] 0 hne hfits (fun start hstart i hi => by
    obtain rfl : base = start := Option.some.inj (hsync.symm.trans hstart)
    exact hwindows i hi.le)
  rw [hsync] at hpackets
  exact ⟨final_of_firstSync [] 0 hne hfits hsync hwindows, hpackets⟩

lemma run_generated {before after : List UInt8} (hbefore : NoSync before) {count : Nat}
    (hcount : 3 ≤ count) (config : GeneratorConfig) (hafter : after.length < mpegtsPacketSize)
    {chunks : List (List UInt8)}
    (hdata : chunks.flatten = before ++ (generateSequence count config ++ after))
    (hne : ∀ data ∈ chunks, data ≠ []) (hfits : Fits {} chunks) :
    Transducer.final feed {} chunks = ⟨after, true, 0⟩ ∧
      packets {} chunks = generatedTSPackets count config := by
  obtain ⟨rest, rfl⟩ : ∃ rest, count = rest + 3 := ⟨count - 3, by omega⟩
  have hstream : chunks.flatten = before ++ (generatePacket config ++ (generatePacket (nextConfig config) ++
      (generatePacket (nextConfig (nextConfig config)) ++
        (generateSequence rest (nextConfig (nextConfig (nextConfig config))) ++ after)))) := by
    rw [hdata]
    simp only [generateSequence, List.append_assoc]
  have hlong : before.length + mpegtsPacketSize * 3 ≤ chunks.flatten.length := by
    rw [hstream]
    simp only [List.length_append, length_generatePacket]
    omega
  have hsync : firstSync [] chunks = some before.length := by
    apply firstSync_behind (findSyncPosition_short (by decide))
    · rw [List.nil_append, findSyncPosition_generated hbefore config (by rw [hstream]),
        if_pos hlong]
    · intro buffer hbuffer start hstart
      rw [List.nil_append, hstream] at hbuffer
      rw [findSyncPosition_generated hbefore config hbuffer] at hstart
      split at hstart
      · exact (Option.some.inj hstart).symm
      · cases hstart
  have hdrop : chunks.flatten.drop before.length =
      ((configs (rest + 3) config).map generatePacket).flatten ++ after := by
    rw [hdata, List.drop_left, generateSequence_eq]
  obtain ⟨hframes, hrest⟩ :=
    Framing.frames_flatten packetSize_pos (acceptedPackets_generated (rest + 3) config) after
  rw [Framing.frames_short hafter, List.append_nil] at hframes
  rw [Framing.leftover_short hafter] at hrest
  have hall : AllAccepted (chunks.flatten.drop before.length) := by
    rw [hdrop]
    dsimp only [AllAccepted]
    unfold Framing.Drained
    rwa [hrest]
  obtain ⟨hfinal, hpackets⟩ := run_of_base hne hfits hsync hall
  rw [hdrop] at hfinal hpackets
  dsimp only [restOf, packetsOf] at hfinal hpackets
  rw [hrest] at hfinal
  rw [hframes] at hpackets
  exact ⟨hfinal, hpackets⟩

/-- A scenario without gaps and without false sync bytes, with less than a packet of garbage at its end,
is processed packet by packet in any chunks, and the listing and the payloads are what was configured. -/
theorem scenario_processed {σ : Type} (engine : RandomEngine σ) (scenario : ScenarioConfig)
    (config : GeneratorConfig) (hcount : 3 ≤ scenario.validPacketCount)
    (hgaps : scenario.garbageBetweenMax = 0) (hfalse : scenario.falseSyncProbability ≤ 0)
    (hafter : scenario.garbageAfter < mpegtsPacketSize) {chunks : List (List UInt8)}
    (hdata : chunks.flatten = (generateScenario engine scenario config).1)
    (hne : ∀ data ∈ chunks, data ≠ []) (hfits : Fits {} chunks) :
    let d := run {} (chunks.map .feedData)
    d.isSynchronized = true ∧ d.rawBuffer.length = scenario.garbageAfter ∧
      processedPackets {} (chunks.map .feedData) =
        generatedTSPackets scenario.validPacketCount config ∧
      (processedPackets {} (chunks.map .feedData)).map some =
        (generateScenario engine scenario config).2.packetPositions.map
          (fun position => TSPacket.accept (packetAt chunks.flatten position)) ∧
      (isSystemPID (config.pid % 8192) = false →
        (d.getIterationsSummary (config.pid % 8192)).2.map lineOf =
          configuredLines scenario.validPacketCount config ∧
        (scenario.validPacketCount ≤ 2 ^ 32 →
          retrievedBytes d (config.pid % 8192) .payloadNormal =
            (List.replicate scenario.validPacketCount (payloadBytesOf config)).flatten ∧
          retrievedBytes d (config.pid % 8192) .payloadPrivate =
            (List.replicate scenario.validPacketCount (privateBytesOf config)).flatten)) := by
  intro d
  obtain ⟨before, after, hnone, hlength, hstream⟩ := generateScenario_noGaps engine hgaps hfalse config
  rw [← hlength] at hafter
  obtain ⟨hfinal, hpackets⟩ := run_generated hnone hcount config hafter (hdata.trans hstream) hne hfits
  obtain ⟨hinput, hprocessed⟩ := run_feeds_input chunks {}
  have hstate : d.toInputState = ⟨after, true, 0⟩ := hinput.trans hfinal
  have hall : processedPackets {} (chunks.map .feedData) =
      generatedTSPackets scenario.validPacketCount config := hprocessed.trans hpackets
  refine ⟨congrArg InputState.isSynchronized hstate, ?_, hall, ?_, ?_⟩
  · rw [← hlength]
    exact congrArg (fun s : InputState => s.rawBuffer.length) hstate
  · have hpositions := congrArg (List.map TSPacket.accept)
      (generateScenario_positions engine scenario config)
    rw [List.map_map, List.map_map, ← hdata] at hpositions
    rw [hall]
    refine Eq.trans ?_ hpositions.symm
    unfold generatedTSPackets
    rw [List.map_map]
    exact List.map_congr_left (fun c _ => (accept_generatePacket c).symm)
  · intro hsys
    have hlisted := listed_feeds (config.pid % 8192) chunks
    rw [hall] at hlisted
    refine ⟨lines_generated (by omega) hsys (hlisted.imp (fun _ _ h => h.toListedFrom)), ?_⟩
    intro hsmall
    have hgenerated : generatedIterations {} (chunks.map .feedData) ≤ 2 ^ 32 := by
      have hle := generatedIterations_le (chunks.map .feedData)
      rw [hall] at hle
      unfold generatedTSPackets at hle
      rw [List.length_map, length_configs] at hle
      omega
    have hbytes : ∀ type, retrievedBytes d (config.pid % 8192) type = _ :=
      retrievedBytes_run (forall_feeds chunks) hgenerated hsys
    rw [hbytes, hbytes, hall]
    exact ⟨flatMap_generated (fun x hx => (mem_generatedTSPackets hx).2.2.1),
      flatMap_generated (fun x hx => (mem_generatedTSPackets hx).2.2.2)⟩

/-- An engine that always draws the same. -/
def constantEngine : RandomEngine Unit where
  seed _ := ()
  byte _ := (0xFF, ())
  size low _ _ := (low, ())
  size_bounds _ _ _ h := ⟨le_rfl, h⟩
  falseSync _ := (false, ())

/-- The scenario with garbage in front, in two chunks. -/
def frontChunks : List (List UInt8) :=
  let data := (generateScenario constantEngine (Scenarios.garbagePrefix 200 10) { setPusi := true }).1
  [data.take 700, data.drop 700]

theorem scenario_processed_garbage :
    let d := run {} (frontChunks.map .feedData)
    d.isSynchronized = true ∧ d.rawBuffer.length = 0 ∧
      processedPackets {} (frontChunks.map .feedData) = generatedTSPackets 10 { setPusi := true } ∧
      (processedPackets {} (frontChunks.map .feedData)).map some =
        (generateScenario constantEngine (Scenarios.garbagePrefix 200 10)
          { setPusi := true }).2.packetPositions.map
            (fun position => TSPacket.accept (packetAt frontChunks.flatten position)) ∧
      (isSystemPID (0x100 % 8192) = false →
        (d.getIterationsSummary (0x100 % 8192)).2.map lineOf = configuredLines 10 { setPusi := true } ∧
        (10 ≤ 2 ^ 32 →
          retrievedBytes d (0x100 % 8192) .payloadNormal =
            (List.replicate 10 (payloadBytesOf { setPusi := true })).flatten ∧
          retrievedBytes d (0x100 % 8192) .payloadPrivate =
            (List.replicate 10 (privateBytesOf { setPusi := true })).flatten)) := by
  have hlength : frontChunks.map List.length = [700, 1380] := by decide +kernel
  have hfits : ({} : InputState).rawBuffer.length + frontChunks.flatten.length ≤ maxBufferSize := by
    rw [List.length_flatten, hlength]
    decide
  refine scenario_processed constantEngine (Scenarios.garbagePrefix 200 10)
    { setPusi := true } (by decide) rfl le_rfl (by decide) ?_ ?_ (fits_of_length hfits)
  · simp only [frontChunks, List.flatten_cons, List.flatten_nil, List.append_nil, List.take_append_drop]
  · intro data hdata hnil
    have hmem := List.mem_map_of_mem (f := List.length) hdata
    rw [hlength, hnil] at hmem
    revert hmem
    decide

end MinimalMpegTS
