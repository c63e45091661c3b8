import MinimalMpegTS.Proofs.GeneratedStreams

/-!
# Generated scenarios with gaps

The search bridges the garbage between three packets, but the processing loop stops at the first gap
and keeps its buffer. The next call finds the same position again: the first packet is processed once
more, and no other one is ever processed.
-/

namespace MinimalMpegTS

open MPEGTSDemuxer PacketGenerator InputState

/-! ### The sync bytes -/

/-- A generated packet has no sync byte but its first one. -/
def OnlySyncFirst (config : GeneratorConfig) : Prop := NoSync (generatePacket config).tail

lemma OnlySyncFirst.nextConfig {config : GeneratorConfig} (h : OnlySyncFirst config) :
    OnlySyncFirst (nextConfig config) := by
  have hfourth : ∀ cc : Nat, cc < 256 → ∀ adaptation : Bool,
      ((0x00 : UInt8) ||| ((if adaptation then (0x03 : UInt8) else 0x01) <<< 4)) |||
        (UInt8.ofNat cc &&& 0x0F) ≠ mpegtsSyncByte := by
    decide +kernel
  unfold OnlySyncFirst at h ⊢
  rw [generatePacket_eq] at h ⊢
  intro byte hbyte
  rcases List.mem_cons.mp hbyte with rfl | hbyte
  · exact h _ List.mem_cons_self
  rcases List.mem_cons.mp hbyte with rfl | hbyte
  · exact h _ (List.mem_cons_of_mem _ List.mem_cons_self)
  rcases List.mem_cons.mp hbyte with rfl | hbyte
  · have hvalue := hfourth (PacketGenerator.nextConfig config).startingCc.toNat
      (UInt8.toNat_lt _) (PacketGenerator.nextConfig config).includeAdaptation
    rwa [UInt8.ofNat_toNat] at hvalue
  · exact h _ (List.mem_cons_of_mem _ (List.mem_cons_of_mem _ (List.mem_cons_of_mem _ hbyte)))

lemma NoSync.behind {front back : List UInt8} (h : NoSync front) {p : Nat}
    (hbyte : (front ++ back)[p]? = some mpegtsSyncByte) :
    front.length ≤ p ∧ back[p - front.length]? = some mpegtsSyncByte := by
  by_cases hlt : p < front.length
  · rw [List.getElem?_append_left hlt] at hbyte
    exact absurd rfl (h _ (List.mem_of_getElem? hbyte))
  · have hle : front.length ≤ p := by omega
    rw [List.getElem?_append_right hle] at hbyte
    exact ⟨hle, hbyte⟩

lemma OnlySyncFirst.behind {config : GeneratorConfig} (h : OnlySyncFirst config) {back : List UInt8}
    {p : Nat} (hpos : 0 < p)
    (hbyte : (generatePacket config ++ back)[p]? = some mpegtsSyncByte) :
    mpegtsPacketSize ≤ p ∧ back[p - mpegtsPacketSize]? = some mpegtsSyncByte := by
  have hlength := length_generatePacket config
  obtain ⟨first, rest, hpacket⟩ : ∃ first rest, generatePacket config = first :: rest :=
    List.exists_cons_of_length_pos (by rw [hlength]; exact packetSize_pos)
  unfold OnlySyncFirst at h
  rw [hpacket] at h hbyte hlength
  obtain ⟨q, rfl⟩ : ∃ q, p = q + 1 := ⟨p - 1, by omega⟩
  rw [List.cons_append, List.getElem?_cons_succ] at hbyte
  obtain ⟨hle, hback⟩ := NoSync.behind h hbyte
  rw [List.tail_cons] at hle hback
  rw [List.length_cons] at hlength
  have hsub : q + 1 - mpegtsPacketSize = q - rest.length := by omega
  rw [hsub]
  exact ⟨by omega, hback⟩

/-! ### The search -/

/-- Three packets with garbage in front of each. -/
structure Gapped (before gap1 gap2 : List UInt8) (config : GeneratorConfig) : Prop where
  packet : OnlySyncFirst config
  noSyncBefore : NoSync before
  noSyncGap1 : NoSync gap1
  noSyncGap2 : NoSync gap2
  nonempty : gap1 ≠ []
  bounded : gap1.length + gap2.length + mpegtsPacketSize * 3 ≤ mpegtsPacketSize * 10

/-- The stream of the three packets and anything behind them. -/
def gappedStream (before gap1 gap2 : List UInt8) (config : GeneratorConfig) (back : List UInt8) :
    List UInt8 :=
  before ++ (generatePacket config ++ (gap1 ++ (generatePacket (nextConfig config) ++
    (gap2 ++ (generatePacket (nextConfig (nextConfig config)) ++ back)))))

lemma accept_gappedStream (before gap1 gap2 : List UInt8) (config : GeneratorConfig) (back : List UInt8) :
    TSPacket.accept (packetAt (gappedStream before gap1 gap2 config back) before.length) =
      some (generatedTSPacket config) ∧
    TSPacket.accept (packetAt (gappedStream before gap1 gap2 config back)
      (before.length + mpegtsPacketSize + gap1.length)) = some (generatedTSPacket (nextConfig config)) ∧
    TSPacket.accept (packetAt (gappedStream before gap1 gap2 config back)
      (before.length + mpegtsPacketSize * 2 + gap1.length + gap2.length)) =
        some (generatedTSPacket (nextConfig (nextConfig config))) := by
  unfold gappedStream
  refine ⟨accept_behind before config _, ?_, ?_⟩
  · have hsecond := accept_behind (before ++ generatePacket config ++ gap1) (nextConfig config)
      (gap2 ++ (generatePacket (nextConfig (nextConfig config)) ++ back))
    simp only [List.append_assoc] at hsecond
    simp only [List.length_append, length_generatePacket, ← Nat.add_assoc] at hsecond
    exact hsecond
  · have hthird := accept_behind (before ++ generatePacket config ++ gap1 ++
      generatePacket (nextConfig config) ++ gap2) (nextConfig (nextConfig config)) back
    simp only [List.append_assoc] at hthird
    simp only [List.length_append, length_generatePacket, ← Nat.add_assoc] at hthird
    have hsum : before.length + mpegtsPacketSize * 2 + gap1.length + gap2.length =
        before.length + mpegtsPacketSize + gap1.length + mpegtsPacketSize + gap2.length := by
      omega
    rwa [hsum]

lemma length_gappedStream (before gap1 gap2 : List UInt8) (config : GeneratorConfig) (back : List UInt8) :
    (gappedStream before gap1 gap2 config back).length =
    before.length + mpegtsPacketSize * 3 + gap1.length + gap2.length + back.length := by
  unfold gappedStream
  simp only [List.length_append, length_generatePacket]
  omega

lemma exists_gappedStream {before gap1 gap2 back buffer : List UInt8} {config : GeneratorConfig}
    (hbuffer : buffer <+: gappedStream before gap1 gap2 config back)
    (hlong : before.length + mpegtsPacketSize * 3 + gap1.length + gap2.length ≤ buffer.length) :
    ∃ rest, buffer = gappedStream before gap1 gap2 config rest := by
  have happend : ∀ rest, gappedStream before gap1 gap2 config [] ++ rest =
      gappedStream before gap1 gap2 config rest := by
    intro rest
    unfold gappedStream
    simp only [List.append_assoc, List.nil_append]
  obtain ⟨rest, hrest⟩ : gappedStream before gap1 gap2 config [] <+: buffer := by
    apply List.prefix_of_prefix_length_le ⟨back, happend back⟩ hbuffer
    rw [length_gappedStream, List.length_nil]
    omega
  exact ⟨rest, hrest.symm.trans (happend rest)⟩

lemma firstCandidate_of_noSync {buffer : List UInt8} {maxSearch pos found : Nat} {p1 p2 : TSPacket}
    (haccept : TSPacket.accept (packetAt buffer found) = some p2)
    (hbelongs : belongsToSameIteration p1 p2 = true) (hle : pos ≤ found)
    (hfits : found + mpegtsPacketSize ≤ maxSearch)
    (hnone : ∀ j, pos ≤ j → j < found → buffer[j]? ≠ some mpegtsSyncByte) :
    FirstCandidate buffer maxSearch p1 pos found p2 :=
  ⟨hle, hfits, (candidateAt_next haccept rfl).trans (if_pos hbelongs),
    fun j hj hlt => candidateAt_of_byte (hnone j hj hlt) _⟩

namespace Gapped

variable {before gap1 gap2 : List UInt8} {config : GeneratorConfig} (h : Gapped before gap1 gap2 config)
  {back buffer : List UInt8}
include h

lemma syncByte_between {p : Nat} (hpos : before.length < p)
    (hbyte : (gappedStream before gap1 gap2 config back)[p]? = some mpegtsSyncByte) :
    p = before.length + mpegtsPacketSize + gap1.length ∨
      before.length + mpegtsPacketSize * 2 + gap1.length + gap2.length ≤ p := by
  obtain ⟨_, hbyte⟩ := h.noSyncBefore.behind hbyte
  obtain ⟨hfirst, hbyte⟩ := h.packet.behind (by omega) hbyte
  obtain ⟨hgap, hbyte⟩ := h.noSyncGap1.behind hbyte
  by_cases hsecond : p = before.length + mpegtsPacketSize + gap1.length
  · exact .inl hsecond
  · obtain ⟨hpacket, hbyte⟩ := h.packet.nextConfig.behind (by omega) hbyte
    obtain ⟨hlast, -⟩ := h.noSyncGap2.behind hbyte
    omega

lemma syncByte_between_part (hbuffer : buffer <+: gappedStream before gap1 gap2 config back) {p : Nat}
    (hpos : before.length < p) (hbyte : buffer[p]? = some mpegtsSyncByte) :
    p = before.length + mpegtsPacketSize + gap1.length ∨
      before.length + mpegtsPacketSize * 2 + gap1.length + gap2.length ≤ p := by
  obtain ⟨rest, hrest⟩ := hbuffer
  have hstream : (gappedStream before gap1 gap2 config back)[p]? = some mpegtsSyncByte := by
    rw [← hrest, List.getElem?_append_left (List.getElem?_eq_some_iff.mp hbyte).1, hbyte]
  exact h.syncByte_between hpos hstream

lemma isSyncPosition_gapped :
    isSyncPosition (gappedStream before gap1 gap2 config back) before.length = true := by
  obtain ⟨h1, h2, h3⟩ := accept_gappedStream before gap1 gap2 config back
  have hlength := length_gappedStream before gap1 gap2 config back
  have hbounded := h.bounded
  have hlimit : before.length + mpegtsPacketSize * 3 + gap1.length + gap2.length ≤
      searchLimit (gappedStream before gap1 gap2 config back) before.length := by
    unfold searchLimit
    rw [le_min_iff]
    omega
  have hpos := packetSize_pos
  have hnone : ∀ j, before.length < j → j ≠ before.length + mpegtsPacketSize + gap1.length →
      j < before.length + mpegtsPacketSize * 2 + gap1.length + gap2.length →
        (gappedStream before gap1 gap2 config back)[j]? ≠ some mpegtsSyncByte := by
    intro j hj hne hlt hbyte
    have hbetween := h.syncByte_between hj hbyte
    omega
  refine isSyncPosition_iff.mpr ⟨_, _, _, _, _, candidateAt_first h1,
    firstCandidate_of_noSync h2 (belongs_nextConfig config) (by omega) (by omega) ?_,
    firstCandidate_of_noSync h3 (belongs_nextConfig _) (by omega) (by omega) ?_⟩
  · intro j hj hlt
    exact hnone j (by omega) (by omega) (by omega)
  · intro j hj hlt
    exact hnone j (by omega) (by omega) (by omega)

lemma findSyncPosition_gapped (hbuffer : buffer <+: gappedStream before gap1 gap2 config back) :
    findSyncPosition buffer =
      if before.length + mpegtsPacketSize * 3 + gap1.length + gap2.length ≤ buffer.length then
        some before.length
      else none := by
  have hbehind : ∀ start, isSyncPosition buffer start = true → before.length ≤ start :=
    fun start hstart => le_of_noSync h.noSyncBefore hbuffer hstart
  split
  · next hlong =>
    obtain ⟨rest, hstream⟩ := exists_gappedStream hbuffer hlong
    refine findSyncPosition_eq_some.mpr ⟨hstream ▸ h.isSyncPosition_gapped, by omega, ?_⟩
    intro pos hpos
    by_contra hfound
    have hle := hbehind pos (Bool.eq_true_of_not_eq_false hfound)
    omega
  · next hshort =>
    cases hfind : findSyncPosition buffer with
    | none => rfl
    | some start =>
      exfalso
      -- a chain needs two more sync bytes in front of the third packet
      obtain ⟨hsync, -, -⟩ := findSyncPosition_eq_some.mp hfind
      obtain ⟨p1, pos2, p2, pos3, p3, -, h2, h3⟩ := isSyncPosition_iff.mp hsync
      have hstart := hbehind start hsync
      have hpos2 := h2.le
      have hpos3 := h3.le
      have hfits := h3.fits
      have hlimit : searchLimit buffer start ≤ buffer.length := min_le_right _ _
      have hpos := packetSize_pos
      have hsecond := h.syncByte_between_part hbuffer (by omega) (syncByte_of_candidateAt h2.candidate)
      have hthird := h.syncByte_between_part hbuffer (by omega) (syncByte_of_candidateAt h3.candidate)
      omega

/-! ### The run -/

lemma reads_first (hbuffer : buffer <+: gappedStream before gap1 gap2 config back)
    (hlong : before.length + mpegtsPacketSize * 3 ≤ buffer.length) :
    packetsOf (buffer.drop before.length) = [generatedTSPacket config] ∧
      ¬AllAccepted (buffer.drop before.length) := by
  have hpos := packetSize_pos
  have hdropped : (buffer.drop before.length).length = buffer.length - before.length := List.length_drop
  have haccept : TSPacket.accept ((buffer.drop before.length).take mpegtsPacketSize) =
      some (generatedTSPacket config) := by
    obtain ⟨rest, hrest⟩ := hbuffer
    have hwindow := packetAt_append rest (by omega : before.length + mpegtsPacketSize ≤ buffer.length)
    rw [← (accept_gappedStream before gap1 gap2 config back).1, ← hrest, hwindow]
    rfl
  -- the window behind it starts in the gap, so not with a sync byte
  have hreject : TSPacket.accept (((buffer.drop before.length).drop mpegtsPacketSize).take
      mpegtsPacketSize) = none := by
    rw [List.drop_drop]
    by_contra hne
    obtain ⟨packet, hpacket⟩ := Option.ne_none_iff_exists'.mp hne
    have hgap := List.length_pos_of_ne_nil h.nonempty
    have hbyte := h.syncByte_between_part hbuffer (by omega) (syncByte_of_accept hpacket)
    omega
  have hroom : mpegtsPacketSize ≤ (buffer.drop before.length).length := by omega
  dsimp only [packetsOf, AllAccepted]
  rw [Framing.frames_accept hpos hroom haccept, Framing.frames_reject hreject,
    Framing.drained_accept hpos hroom haccept]
  refine ⟨rfl, Framing.not_drained_reject ?_ hreject⟩
  rw [List.length_drop]
  omega

lemma feed_stuck {data : List UInt8}
    (hbuffer : buffer ++ data <+: gappedStream before gap1 gap2 config back) (hdata : data ≠ [])
    (hfit : buffer.length + data.length ≤ maxBufferSize) :
    feed ⟨buffer, false, 0⟩ data = (⟨buffer ++ data, false, 0⟩,
      if before.length + mpegtsPacketSize * 3 + gap1.length + gap2.length ≤ (buffer ++ data).length then
        [generatedTSPacket config]
      else []) := by
  have hfind := h.findSyncPosition_gapped hbuffer
  split
  · next hlong =>
    rw [if_pos hlong] at hfind
    obtain ⟨hpackets, hrejected⟩ := h.reads_first hbuffer (by omega)
    rw [feed_searching_some 0 hdata hfit hfind, readPackets_rejected hrejected, hpackets]
  · next hshort =>
    rw [if_neg hshort] at hfind
    rw [feed_searching_none 0 hdata hfit hfind]

lemma run_stuck {chunks : List (List UInt8)} {seen : List UInt8}
    (hchunks : seen ++ chunks.flatten <+: gappedStream before gap1 gap2 config back)
    (hne : ∀ data ∈ chunks, data ≠ []) (hfits : (seen ++ chunks.flatten).length ≤ maxBufferSize) :
    Transducer.final feed ⟨seen, false, 0⟩ chunks = ⟨seen ++ chunks.flatten, false, 0⟩ := by
  induction chunks generalizing seen with
  | nil =>
    rw [List.flatten_nil, List.append_nil]
    rfl
  | cons data chunks ih =>
    rw [List.flatten_cons, ← List.append_assoc] at hchunks hfits ⊢
    have hfront : seen ++ data <+: gappedStream before gap1 gap2 config back :=
      (List.prefix_append _ _).trans hchunks
    have hfit : seen.length + data.length ≤ maxBufferSize := by
      rw [List.length_append, List.length_append] at hfits
      omega
    rw [Transducer.final_cons, h.feed_stuck hfront (hne data List.mem_cons_self) hfit]
    exact ih hchunks (fun d hd => hne d (List.mem_cons_of_mem data hd)) hfits

end Gapped

/-! ### Scenarios -/

section Scenario

variable {σ : Type} (engine : RandomEngine σ) {scenario : ScenarioConfig}

lemma scenarioPackets_gap (hmin : 0 < scenario.garbageBetweenMin)
    (hle : scenario.garbageBetweenMin ≤ scenario.garbageBetweenMax)
    (hfalse : scenario.falseSyncProbability ≤ 0) (left : Nat) (config : GeneratorConfig)
    (data : List UInt8) (positions : List Nat) (rng : σ) :
    ∃ gap rng', NoSync gap ∧ gap ≠ [] ∧ gap.length ≤ scenario.garbageBetweenMax ∧
      scenarioPackets engine scenario (left + 2) config data positions rng =
        scenarioPackets engine scenario (left + 1) (nextConfig config)
          (data ++ generatePacket config ++ gap) (positions ++ [data.length]) rng' := by
  obtain ⟨hlow, hhigh⟩ := engine.size_bounds scenario.garbageBetweenMin scenario.garbageBetweenMax rng hle
  set drawn := engine.size scenario.garbageBetweenMin scenario.garbageBetweenMax rng with hdrawn
  obtain ⟨hlength, hnone⟩ := scenarioGarbage_noSync engine hfalse drawn.1 drawn.2
  refine ⟨(scenarioGarbage engine scenario drawn.1 drawn.2).1,
    (scenarioGarbage engine scenario drawn.1 drawn.2).2, hnone, List.ne_nil_of_length_pos (by omega),
    hlength.trans_le hhigh, ?_⟩
  have hgarbage : 0 < left + 1 ∧ 0 < scenario.garbageBetweenMax := by omega
  conv_lhs => rw [scenarioPackets, if_pos hgarbage]

lemma positions_kept (scenario : ScenarioConfig) (left : Nat) (config : GeneratorConfig)
    (data : List UInt8) (positions : List Nat) (rng : σ) :
    positions <+: (scenarioPackets engine scenario left config data positions rng).2.1 := by
  induction left generalizing config data positions rng with
  | zero => exact List.prefix_rfl
  | succ left ih =>
    rw [scenarioPackets]
    dsimp only
    split
    · exact (List.prefix_append positions _).trans (ih _ _ _ _)
    · exact (List.prefix_append positions _).trans (ih _ _ _ _)

lemma packet_kept (scenario : ScenarioConfig) (left : Nat) (config : GeneratorConfig)
    (data : List UInt8) (positions : List Nat) (rng : σ) :
    data ++ generatePacket config <+:
        (scenarioPackets engine scenario (left + 1) config data positions rng).1 ∧
      positions ++ [data.length] <+:
        (scenarioPackets engine scenario (left + 1) config data positions rng).2.1 := by
  rw [scenarioPackets]
  dsimp only
  split
  · exact ⟨(List.prefix_append _ _).trans (scenarioPackets_positions engine scenario left _ _ _ _).1,
      positions_kept engine scenario left _ _ _ _⟩
  · exact ⟨(scenarioPackets_positions engine scenario left _ _ _ _).1,
      positions_kept engine scenario left _ _ _ _⟩

lemma generateScenario_gapped {config : GeneratorConfig} (honly : OnlySyncFirst config)
    (hcount : 3 ≤ scenario.validPacketCount) (hmin : 0 < scenario.garbageBetweenMin)
    (hle : scenario.garbageBetweenMin ≤ scenario.garbageBetweenMax)
    (hmax : scenario.garbageBetweenMax ≤ 658) (hfalse : scenario.falseSyncProbability ≤ 0) :
    ∃ before gap1 gap2 back, Gapped before gap1 gap2 config ∧
      (generateScenario engine scenario config).1 = gappedStream before gap1 gap2 config back ∧
      (generateScenario engine scenario config).2.packetPositions[2]? =
        some (before.length + mpegtsPacketSize * 2 + gap1.length + gap2.length) := by
  obtain ⟨left, hleft⟩ : ∃ left, scenario.validPacketCount = left + 3 :=
    ⟨scenario.validPacketCount - 3, by omega⟩
  set start := scenarioGarbage engine scenario scenario.garbageBefore
    (engine.seed scenario.randomSeed) with hstart
  obtain ⟨gap1, rng1, hnone1, hne1, hlength1, hfirst⟩ :=
    scenarioPackets_gap engine hmin hle hfalse (left + 1) config start.1 [] start.2
  obtain ⟨gap2, rng2, hnone2, -, hlength2, hsecond⟩ :=
    scenarioPackets_gap engine hmin hle hfalse left (nextConfig config)
      (start.1 ++ generatePacket config ++ gap1) ([] ++ [start.1.length]) rng1
  obtain ⟨⟨rest, hrest⟩, ⟨others, hothers⟩⟩ := packet_kept engine scenario left
    (nextConfig (nextConfig config)) (start.1 ++ generatePacket config ++ gap1 ++
      generatePacket (nextConfig config) ++ gap2) ([] ++ [start.1.length] ++
        [(start.1 ++ generatePacket config ++ gap1).length]) rng2
  have hmiddle : scenarioPackets engine scenario scenario.validPacketCount config start.1 [] start.2 =
      scenarioPackets engine scenario (left + 1) (nextConfig (nextConfig config)) (start.1 ++
        generatePacket config ++ gap1 ++ generatePacket (nextConfig config) ++ gap2)
        ([] ++ [start.1.length] ++ [(start.1 ++ generatePacket config ++ gap1).length]) rng2 := by
    rw [hleft, hfirst, hsecond]
  refine ⟨start.1, gap1, gap2, rest ++ (scenarioGarbage engine scenario scenario.garbageAfter
    (scenarioPackets engine scenario scenario.validPacketCount config start.1 [] start.2).2.2).1,
    ⟨honly, (scenarioGarbage_noSync engine hfalse _ _).2, hnone1, hnone2, hne1, ?_⟩, ?_, ?_⟩
  · unfold mpegtsPacketSize
    omega
  · have hdata : (generateScenario engine scenario config).1 =
        (scenarioPackets engine scenario scenario.validPacketCount config start.1 [] start.2).1 ++
          (scenarioGarbage engine scenario scenario.garbageAfter
            (scenarioPackets engine scenario scenario.validPacketCount config start.1 [] start.2).2.2).1 :=
      rfl
    rw [hdata]
    conv_lhs => rw [hmiddle, ← hrest]
    rw [hmiddle]
    unfold gappedStream
    simp only [List.append_assoc]
  · have hpositions : (generateScenario engine scenario config).2.packetPositions =
        (scenarioPackets engine scenario scenario.validPacketCount config start.1 [] start.2).2.1 := rfl
    rw [hpositions, hmiddle, ← hothers]
    simp only [List.nil_append, List.cons_append, List.getElem?_cons_succ, List.getElem?_cons_zero,
      List.length_append, length_generatePacket, Option.some.injEq]
    omega

end Scenario

/-- Of a scenario with garbage between the packets and without false sync bytes, that the buffer holds,
only the first packet is processed: by no call before the third packet is complete, and once by each call
from then on. After every call the demultiplexer is not synchronized, and has kept all data. -/
theorem gapped_scenario_stuck {σ : Type} (engine : RandomEngine σ) (scenario : ScenarioConfig)
    {config : GeneratorConfig} (honly : OnlySyncFirst config)
    (hcount : 3 ≤ scenario.validPacketCount) (hmin : 0 < scenario.garbageBetweenMin)
    (hle : scenario.garbageBetweenMin ≤ scenario.garbageBetweenMax)
    (hmax : scenario.garbageBetweenMax ≤ 658) (hfalse : scenario.falseSyncProbability ≤ 0)
    {chunks : List (List UInt8)} {data : List UInt8}
    (hdata : chunks.flatten ++ data <+: (generateScenario engine scenario config).1)
    (hne : ∀ chunk ∈ chunks, chunk ≠ []) (hlast : data ≠ [])
    (hfits : (chunks.flatten ++ data).length ≤ maxBufferSize) :
    let d := run {} (chunks.map .feedData)
    (d.feedData data).isSynchronized = false ∧
      (d.feedData data).rawBuffer = chunks.flatten ++ data ∧
      ∃ third, (generateScenario engine scenario config).2.packetPositions[2]? = some third ∧
        third + mpegtsPacketSize ≤ (generateScenario engine scenario config).1.length ∧
        (d.feedTrace data).map Prod.snd =
          if third + mpegtsPacketSize ≤ (chunks.flatten ++ data).length then
            [generatedTSPacket config]
          else [] := by
  intro d
  obtain ⟨before, gap1, gap2, back, hgapped, hstream, hthird⟩ :=
    generateScenario_gapped engine honly hcount hmin hle hmax hfalse
  have hlength := (congrArg List.length hstream).trans
    (length_gappedStream before gap1 gap2 config back)
  rw [hstream] at hdata
  have hfed : (chunks.flatten ++ data).length = chunks.flatten.length + data.length :=
    List.length_append
  have hseen : [] ++ chunks.flatten = chunks.flatten := List.nil_append _
  have hrun := hgapped.run_stuck (hseen.symm ▸ (List.prefix_append _ data).trans hdata) hne
    (hseen.symm ▸ (by omega))
  have hstate : d.toInputState = ⟨chunks.flatten, false, 0⟩ :=
    (run_feeds_input chunks {}).1.trans hrun
  have hfeed := hgapped.feed_stuck hdata hlast (by omega)
  rw [← hstate] at hfeed
  have hnext : (d.feedData data).toInputState = ⟨chunks.flatten ++ data, false, 0⟩ := by
    rw [feedData_eq]
    exact congrArg Prod.fst hfeed
  refine ⟨congrArg InputState.isSynchronized hnext, congrArg InputState.rawBuffer hnext, _, hthird,
    ?_, ?_⟩
  · omega
  · have hsum : before.length + mpegtsPacketSize * 2 + gap1.length + gap2.length + mpegtsPacketSize =
        before.length + mpegtsPacketSize * 3 + gap1.length + gap2.length := by omega
    rw [feedTrace_packets, hfeed, hsum]

/-- Ten packets with gaps: the call that brings the last bytes processes the first packet again. -/
theorem gapped_scenario_stuck_between :
    let data := (generateScenario constantEngine (Scenarios.garbageBetween 10 50 10) {}).1
    let d := run {} ([data.take 1000].map .feedData)
    (d.feedData (data.drop 1000)).isSynchronized = false ∧
      (d.feedData (data.drop 1000)).rawBuffer = data ∧
      (d.feedTrace (data.drop 1000)).map Prod.snd = [generatedTSPacket {}] := by
  intro data
  have hlength : data.length = 1970 := by decide +kernel
  have hscenario : data = (generateScenario constantEngine (Scenarios.garbageBetween 10 50 10) {}).1 := rfl
  clear_value data
  intro d
  have hflatten : [data.take 1000].flatten ++ data.drop 1000 = data := by
    rw [List.flatten_singleton, List.take_append_drop]
  have honly : OnlySyncFirst {} := by
    unfold OnlySyncFirst NoSync
    decide +kernel
  have hprefix : [data.take 1000].flatten ++ data.drop 1000 <+:
      (generateScenario constantEngine (Scenarios.garbageBetween 10 50 10) {}).1 := by
    rw [hflatten, hscenario]
  have hne : ∀ chunk ∈ [data.take 1000], chunk ≠ [] := by
    intro chunk hchunk hnil
    rw [List.mem_singleton.mp hchunk] at hnil
    have htake := congrArg List.length hnil
    rw [List.length_take, hlength] at htake
    cases htake
  have hlast : data.drop 1000 ≠ [] := by
    intro hnil
    have hdrop := congrArg List.length hnil
    rw [List.length_drop, hlength] at hdrop
    cases hdrop
  have hfits : ([data.take 1000].flatten ++ data.drop 1000).length ≤ maxBufferSize := by
    rw [hflatten, hlength]
    decide
  obtain ⟨hsync, hbuffer, third, -, hthird, htrace⟩ :=
    gapped_scenario_stuck constantEngine (Scenarios.garbageBetween 10 50 10) honly
      (by decide) (by decide) (by decide) (by decide) le_rfl hprefix hne hlast hfits
  rw [← hscenario] at hthird
  rw [hflatten, if_pos hthird] at htrace
  exact ⟨hsync, hbuffer.trans hflatten, htrace⟩

end MinimalMpegTS
