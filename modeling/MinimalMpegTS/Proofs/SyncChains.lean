import MinimalMpegTS.Proofs.Sync

/-!
# Chains of packets

The sync search looks for three packets, each continuing the one before. It starts to look for the
second one at the byte behind the start of the first, so the two may overlap, and it never goes
back from a second packet that nothing continues.
-/

namespace MinimalMpegTS

namespace TSPacket

lemma valid_parsePayload (packet : TSPacket) (data : List UInt8) (offset : Nat) :
    (packet.parsePayload data offset).valid = true := by
  unfold parsePayload
  split <;> rfl

lemma valid_of_parse {packet packet' : TSPacket} {data : List UInt8}
    (h : parse packet data = some (packet', true)) : packet'.isValid = true := by
  unfold parse at h
  obtain ⟨⟨header, headerOk⟩, -, h⟩ := Option.bind_eq_some_iff.mp h
  dsimp only at h
  split at h
  · cases h
  split at h
  · obtain ⟨⟨field, fieldOk⟩, -, h⟩ := Option.bind_eq_some_iff.mp h
    dsimp only at h
    split at h
    · cases h
    · obtain rfl := congrArg Prod.fst (Option.some.inj h)
      exact valid_parsePayload _ _ _
  · obtain rfl := congrArg Prod.fst (Option.some.inj h)
    exact valid_parsePayload _ _ _

lemma accept_iff_parse {data : List UInt8} {packet : TSPacket} :
    accept data = some packet ↔ parse {} data = some (packet, true) := by
  constructor
  · intro h
    unfold accept at h
    split at h
    · next parsed hparse =>
      split at h
      · rw [← Option.some.inj h]
        exact hparse
      · cases h
    · cases h
  · intro h
    unfold accept
    rw [h]
    exact if_pos (valid_of_parse h)

end TSPacket

/-- A packet in the window at `pos` that continues `last`. -/
structure Continues (buffer : List UInt8) (last : TSPacket) (pos : Nat) (packet : TSPacket) : Prop where
  parsed : TSPacket.parse {} (packetAt buffer pos) = some (packet, true)
  belongs : belongsToSameIteration last packet = true

lemma candidateAt_iff {buffer : List UInt8} {last packet : TSPacket} {pos : Nat} :
    candidateAt buffer [last] pos = some packet ↔ Continues buffer last pos packet := by
  constructor
  · intro h
    obtain ⟨haccept, hbelongs⟩ := candidateAt_some h
    exact ⟨TSPacket.accept_iff_parse.mp haccept, hbelongs⟩
  · rintro ⟨hparsed, hbelongs⟩
    rw [candidateAt_next (TSPacket.accept_iff_parse.mpr hparsed) rfl]
    exact if_pos hbelongs

/-- The positions of the sync bytes. -/
def syncPositions (buffer : List UInt8) : List Nat :=
  (buffer.zipIdx.filter (fun entry => entry.1 == mpegtsSyncByte)).map Prod.snd

lemma mem_syncPositions {buffer : List UInt8} {pos : Nat}
    (h : buffer[pos]? = some mpegtsSyncByte) : pos ∈ syncPositions buffer :=
  List.mem_map.mpr ⟨(mpegtsSyncByte, pos),
    List.mem_filter.mpr ⟨List.mk_mem_zipIdx_iff_getElem?.mpr h, beq_self_eq_true _⟩, rfl⟩

lemma Continues.mem_syncPositions {buffer : List UInt8} {last packet : TSPacket} {pos : Nat}
    (h : Continues buffer last pos packet) : pos ∈ syncPositions buffer :=
  MinimalMpegTS.mem_syncPositions (syncByte_of_accept (TSPacket.accept_iff_parse.mpr h.parsed))

/-- The packet that parsing leaves of the window at `pos`. -/
def windowPacket (buffer : List UInt8) (pos : Nat) : TSPacket :=
  ((TSPacket.parse {} (packetAt buffer pos)).getD ({}, false)).1

lemma eq_windowPacket {buffer : List UInt8} {packet : TSPacket} {pos : Nat}
    (h : TSPacket.parse {} (packetAt buffer pos) = some (packet, true)) :
    packet = windowPacket buffer pos := by
  unfold windowPacket
  rw [h]
  rfl

/-- Three packets, each continuing the one before. The second starts at least `gap` bytes behind the
first, the third behind the second one, and all end before `limit`. -/
structure PacketChain (buffer : List UInt8) (gap limit : Nat) (pos1 pos2 pos3 : Nat)
    (p1 p2 p3 : TSPacket) : Prop where
  parsed : TSPacket.parse {} (packetAt buffer pos1) = some (p1, true)
  second : Continues buffer p1 pos2 p2
  third : Continues buffer p2 pos3 p3
  gap_le : pos1 + gap ≤ pos2
  separate : pos2 + mpegtsPacketSize ≤ pos3
  fits : pos3 + mpegtsPacketSize ≤ limit

open MPEGTSDemuxer

lemma tryFindValidIteration_eq_true {d d' : MPEGTSDemuxer} :
    d.tryFindValidIteration = (d', true) ↔
      ∃ start, findSyncPosition d.rawBuffer = some start ∧ d' = { d with syncOffset := start } := by
  unfold tryFindValidIteration
  cases findSyncPosition d.rawBuffer with
  | none => simp
  | some start => simp [eq_comm]

lemma tryFindValidIteration_fails {d : MPEGTSDemuxer} (h : findSyncPosition d.rawBuffer = none) :
    d.tryFindValidIteration.2 = false := by
  unfold tryFindValidIteration
  rw [h]

lemma chain_of_isSyncPosition {buffer : List UInt8} {start : Nat}
    (h : isSyncPosition buffer start = true) : ∃ pos2 pos3 p1 p2 p3,
      PacketChain buffer 1 (searchLimit buffer start) start pos2 pos3 p1 p2 p3 ∧
      ∀ pos packet, start < pos → pos < pos2 → ¬Continues buffer p1 pos packet := by
  obtain ⟨p1, pos2, p2, pos3, p3, h1, h2, h3⟩ := isSyncPosition_iff.mp h
  have hparsed : TSPacket.parse {} (packetAt buffer start) = some (p1, true) := by
    unfold candidateAt at h1
    rw [if_pos (syncByte_of_isSyncPosition h)] at h1
    apply TSPacket.accept_iff_parse.mp
    cases haccept : TSPacket.accept (packetAt buffer start) with
    | none =>
      rw [haccept] at h1
      cases h1
    | some packet =>
      rw [haccept] at h1
      exact h1
  refine ⟨pos2, pos3, p1, p2, p3, ⟨hparsed, candidateAt_iff.mp h2.candidate,
    candidateAt_iff.mp h3.candidate, h2.le, h3.le, h3.fits⟩, ?_⟩
  intro pos packet hlt hpos hcontinues
  have hnone := h2.first pos hlt hpos
  rw [candidateAt_iff.mpr hcontinues] at hnone
  cases hnone

/-- Where the search is successful, there are three packets in turn. The second and the third are
separate, the first and the second need not be. -/
theorem sync_chain {d d' : MPEGTSDemuxer} (h : d.tryFindValidIteration = (d', true)) :
    ∃ pos2 pos3 p1 p2 p3,
      PacketChain d.rawBuffer 1 (searchLimit d.rawBuffer d'.syncOffset) d'.syncOffset pos2 pos3
        p1 p2 p3 ∧
      ∀ pos packet, d'.syncOffset < pos → pos < pos2 → ¬Continues d.rawBuffer p1 pos packet := by
  obtain ⟨start, hfind, rfl⟩ := tryFindValidIteration_eq_true.mp h
  exact chain_of_isSyncPosition (findSyncPosition_eq_some.mp hfind).1

/-- Three packets of which the second begins inside the first. -/
def overlappingPackets : List UInt8 :=
  [0x47, 0x01, 0x00, 0x10] ++ List.replicate 96 0xFF ++ [0x47, 0x01, 0x00, 0x11] ++
    List.replicate 184 0xFF ++ [0x47, 0x01, 0x00, 0x12] ++ List.replicate 272 0xFF

lemma syncPositions_overlappingPackets : syncPositions overlappingPackets = [0, 100, 288] := by
  decide +kernel

lemma find_overlappingPackets :
    tryFindValidIteration { rawBuffer := overlappingPackets } =
      ({ rawBuffer := overlappingPackets, syncOffset := 0 }, true) := by
  have hsecond : Continues overlappingPackets (windowPacket overlappingPackets 0) 100
      (windowPacket overlappingPackets 100) := ⟨by decide +kernel, by decide +kernel⟩
  have hthird : Continues overlappingPackets (windowPacket overlappingPackets 100) 288
      (windowPacket overlappingPackets 288) := ⟨by decide +kernel, by decide +kernel⟩
  have hlimit : searchLimit overlappingPackets 0 = 564 := by decide +kernel
  have hlength : overlappingPackets.length = 564 := by decide +kernel
  have h188 : mpegtsPacketSize = 188 := rfl
  have hsync : isSyncPosition overlappingPackets 0 = true := by
    refine isSyncPosition_iff.mpr ⟨_, 100, _, 288, _, ?_,
      ⟨by omega, by omega, candidateAt_iff.mpr hsecond, ?_⟩,
      ⟨by omega, by omega, candidateAt_iff.mpr hthird, by omega⟩⟩
    · exact candidateAt_first (TSPacket.accept_iff_parse.mpr (by decide +kernel))
    · intro j hle hlt
      apply candidateAt_of_byte
      intro hbyte
      have hmem := mem_syncPositions hbyte
      rw [syncPositions_overlappingPackets] at hmem
      simp only [List.mem_cons, List.not_mem_nil, or_false] at hmem
      omega
  refine tryFindValidIteration_eq_true.mpr ⟨0, findSyncPosition_eq_some.mpr ⟨hsync, ?_, ?_⟩, rfl⟩
  · exact hlength.ge
  · intro pos hpos
    omega

theorem sync_chain_overlapping : ∃ pos2 pos3 p1 p2 p3,
    PacketChain overlappingPackets 1 (searchLimit overlappingPackets 0) 0 pos2 pos3 p1 p2 p3 ∧
      ∀ pos packet, 0 < pos → pos < pos2 → ¬Continues overlappingPackets p1 pos packet :=
  sync_chain find_overlappingPackets

/-- The search accepts the start of the three packets, where no three separate packets are. -/
theorem sync_overlapping : ∃ d d', tryFindValidIteration d = (d', true) ∧
    ¬∃ pos2 pos3 p1 p2 p3, PacketChain d.rawBuffer mpegtsPacketSize d.rawBuffer.length d'.syncOffset
      pos2 pos3 p1 p2 p3 := by
  refine ⟨_, _, find_overlappingPackets, ?_⟩
  rintro ⟨pos2, pos3, p1, p2, p3, hchain⟩
  have h188 : mpegtsPacketSize = 188 := rfl
  have hgap : 0 + mpegtsPacketSize ≤ pos2 := hchain.gap_le
  have hseparate := hchain.separate
  have hsecond := hchain.second.mem_syncPositions
  have hthird := hchain.third.mem_syncPositions
  dsimp only at hsecond hthird
  rw [syncPositions_overlappingPackets] at hsecond hthird
  simp only [List.mem_cons, List.not_mem_nil, or_false] at hsecond hthird
  omega

lemma exists_findSyncPosition_le {buffer : List UInt8} {pos : Nat}
    (h : isSyncPosition buffer pos = true) (hroom : pos + mpegtsPacketSize * 3 ≤ buffer.length) :
    ∃ start, findSyncPosition buffer = some start ∧ start ≤ pos := by
  cases hfind : findSyncPosition buffer with
  | none =>
    unfold findSyncPosition at hfind
    rw [if_neg (by omega)] at hfind
    have hnone := List.find?_eq_none.mp hfind pos (List.mem_range.mpr (by omega))
    exact absurd h hnone
  | some start =>
    refine ⟨start, rfl, ?_⟩
    by_contra hlt
    have hbefore := (findSyncPosition_eq_some.mp hfind).2.2 pos (by omega)
    rw [h] at hbefore
    cases hbefore

/-- The search does not pass a chain of three separate packets, as long as the first packet behind
its start that continues the first one, if it comes before the second, is continued in turn. -/
theorem sync_complete {d : MPEGTSDemuxer} {pos1 pos2 pos3 : Nat} {p1 p2 p3 : TSPacket}
    (hchain : PacketChain d.rawBuffer mpegtsPacketSize (searchLimit d.rawBuffer pos1) pos1 pos2 pos3
      p1 p2 p3)
    (hdecoy : ∀ pos packet, pos1 < pos → pos < pos2 → Continues d.rawBuffer p1 pos packet →
      (∀ pos' packet', pos1 < pos' → pos' < pos → ¬Continues d.rawBuffer p1 pos' packet') →
      ∃ next packet', pos + mpegtsPacketSize ≤ next ∧
        next + mpegtsPacketSize ≤ searchLimit d.rawBuffer pos1 ∧
        Continues d.rawBuffer packet next packet') :
    ∃ d', d.tryFindValidIteration = (d', true) ∧ d'.syncOffset ≤ pos1 := by
  have h188 : mpegtsPacketSize = 188 := rfl
  have hgap := hchain.gap_le
  have hseparate := hchain.separate
  have hfits := hchain.fits
  have hlimit : searchLimit d.rawBuffer pos1 ≤ d.rawBuffer.length := min_le_right _ _
  have hfirst := candidateAt_first (TSPacket.accept_iff_parse.mpr hchain.parsed)
  have hroom : pos2 + mpegtsPacketSize ≤ searchLimit d.rawBuffer pos1 := by omega
  have hbehind : pos1 + 1 ≤ pos2 := by omega
  obtain ⟨found, packet, h2, hle⟩ := exists_firstCandidate hbehind hroom
    (candidateAt_iff.mpr hchain.second)
  have hnext : ∃ next packet', found + mpegtsPacketSize ≤ next ∧
      next + mpegtsPacketSize ≤ searchLimit d.rawBuffer pos1 ∧
      Continues d.rawBuffer packet next packet' := by
    rcases Nat.lt_or_eq_of_le hle with hlt | heq
    · apply hdecoy found packet h2.le hlt (candidateAt_iff.mp h2.candidate)
      intro pos' packet' hpos hlt' hcontinues
      have hnone := h2.first pos' hpos hlt'
      rw [candidateAt_iff.mpr hcontinues] at hnone
      cases hnone
    · subst heq
      have hpacket : packet = p2 := by
        have hcandidate := h2.candidate
        rw [candidateAt_iff.mpr hchain.second] at hcandidate
        exact (Option.some.inj hcandidate).symm
      subst hpacket
      exact ⟨pos3, p3, hseparate, hfits, hchain.third⟩
  obtain ⟨next, packet', hgap', hnextFits, hcontinues⟩ := hnext
  obtain ⟨found', packet'', h3, -⟩ := exists_firstCandidate hgap' hnextFits
    (candidateAt_iff.mpr hcontinues)
  have hsync : isSyncPosition d.rawBuffer pos1 = true :=
    isSyncPosition_iff.mpr ⟨p1, found, packet, found', packet'', hfirst, h2, h3⟩
  obtain ⟨start, hfind, hstart⟩ := exists_findSyncPosition_le hsync (by omega)
  exact ⟨{ d with syncOffset := start }, tryFindValidIteration_eq_true.mpr ⟨start, hfind, rfl⟩,
    hstart⟩

/-- Three packets with 100 bytes of garbage between them. -/
def scatteredPackets : List UInt8 :=
  [0x47, 0x01, 0x00, 0x10] ++ List.replicate 284 0xFF ++ [0x47, 0x01, 0x00, 0x11] ++
    List.replicate 284 0xFF ++ [0x47, 0x01, 0x00, 0x12] ++ List.replicate 184 0xFF

theorem sync_complete_scattered : ∃ d', tryFindValidIteration { rawBuffer := scatteredPackets } =
    (d', true) ∧ d'.syncOffset ≤ 0 := by
  have hsync : syncPositions scatteredPackets = [0, 288, 576] := by decide +kernel
  have hchain : PacketChain scatteredPackets mpegtsPacketSize (searchLimit scatteredPackets 0) 0 288
      576 (windowPacket scatteredPackets 0) (windowPacket scatteredPackets 288)
      (windowPacket scatteredPackets 576) :=
    ⟨by decide +kernel, ⟨by decide +kernel, by decide +kernel⟩,
      ⟨by decide +kernel, by decide +kernel⟩, by decide, by decide, by decide +kernel⟩
  apply sync_complete hchain
  intro pos packet hpos hlt hcontinues
  have hmem := hcontinues.mem_syncPositions
  dsimp only at hmem
  rw [hsync] at hmem
  simp only [List.mem_cons, List.not_mem_nil, or_false] at hmem
  omega

/-- A chain of three packets, the first without payload, and a packet of another PID behind it. -/
def decoyPackets : List UInt8 :=
  [0x47, 0x01, 0x00, 0x25, 0xB7, 0x00] ++ List.replicate 182 0xFF ++
    [0x47, 0x02, 0x00, 0x16] ++ List.replicate 184 0xFF ++
    [0x47, 0x01, 0x00, 0x16] ++ List.replicate 184 0xFF ++
    [0x47, 0x01, 0x00, 0x17] ++ List.replicate 184 0xFF

lemma syncPositions_decoyPackets : syncPositions decoyPackets = [0, 188, 376, 564] := by
  decide +kernel

lemma decoyPackets_chain : PacketChain decoyPackets mpegtsPacketSize (searchLimit decoyPackets 0) 0
    376 564 (windowPacket decoyPackets 0) (windowPacket decoyPackets 376)
    (windowPacket decoyPackets 564) :=
  ⟨by decide +kernel, ⟨by decide +kernel, by decide +kernel⟩, ⟨by decide +kernel, by decide +kernel⟩,
    by decide, by decide, by decide +kernel⟩

lemma decoyPackets_decoy :
    Continues decoyPackets (windowPacket decoyPackets 0) 188 (windowPacket decoyPackets 188) ∧
      ∀ pos packet, 188 < pos → ¬Continues decoyPackets (windowPacket decoyPackets 188) pos packet := by
  have hnot376 : belongsToSameIteration (windowPacket decoyPackets 188)
      (windowPacket decoyPackets 376) = false := by decide +kernel
  have hnot564 : belongsToSameIteration (windowPacket decoyPackets 188)
      (windowPacket decoyPackets 564) = false := by decide +kernel
  refine ⟨⟨by decide +kernel, by decide +kernel⟩, ?_⟩
  intro pos packet hpos hcontinues
  have hmem := hcontinues.mem_syncPositions
  have hbelongs := hcontinues.belongs
  rw [eq_windowPacket hcontinues.parsed] at hbelongs
  rw [syncPositions_decoyPackets] at hmem
  simp only [List.mem_cons, List.not_mem_nil, or_false] at hmem
  obtain rfl | rfl : pos = 376 ∨ pos = 564 := by omega
  · rw [hnot376] at hbelongs
    cases hbelongs
  · rw [hnot564] at hbelongs
    cases hbelongs

/-- The search takes the packet of the other PID for the second one and misses the chain. -/
theorem sync_missed : ∃ d pos2 pos3 p1 p2 p3,
    PacketChain d.rawBuffer mpegtsPacketSize (searchLimit d.rawBuffer 0) 0 pos2 pos3 p1 p2 p3 ∧
      (tryFindValidIteration d).2 = false := by
  obtain ⟨hdecoy, hend⟩ := decoyPackets_decoy
  have hlength : decoyPackets.length = 752 := by decide +kernel
  have h188 : mpegtsPacketSize = 188 := rfl
  have hfind : findSyncPosition decoyPackets = none := by
    by_contra hne
    obtain ⟨start, hstart⟩ := Option.ne_none_iff_exists'.mp hne
    obtain ⟨hsync, hroom, -⟩ := findSyncPosition_eq_some.mp hstart
    obtain ⟨pos2, pos3, p1, p2, p3, hchain, hbefore⟩ := chain_of_isSyncPosition hsync
    have hgap := hchain.gap_le
    have hseparate := hchain.separate
    have hp1 := eq_windowPacket hchain.parsed
    have hmem := mem_syncPositions (syncByte_of_isSyncPosition hsync)
    have hmem2 := hchain.second.mem_syncPositions
    rw [syncPositions_decoyPackets] at hmem hmem2
    simp only [List.mem_cons, List.not_mem_nil, or_false] at hmem hmem2
    obtain rfl | rfl : start = 0 ∨ start = 188 := by omega
    · have hpos2 : ¬188 < pos2 := by
        intro hlt
        rw [hp1] at hbefore
        exact hbefore 188 _ (by omega) hlt hdecoy
      obtain rfl : pos2 = 188 := by omega
      have hp2 := eq_windowPacket hchain.second.parsed
      have hthird := hchain.third
      rw [hp2] at hthird
      exact hend pos3 p3 (by omega) hthird
    · have hsecond := hchain.second
      rw [hp1] at hsecond
      exact hend pos2 p2 (by omega) hsecond
  exact ⟨{ rawBuffer := decoyPackets }, _, _, _, _, _, decoyPackets_chain,
    tryFindValidIteration_fails hfind⟩

end MinimalMpegTS
