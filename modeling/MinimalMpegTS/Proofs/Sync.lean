import MinimalMpegTS.Proofs.Input

/-!
# The sync search

The search for further candidates skips positions without a candidate and jumps over each
candidate that it finds, so a position is accepted exactly if two candidates in turn are the first
ones behind it. A chain of three packets without sync bytes in between is accepted, and a position
that is accepted stays so when the buffer grows.
-/

namespace MinimalMpegTS

/-! ### Candidates -/

lemma candidateAt_of_byte {buffer : List UInt8} {pos : Nat}
    (h : buffer[pos]? ≠ some mpegtsSyncByte) (candidates : List TSPacket) :
    candidateAt buffer candidates pos = none := by
  unfold candidateAt
  rw [if_neg h]

lemma syncByte_of_candidateAt {buffer : List UInt8} {pos : Nat} {candidates : List TSPacket}
    {packet : TSPacket} (h : candidateAt buffer candidates pos = some packet) :
    buffer[pos]? = some mpegtsSyncByte := by
  by_contra hbyte
  rw [candidateAt_of_byte hbyte] at h
  cases h

lemma syncByte_of_accept {buffer : List UInt8} {pos : Nat} {packet : TSPacket}
    (h : TSPacket.accept (packetAt buffer pos) = some packet) :
    buffer[pos]? = some mpegtsSyncByte := by
  have hhead := accept_head h
  unfold packetAt at hhead
  rw [List.head?_take] at hhead
  simpa using hhead

lemma candidateAt_first {buffer : List UInt8} {pos : Nat} {packet : TSPacket}
    (h : TSPacket.accept (packetAt buffer pos) = some packet) :
    candidateAt buffer [] pos = some packet := by
  unfold candidateAt
  rw [if_pos (syncByte_of_accept h), h]
  rfl

lemma candidateAt_next {buffer : List UInt8} {pos : Nat} {packet : TSPacket}
    (h : TSPacket.accept (packetAt buffer pos) = some packet) {candidates : List TSPacket}
    {last : TSPacket} (hlast : candidates.getLast? = some last) :
    candidateAt buffer candidates pos =
      if belongsToSameIteration last packet then some packet else none := by
  unfold candidateAt
  rw [if_pos (syncByte_of_accept h), h]
  dsimp only
  rw [hlast]

lemma candidateAt_last {buffer : List UInt8} {candidates : List TSPacket} {last : TSPacket}
    (h : candidates.getLast? = some last) (pos : Nat) :
    candidateAt buffer candidates pos = candidateAt buffer [last] pos := by
  unfold candidateAt
  rw [h]
  rfl

lemma candidateAt_some {buffer : List UInt8} {last packet : TSPacket} {pos : Nat}
    (h : candidateAt buffer [last] pos = some packet) :
    TSPacket.accept (packetAt buffer pos) = some packet ∧
      belongsToSameIteration last packet = true := by
  have hbyte := syncByte_of_candidateAt h
  cases haccept : TSPacket.accept (packetAt buffer pos) with
  | none =>
    unfold candidateAt at h
    rw [if_pos hbyte, haccept] at h
    cases h
  | some found =>
    rw [candidateAt_next haccept rfl] at h
    split at h
    · rename_i hbelongs
      obtain rfl := Option.some.inj h
      exact ⟨rfl, hbelongs⟩
    · cases h

lemma candidateAt_append {buffer : List UInt8} {pos : Nat}
    (h : pos + mpegtsPacketSize ≤ buffer.length) (candidates : List TSPacket) (more : List UInt8) :
    candidateAt (buffer ++ more) candidates pos = candidateAt buffer candidates pos := by
  have hpos := packetSize_pos
  unfold candidateAt
  rw [packetAt_append more h, List.getElem?_append_left (by omega)]

/-! ### Searching for further candidates -/

section Search

variable {buffer : List UInt8} {maxSearch : Nat} {candidates : List TSPacket} {pos : Nat}

lemma searchCandidates_full (h : syncValidationDepth ≤ candidates.length) (fuel : Nat) :
    searchCandidates buffer maxSearch fuel candidates pos = candidates := by
  cases fuel with
  | zero => rfl
  | succ fuel =>
    rw [searchCandidates, if_neg]
    omega

lemma searchCandidates_found {packet : TSPacket} (hlen : candidates.length < syncValidationDepth)
    (hpos : pos + mpegtsPacketSize ≤ maxSearch)
    (h : candidateAt buffer candidates pos = some packet) (fuel : Nat) :
    searchCandidates buffer maxSearch (fuel + 1) candidates pos =
      searchCandidates buffer maxSearch fuel (candidates ++ [packet]) (pos + mpegtsPacketSize) := by
  rw [searchCandidates, if_pos ⟨hlen, hpos⟩, h]

lemma searchCandidates_skip (hlen : candidates.length < syncValidationDepth)
    (hpos : pos + mpegtsPacketSize ≤ maxSearch) (h : candidateAt buffer candidates pos = none)
    (fuel : Nat) : searchCandidates buffer maxSearch (fuel + 1) candidates pos =
      searchCandidates buffer maxSearch fuel candidates (pos + 1) := by
  rw [searchCandidates, if_pos ⟨hlen, hpos⟩, h]

lemma searchCandidates_skips (hlen : candidates.length < syncValidationDepth) {n : Nat}
    (hpos : pos + n + mpegtsPacketSize ≤ maxSearch + 1)
    (h : ∀ j < n, candidateAt buffer candidates (pos + j) = none) (fuel : Nat) :
    searchCandidates buffer maxSearch (fuel + n) candidates pos =
      searchCandidates buffer maxSearch fuel candidates (pos + n) := by
  induction n generalizing pos with
  | zero => rfl
  | succ n ih =>
    have hfirst : candidateAt buffer candidates pos = none := h 0 (Nat.succ_pos n)
    rw [← Nat.add_assoc, searchCandidates_skip hlen (by omega) hfirst, ih (by omega)]
    · rw [Nat.add_assoc, Nat.add_comm 1]
    · intro j hj
      have hnext := h (j + 1) (by omega)
      rwa [Nat.add_comm j, ← Nat.add_assoc] at hnext

end Search

/-- The first candidate from a position on that goes on from the last one. -/
structure FirstCandidate (buffer : List UInt8) (maxSearch : Nat) (last : TSPacket) (pos found : Nat)
    (packet : TSPacket) : Prop where
  le : pos ≤ found
  fits : found + mpegtsPacketSize ≤ maxSearch
  candidate : candidateAt buffer [last] found = some packet
  first : ∀ j, pos ≤ j → j < found → candidateAt buffer [last] j = none

section First

variable {buffer : List UInt8} {maxSearch : Nat} {candidates : List TSPacket} {last : TSPacket}
  {pos found : Nat} {packet : TSPacket}

lemma searchCandidates_first (h : FirstCandidate buffer maxSearch last pos found packet)
    (hlast : candidates.getLast? = some last) (hlen : candidates.length < syncValidationDepth)
    (fuel : Nat) : searchCandidates buffer maxSearch (fuel + 1 + (found - pos)) candidates pos =
      searchCandidates buffer maxSearch fuel (candidates ++ [packet]) (found + mpegtsPacketSize) := by
  have hle := h.le
  have hfits := h.fits
  have hfound : pos + (found - pos) = found := Nat.add_sub_of_le hle
  rw [searchCandidates_skips hlen (by omega), hfound,
    searchCandidates_found hlen hfits ((candidateAt_last hlast found).trans h.candidate)]
  intro j hj
  rw [candidateAt_last hlast]
  exact h.first (pos + j) (Nat.le_add_right _ _) (by omega)

lemma searchCandidates_more {fuel : Nat} (hlast : candidates.getLast? = some last)
    (h : candidates.length < (searchCandidates buffer maxSearch fuel candidates pos).length) :
    ∃ found packet fuel', FirstCandidate buffer maxSearch last pos found packet ∧
      searchCandidates buffer maxSearch fuel candidates pos =
        searchCandidates buffer maxSearch fuel' (candidates ++ [packet])
          (found + mpegtsPacketSize) := by
  induction fuel generalizing pos with
  | zero => exact absurd h (lt_irrefl _)
  | succ fuel ih =>
    by_cases hround : candidates.length < syncValidationDepth ∧ pos + mpegtsPacketSize ≤ maxSearch
    · cases hcand : candidateAt buffer candidates pos with
      | some packet =>
        refine ⟨pos, packet, fuel, ⟨le_rfl, hround.2, ?_, ?_⟩,
          searchCandidates_found hround.1 hround.2 hcand fuel⟩
        · rw [← candidateAt_last hlast, hcand]
        · intro j hle hlt
          omega
      | none =>
        have hskip := searchCandidates_skip hround.1 hround.2 hcand fuel
        rw [hskip] at h ⊢
        obtain ⟨found, packet, fuel', hfirst, hrest⟩ := ih h
        refine ⟨found, packet, fuel', ⟨?_, hfirst.fits, hfirst.candidate, ?_⟩, hrest⟩
        · have hle := hfirst.le
          omega
        · intro j hle hlt
          obtain rfl | hlt' := Nat.eq_or_lt_of_le hle
          · rw [← candidateAt_last hlast, hcand]
          · exact hfirst.first j hlt' hlt
    · rw [searchCandidates, if_neg hround] at h
      exact absurd h (lt_irrefl _)

lemma exists_firstCandidate (hle : pos ≤ found) (hfits : found + mpegtsPacketSize ≤ maxSearch)
    (h : candidateAt buffer [last] found = some packet) :
    ∃ found' packet', FirstCandidate buffer maxSearch last pos found' packet' ∧ found' ≤ found := by
  have hex : ∃ q, pos ≤ q ∧ (candidateAt buffer [last] q).isSome :=
    ⟨found, hle, by rw [h]; rfl⟩
  classical
  obtain ⟨hpos, hsome⟩ := Nat.find_spec hex
  have hmin : Nat.find hex ≤ found := Nat.find_min' hex ⟨hle, by rw [h]; rfl⟩
  obtain ⟨packet', hpacket⟩ := Option.isSome_iff_exists.mp hsome
  refine ⟨Nat.find hex, packet', ⟨hpos, by omega, hpacket, ?_⟩, hmin⟩
  intro j hj hlt
  have hnot := Nat.find_min hex hlt
  by_contra hne
  exact hnot ⟨hj, Option.isSome_iff_ne_none.mpr hne⟩

end First

/-! ### Sync positions -/

/-- The limit of the search for further candidates. -/
def searchLimit (buffer : List UInt8) (startPos : Nat) : Nat :=
  min (startPos + mpegtsPacketSize * 10) buffer.length

/-- A position is accepted exactly if it has a candidate and the search finds two more. -/
theorem isSyncPosition_iff {buffer : List UInt8} {pos : Nat} :
    isSyncPosition buffer pos = true ↔ ∃ p1 pos2 p2 pos3 p3,
      candidateAt buffer [] pos = some p1 ∧
        FirstCandidate buffer (searchLimit buffer pos) p1 (pos + 1) pos2 p2 ∧
        FirstCandidate buffer (searchLimit buffer pos) p2 (pos2 + mpegtsPacketSize) pos3 p3 := by
  have hdepth1 : ∀ p : TSPacket, [p].length < syncValidationDepth := fun _ => Nat.lt_of_sub_eq_succ rfl
  have hdepth2 : ∀ p q : TSPacket, [p, q].length < syncValidationDepth :=
    fun _ _ => Nat.lt_of_sub_eq_succ rfl
  constructor
  · intro h
    unfold isSyncPosition at h
    cases h1 : candidateAt buffer [] pos with
    | none =>
      rw [h1] at h
      cases h
    | some p1 =>
      rw [h1] at h
      simp only [Bool.and_eq_true, decide_eq_true_eq] at h
      have hlast1 : [p1].getLast? = some p1 := rfl
      obtain ⟨pos2, p2, fuel2, hfirst2, hsearch2⟩ :=
        searchCandidates_more hlast1 ((hdepth1 p1).trans_le h.1)
      have hlast2 : ([p1] ++ [p2]).getLast? = some p2 := rfl
      have hlen := h.1
      rw [hsearch2] at hlen
      obtain ⟨pos3, p3, _, hfirst3, _⟩ :=
        searchCandidates_more hlast2 ((hdepth2 p1 p2).trans_le hlen)
      exact ⟨p1, pos2, p2, pos3, p3, rfl, hfirst2, hfirst3⟩
  · rintro ⟨p1, pos2, p2, pos3, p3, h1, h2, h3⟩
    have hle2 := h2.le
    have hle3 := h3.le
    have hfits := h3.fits
    have hpos := packetSize_pos
    obtain ⟨fuel, hfuel⟩ : ∃ fuel, searchLimit buffer pos =
        fuel + 1 + (pos3 - (pos2 + mpegtsPacketSize)) + 1 + (pos2 - (pos + 1)) :=
      ⟨searchLimit buffer pos - (pos3 - (pos2 + mpegtsPacketSize)) - (pos2 - (pos + 1)) - 2, by
        have h188 : mpegtsPacketSize = 188 := rfl
        omega⟩
    have hsearch : searchCandidates buffer (searchLimit buffer pos) (searchLimit buffer pos) [p1]
        (pos + 1) = [p1, p2, p3] := by
      conv_lhs => arg 3; rw [hfuel]
      rw [searchCandidates_first h2 rfl (hdepth1 p1), List.singleton_append,
        searchCandidates_first h3 rfl (hdepth2 p1 p2)]
      exact searchCandidates_full le_rfl fuel
    have hvalid : validSequence [p1, p2, p3] = true := by
      unfold validSequence validSequence validSequence
      rw [(candidateAt_some h2.candidate).2, (candidateAt_some h3.candidate).2]
      rfl
    unfold isSyncPosition
    rw [h1]
    dsimp only
    unfold searchLimit at hsearch
    rw [hsearch, hvalid]
    rfl

lemma syncByte_of_isSyncPosition {buffer : List UInt8} {startPos : Nat}
    (h : isSyncPosition buffer startPos = true) : buffer[startPos]? = some mpegtsSyncByte := by
  obtain ⟨p1, _, _, _, _, h1, _⟩ := isSyncPosition_iff.mp h
  exact syncByte_of_candidateAt h1

/-- An accepted position stays accepted when the buffer grows. -/
theorem isSyncPosition_append {buffer : List UInt8} {pos : Nat}
    (h : isSyncPosition buffer pos = true) (more : List UInt8) :
    isSyncPosition (buffer ++ more) pos = true := by
  have hlimit : searchLimit buffer pos ≤ searchLimit (buffer ++ more) pos := by
    unfold searchLimit
    rw [List.length_append]
    omega
  have hbuffer : searchLimit buffer pos ≤ buffer.length := min_le_right _ _
  have hgrow : ∀ {last start found packet},
      FirstCandidate buffer (searchLimit buffer pos) last start found packet →
        FirstCandidate (buffer ++ more) (searchLimit (buffer ++ more) pos) last start found packet := by
    intro last start found packet hfirst
    have hfits := hfirst.fits
    refine ⟨hfirst.le, by omega, ?_, ?_⟩
    · rw [candidateAt_append (by omega)]
      exact hfirst.candidate
    · intro j hle hlt
      rw [candidateAt_append (by omega)]
      exact hfirst.first j hle hlt
  obtain ⟨p1, pos2, p2, pos3, p3, h1, h2, h3⟩ := isSyncPosition_iff.mp h
  have hle2 := h2.le
  have hfits := h2.fits
  rw [isSyncPosition_iff]
  refine ⟨p1, pos2, p2, pos3, p3, ?_, hgrow h2, hgrow h3⟩
  rw [candidateAt_append (by omega)]
  exact h1

/-- No sync byte lies inside the packet at a position of the buffer. -/
def NoInnerSync (buffer : List UInt8) (pos : Nat) : Prop :=
  ∀ j, 0 < j → j < mpegtsPacketSize → buffer[pos + j]? ≠ some mpegtsSyncByte

lemma firstCandidate_next {buffer : List UInt8} {maxSearch pos : Nat} {p1 p2 : TSPacket}
    (h2 : TSPacket.accept (packetAt buffer (pos + mpegtsPacketSize)) = some p2)
    (hfits : pos + mpegtsPacketSize + mpegtsPacketSize ≤ maxSearch) (hinner : NoInnerSync buffer pos)
    (h12 : belongsToSameIteration p1 p2 = true) :
    FirstCandidate buffer maxSearch p1 (pos + 1) (pos + mpegtsPacketSize) p2 := by
  have hpos := packetSize_pos
  refine ⟨by omega, hfits, (candidateAt_next h2 rfl).trans (if_pos h12), ?_⟩
  intro j hle hlt
  apply candidateAt_of_byte
  have hbyte := hinner (j - pos) (by omega) (by omega)
  rwa [Nat.add_sub_of_le (by omega)] at hbyte

/-- Three packets in a row, each continuing the one before, are a sync position. -/
theorem isSyncPosition_chain {buffer : List UInt8} {pos : Nat} {p1 p2 p3 : TSPacket}
    (h1 : TSPacket.accept (packetAt buffer pos) = some p1)
    (h2 : TSPacket.accept (packetAt buffer (pos + mpegtsPacketSize)) = some p2)
    (h3 : TSPacket.accept (packetAt buffer (pos + mpegtsPacketSize + mpegtsPacketSize)) = some p3)
    (hlen : pos + mpegtsPacketSize * 3 ≤ buffer.length) (hinner : NoInnerSync buffer pos)
    (h12 : belongsToSameIteration p1 p2 = true) (h23 : belongsToSameIteration p2 p3 = true) :
    isSyncPosition buffer pos = true := by
  have hlimit : pos + mpegtsPacketSize * 3 ≤ searchLimit buffer pos := by
    unfold searchLimit
    rw [le_min_iff]
    exact ⟨by omega, hlen⟩
  rw [isSyncPosition_iff]
  refine ⟨p1, _, p2, _, p3, candidateAt_first h1, firstCandidate_next h2 (by omega) hinner h12,
    le_rfl, by omega, (candidateAt_next h3 rfl).trans (if_pos h23), ?_⟩
  intro j hle hlt
  omega

lemma findSyncPosition_short {buffer : List UInt8} (h : buffer.length < mpegtsPacketSize * 3) :
    findSyncPosition buffer = none := by
  unfold findSyncPosition
  exact if_pos h

lemma findSyncPosition_eq_some {buffer : List UInt8} {start : Nat} :
    findSyncPosition buffer = some start ↔ isSyncPosition buffer start = true ∧
      start + mpegtsPacketSize * 3 ≤ buffer.length ∧
      ∀ pos < start, isSyncPosition buffer pos = false := by
  have hpos := packetSize_pos
  by_cases hlen : buffer.length < mpegtsPacketSize * 3
  · rw [findSyncPosition_short hlen]
    constructor
    · intro h
      cases h
    · rintro ⟨_, hle, _⟩
      omega
  · have hfind : findSyncPosition buffer =
        (List.range (buffer.length - mpegtsPacketSize * 3 + 1)).find? (isSyncPosition buffer) := by
      unfold findSyncPosition
      exact if_neg hlen
    rw [hfind, List.find?_range_eq_some]
    simp only [List.mem_range, Bool.not_eq_true']
    constructor
    · rintro ⟨hsync, hmem, hbefore⟩
      exact ⟨hsync, by omega, hbefore⟩
    · rintro ⟨hsync, hle, hbefore⟩
      exact ⟨hsync, by omega, hbefore⟩

lemma findSyncPosition_le {buffer : List UInt8} {start : Nat}
    (h : findSyncPosition buffer = some start) : start + mpegtsPacketSize * 3 ≤ buffer.length :=
  (findSyncPosition_eq_some.mp h).2.1

lemma findSyncPosition_append_le {buffer more : List UInt8} {start found : Nat}
    (h : findSyncPosition buffer = some start) (hmore : findSyncPosition (buffer ++ more) = some found) :
    found ≤ start := by
  by_contra hlt
  have hsync := isSyncPosition_append (findSyncPosition_eq_some.mp h).1 more
  rw [(findSyncPosition_eq_some.mp hmore).2.2 start (by omega)] at hsync
  cases hsync

end MinimalMpegTS
