import MinimalMpegTS.Proofs.Reading

/-!
# The sync search in a damaged stream

A damaged stream is a run of packets, bytes without a sync byte, and a second run of packets. The
only sync bytes are at the starts of the packets, so the search can accept the start of the second
run, or take packets of both runs for one iteration. `find_damaged_iff` says when it does which.
Positions are written with 188 for the packet size.
-/

namespace MinimalMpegTS

open MPEGTSDemuxer InputState

/-- Packets of one PID with consecutive continuity counters. -/
def Consecutive (xs : List TSPacket) : Prop :=
  xs.IsChain (fun x y => y.header.pid = x.header.pid ∧
    y.header.continuityCounter = (x.header.continuityCounter + 1) % 16)

/-- The packets have no sync byte but their first byte. -/
def OnlySyncAtStart (ps : List (List UInt8)) : Prop := ∀ p ∈ ps, ∀ byte ∈ p.tail, byte ≠ mpegtsSyncByte

/-- Two runs of packets around bytes without a sync byte. -/
structure Damaged (ps : List (List UInt8)) (xs : List TSPacket) (garbage : List UInt8)
    (qs : List (List UInt8)) (ys : List TSPacket) : Prop where
  front : AcceptedPackets ps xs
  back : AcceptedPackets qs ys
  front_clean : OnlySyncAtStart ps
  back_clean : OnlySyncAtStart qs
  front_chain : Consecutive xs
  back_chain : Consecutive ys
  garbage_ne : garbage ≠ []
  garbage_clean : ∀ byte ∈ garbage, byte ≠ mpegtsSyncByte

def damagedStream (ps : List (List UInt8)) (garbage : List UInt8) (qs : List (List UInt8)) :
    List UInt8 := ps.flatten ++ (garbage ++ qs.flatten)

/-- The search takes packets of both runs for one iteration: three packets of the first run, or its
last packet and packets of the second run from one on that continues it, within the limit. -/
def Bridges (xs ys : List TSPacket) (garbage limit : Nat) : Prop :=
  2 < xs.length ∨ ∃ x ∈ xs.getLast?, ∃ i y, ys[i]? = some y ∧ belongsToSameIteration x y = true ∧
    i + 3 ≤ xs.length + ys.length ∧ garbage + 188 * (i + 3) ≤ limit

lemma Bridges.mono {xs ys : List TSPacket} {garbage limit limit' : Nat}
    (h : Bridges xs ys garbage limit) (hle : limit ≤ limit') : Bridges xs ys garbage limit' := by
  obtain hlong | ⟨x, hlast, i, y, hy, hbelongs, hroom, hfits⟩ := h
  · exact .inl hlong
  · exact .inr ⟨x, hlast, i, y, hy, hbelongs, hroom, hfits.trans hle⟩

/-! ### Runs of packets -/

lemma belongs_of_consecutive {x y : TSPacket} (h : y.header.pid = x.header.pid ∧
    y.header.continuityCounter = (x.header.continuityCounter + 1) % 16) :
    belongsToSameIteration x y = true := by
  unfold belongsToSameIteration
  simp [h.1, h.2]

lemma Consecutive.belongs {xs : List TSPacket} (h : Consecutive xs) {i : Nat} {x y : TSPacket}
    (hx : xs[i]? = some x) (hy : xs[i + 1]? = some y) : belongsToSameIteration x y = true := by
  unfold Consecutive at h
  rw [List.isChain_iff_getElem] at h
  obtain ⟨hlt, rfl⟩ := List.getElem?_eq_some_iff.mp hy
  obtain ⟨hlt', rfl⟩ := List.getElem?_eq_some_iff.mp hx
  exact belongs_of_consecutive (h i hlt)

lemma length_flatten_accepted {ps : List (List UInt8)} {xs : List TSPacket}
    (h : AcceptedPackets ps xs) : ps.flatten.length = 188 * xs.length := by
  induction h with
  | nil => rfl
  | cons hp _ ih =>
    have hlen := hp.1
    simp only [mpegtsPacketSize] at hlen
    rw [List.flatten_cons, List.length_append, ih, List.length_cons]
    omega

lemma accept_flatten {ps : List (List UInt8)} {xs : List TSPacket} (h : AcceptedPackets ps xs)
    (rest : List UInt8) {i : Nat} {x : TSPacket} (hx : xs[i]? = some x) :
    TSPacket.accept (packetAt (ps.flatten ++ rest) (188 * i)) = some x := by
  induction h generalizing i with
  | nil => cases hx
  | @cons p y ps ys hp _ ih =>
    rw [List.flatten_cons, List.append_assoc]
    cases i with
    | zero =>
      have hfirst : packetAt ([] ++ (p ++ (ps.flatten ++ rest))) 0 = p := packetAt_packet rfl hp.1
      rw [List.getElem?_cons_zero] at hx
      rw [Nat.mul_zero, ← List.nil_append (p ++ _), hfirst, hp.2, hx]
    | succ i =>
      have hdrop : packetAt (p ++ (ps.flatten ++ rest)) (188 * (i + 1)) =
          packetAt (ps.flatten ++ rest) (188 * i) := by
        have hlen : p.length = 188 := hp.1
        unfold packetAt
        rw [Nat.mul_succ, Nat.add_comm, ← List.drop_drop, ← hlen, List.drop_left]
      rw [List.getElem?_cons_succ] at hx
      rw [hdrop]
      exact ih hx

lemma syncByte_flatten {ps : List (List UInt8)} {xs : List TSPacket} (h : AcceptedPackets ps xs)
    (hclean : OnlySyncAtStart ps) {pos : Nat} (hbyte : ps.flatten[pos]? = some mpegtsSyncByte) :
    ∃ i < xs.length, pos = 188 * i := by
  induction h generalizing pos with
  | nil => cases hbyte
  | @cons p y ps ys hp _ ih =>
    have hlen : p.length = 188 := hp.1
    rw [List.flatten_cons] at hbyte
    rw [List.length_cons]
    by_cases hlt : pos < p.length
    · rw [List.getElem?_append_left hlt] at hbyte
      cases pos with
      | zero => exact ⟨0, by omega, by omega⟩
      | succ pos =>
        have hmem : mpegtsSyncByte ∈ p.tail := by
          rw [← List.getElem?_tail] at hbyte
          exact List.mem_of_getElem? hbyte
        exact absurd rfl (hclean p List.mem_cons_self _ hmem)
    · rw [List.getElem?_append_right (by omega)] at hbyte
      obtain ⟨i, hi, hpos⟩ := ih (fun q hq => hclean q (List.mem_cons_of_mem p hq)) hbyte
      exact ⟨i + 1, by omega, by omega⟩

/-! ### Sync bytes and candidates -/

section Buffer

variable {ps qs : List (List UInt8)} {xs ys : List TSPacket} {garbage buffer more : List UInt8}
  (h : Damaged ps xs garbage qs ys) (hbuffer : buffer ++ more = damagedStream ps garbage qs)
include h hbuffer

lemma syncByte_damaged {pos : Nat} (hbyte : buffer[pos]? = some mpegtsSyncByte) :
    (∃ i < xs.length, pos = 188 * i) ∨
      ∃ j < ys.length, pos = 188 * xs.length + garbage.length + 188 * j := by
  have hlt : pos < buffer.length := (List.getElem?_eq_some_iff.mp hbyte).1
  have hlen := length_flatten_accepted h.front
  have hstream : (damagedStream ps garbage qs)[pos]? = some mpegtsSyncByte := by
    rw [← hbuffer, List.getElem?_append_left hlt, hbyte]
  unfold damagedStream at hstream
  by_cases hfront : pos < ps.flatten.length
  · rw [List.getElem?_append_left hfront] at hstream
    exact .inl (syncByte_flatten h.front h.front_clean hstream)
  · rw [List.getElem?_append_right (by omega)] at hstream
    by_cases hgarbage : pos - ps.flatten.length < garbage.length
    · rw [List.getElem?_append_left hgarbage] at hstream
      exact absurd rfl (h.garbage_clean _ (List.mem_of_getElem? hstream))
    · rw [List.getElem?_append_right (by omega)] at hstream
      obtain ⟨j, hj, hpos⟩ := syncByte_flatten h.back h.back_clean hstream
      exact .inr ⟨j, hj, by omega⟩

lemma accept_front {i : Nat} {x : TSPacket} (hx : xs[i]? = some x)
    (hi : 188 * i + 188 ≤ buffer.length) :
    TSPacket.accept (packetAt buffer (188 * i)) = some x := by
  rw [← packetAt_append more hi, hbuffer]
  exact accept_flatten h.front _ hx

lemma accept_back {j : Nat} {y : TSPacket} (hy : ys[j]? = some y)
    (hj : 188 * xs.length + garbage.length + 188 * j + 188 ≤ buffer.length) :
    TSPacket.accept (packetAt buffer (188 * xs.length + garbage.length + 188 * j)) = some y := by
  have hdrop : packetAt (ps.flatten ++ (garbage ++ qs.flatten))
      (188 * xs.length + garbage.length + 188 * j) = packetAt (qs.flatten ++ []) (188 * j) := by
    unfold packetAt
    rw [← length_flatten_accepted h.front, Nat.add_assoc, ← List.drop_drop, List.drop_left,
      ← List.drop_drop, List.drop_left, List.append_nil]
  rw [← packetAt_append more hj, hbuffer]
  unfold damagedStream
  rw [hdrop]
  exact accept_flatten h.back [] hy

lemma candidate_behind {x y : TSPacket} {pos : Nat} (hpos : 188 * xs.length < pos + 188)
    (hfits : pos + 188 ≤ buffer.length) (hcandidate : candidateAt buffer [x] pos = some y) :
    ∃ j, pos = 188 * xs.length + garbage.length + 188 * j ∧ ys[j]? = some y ∧
      belongsToSameIteration x y = true := by
  obtain ⟨haccept, hbelongs⟩ := candidateAt_some hcandidate
  obtain ⟨i, hi, heq⟩ | ⟨j, hj, heq⟩ := syncByte_damaged h hbuffer (syncByte_of_candidateAt hcandidate)
  · omega
  · have hy : ys[j]? = some ys[j] := List.getElem?_eq_getElem hj
    have hback := accept_back h hbuffer hy (by omega)
    rw [← heq, haccept] at hback
    exact ⟨j, heq, by rw [hy, ← hback], hbelongs⟩

lemma firstCandidate_back {limit j : Nat} {y z : TSPacket} (hlimit : limit ≤ buffer.length)
    (hy : ys[j]? = some y) (hz : ys[j + 1]? = some z)
    (hj : 188 * xs.length + garbage.length + 188 * (j + 2) ≤ limit) :
    FirstCandidate buffer limit y (188 * xs.length + garbage.length + 188 * j + 188)
      (188 * xs.length + garbage.length + 188 * (j + 1)) z := by
  have haccept := accept_back h hbuffer hz (by omega)
  have hcandidate : candidateAt buffer [y] (188 * xs.length + garbage.length + 188 * (j + 1)) =
      some z := (candidateAt_next haccept rfl).trans (if_pos (h.back_chain.belongs hy hz))
  refine ⟨by omega, ?_, hcandidate, ?_⟩
  · show _ + 188 ≤ limit
    omega
  · intro i hle hlt
    omega

lemma noInnerSync_front {i : Nat} (hi : i < xs.length) : NoInnerSync buffer (188 * i) := by
  intro j hpos hlt hbyte
  simp only [mpegtsPacketSize] at hlt
  obtain ⟨k, _, heq⟩ | ⟨k, _, heq⟩ := syncByte_damaged h hbuffer hbyte
  · omega
  · omega

lemma noInnerSync_back (j : Nat) :
    NoInnerSync buffer (188 * xs.length + garbage.length + 188 * j) := by
  intro i hpos hlt hbyte
  simp only [mpegtsPacketSize] at hlt
  obtain ⟨k, _, heq⟩ | ⟨k, _, heq⟩ := syncByte_damaged h hbuffer hbyte
  · omega
  · omega

lemma isSyncPosition_base (hys : 3 ≤ ys.length)
    (hlen : 188 * xs.length + garbage.length + 564 ≤ buffer.length) :
    isSyncPosition buffer (188 * xs.length + garbage.length) = true := by
  have hy : ∀ j < 3, ∃ y, ys[j]? = some y :=
    fun j hj => ⟨ys.get ⟨j, by omega⟩, List.getElem?_eq_getElem (by omega)⟩
  obtain ⟨y0, hy0⟩ := hy 0 (by omega)
  obtain ⟨y1, hy1⟩ := hy 1 (by omega)
  obtain ⟨y2, hy2⟩ := hy 2 (by omega)
  exact isSyncPosition_chain (accept_back h hbuffer hy0 (by omega))
    (accept_back h hbuffer hy1 (by omega)) (accept_back h hbuffer hy2 (by omega)) hlen
    (noInnerSync_back h hbuffer 0) (h.back_chain.belongs hy0 hy1) (h.back_chain.belongs hy1 hy2)

lemma isSyncPosition_front (hxs : 3 ≤ xs.length) (hlen : 564 ≤ buffer.length) :
    isSyncPosition buffer 0 = true := by
  have hx : ∀ i < 3, ∃ x, xs[i]? = some x :=
    fun i hi => ⟨xs.get ⟨i, by omega⟩, List.getElem?_eq_getElem (by omega)⟩
  obtain ⟨x0, hx0⟩ := hx 0 (by omega)
  obtain ⟨x1, hx1⟩ := hx 1 (by omega)
  obtain ⟨x2, hx2⟩ := hx 2 (by omega)
  have hinner : NoInnerSync buffer (188 * 0) := noInnerSync_front h hbuffer (by omega)
  exact isSyncPosition_chain (accept_front h hbuffer hx0 (by omega))
    (accept_front h hbuffer hx1 (by omega)) (accept_front h hbuffer hx2 (by omega))
    (by simp only [mpegtsPacketSize]; omega) hinner (h.front_chain.belongs hx0 hx1)
    (h.front_chain.belongs hx1 hx2)

lemma firstCandidate_bridge {x y : TSPacket} {pos limit i : Nat}
    (hpos : 188 * xs.length < pos + 188) (hbase : pos ≤ 188 * xs.length + garbage.length)
    (hlimit : limit ≤ buffer.length) (hy : ys[i]? = some y)
    (hbelongs : belongsToSameIteration x y = true)
    (hi : 188 * xs.length + garbage.length + 188 * i + 188 ≤ limit) :
    ∃ j z, FirstCandidate buffer limit x pos (188 * xs.length + garbage.length + 188 * j) z ∧
      ys[j]? = some z ∧ j ≤ i := by
  have haccept := accept_back h hbuffer hy (by omega)
  have hcandidate : candidateAt buffer [x] (188 * xs.length + garbage.length + 188 * i) = some y :=
    (candidateAt_next haccept rfl).trans (if_pos hbelongs)
  obtain ⟨found, z, hfirst, hle⟩ := exists_firstCandidate (by omega : pos ≤ _) hi hcandidate
  have hfits : found + 188 ≤ limit := hfirst.fits
  have hfrom := hfirst.le
  obtain ⟨j, rfl, hz, _⟩ := candidate_behind h hbuffer (by omega) (by omega) hfirst.candidate
  exact ⟨j, z, hfirst, hz, by omega⟩

lemma isSyncPosition_of_bridges
    (hbridge : Bridges xs ys garbage.length (min 1880 buffer.length))
    (hlen : 188 * xs.length + garbage.length + 564 ≤ buffer.length) :
    isSyncPosition buffer 0 = true := by
  have hlimit : searchLimit buffer 0 = min 1880 buffer.length := rfl
  by_cases hlong : 2 < xs.length
  · exact isSyncPosition_front h hbuffer hlong (by omega)
  obtain habsurd | ⟨x, hlast, i, y, hy, hbelongs, hroom, hfits⟩ := hbridge
  · exact absurd habsurd hlong
  rw [Option.mem_def, List.getLast?_eq_getElem?] at hlast
  have hxs : 0 < xs.length := by
    by_contra hzero
    rw [List.getElem?_eq_none (by omega)] at hlast
    cases hlast
  rw [isSyncPosition_iff, hlimit]
  by_cases htwo : xs.length = 2
  · have h0 : ∃ x0, xs[0]? = some x0 := ⟨xs.get ⟨0, hxs⟩, List.getElem?_eq_getElem hxs⟩
    obtain ⟨x0, hx0⟩ := h0
    have hx1 : xs[0 + 1]? = some x := by rwa [htwo] at hlast
    have haccept0 := accept_front h hbuffer hx0 (by omega)
    have hinner : NoInnerSync buffer (188 * 0) := noInnerSync_front h hbuffer hxs
    have hend : 188 * xs.length + garbage.length + 188 * i + 188 ≤ min 1880 buffer.length := by
      clear * - htwo hfits
      omega
    have hfrom : 188 * xs.length < 376 + 188 := by omega
    have hto : 376 ≤ 188 * xs.length + garbage.length := by
      rw [htwo]
      exact Nat.le_add_right _ _
    obtain ⟨j, z, hfirst, _, _⟩ := firstCandidate_bridge h hbuffer hfrom hto
      (min_le_right 1880 buffer.length) hy hbelongs hend
    refine ⟨x0, 188, x, _, z, candidateAt_first haccept0, ?_, hfirst⟩
    have hpackets : 0 + mpegtsPacketSize + mpegtsPacketSize ≤ min 1880 buffer.length := by
      simp only [mpegtsPacketSize]
      clear * - hlen htwo
      omega
    have haccept1 := accept_front h hbuffer hx1 (by rw [Nat.zero_add]; clear * - hlen; omega)
    exact firstCandidate_next haccept1 hpackets hinner (h.front_chain.belongs hx0 hx1)
  · have hone : xs.length = 1 := by omega
    have hend : 188 * xs.length + garbage.length + 188 * i + 188 ≤ min 1880 buffer.length := by
      clear * - hone hfits
      omega
    rw [hone] at hlast hroom
    have haccept := accept_front h hbuffer hlast (by omega)
    have hfrom : 188 * xs.length < 1 + 188 := by omega
    obtain ⟨j, z, hfirst, hz, hle⟩ := firstCandidate_bridge h hbuffer hfrom (by omega)
      (min_le_right 1880 buffer.length) hy hbelongs hend
    obtain ⟨z', hz'⟩ : ∃ z', ys[j + 1]? = some z' :=
      ⟨ys.get ⟨j + 1, by omega⟩, List.getElem?_eq_getElem (by omega)⟩
    have hroom' : 188 * xs.length + garbage.length + 188 * (j + 2) ≤ min 1880 buffer.length := by
      have hstep : 188 * xs.length + garbage.length + 188 * (j + 2) ≤
          garbage.length + 188 * (i + 3) := by
        clear * - hone hle
        omega
      exact hstep.trans hfits
    have hsecond := firstCandidate_back h hbuffer (min_le_right 1880 buffer.length) hz hz' hroom'
    exact ⟨x, _, z, _, z', candidateAt_first haccept, hfirst, hsecond⟩

lemma bridges_of_isSyncPosition {pos : Nat} (hpos : pos < 188 * xs.length + garbage.length)
    (hsync : isSyncPosition buffer pos = true) :
    Bridges xs ys garbage.length (min 1880 buffer.length) := by
  by_cases hlong : 2 < xs.length
  · exact .inl hlong
  right
  obtain ⟨k, hk, rfl⟩ | ⟨k, _, rfl⟩ :=
    syncByte_damaged h hbuffer (syncByte_of_isSyncPosition hsync)
  · obtain ⟨p1, pos2, p2, pos3, p3, h1, h2, h3⟩ := isSyncPosition_iff.mp hsync
    have hlimit : searchLimit buffer (188 * k) = min (188 * k + 1880) buffer.length := rfl
    have hfits2 : pos2 + 188 ≤ searchLimit buffer (188 * k) := h2.fits
    have hfits3 : pos3 + 188 ≤ searchLimit buffer (188 * k) := h3.fits
    have hle2 : 188 * k + 1 ≤ pos2 := h2.le
    have hle3 : pos2 + 188 ≤ pos3 := h3.le
    rw [hlimit] at hfits2 hfits3
    have hx : xs[k]? = some (xs.get ⟨k, hk⟩) := List.getElem?_eq_getElem hk
    have hp1 : p1 = xs.get ⟨k, hk⟩ := by
      have haccept := accept_front h hbuffer hx (by omega)
      rw [candidateAt_first haccept] at h1
      exact (Option.some.inj h1).symm
    by_cases hlast : k + 1 = xs.length
    · -- the last packet of the first run goes on with two packets of the second run
      obtain ⟨j, hpos2, hy, hbelongs⟩ :=
        candidate_behind h hbuffer (by omega) (by omega) h2.candidate
      obtain ⟨j', hpos3, hy', _⟩ := candidate_behind h hbuffer (by omega) (by omega) h3.candidate
      have hj' := (List.getElem?_eq_some_iff.mp hy').1
      refine ⟨p1, ?_, j, p2, hy, hbelongs, by omega, by omega⟩
      rw [Option.mem_def, List.getLast?_eq_getElem?, ← hlast, Nat.add_sub_cancel, hx, hp1]
    · -- two packets of the first run go on with one of the second run
      have hnext : xs[k + 1]? = some (xs.get ⟨k + 1, by omega⟩) :=
        List.getElem?_eq_getElem (by omega)
      have haccept := accept_front h hbuffer hnext (by omega)
      have hcandidate : candidateAt buffer [p1] (188 * (k + 1)) = some _ :=
        (candidateAt_next haccept rfl).trans (if_pos (hp1 ▸ h.front_chain.belongs hx hnext))
      have hpos2 : pos2 = 188 * (k + 1) := by
        have hle : pos2 ≤ 188 * (k + 1) := by
          by_contra hgt
          rw [h2.first _ (by omega) (by omega)] at hcandidate
          cases hcandidate
        obtain ⟨i, _, heq⟩ | ⟨i, _, heq⟩ :=
          syncByte_damaged h hbuffer (syncByte_of_candidateAt h2.candidate)
        · omega
        · omega
      obtain ⟨j, hpos3, hy, hbelongs⟩ :=
        candidate_behind h hbuffer (by omega) (by omega) h3.candidate
      have hj := (List.getElem?_eq_some_iff.mp hy).1
      have hlength : xs.length - 1 = k + 1 := by omega
      have hp2 : some p2 = xs[k + 1]? := by
        rw [← h2.candidate, hpos2, hcandidate, hnext]
      refine ⟨p2, ?_, j, p3, hy, hbelongs, by omega, by omega⟩
      rw [Option.mem_def, List.getLast?_eq_getElem?, hlength, hp2]
  · omega

/-- The search over a damaged stream finds the second run exactly if three of its packets are there
and nothing bridges the garbage. -/
theorem find_damaged_iff (hys : 3 ≤ ys.length) :
    findSyncPosition buffer = some (188 * xs.length + garbage.length) ↔
      188 * xs.length + garbage.length + 564 ≤ buffer.length ∧
        ¬Bridges xs ys garbage.length (min 1880 buffer.length) := by
  rw [findSyncPosition_eq_some]
  constructor
  · rintro ⟨_, hlen, hbefore⟩
    refine ⟨hlen, ?_⟩
    intro hbridge
    have hpos : 0 < 188 * xs.length + garbage.length := by
      have hgarbage := List.length_pos_of_ne_nil h.garbage_ne
      omega
    have hstart := hbefore 0 hpos
    rw [isSyncPosition_of_bridges h hbuffer hbridge hlen] at hstart
    cases hstart
  · rintro ⟨hlen, hnot⟩
    refine ⟨isSyncPosition_base h hbuffer hys hlen, hlen, ?_⟩
    intro pos hpos
    rw [← Bool.not_eq_true]
    exact fun hsync => hnot (bridges_of_isSyncPosition h hbuffer hpos hsync)

end Buffer

end MinimalMpegTS
