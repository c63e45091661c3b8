import MinimalMpegTS.Proofs.Damaged
import MinimalMpegTS.Proofs.Packets
import MinimalMpegTS.Proofs.Retrieval

/-!
# Recovery from damage

In a damaged stream the demultiplexer reads the first run and loses sync at the garbage. It
searches again when the next chunk comes, in a buffer that still holds the packets that were
processed in the call before. `recovery_iff` says for which chunks the search then finds the second
run.
-/

namespace MinimalMpegTS

open Framing MPEGTSDemuxer InputState

/-! ### Reading up to the garbage -/

section Buffer

variable {ps qs : List (List UInt8)} {xs ys : List TSPacket} {garbage buffer more : List UInt8}
  (h : Damaged ps xs garbage qs ys) (hbuffer : buffer ++ more = damagedStream ps garbage qs)
include h hbuffer

lemma reject_garbage : TSPacket.accept (packetAt buffer (188 * xs.length)) = none := by
  by_contra hne
  obtain ⟨x, hx⟩ := Option.ne_none_iff_exists'.mp hne
  have hgarbage := List.length_pos_of_ne_nil h.garbage_ne
  obtain ⟨i, hi, heq⟩ | ⟨j, hj, heq⟩ := syncByte_damaged h hbuffer (syncByte_of_accept hx)
  · omega
  · omega

lemma not_allAccepted_front {i : Nat} (hi : i ≤ xs.length)
    (hlen : 188 * xs.length + 188 ≤ buffer.length) : ¬AllAccepted (buffer.drop (188 * i)) := by
  intro hall
  dsimp only [AllAccepted] at hall
  rw [drained_iff packetSize_pos] at hall
  have hend : 188 * i + mpegtsPacketSize * (xs.length - i) = 188 * xs.length := by
    simp only [mpegtsPacketSize]
    omega
  apply hall (xs.length - i)
  · rw [List.length_drop]
    simp only [mpegtsPacketSize]
    omega
  · rw [List.drop_drop, hend]
    exact reject_garbage h hbuffer

lemma packetsOf_front (hlen : 188 * xs.length + 188 ≤ buffer.length) : packetsOf buffer = xs := by
  have hstuck : ¬AllAccepted (buffer.drop (188 * 0)) :=
    not_allAccepted_front h hbuffer (Nat.zero_le _) hlen
  have hsame := (frames_append_of_not_drained packetSize_pos hstuck (b := more)).1
  have hgarbage : packetsOf (garbage ++ qs.flatten) = [] := by
    have hdrop : packetAt (damagedStream ps garbage qs) (188 * xs.length) =
        (garbage ++ qs.flatten).take mpegtsPacketSize := by
      unfold packetAt damagedStream
      rw [← length_flatten_accepted h.front, List.drop_left]
    apply frames_reject
    rw [← hdrop]
    exact reject_garbage h (List.append_nil _)
  have hall := (frames_flatten packetSize_pos h.front (garbage ++ qs.flatten)).1
  rw [Nat.mul_zero, List.drop_zero, hbuffer] at hsame
  dsimp only [packetsOf] at hgarbage ⊢
  rw [← hsame]
  unfold damagedStream
  rw [hall, hgarbage, List.append_nil]

lemma found_le_base (hys : 3 ≤ ys.length) {start : Nat} (hfind : findSyncPosition buffer = some start) :
    start ≤ 188 * xs.length + garbage.length := by
  have hroom := findSyncPosition_le hfind
  simp only [mpegtsPacketSize] at hroom
  by_contra hlt
  have hbase := isSyncPosition_base h hbuffer hys (by omega)
  rw [(findSyncPosition_eq_some.mp hfind).2.2 _ (by omega)] at hbase
  cases hbase

end Buffer

/-! ### Losing sync -/

/-- The number of packets that are erased from the buffer when a chunk comes after so many bytes. -/
def erasedPackets (fed : Nat) : Nat := if fed < 564 then 0 else fed / 188

section Loss

variable {ps qs : List (List UInt8)} {xs ys : List TSPacket} {garbage more data : List UInt8}
  {before : List (List UInt8)} (h : Damaged ps xs garbage qs ys)
  (hbuffer : (before ++ [data]).flatten ++ more = damagedStream ps garbage qs)
  (hxs : 3 ≤ xs.length) (hfit : (damagedStream ps garbage qs).length ≤ maxBufferSize)
  (hne : ∀ d ∈ before ++ [data], d ≠ [])
  (hle : 188 * xs.length + 188 ≤ (before ++ [data]).flatten.length)
include h hbuffer hxs hfit hne hle

lemma final_loss_short (hshort : before.flatten.length < 564) :
    Transducer.final feed ⟨[], false, 0⟩ (before ++ [data]) =
        ⟨(before ++ [data]).flatten, false, 0⟩ ∧
      packets ⟨[], false, 0⟩ (before ++ [data]) = xs := by
  have hbefore : ∀ d ∈ before, d ≠ [] := fun d hd => hne d (List.mem_append_left _ hd)
  have hdata : data ≠ [] := hne data (List.mem_append_right _ List.mem_cons_self)
  have hfew : ([] ++ before.flatten).length < mpegtsPacketSize * 3 := hshort
  obtain ⟨hfinal, hpackets⟩ := final_short 0 hbefore hfew
  have hflat : (before ++ [data]).flatten = before.flatten ++ data := by simp
  rw [hflat] at hbuffer hle
  have hsync := isSyncPosition_front h hbuffer hxs (by omega)
  have hfind : findSyncPosition (before.flatten ++ data) = some 0 :=
    findSyncPosition_eq_some.mpr ⟨hsync, by simp only [mpegtsPacketSize]; omega, fun pos hpos => by omega⟩
  have hlen : before.flatten.length + data.length ≤ maxBufferSize := by
    rw [← hbuffer, List.length_append, List.length_append] at hfit
    omega
  have hstuck : ¬AllAccepted ((before.flatten ++ data).drop (188 * 0)) :=
    not_allAccepted_front h hbuffer (Nat.zero_le _) hle
  have hfeed := feed_searching_some 0 hdata hlen hfind
  rw [readPackets_rejected hstuck] at hfeed
  rw [List.nil_append] at hfinal
  rw [Transducer.final_append, packets_append, hfinal, hpackets, hflat]
  rw [Transducer.final_cons, packets_cons, hfeed, List.drop_zero, packetsOf_front h hbuffer hle]
  exact ⟨rfl, List.append_nil _⟩

lemma final_loss_long (hlt : before.flatten.length < 188 * xs.length + 188)
    (hlong : 564 ≤ before.flatten.length) :
    Transducer.final feed ⟨[], false, 0⟩ (before ++ [data]) =
        ⟨(before ++ [data]).flatten.drop (188 * (before.flatten.length / 188)), false, 0⟩ ∧
      packets ⟨[], false, 0⟩ (before ++ [data]) = xs := by
  have hbefore : ∀ d ∈ before, d ≠ [] := fun d hd => hne d (List.mem_append_left _ hd)
  have hdata : data ≠ [] := hne data (List.mem_append_right _ List.mem_cons_self)
  have hflat : (before ++ [data]).flatten = before.flatten ++ data := by simp
  rw [hflat] at hbuffer hle ⊢
  have hfront : before.flatten ++ (data ++ more) = damagedStream ps garbage qs := by
    rw [← List.append_assoc, hbuffer]
  have hlen : before.flatten.length + data.length ≤ maxBufferSize := by
    rw [← hbuffer, List.length_append, List.length_append] at hfit
    omega
  have hfits : Fits ⟨[], false, 0⟩ before := by
    apply fits_of_length
    rw [List.length_nil]
    omega
  have hall : AllAccepted before.flatten := by
    dsimp only [AllAccepted]
    rw [drained_iff packetSize_pos]
    intro i hi
    simp only [mpegtsPacketSize] at hi
    have hx : xs[i]? = some (xs.get ⟨i, by omega⟩) := List.getElem?_eq_getElem (by omega)
    have haccept := accept_front h hfront hx (by omega)
    intro hreject
    exact Option.some_ne_none _ (haccept.symm.trans hreject)
  have hsync : firstSync [] before = some 0 := by
    apply firstSync_start
    · exact Nat.mul_pos packetSize_pos (by decide)
    · rwa [List.nil_append]
    · intro buffer hprefix hroom
      obtain ⟨rest, hrest⟩ := hprefix
      rw [List.nil_append] at hrest
      rw [← hrest, List.append_assoc] at hfront
      exact findSyncPosition_eq_some.mpr ⟨isSyncPosition_front h hfront hxs hroom, by omega,
        fun pos hpos => by omega⟩
  have hrest : restOf before.flatten =
      before.flatten.drop (188 * (before.flatten.length / 188)) := by
    dsimp only [restOf]
    unfold leftover
    rw [frames_length_of_drained packetSize_pos hall]
  obtain ⟨hfinal, hpackets⟩ := run_of_start hbefore hfits hsync hall
  have hstuck : ¬AllAccepted ((before.flatten ++ data).drop (188 * 0)) :=
    not_allAccepted_front h hbuffer (Nat.zero_le _) hle
  have hrestLen : (restOf before.flatten).length + data.length ≤ maxBufferSize := by
    rw [hrest, List.length_drop]
    omega
  have hread : packetsOf before.flatten ++ packetsOf (restOf before.flatten ++ data) = xs := by
    rw [← packetsOf_front h hbuffer hle]
    exact (frames_append packetSize_pos hall).symm
  have hrestStuck : ¬AllAccepted ((restOf before.flatten ++ data).drop 0) := by
    intro hmore
    exact hstuck ((drained_append packetSize_pos hall).mpr hmore)
  have hfeed := feed_synchronized hdata hrestLen
  rw [readPackets_rejected hrestStuck, List.drop_zero] at hfeed
  rw [Transducer.final_append, packets_append, hfinal, hpackets, Transducer.final_cons, packets_cons,
    hfeed]
  constructor
  · rw [hrest, List.drop_append_of_le_length (Nat.mul_div_le _ _)]
    rfl
  · have hlast : packets ⟨restOf before.flatten ++ data, false, 0⟩ [] = [] := rfl
    rw [hlast, List.append_nil, hread]

/-- The chunk that reaches the garbage by a packet: the first run is read, and sync is lost. -/
theorem final_loss (hlt : before.flatten.length < 188 * xs.length + 188) :
    Transducer.final feed ⟨[], false, 0⟩ (before ++ [data]) =
        ⟨(before ++ [data]).flatten.drop (188 * erasedPackets before.flatten.length), false, 0⟩ ∧
      packets ⟨[], false, 0⟩ (before ++ [data]) = xs := by
  unfold erasedPackets
  by_cases hshort : before.flatten.length < 564
  · rw [if_pos hshort, Nat.mul_zero, List.drop_zero]
    exact final_loss_short h hbuffer hxs hfit hne hle hshort
  · rw [if_neg hshort]
    exact final_loss_long h hbuffer hxs hfit hne hle hlt (by omega)

end Loss

/-! ### Searching again -/

section Back

variable {ps qs : List (List UInt8)} {xs ys : List TSPacket} {garbage : List UInt8}
  (h : Damaged ps xs garbage qs ys)
include h

lemma drop_damagedStream :
    (damagedStream ps garbage qs).drop (188 * xs.length + garbage.length) = qs.flatten := by
  unfold damagedStream
  rw [← length_flatten_accepted h.front, ← List.drop_drop, List.drop_left, List.drop_left]

lemma accept_windows_back (i : Nat) (hi : 188 * xs.length + garbage.length +
      mpegtsPacketSize * (i + 1) ≤ (damagedStream ps garbage qs).length) :
    TSPacket.accept (packetAt (damagedStream ps garbage qs)
      (188 * xs.length + garbage.length + mpegtsPacketSize * i)) ≠ none := by
  have hall := acceptedPackets_allAccepted h.back
  dsimp only [AllAccepted] at hall
  rw [← drop_damagedStream h, drained_iff packetSize_pos] at hall
  have hwindow := hall i (by rw [List.length_drop]; omega)
  rwa [List.drop_drop] at hwindow

lemma run_found {buffer data : List UInt8} {chunks : List (List UInt8)}
    (hfit : (damagedStream ps garbage qs).length ≤ maxBufferSize) (hdata : data ≠ [])
    (hne : ∀ d ∈ chunks, d ≠ [])
    (hbuffer : buffer ++ data ++ chunks.flatten = damagedStream ps garbage qs)
    (hfind : findSyncPosition (buffer ++ data) = some (188 * xs.length + garbage.length)) :
    (Transducer.final feed ⟨buffer, false, 0⟩ (data :: chunks)).isSynchronized = true ∧
      packets ⟨buffer, false, 0⟩ (data :: chunks) = ys := by
  have hroom := findSyncPosition_le hfind
  have hwindows := accept_windows_back h
  rw [← hbuffer] at hfit hwindows
  rw [List.length_append, List.length_append] at hfit
  have hall : AllAccepted ((buffer ++ data).drop (188 * xs.length + garbage.length)) := by
    apply allAccepted_of_prefix chunks.flatten
    intro i hi
    apply hwindows i
    rw [List.length_append]
    omega
  have hfeed := feed_searching_some 0 hdata (by omega) hfind
  rw [readPackets_accepted hall] at hfeed
  have hfitsAll : Fits ⟨buffer, false, 0⟩ (data :: chunks) := by
    apply fits_of_length
    rw [List.flatten_cons, List.length_append, ← Nat.add_assoc]
    exact hfit
  have hfits := hfitsAll.2
  rw [hfeed] at hfits
  have hfinal := final_reading (by omega) hne hfits hwindows
  have hpackets := packets_reading (by omega) hall hne hfits (fun i hi => hwindows i hi.le)
  rw [Transducer.final_cons, packets_cons, hfeed, hfinal, hpackets, hbuffer, drop_damagedStream h]
  exact ⟨rfl, (acceptedPackets_frames h.back).1⟩

end Back

section Search

variable {ps qs : List (List UInt8)} {xs ys : List TSPacket} {garbage buffer : List UInt8}
  (h : Damaged ps xs garbage qs ys) (hys : 3 ≤ ys.length)
  (hfit : (damagedStream ps garbage qs).length ≤ maxBufferSize)
include h hys hfit

lemma feed_not_found {data more : List UInt8}
    (hbuffer : buffer ++ data ++ more = damagedStream ps garbage qs) (hdata : data ≠ [])
    (hlen : 188 * xs.length + 188 ≤ buffer.length)
    (hnot : findSyncPosition (buffer ++ data) ≠ some (188 * xs.length + garbage.length)) :
    (feed ⟨buffer, false, 0⟩ data).1 = ⟨buffer ++ data, false, 0⟩ := by
  have hroom : buffer.length + data.length ≤ maxBufferSize := by
    rw [← hbuffer, List.length_append, List.length_append] at hfit
    omega
  cases hfind : findSyncPosition (buffer ++ data) with
  | none => rw [feed_searching_none 0 hdata hroom hfind]
  | some start =>
    have hle := found_le_base h hbuffer hys hfind
    have hbyte := syncByte_of_isSyncPosition (findSyncPosition_eq_some.mp hfind).1
    obtain ⟨i, hi, rfl⟩ | ⟨j, hj, rfl⟩ := syncByte_damaged h hbuffer hbyte
    · have hstuck : ¬AllAccepted ((buffer ++ data).drop (188 * i)) := by
        apply not_allAccepted_front h hbuffer hi.le
        rw [List.length_append]
        omega
      rw [feed_searching_some 0 hdata hroom hfind, readPackets_rejected hstuck]
    · have hzero : j = 0 := by omega
      subst hzero
      exact absurd hfind hnot

/-- The second run is read if and only if some search finds its start. -/
theorem final_search {chunks : List (List UInt8)} (hne : ∀ d ∈ chunks, d ≠ [])
    (hlen : 188 * xs.length + 188 ≤ buffer.length)
    (hbuffer : buffer ++ chunks.flatten = damagedStream ps garbage qs) :
    ((Transducer.final feed ⟨buffer, false, 0⟩ chunks).isSynchronized = true ↔
        ∃ after rest, chunks = after ++ rest ∧ after ≠ [] ∧
          findSyncPosition (buffer ++ after.flatten) = some (188 * xs.length + garbage.length)) ∧
      ((Transducer.final feed ⟨buffer, false, 0⟩ chunks).isSynchronized = true →
        packets ⟨buffer, false, 0⟩ chunks = ys) := by
  induction chunks generalizing buffer with
  | nil =>
    constructor
    · constructor
      · intro hsync
        cases hsync
      · rintro ⟨after, rest, hnil, hafter, _⟩
        exact absurd (List.append_eq_nil_iff.mp hnil.symm).1 hafter
    · intro hsync
      cases hsync
  | cons data chunks ih =>
    have hdata := hne data List.mem_cons_self
    have hrest : ∀ d ∈ chunks, d ≠ [] := fun d hd => hne d (List.mem_cons_of_mem data hd)
    rw [List.flatten_cons, ← List.append_assoc] at hbuffer
    by_cases hfind : findSyncPosition (buffer ++ data) = some (188 * xs.length + garbage.length)
    · obtain ⟨hsync, hpackets⟩ := run_found h hfit hdata hrest hbuffer hfind
      refine ⟨⟨fun _ => ⟨[data], chunks, rfl, List.cons_ne_nil _ _, ?_⟩, fun _ => hsync⟩,
        fun _ => hpackets⟩
      rw [List.flatten_singleton, hfind]
    · have hfeed := feed_not_found h hys hfit hbuffer hdata hlen hfind
      have hlen' : 188 * xs.length + 188 ≤ (buffer ++ data).length := by
        rw [List.length_append]
        omega
      obtain ⟨hiff, hys'⟩ := ih hrest hlen' hbuffer
      rw [Transducer.final_cons, packets_cons, hfeed, hiff]
      constructor
      · constructor
        · rintro ⟨after, rest, rfl, hafter, hfound⟩
          refine ⟨data :: after, rest, rfl, List.cons_ne_nil _ _, ?_⟩
          rwa [List.flatten_cons, ← List.append_assoc]
        · rintro ⟨after, rest, hsplit, hafter, hfound⟩
          obtain ⟨first, after, rfl⟩ := List.exists_cons_of_ne_nil hafter
          rw [List.cons_append, List.cons.injEq] at hsplit
          obtain ⟨rfl, rfl⟩ := hsplit
          rw [List.flatten_cons, ← List.append_assoc] at hfound
          refine ⟨after, rest, rfl, ?_, hfound⟩
          rintro rfl
          rw [List.flatten_nil, List.append_nil] at hfound
          exact hfind hfound
      · rintro ⟨after, rest, rfl, hafter, hfound⟩
        have hnone : findSyncPosition (buffer ++ data) = none := by
          cases hcase : findSyncPosition (buffer ++ data) with
          | none => rfl
          | some start =>
            have hge := findSyncPosition_append_le hcase hfound
            have hle := found_le_base h hbuffer hys hcase
            rw [hcase, Nat.le_antisymm hle hge] at hfind
            exact absurd rfl hfind
        have hroom : buffer.length + data.length ≤ maxBufferSize := by
          rw [← hbuffer, List.length_append, List.length_append] at hfit
          omega
        rw [hys' (hiff.mpr ⟨after, rest, rfl, hafter, hfound⟩),
          feed_searching_none 0 hdata hroom hnone, List.nil_append]

end Search

/-! ### The chunks for which the demultiplexer recovers -/

lemma Damaged.drop {ps qs : List (List UInt8)} {xs ys : List TSPacket} {garbage : List UInt8}
    (h : Damaged ps xs garbage qs ys) (k : Nat) :
    Damaged (ps.drop k) (xs.drop k) garbage qs ys where
  front := List.forall₂_drop k h.front
  back := h.back
  front_clean := fun p hp => h.front_clean p (List.mem_of_mem_drop hp)
  back_clean := h.back_clean
  front_chain := List.IsChain.drop h.front_chain k
  back_chain := h.back_chain
  garbage_ne := h.garbage_ne
  garbage_clean := h.garbage_clean

lemma drop_packets {ps qs : List (List UInt8)} {xs ys : List TSPacket} {garbage : List UInt8}
    (h : Damaged ps xs garbage qs ys) {k : Nat} (hk : k ≤ xs.length) :
    (damagedStream ps garbage qs).drop (188 * k) = damagedStream (ps.drop k) garbage qs := by
  have htake : AcceptedPackets (ps.take k) (xs.take k) := List.forall₂_take k h.front
  have hlen := length_flatten_accepted htake
  rw [List.length_take, Nat.min_eq_left hk] at hlen
  have hsplit : ps.flatten = (ps.take k).flatten ++ (ps.drop k).flatten := by
    rw [← List.flatten_append, List.take_append_drop]
  unfold damagedStream
  rw [hsplit, List.append_assoc, ← hlen, List.drop_left]

/-- Sync is lost in a chunk, and at the end of a later one three packets of the second run are
buffered and nothing bridges the garbage from the packets that were not erased before. -/
def Recovers (xs : List TSPacket) (garbage : Nat) (ys : List TSPacket) (chunks : List (List UInt8)) :
    Prop :=
  ∃ before data after rest, chunks = before ++ [data] ++ (after ++ rest) ∧ after ≠ [] ∧
    before.flatten.length < 188 * xs.length + 188 ∧
    188 * xs.length + 188 ≤ (before ++ [data]).flatten.length ∧
    188 * xs.length + garbage + 564 ≤ (before ++ [data] ++ after).flatten.length ∧
    ¬Bridges (xs.drop (erasedPackets before.flatten.length)) ys garbage
      (min 1880 ((before ++ [data] ++ after).flatten.length -
        188 * erasedPackets before.flatten.length))

lemma exists_chunk_at {chunks : List (List UInt8)} {pos : Nat} (hpos : 0 < pos)
    (h : pos ≤ chunks.flatten.length) : ∃ before data rest, chunks = before ++ [data] ++ rest ∧
      before.flatten.length < pos ∧ pos ≤ (before ++ [data]).flatten.length := by
  induction chunks generalizing pos with
  | nil =>
    rw [List.flatten_nil, List.length_nil] at h
    omega
  | cons data chunks ih =>
    rw [List.flatten_cons, List.length_append] at h
    by_cases hle : pos ≤ data.length
    · exact ⟨[], data, chunks, rfl, hpos, by rwa [List.nil_append, List.flatten_singleton]⟩
    · obtain ⟨before, next, rest, rfl, hlt, hle'⟩ := ih (by omega : 0 < pos - data.length) (by omega)
      refine ⟨data :: before, next, rest, rfl, ?_, ?_⟩
      · rw [List.flatten_cons, List.length_append]
        omega
      · rw [List.cons_append, List.flatten_cons, List.length_append]
        omega

section Run

variable {ps qs : List (List UInt8)} {xs ys : List TSPacket} {garbage : List UInt8}
  (h : Damaged ps xs garbage qs ys) (hxs : 3 ≤ xs.length) (hys : 3 ≤ ys.length)
  (hfit : (damagedStream ps garbage qs).length ≤ maxBufferSize)
include h hxs hys hfit

lemma run_after_loss {before rest : List (List UInt8)} {data : List UInt8}
    (hne : ∀ d ∈ before ++ [data] ++ rest, d ≠ [])
    (hflat : (before ++ [data] ++ rest).flatten = damagedStream ps garbage qs)
    (hlt : before.flatten.length < 188 * xs.length + 188)
    (hle : 188 * xs.length + 188 ≤ (before ++ [data]).flatten.length) :
    ((Transducer.final feed ⟨[], false, 0⟩ (before ++ [data] ++ rest)).isSynchronized = true ↔
        ∃ after more, rest = after ++ more ∧ after ≠ [] ∧
          188 * xs.length + garbage.length + 564 ≤ (before ++ [data] ++ after).flatten.length ∧
          ¬Bridges (xs.drop (erasedPackets before.flatten.length)) ys garbage.length
            (min 1880 ((before ++ [data] ++ after).flatten.length -
              188 * erasedPackets before.flatten.length))) ∧
      ((Transducer.final feed ⟨[], false, 0⟩ (before ++ [data] ++ rest)).isSynchronized = true →
        packets ⟨[], false, 0⟩ (before ++ [data] ++ rest) = xs ++ ys) := by
  have hk : erasedPackets before.flatten.length ≤ xs.length := by
    unfold erasedPackets
    split
    · omega
    · omega
  rw [List.flatten_append] at hflat
  have hhead : ∀ d ∈ before ++ [data], d ≠ [] := fun d hd => hne d (List.mem_append_left _ hd)
  have hrest : ∀ d ∈ rest, d ≠ [] := fun d hd => hne d (List.mem_append_right _ hd)
  obtain ⟨hfinal, hpackets⟩ := final_loss h hflat hxs hfit hhead hle hlt
  have hflatten : ∀ after : List (List UInt8),
      (before ++ [data] ++ after).flatten = (before ++ [data]).flatten ++ after.flatten :=
    fun after => List.flatten_append
  simp only [hflatten]
  generalize erasedPackets before.flatten.length = k at *
  generalize (before ++ [data]).flatten = seen at *
  have hbuffer : seen.drop (188 * k) ++ rest.flatten = damagedStream (ps.drop k) garbage qs := by
    rw [← drop_packets h hk, ← hflat, List.drop_append_of_le_length (by omega)]
  have hfit' : (damagedStream (ps.drop k) garbage qs).length ≤ maxBufferSize := by
    rw [← drop_packets h hk, List.length_drop]
    omega
  have hcount : (xs.drop k).length = xs.length - k := List.length_drop
  have hlen : 188 * (xs.drop k).length + 188 ≤ (seen.drop (188 * k)).length := by
    rw [hcount, List.length_drop]
    omega
  have hlength : ∀ after : List (List UInt8), (seen.drop (188 * k) ++ after.flatten).length =
      (seen ++ after.flatten).length - 188 * k := by
    intro after
    rw [List.length_append, List.length_append, List.length_drop]
    omega
  obtain ⟨hiff, hread⟩ := final_search (h.drop k) hys hfit' hrest hlen hbuffer
  rw [Transducer.final_append, packets_append, hfinal, hpackets]
  refine ⟨?_, fun hsync => by rw [hread hsync]⟩
  rw [hiff]
  constructor
  · rintro ⟨after, more, rfl, hafter, hfound⟩
    rw [List.flatten_append, ← List.append_assoc] at hbuffer
    obtain ⟨hroom, hnot⟩ := (find_damaged_iff (h.drop k) hbuffer hys).mp hfound
    rw [hlength] at hroom hnot
    exact ⟨after, more, rfl, hafter, by omega, hnot⟩
  · rintro ⟨after, more, rfl, hafter, hroom, hnot⟩
    rw [List.flatten_append, ← List.append_assoc] at hbuffer
    refine ⟨after, more, rfl, hafter, (find_damaged_iff (h.drop k) hbuffer hys).mpr ⟨?_, ?_⟩⟩
    · rw [hlength]
      omega
    · rwa [hlength]

lemma run_recovers {chunks : List (List UInt8)} (hne : ∀ d ∈ chunks, d ≠ [])
    (hflat : chunks.flatten = damagedStream ps garbage qs) :
    ((Transducer.final feed ⟨[], false, 0⟩ chunks).isSynchronized = true ↔
        Recovers xs garbage.length ys chunks) ∧
      ((Transducer.final feed ⟨[], false, 0⟩ chunks).isSynchronized = true →
        packets ⟨[], false, 0⟩ chunks = xs ++ ys) := by
  have hlength : (damagedStream ps garbage qs).length =
      188 * xs.length + (garbage.length + 188 * ys.length) := by
    unfold damagedStream
    rw [List.length_append, List.length_append, length_flatten_accepted h.front,
      length_flatten_accepted h.back]
  obtain ⟨before, data, rest, rfl, hlt, hle⟩ :=
    exists_chunk_at (Nat.succ_pos _ : 0 < 188 * xs.length + 188) (by rw [hflat, hlength]; omega)
  obtain ⟨hiff, hread⟩ := run_after_loss h hxs hys hfit hne hflat hlt hle
  refine ⟨⟨?_, ?_⟩, hread⟩
  · intro hsync
    obtain ⟨after, more, rfl, hafter, hroom, hnot⟩ := hiff.mp hsync
    exact ⟨before, data, after, more, rfl, hafter, hlt, hle, hroom, hnot⟩
  · rintro ⟨before', data', after, more, hchunks, hafter, hlt', hle', hroom, hnot⟩
    rw [hchunks] at hne hflat ⊢
    exact (run_after_loss h hxs hys hfit hne hflat hlt' hle').1.mpr
      ⟨after, more, rfl, hafter, hroom, hnot⟩

end Run

/-- A damaged stream that fits the buffer leaves the demultiplexer synchronized, with every packet
processed once and its payload stored, exactly for the chunks that recover. -/
theorem recovery_iff {ps qs : List (List UInt8)} {xs ys : List TSPacket} {garbage : List UInt8}
    (h : Damaged ps xs garbage qs ys) (hxs : 3 ≤ xs.length) (hys : 3 ≤ ys.length)
    (hfit : (damagedStream ps garbage qs).length ≤ maxBufferSize) {chunks : List (List UInt8)}
    (hflat : chunks.flatten = damagedStream ps garbage qs) :
    ((run {} (chunks.map .feedData)).isSynchronized = true ∧
        processedPackets {} (chunks.map .feedData) = xs ++ ys ∧
        ∀ pid, isSystemPID pid = false → ∀ type,
          retrievedBytes (run {} (chunks.map .feedData)) pid type =
            ((xs ++ ys).filter (fun x => x.header.pid = pid)).flatMap
              (fun x => x.bytesOfType type)) ↔
      Recovers xs garbage.length ys (chunks.filter (fun data => !data.isEmpty)) := by
  obtain ⟨hinput, hprocessed⟩ := run_feeds_input chunks {}
  obtain ⟨hfinal, hpackets⟩ := run_nonempty ⟨[], false, 0⟩ chunks
  have hne : ∀ d ∈ chunks.filter (fun data => !data.isEmpty), d ≠ [] := by
    intro d hd
    simpa using (List.mem_filter.mp hd).2
  have hflat' : (chunks.filter (fun data => !data.isEmpty)).flatten = damagedStream ps garbage qs := by
    rw [List.flatten_filter_not_isEmpty, hflat]
  obtain ⟨hiff, hread⟩ := run_recovers h hxs hys hfit hne hflat'
  rw [hfinal] at hiff hread
  rw [hpackets] at hread
  have hsync : (run {} (chunks.map .feedData)).isSynchronized =
      (Transducer.final feed ⟨[], false, 0⟩ chunks).isSynchronized :=
    congrArg InputState.isSynchronized hinput
  rw [hsync, ← hiff]
  constructor
  · rintro ⟨hsynchronized, _⟩
    exact hsynchronized
  · intro hsynchronized
    have hall : processedPackets {} (chunks.map .feedData) = xs ++ ys :=
      hprocessed.trans (hread hsynchronized)
    refine ⟨hsynchronized, hall, ?_⟩
    intro pid hsys type
    have hcount : generatedIterations {} (chunks.map .feedData) ≤ 2 ^ 32 := by
      have hle := generatedIterations_le (chunks.map .feedData)
      have hmax : maxBufferSize ≤ 2 ^ 32 := by decide
      unfold damagedStream at hfit
      rw [List.length_append, List.length_append, length_flatten_accepted h.front,
        length_flatten_accepted h.back] at hfit
      rw [hall, List.length_append] at hle
      omega
    rw [retrievedBytes_run (forall_feeds chunks) hcount hsys, hall]

/-- Three packets of one PID, as bytes and as packet objects. -/
def threeFrom (cc : UInt8) : List (List UInt8) :=
  [cc, cc + 1, cc + 2].map (fun c => plainPacket 0x100 c false (List.replicate 184 0xAA))

def threePacketsFrom (cc : UInt8) : List TSPacket :=
  [cc, cc + 1, cc + 2].map (fun c => plainTSPacket 0x100 c false (List.replicate 184 0xAA))

lemma acceptedPackets_threeFrom {cc : UInt8} (h : cc < 14) :
    AcceptedPackets (threeFrom cc) (threePacketsFrom cc) := by
  have haccept : ∀ c : UInt8, c < 16 →
      (plainPacket 0x100 c false (List.replicate 184 0xAA)).length = mpegtsPacketSize ∧
        TSPacket.accept (plainPacket 0x100 c false (List.replicate 184 0xAA)) =
          some (plainTSPacket 0x100 c false (List.replicate 184 0xAA)) := by
    intro c hc
    exact ⟨by rw [length_plainPacket, List.length_replicate],
      accept_plainPacket (by decide) hc false _⟩
  have hnat : cc.toNat < 14 := h
  have hbound : ∀ n : UInt8, n.toNat < 3 → cc + n < 16 := by
    intro n hn
    show (cc + n).toNat < 16
    rw [UInt8.toNat_add, Nat.mod_eq_of_lt (by omega)]
    omega
  exact .cons (haccept cc (UInt8.lt_trans h (by decide)))
    (.cons (haccept (cc + 1) (hbound 1 (by decide)))
      (.cons (haccept (cc + 2) (hbound 2 (by decide))) .nil))

lemma damaged_threeFrom : Damaged (threeFrom 0) (threePacketsFrom 0) [0] (threeFrom 5)
    (threePacketsFrom 5) where
  front := acceptedPackets_threeFrom (by decide)
  back := acceptedPackets_threeFrom (by decide)
  front_clean := by
    unfold OnlySyncAtStart
    decide +kernel
  back_clean := by
    unfold OnlySyncAtStart
    decide +kernel
  front_chain := by
    unfold Consecutive
    decide
  back_chain := by
    unfold Consecutive
    decide
  garbage_ne := by decide
  garbage_clean := by decide +kernel

/-- The first run, then the zero byte with a part of the second run, then the rest. -/
def damagedChunks : List (List UInt8) :=
  [(threeFrom 0).flatten, [0] ++ (threeFrom 5).flatten.take 300, (threeFrom 5).flatten.drop 300]

theorem recovery_iff_threeFrom :
    (run {} (damagedChunks.map .feedData)).isSynchronized = true ∧
      retrievedBytes (run {} (damagedChunks.map .feedData)) 0x100 .payloadNormal =
        List.replicate 1104 0xAA := by
  have hrecovers : Recovers (threePacketsFrom 0) 1 (threePacketsFrom 5)
      (damagedChunks.filter (fun data => !data.isEmpty)) := by
    refine ⟨[(threeFrom 0).flatten], [0] ++ (threeFrom 5).flatten.take 300,
      [(threeFrom 5).flatten.drop 300], [], by decide +kernel, by decide, by decide +kernel,
      by decide +kernel, by decide +kernel, ?_⟩
    have hnone : (threePacketsFrom 0).drop (erasedPackets [(threeFrom 0).flatten].flatten.length) =
        [] := by decide +kernel
    rw [hnone]
    rintro (hlong | ⟨x, hx, _⟩)
    · exact absurd hlong (by decide)
    · cases hx
  obtain ⟨hsync, _, hbytes⟩ := (recovery_iff damaged_threeFrom (by decide) (by decide)
    (by decide +kernel) (by decide +kernel)).mpr hrecovers
  refine ⟨hsync, ?_⟩
  rw [hbytes 0x100 (by decide) .payloadNormal]
  decide +kernel

/-- Fed in one call, the same stream leaves the demultiplexer without sync. -/
theorem one_call_loses_sync :
    Damaged (threeFrom 0) (threePacketsFrom 0) [0] (threeFrom 5) (threePacketsFrom 5) ∧
      (damagedStream (threeFrom 0) [0] (threeFrom 5)).length ≤ maxBufferSize ∧
      (run {} [.feedData (damagedStream (threeFrom 0) [0] (threeFrom 5))]).isSynchronized = false ∧
      retrievedBytes (run {} [.feedData (damagedStream (threeFrom 0) [0] (threeFrom 5))]) 0x100
        .payloadNormal = List.replicate 552 0xAA :=
  ⟨damaged_threeFrom, by decide +kernel, by decide +kernel, by decide +kernel⟩

end MinimalMpegTS
