import MinimalMpegTS.Proofs.Sync

/-!
# Reading a stream in chunks

After the sync search has found a position, and as long as no window is rejected, the buffer
holds what is left of the stream read from that position: the packets read so far do not depend
on the chunks. `packets_of_firstSync` describes all packets of a run by the position that the
first successful search finds.
-/

namespace MinimalMpegTS

open Framing MPEGTSDemuxer

namespace InputState

/-- The packets that a list of chunks yields. -/
def packets (self : InputState) (chunks : List (List UInt8)) : List TSPacket :=
  (Transducer.answers feed self chunks).flatten

/-- No chunk makes the buffer exceed its limit. -/
def Fits (self : InputState) (chunks : List (List UInt8)) : Prop :=
  Transducer.Along feed (fun state data => state.rawBuffer.length + data.length ≤ maxBufferSize)
    self chunks

lemma packets_cons (state : InputState) (data : List UInt8) (chunks : List (List UInt8)) :
    state.packets (data :: chunks) = (state.feed data).2 ++ (state.feed data).1.packets chunks := by
  unfold packets
  rw [Transducer.answers_cons, List.flatten_cons]

lemma packets_append (state : InputState) (chunks more : List (List UInt8)) :
    state.packets (chunks ++ more) =
      state.packets chunks ++ (Transducer.final feed state chunks).packets more := by
  induction chunks generalizing state with
  | nil => rfl
  | cons data chunks ih =>
    rw [List.cons_append, packets_cons, packets_cons, ih, Transducer.final_cons, List.append_assoc]

lemma run_nonempty (state : InputState) (chunks : List (List UInt8)) :
    Transducer.final feed state (chunks.filter (fun data => !data.isEmpty)) =
        Transducer.final feed state chunks ∧
      state.packets (chunks.filter (fun data => !data.isEmpty)) = state.packets chunks := by
  induction chunks generalizing state with
  | nil => exact ⟨rfl, rfl⟩
  | cons data chunks ih =>
    cases data with
    | nil => exact ih state
    | cons byte data =>
      obtain ⟨hfinal, hpackets⟩ := ih (state.feed (byte :: data)).1
      have hfilter : ((byte :: data) :: chunks).filter (fun data => !data.isEmpty) =
          (byte :: data) :: chunks.filter (fun data => !data.isEmpty) := rfl
      rw [hfilter, packets_cons, packets_cons, hpackets]
      exact ⟨hfinal, rfl⟩

lemma limitBuffer_of_fits {buffer : List UInt8} (h : buffer.length ≤ maxBufferSize) :
    limitBuffer buffer = buffer := by
  unfold limitBuffer
  rw [if_neg (by omega)]

lemma feed_of_fits (state : InputState) {data : List UInt8} (hdata : data ≠ [])
    (hfit : state.rawBuffer.length + data.length ≤ maxBufferSize) :
    state.feed data =
      match state.startPosition (state.rawBuffer ++ data) with
      | none => ({ state with rawBuffer := state.rawBuffer ++ data }, [])
      | some start => readPackets (state.rawBuffer ++ data) start := by
  have hne : data.isEmpty = false := by simpa using hdata
  have hlimit : limitBuffer (state.rawBuffer ++ data) = state.rawBuffer ++ data :=
    limitBuffer_of_fits (by rwa [List.length_append])
  unfold feed
  rw [hne]
  dsimp only
  rw [hlimit]
  rfl

section Feed

variable {buffer data : List UInt8} (offset : Nat) (hdata : data ≠ [])
  (hfit : buffer.length + data.length ≤ maxBufferSize)
include hdata hfit

lemma feed_searching_none (h : findSyncPosition (buffer ++ data) = none) :
    feed ⟨buffer, false, offset⟩ data = (⟨buffer ++ data, false, offset⟩, []) := by
  rw [feed_of_fits ⟨buffer, false, offset⟩ hdata hfit]
  unfold startPosition
  simp only [Bool.false_eq_true, if_false, h]

lemma feed_searching_some {start : Nat} (h : findSyncPosition (buffer ++ data) = some start) :
    feed ⟨buffer, false, offset⟩ data = readPackets (buffer ++ data) start := by
  rw [feed_of_fits ⟨buffer, false, offset⟩ hdata hfit]
  unfold startPosition
  simp only [Bool.false_eq_true, if_false, h]

lemma feed_synchronized : feed ⟨buffer, true, 0⟩ data = readPackets (buffer ++ data) 0 := by
  rw [feed_of_fits ⟨buffer, true, 0⟩ hdata hfit]
  unfold startPosition
  simp only [if_true]

end Feed

/-! ### Reading from a position -/

/-- The state while reading from `start`, after the bytes `seen`. -/
def reading (seen : List UInt8) (start : Nat) : InputState :=
  ⟨restOf (seen.drop start), true, 0⟩

lemma readPackets_accepted {seen : List UInt8} {start : Nat} (h : AllAccepted (seen.drop start)) :
    readPackets seen start = (reading seen start, packetsOf (seen.drop start)) := by
  unfold readPackets reading
  rw [if_pos h]

lemma readPackets_rejected {seen : List UInt8} {start : Nat} (h : ¬AllAccepted (seen.drop start)) :
    readPackets seen start = (⟨seen, false, 0⟩, packetsOf (seen.drop start)) := by
  unfold readPackets
  rw [if_neg h]

/-- One more chunk while reading from a position. -/
theorem feed_reading {seen data : List UInt8} {start : Nat} (hstart : start ≤ seen.length)
    (hall : AllAccepted (seen.drop start)) (hdata : data ≠ [])
    (hfit : (reading seen start).rawBuffer.length + data.length ≤ maxBufferSize) :
    packetsOf (seen.drop start) ++ ((reading seen start).feed data).2 =
        packetsOf ((seen ++ data).drop start) ∧
      ((reading seen start).feed data).1 =
        if AllAccepted ((seen ++ data).drop start) then reading (seen ++ data) start
        else ⟨restOf (seen.drop start) ++ data, false, 0⟩ := by
  have hdrop : (seen ++ data).drop start = seen.drop start ++ data :=
    List.drop_append_of_le_length hstart
  have hframes := frames_append (b := data) packetSize_pos hall
  have hrest := leftover_append (b := data) packetSize_pos hall
  have hdrained := drained_append (b := data) packetSize_pos hall
  have hfeed : (reading seen start).feed data = readPackets (restOf (seen.drop start) ++ data) 0 :=
    feed_synchronized hdata hfit
  rw [hfeed, hdrop]
  refine ⟨?_, ?_⟩
  · unfold readPackets
    dsimp only [packetsOf, restOf]
    rw [hframes, List.drop_zero]
  · dsimp only [AllAccepted]
    by_cases hmore : AllAccepted (restOf (seen.drop start) ++ data)
    · rw [if_pos (hdrained.mpr hmore)]
      rw [readPackets_accepted (by rwa [List.drop_zero])]
      unfold reading
      dsimp only [restOf] at *
      rw [hdrop, hrest, List.drop_zero]
    · rw [if_neg (fun h => hmore (hdrained.mp h))]
      rw [readPackets_rejected (by rwa [List.drop_zero])]

/-- The windows from `start` that end before the end of the stream are accepted. -/
def WindowsAccepted (stream : List UInt8) (start : Nat) : Prop :=
  ∀ i, start + mpegtsPacketSize * (i + 1) < stream.length →
    TSPacket.accept (packetAt stream (start + mpegtsPacketSize * i)) ≠ none

lemma allAccepted_of_prefix {seen : List UInt8} (more : List UInt8) {start : Nat}
    (h : ∀ i, start + mpegtsPacketSize * (i + 1) ≤ seen.length →
      TSPacket.accept (packetAt (seen ++ more) (start + mpegtsPacketSize * i)) ≠ none) :
    AllAccepted (seen.drop start) := by
  have hpos := packetSize_pos
  dsimp only [AllAccepted]
  rw [drained_iff packetSize_pos]
  intro i hi
  rw [List.length_drop, Nat.mul_succ] at hi
  have hwindow := h i (by rw [Nat.mul_succ]; omega)
  rw [packetAt_append more (by omega)] at hwindow
  unfold packetAt at hwindow
  rwa [← List.drop_drop] at hwindow

lemma allAccepted_of_windows {seen more : List UInt8} {start : Nat} (hmore : more ≠ [])
    (h : WindowsAccepted (seen ++ more) start) : AllAccepted (seen.drop start) := by
  have hlen : 0 < more.length := List.length_pos_of_ne_nil hmore
  apply allAccepted_of_prefix more
  intro i hi
  apply h i
  rw [List.length_append]
  omega

lemma flatten_ne_nil {chunks : List (List UInt8)} (hne : ∀ data ∈ chunks, data ≠ [])
    (h : chunks ≠ []) : chunks.flatten ≠ [] := by
  obtain ⟨data, rest, rfl⟩ := List.exists_cons_of_ne_nil h
  rw [List.flatten_cons]
  exact List.append_ne_nil_of_left_ne_nil (hne data List.mem_cons_self) _

/-- The packets read from a position on do not depend on the chunks. -/
theorem packets_reading {seen : List UInt8} {start : Nat} (hstart : start ≤ seen.length)
    (hall : AllAccepted (seen.drop start)) {chunks : List (List UInt8)}
    (hne : ∀ data ∈ chunks, data ≠ []) (hfits : (reading seen start).Fits chunks)
    (hwindows : WindowsAccepted (seen ++ chunks.flatten) start) :
    packetsOf (seen.drop start) ++ (reading seen start).packets chunks =
      packetsOf ((seen ++ chunks.flatten).drop start) := by
  induction chunks generalizing seen with
  | nil => simp [packets]
  | cons data chunks ih =>
    obtain ⟨hread, hstate⟩ := feed_reading hstart hall (hne data List.mem_cons_self) hfits.1
    have hrestNe : ∀ data ∈ chunks, data ≠ [] := fun d hd => hne d (List.mem_cons_of_mem data hd)
    rw [packets_cons, ← List.append_assoc, hread, List.flatten_cons, ← List.append_assoc]
    rw [List.flatten_cons, ← List.append_assoc] at hwindows
    by_cases hlast : chunks = []
    · subst hlast
      simp [packets]
    · have hall' := allAccepted_of_windows (flatten_ne_nil hrestNe hlast) hwindows
      rw [if_pos hall'] at hstate
      have hfits' := hfits.2
      rw [hstate] at hfits' ⊢
      refine ih ?_ hall' hrestNe hfits' hwindows
      rw [List.length_append]
      omega

/-- When all windows are accepted, reading ends in the state after the whole stream. -/
theorem final_reading {seen : List UInt8} {start : Nat} (hstart : start ≤ seen.length)
    {chunks : List (List UInt8)} (hne : ∀ data ∈ chunks, data ≠ [])
    (hfits : (reading seen start).Fits chunks)
    (hall : ∀ i, start + mpegtsPacketSize * (i + 1) ≤ (seen ++ chunks.flatten).length →
      TSPacket.accept (packetAt (seen ++ chunks.flatten) (start + mpegtsPacketSize * i)) ≠ none) :
    Transducer.final feed (reading seen start) chunks = reading (seen ++ chunks.flatten) start := by
  have hfront : ∀ pre more : List UInt8, pre ++ more = seen ++ chunks.flatten →
      AllAccepted (pre.drop start) := by
    intro pre more hpre
    apply allAccepted_of_prefix more
    intro i hi
    rw [hpre]
    apply hall i
    rw [← hpre, List.length_append]
    omega
  clear hall
  induction chunks generalizing seen with
  | nil =>
    rw [List.flatten_nil, List.append_nil]
    rfl
  | cons data chunks ih =>
    rw [List.flatten_cons] at hfront ⊢
    have hstate := (feed_reading hstart (hfront seen _ rfl) (hne data List.mem_cons_self) hfits.1).2
    rw [if_pos (hfront (seen ++ data) chunks.flatten (List.append_assoc _ _ _))] at hstate
    have hfits' := hfits.2
    rw [Transducer.final_cons, ← List.append_assoc]
    rw [hstate] at hfits' ⊢
    refine ih ?_ (fun d hd => hne d (List.mem_cons_of_mem data hd)) hfits' ?_
    · rw [List.length_append]
      omega
    · intro pre more hpre
      exact hfront pre more (by rw [hpre, List.append_assoc])

/-! ### Searching -/

/-- The position that the first successful sync search finds, after the bytes `seen`. -/
def firstSync : List UInt8 → List (List UInt8) → Option Nat
  | _, [] => none
  | seen, data :: chunks =>
    match findSyncPosition (seen ++ data) with
    | some start => some start
    | none => firstSync (seen ++ data) chunks

lemma firstSync_start {seen : List UInt8} {chunks : List (List UInt8)}
    (hshort : seen.length < mpegtsPacketSize * 3)
    (hlong : mpegtsPacketSize * 3 ≤ (seen ++ chunks.flatten).length)
    (hsync : ∀ buffer, buffer <+: seen ++ chunks.flatten → mpegtsPacketSize * 3 ≤ buffer.length →
      findSyncPosition buffer = some 0) : firstSync seen chunks = some 0 := by
  induction chunks generalizing seen with
  | nil =>
    rw [List.flatten_nil, List.append_nil] at hlong
    omega
  | cons data chunks ih =>
    rw [List.flatten_cons, ← List.append_assoc] at hlong hsync
    unfold firstSync
    by_cases hlen : (seen ++ data).length < mpegtsPacketSize * 3
    · rw [findSyncPosition_short hlen]
      exact ih hlen hlong hsync
    · rw [hsync (seen ++ data) (List.prefix_append _ _) (by omega)]

lemma final_short {seen : List UInt8} (offset : Nat) {chunks : List (List UInt8)}
    (hne : ∀ data ∈ chunks, data ≠ [])
    (hshort : (seen ++ chunks.flatten).length < mpegtsPacketSize * 3) :
    Transducer.final feed ⟨seen, false, offset⟩ chunks = ⟨seen ++ chunks.flatten, false, offset⟩ ∧
      packets ⟨seen, false, offset⟩ chunks = [] := by
  induction chunks generalizing seen with
  | nil =>
    rw [List.flatten_nil, List.append_nil]
    exact ⟨rfl, rfl⟩
  | cons data chunks ih =>
    rw [List.flatten_cons, ← List.append_assoc] at hshort ⊢
    have hlen : (seen ++ data).length < mpegtsPacketSize * 3 := by
      rw [List.length_append] at hshort
      omega
    have hmax : mpegtsPacketSize * 3 ≤ maxBufferSize := by decide
    have hfeed := feed_searching_none offset (hne data List.mem_cons_self)
      (by rw [List.length_append] at hlen; omega) (findSyncPosition_short hlen)
    obtain ⟨hfinal, hpackets⟩ := ih (fun d hd => hne d (List.mem_cons_of_mem data hd)) hshort
    rw [Transducer.final_cons, packets_cons, hfeed, hfinal, hpackets]
    exact ⟨rfl, rfl⟩

/-- The packets of a whole run, by the position that its first successful search finds. -/
theorem packets_of_firstSync (seen : List UInt8) (offset : Nat) {chunks : List (List UInt8)}
    (hne : ∀ data ∈ chunks, data ≠ []) (hfits : Fits ⟨seen, false, offset⟩ chunks)
    (hwindows : ∀ start, firstSync seen chunks = some start →
      WindowsAccepted (seen ++ chunks.flatten) start) :
    packets ⟨seen, false, offset⟩ chunks =
      match firstSync seen chunks with
      | none => []
      | some start => packetsOf ((seen ++ chunks.flatten).drop start) := by
  induction chunks generalizing seen with
  | nil => rfl
  | cons data chunks ih =>
    have hdata := hne data List.mem_cons_self
    have hrestNe : ∀ data ∈ chunks, data ≠ [] := fun d hd => hne d (List.mem_cons_of_mem data hd)
    have hfits' := hfits.2
    rw [packets_cons, List.flatten_cons, ← List.append_assoc]
    unfold firstSync at hwindows ⊢
    cases hfind : findSyncPosition (seen ++ data) with
    | none =>
      have hfeed := feed_searching_none offset hdata hfits.1 hfind
      rw [hfeed] at hfits' ⊢
      rw [List.nil_append]
      simp only [hfind, List.flatten_cons, ← List.append_assoc] at hwindows
      exact ih _ hrestNe hfits' hwindows
    | some start =>
      have hfeed := feed_searching_some offset hdata hfits.1 hfind
      have hle := findSyncPosition_le hfind
      have hwin : WindowsAccepted (seen ++ data ++ chunks.flatten) start := by
        have h := hwindows start (by rw [hfind])
        rwa [List.flatten_cons, ← List.append_assoc] at h
      rw [hfeed] at hfits' ⊢
      by_cases hlast : chunks = []
      · subst hlast
        simp [packets, readPackets]
      · have hall := allAccepted_of_windows (flatten_ne_nil hrestNe hlast) hwin
        rw [readPackets_accepted hall] at hfits' ⊢
        exact packets_reading (by omega) hall hrestNe hfits' hwin

/-- When all windows from the position found are accepted, the run ends in the state after the
whole stream. -/
theorem final_of_firstSync (seen : List UInt8) (offset : Nat) {chunks : List (List UInt8)}
    {start : Nat} (hne : ∀ data ∈ chunks, data ≠ []) (hfits : Fits ⟨seen, false, offset⟩ chunks)
    (hsync : firstSync seen chunks = some start)
    (hall : ∀ i, start + mpegtsPacketSize * (i + 1) ≤ (seen ++ chunks.flatten).length →
      TSPacket.accept (packetAt (seen ++ chunks.flatten) (start + mpegtsPacketSize * i)) ≠ none) :
    Transducer.final feed ⟨seen, false, offset⟩ chunks = reading (seen ++ chunks.flatten) start := by
  induction chunks generalizing seen with
  | nil => cases hsync
  | cons data chunks ih =>
    have hdata := hne data List.mem_cons_self
    have hrestNe : ∀ data ∈ chunks, data ≠ [] := fun d hd => hne d (List.mem_cons_of_mem data hd)
    have hfits' := hfits.2
    rw [List.flatten_cons, ← List.append_assoc] at hall ⊢
    unfold firstSync at hsync
    rw [Transducer.final_cons]
    cases hfind : findSyncPosition (seen ++ data) with
    | none =>
      have hfeed := feed_searching_none offset hdata hfits.1 hfind
      rw [hfind] at hsync
      rw [hfeed] at hfits' ⊢
      exact ih _ hrestNe hfits' hsync hall
    | some found =>
      have hfeed := feed_searching_some offset hdata hfits.1 hfind
      have hle := findSyncPosition_le hfind
      rw [hfind] at hsync
      have heq : found = start := Option.some.inj hsync
      subst heq
      have hfront : AllAccepted ((seen ++ data).drop found) := by
        apply allAccepted_of_prefix chunks.flatten
        intro i hi
        apply hall i
        rw [List.length_append]
        omega
      rw [hfeed] at hfits' ⊢
      rw [readPackets_accepted hfront] at hfits' ⊢
      exact final_reading (by omega) hrestNe hfits' hall

lemma run_of_start {chunks : List (List UInt8)} (hne : ∀ data ∈ chunks, data ≠ [])
    (hfits : Fits ⟨[], false, 0⟩ chunks) (hsync : firstSync [] chunks = some 0)
    (hall : AllAccepted chunks.flatten) :
    Transducer.final feed ⟨[], false, 0⟩ chunks = ⟨restOf chunks.flatten, true, 0⟩ ∧
      packets ⟨[], false, 0⟩ chunks = packetsOf chunks.flatten := by
  have hwindows : ∀ i, 0 + mpegtsPacketSize * (i + 1) ≤ ([] ++ chunks.flatten).length →
      TSPacket.accept (packetAt ([] ++ chunks.flatten) (0 + mpegtsPacketSize * i)) ≠ none := by
    intro i hi
    rw [List.nil_append, Nat.zero_add] at hi ⊢
    dsimp only [AllAccepted] at hall
    rw [drained_iff packetSize_pos] at hall
    exact hall i hi
  have hpackets := packets_of_firstSync [] 0 hne hfits (fun start hstart i hi => by
    obtain rfl : 0 = start := Option.some.inj (hsync.symm.trans hstart)
    exact hwindows i hi.le)
  rw [hsync] at hpackets
  exact ⟨final_of_firstSync [] 0 hne hfits hsync hwindows, hpackets⟩

lemma fits_of_length {state : InputState} {chunks : List (List UInt8)}
    (h : state.rawBuffer.length + chunks.flatten.length ≤ maxBufferSize) : state.Fits chunks := by
  induction chunks generalizing state with
  | nil => trivial
  | cons data chunks ih =>
    rw [List.flatten_cons, List.length_append] at h
    have hle := (feed_rawBuffer_suffix state data).length_le
    rw [List.length_append] at hle
    refine ⟨by omega, ih ?_⟩
    omega

/-! ### Packet by packet -/

/-- A list of packets and the objects they are parsed into. -/
def AcceptedPackets (ps : List (List UInt8)) (xs : List TSPacket) : Prop :=
  List.Forall₂ (fun p x => p.length = mpegtsPacketSize ∧ TSPacket.accept p = some x) ps xs

lemma packetAt_packet {front p back : List UInt8} {pos : Nat} (hfront : front.length = pos)
    (hp : p.length = mpegtsPacketSize) : packetAt (front ++ (p ++ back)) pos = p := by
  unfold packetAt
  rw [← hfront, List.drop_left, ← hp, List.take_left]

lemma acceptedPackets_frames {ps : List (List UInt8)} {xs : List TSPacket}
    (h : AcceptedPackets ps xs) : packetsOf ps.flatten = xs ∧ restOf ps.flatten = [] := by
  obtain ⟨hframes, hrest⟩ := Framing.frames_flatten packetSize_pos h []
  rw [List.append_nil] at hframes hrest
  have hempty : ([] : List UInt8).length < mpegtsPacketSize := packetSize_pos
  dsimp only [packetsOf, restOf]
  rw [hframes, hrest, Framing.frames_short hempty, Framing.leftover_short hempty, List.append_nil]
  exact ⟨rfl, rfl⟩

lemma acceptedPackets_allAccepted {ps : List (List UInt8)} {xs : List TSPacket}
    (h : AcceptedPackets ps xs) : AllAccepted ps.flatten := by
  have hrest := (acceptedPackets_frames h).2
  dsimp only [restOf, AllAccepted] at hrest ⊢
  unfold Drained
  rw [hrest]
  exact packetSize_pos

lemma feed_packet {p : List UInt8} {x : TSPacket} (hlen : p.length = mpegtsPacketSize)
    (hacc : TSPacket.accept p = some x) : feed ⟨[], true, 0⟩ p = (⟨[], true, 0⟩, [x]) := by
  have hne : p ≠ [] := by
    intro hnil
    rw [hnil] at hlen
    exact absurd hlen (by decide)
  have hone : AcceptedPackets [p] [x] := .cons ⟨hlen, hacc⟩ .nil
  obtain ⟨hframes, hrest⟩ := acceptedPackets_frames hone
  have hall := acceptedPackets_allAccepted hone
  rw [List.flatten_singleton] at hframes hrest hall
  rw [← List.drop_zero (l := p)] at hall
  rw [feed_synchronized hne (by rw [hlen]; decide), List.nil_append, readPackets_accepted hall]
  unfold reading
  rw [List.drop_zero, hframes, hrest]

lemma feed_acceptedPackets {ps : List (List UInt8)} {xs : List TSPacket}
    (h : AcceptedPackets ps xs) : Transducer.final feed ⟨[], true, 0⟩ ps = ⟨[], true, 0⟩ ∧
      packets ⟨[], true, 0⟩ ps = xs ∧ Fits ⟨[], true, 0⟩ ps := by
  induction h with
  | nil => exact ⟨rfl, rfl, trivial⟩
  | @cons p x ps xs hp _ ih =>
    have hfeed := feed_packet hp.1 hp.2
    obtain ⟨hfinal, hpackets, hfits⟩ := ih
    have hfit : ([] : List UInt8).length + p.length ≤ maxBufferSize := by
      rw [hp.1]
      decide
    rw [Transducer.final_cons, packets_cons, hfeed, hpackets]
    refine ⟨hfinal, rfl, hfit, ?_⟩
    rw [hfeed]
    exact hfits

end InputState

lemma feedChunks_eq (d : MPEGTSDemuxer) (chunks : List (List UInt8)) :
    chunks.foldl feedData d = ⟨Transducer.final InputState.feed d.toInputState chunks,
      d.toPacketState.processPackets (d.toInputState.packets chunks)⟩ := by
  induction chunks generalizing d with
  | nil => rfl
  | cons data chunks ih =>
    rw [List.foldl_cons, ih, Transducer.final_cons, InputState.packets_cons,
      PacketState.processPackets_append, feedData_eq]

lemma run_feeds (d : MPEGTSDemuxer) (chunks : List (List UInt8)) :
    run d (chunks.map .feedData) = chunks.foldl feedData d := by
  induction chunks generalizing d with
  | nil => rfl
  | cons data chunks ih => exact ih (d.feedData data)

end MinimalMpegTS
