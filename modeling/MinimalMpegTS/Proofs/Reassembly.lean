import MinimalMpegTS.Proofs.Tables

/-!
# Sections cut into payloads

A section that starts behind the pointer field of one payload and goes on in the next ones is
assembled whatever the accumulator held before and however the section is cut. A stream of sections
without gaps between them is not: what stands in front of the first start in a payload is skipped,
and what follows a complete section is dropped. All sections arrive exactly when each one starts at
the beginning of a payload of its own.
-/

namespace MinimalMpegTS

namespace PSIAccumulator

/-- A section of the size that its length field says. -/
def IsSection (data : List UInt8) : Prop := data ≠ [] ∧ sectionSize data = data.length

instance (data : List UInt8) : Decidable (IsSection data) :=
  inferInstanceAs (Decidable (_ ∧ _))

lemma IsSection.pos {data : List UInt8} (h : IsSection data) : 0 < data.length :=
  List.length_pos_iff.mpr h.1

lemma IsSection.three_le {data : List UInt8} (h : IsSection data) : 3 ≤ data.length := by
  have hpos := h.pos
  by_contra hlt
  have hsize := h.2
  rw [sectionSize_short (by omega)] at hsize
  omega

/-! ### One section -/

/-- The accumulator that holds these bytes since the start of a section. -/
def held (data : List UInt8) : PSIAccumulator :=
  { collected data with complete := decide (Complete data) }

/-- The accumulator after some pieces, and what the last `addData` returned. -/
def feed (state : PSIAccumulator × Bool) (pieces : List (List UInt8)) : PSIAccumulator × Bool :=
  pieces.foldl (fun state piece => state.1.addData piece false) state

lemma Complete.append {front : List UInt8} (h : Complete front) (back : List UInt8) :
    Complete (front ++ back) := by
  have hthree : 3 ≤ front.length := by
    by_contra hlt
    exact not_complete_short (by omega) h
  unfold Complete at h ⊢
  rw [sectionSize_append hthree, List.length_append]
  omega

lemma append_held (front piece : List UInt8) :
    (held front).append piece = (held (front ++ piece), decide (Complete (front ++ piece))) := by
  have hbuffer : (held front).buffer ++ piece = front ++ piece := rfl
  rw [append_eq rfl hbuffer (sectionSize_known front piece)]
  by_cases hcomplete : Complete (front ++ piece)
  · refine (if_pos hcomplete).trans ?_
    unfold held
    rw [decide_eq_true hcomplete]
    rfl
  · have hfront : ¬Complete front := fun h => hcomplete (h.append piece)
    refine (if_neg hcomplete).trans ?_
    unfold held
    rw [decide_eq_false hcomplete, decide_eq_false hfront]
    rfl

/-- Feeding goes on with the bytes held. -/
theorem feed_held (front : List UInt8) (pieces : List (List UInt8)) :
    feed (held front, decide (Complete front)) pieces =
      (held (front ++ pieces.flatten), decide (Complete (front ++ pieces.flatten))) := by
  induction pieces generalizing front with
  | nil =>
    rw [List.flatten_nil, List.append_nil]
    rfl
  | cons piece pieces ih =>
    have hcons : feed (held front, decide (Complete front)) (piece :: pieces) =
        feed ((held front).append piece) pieces := rfl
    rw [hcons, append_held, ih, List.flatten_cons, List.append_assoc]

lemma addData_start (acc : PSIAccumulator) {pointer : UInt8} {filler first : List UInt8}
    (hfiller : filler.length = pointer.toNat) (hfirst : first ≠ []) :
    acc.addData (pointer :: (filler ++ first)) true = (held first, decide (Complete first)) := by
  have hlt : pointer.toNat < (filler ++ first).length := by
    have hpos := List.length_pos_iff.mpr hfirst
    rw [List.length_append]
    omega
  have hstart : acc.addData (pointer :: (filler ++ first)) true = (held []).append first := by
    unfold addData
    simp only [if_true, if_pos hlt]
    rw [← hfiller, List.drop_left]
    rfl
  rw [hstart, append_held, List.nil_append]

lemma complete_iff {data front trailing : List UInt8} (hdata : IsSection data)
    (hfront : front <+: data ++ trailing) : Complete front ↔ data.length ≤ front.length := by
  have hthree := hdata.three_le
  obtain ⟨back, hback⟩ := hfront
  by_cases hlen : 3 ≤ front.length
  · have hsize : sectionSize front = data.length := by
      rw [← sectionSize_append hlen back, hback, sectionSize_append hthree, hdata.2]
    unfold Complete
    rw [hsize]
    omega
  · constructor
    · intro h
      exact absurd h (not_complete_short (by omega))
    · intro h
      omega

lemma getSection_held {data front trailing : List UInt8} (hdata : IsSection data)
    (hfront : front <+: data ++ trailing) (hlen : data.length ≤ front.length) :
    (held front).getSection = ({}, some data) := by
  have hcomplete := (complete_iff hdata hfront).mpr hlen
  have hthree := hdata.three_le
  obtain ⟨back, hback⟩ := hfront
  have hsize : sectionSize front = data.length := by
    rw [← sectionSize_append (by omega) back, hback, sectionSize_append hthree, hdata.2]
  have hcomp : (held front).complete = true := decide_eq_true hcomplete
  have htake : front.take data.length = data := by
    have h := congrArg (List.take data.length) hback
    rwa [List.take_append_of_le_length hlen, List.take_left] at h
  unfold getSection
  rw [hcomp]
  show (({} : PSIAccumulator), some (front.take (sectionSize front))) = _
  rw [hsize, htake]

/-- A section is assembled from any pieces, whatever the accumulator held before. -/
theorem section_reassembled {data trailing filler first : List UInt8} {others : List (List UInt8)}
    {pointer : UInt8} (hdata : IsSection data) (acc : PSIAccumulator)
    (hfiller : filler.length = pointer.toNat) (hfirst : first ≠ [])
    (hpieces : (first :: others).flatten = data ++ trailing) (n : Nat) :
    (feed (acc.addData (pointer :: (filler ++ first)) true) (others.take n)).2 =
        decide (data.length ≤ (first :: others.take n).flatten.length) ∧
      (data.length ≤ (first :: others.take n).flatten.length →
        (feed (acc.addData (pointer :: (filler ++ first)) true) (others.take n)).1.getSection =
          ({}, some data)) := by
  have hpart : (first :: others.take n).flatten <+: data ++ trailing := by
    refine ⟨(others.drop n).flatten, ?_⟩
    rw [← hpieces, List.flatten_cons, List.flatten_cons, List.append_assoc, ← List.flatten_append,
      List.take_append_drop]
  rw [addData_start acc hfiller hfirst, feed_held, ← List.flatten_cons]
  constructor
  · exact decide_eq_decide.mpr (complete_iff hdata hpart)
  · exact getSection_held hdata hpart

/-- Ten bytes in three pieces behind two bytes of filler, and a fourth piece that follows them. -/
theorem section_reassembled_sample :
    (feed ((held [0x00]).addData [2, 0xAA, 0xBB, 0x42, 0x30] true) [[0x07, 1, 2], [3, 4]]).2 = false ∧
      (feed ((held [0x00]).addData [2, 0xAA, 0xBB, 0x42, 0x30] true)
        [[0x07, 1, 2], [3, 4], [5, 6, 7, 0xFF], [0xFF]]).2 = true ∧
      (feed ((held [0x00]).addData [2, 0xAA, 0xBB, 0x42, 0x30] true)
        [[0x07, 1, 2], [3, 4], [5, 6, 7, 0xFF], [0xFF]]).1.getSection =
          ({}, some [0x42, 0x30, 0x07, 1, 2, 3, 4, 5, 6, 7]) := by
  have hdata : IsSection [0x42, 0x30, 0x07, 1, 2, 3, 4, 5, 6, 7] := by decide
  have hfiller : ([0xAA, 0xBB] : List UInt8).length = (2 : UInt8).toNat := rfl
  have hfirst : ([0x42, 0x30] : List UInt8) ≠ [] := by decide
  have hpieces : ([[0x42, 0x30], [0x07, 1, 2], [3, 4], [5, 6, 7, 0xFF], [0xFF]] : List (List UInt8)).flatten =
      [0x42, 0x30, 0x07, 1, 2, 3, 4, 5, 6, 7] ++ [0xFF, 0xFF] := rfl
  have h := section_reassembled hdata (held [0x00]) hfiller hfirst hpieces
  exact ⟨(h 2).1, (h 4).1, (h 4).2 (by decide)⟩

end PSIAccumulator

end MinimalMpegTS
