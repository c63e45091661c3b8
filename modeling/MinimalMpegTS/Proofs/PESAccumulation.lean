import MinimalMpegTS.Lib.Transducer
import MinimalMpegTS.Proofs.PESPackets

/-!
# Assembling PES packets

What the accumulator holds is a function of the bytes since the start of a packet. A bounded packet
survives however its bytes are cut. An unbounded one counts as complete with its header: what follows
the piece that completes the header is dropped once the packet has been fetched.
-/

namespace MinimalMpegTS

namespace PESAccumulator

open PESParser

/-! ### What the accumulator holds -/

/-- The length field of a packet. -/
def lengthField (data : List UInt8) : UInt16 :=
  PSIParser.fieldOf 0xFF (data.getD 4 0) (data.getD 5 0)

/-- The bytes are taken for a whole packet. -/
def Complete (data : List UInt8) : Prop :=
  6 ≤ data.length ∧ data.take 3 = [0, 0, 1] ∧
    if lengthField data = 0 then HeaderFits data else 6 + (lengthField data).toNat ≤ data.length

instance (data : List UInt8) : Decidable (Complete data) :=
  inferInstanceAs (Decidable (_ ∧ _ ∧ _))

/-- The bytes can be the beginning of a packet. -/
def Started (data : List UInt8) : Prop := data.length < 6 ∨ data.take 3 = [0, 0, 1]

instance (data : List UInt8) : Decidable (Started data) :=
  inferInstanceAs (Decidable (_ ∨ _))

/-- The length that a bounded packet announces. -/
def expected (data : List UInt8) : Nat :=
  if data.length < 6 ∨ lengthField data = 0 then 0 else 6 + (lengthField data).toNat

/-- The accumulator that holds these bytes since the start of a packet. -/
def held (data : List UInt8) : PESAccumulator :=
  ⟨data, expected data, true, decide (Complete data)⟩

/-- The accumulator after these bytes: it starts over on a wrong start code. -/
def collected (data : List UInt8) : PESAccumulator := if Started data then held data else {}

lemma readLengthField {data : List UInt8} (h : 6 ≤ data.length) :
    PSIParser.readField16 0xFF data 4 = some (lengthField data) :=
  PSIParser.readField16_eq (by omega)

lemma lengthField_append {front : List UInt8} (h : 6 ≤ front.length) (back : List UInt8) :
    lengthField (front ++ back) = lengthField front := by
  unfold lengthField
  rw [List.getD_append _ _ _ _ (by omega), List.getD_append _ _ _ _ (by omega)]

lemma Complete.append {front : List UInt8} (h : Complete front) (back : List UInt8) :
    Complete (front ++ back) := by
  obtain ⟨hsix, hcode, hrest⟩ := h
  unfold Complete
  rw [lengthField_append hsix, List.take_append_of_le_length (by omega), List.length_append]
  refine ⟨by omega, hcode, ?_⟩
  by_cases hfield : lengthField front = 0
  · rw [if_pos hfield] at hrest ⊢
    exact hrest.append back
  · rw [if_neg hfield] at hrest ⊢
    omega

lemma expected_append {front piece : List UInt8} (h : expected (front ++ piece) = 0) :
    expected front = 0 := by
  unfold expected at h ⊢
  by_cases hshort : front.length < 6
  · exact if_pos (.inl hshort)
  · rw [lengthField_append (by omega), List.length_append] at h
    by_cases hzero : lengthField front = 0
    · exact if_pos (.inr hzero)
    · have hsix : ¬(front.length + piece.length < 6) := by omega
      rw [if_neg (fun h => h.elim hsix hzero)] at h
      omega

lemma held_append {front piece : List UInt8} (hnot : ¬Complete (front ++ piece)) :
    { held front with buffer := front ++ piece, expectedLength := expected (front ++ piece) } =
      held (front ++ piece) := by
  have hfront : ¬Complete front := fun h => hnot (h.append piece)
  unfold held
  rw [decide_eq_false hnot, decide_eq_false hfront]

lemma held_append_of_expected {front piece : List UInt8} (hnot : ¬Complete (front ++ piece))
    (h : expected (front ++ piece) = 0) :
    { held front with buffer := front ++ piece } = held (front ++ piece) := by
  have hexpected : (held front).expectedLength = expected (front ++ piece) :=
    (expected_append h).trans h.symm
  rw [← held_append hnot, ← hexpected]

lemma check_short {front piece : List UInt8} (hshort : (front ++ piece).length < 6) :
    parseAndCheckComplete { held front with buffer := front ++ piece } =
      (collected (front ++ piece), decide (Complete (front ++ piece))) := by
  have hnot : ¬Complete (front ++ piece) := fun h => absurd h.1 (Nat.not_le.mpr hshort)
  unfold parseAndCheckComplete collected
  rw [if_pos hshort, if_pos (.inl hshort), decide_eq_false hnot,
    held_append_of_expected hnot (if_pos (.inl hshort))]

lemma check_wrong_code {front piece : List UInt8} (hsix : 6 ≤ (front ++ piece).length)
    (hcode : (front ++ piece).take 3 ≠ [0, 0, 1]) :
    parseAndCheckComplete { held front with buffer := front ++ piece } =
      (collected (front ++ piece), decide (Complete (front ++ piece))) := by
  have hnot : ¬Complete (front ++ piece) := fun h => hcode h.2.1
  have hstarted : ¬Started (front ++ piece) := fun h => h.elim (Nat.not_lt.mpr hsix) hcode
  unfold parseAndCheckComplete collected
  dsimp only
  rw [if_neg (Nat.not_lt.mpr hsix), verifyStartCode_eq (by omega), decide_eq_false hcode,
    decide_eq_false hnot, if_pos (by decide), if_neg hstarted]
  rfl

lemma check_unbounded {front piece : List UInt8} (hsix : 6 ≤ (front ++ piece).length)
    (hcode : (front ++ piece).take 3 = [0, 0, 1]) (hzero : lengthField (front ++ piece) = 0) :
    parseAndCheckComplete { held front with buffer := front ++ piece } =
      (collected (front ++ piece), decide (Complete (front ++ piece))) := by
  have hcomplete : Complete (front ++ piece) ↔ HeaderFits (front ++ piece) := by
    unfold Complete
    rw [if_pos hzero]
    exact ⟨fun h => h.2.2, fun h => ⟨hsix, hcode, h⟩⟩
  have hexpected : expected (front ++ piece) = 0 := if_pos (.inr hzero)
  obtain ⟨parsed, hparsed, hheader⟩ := parseHeader_eq {} (front ++ piece)
  unfold parseAndCheckComplete collected
  dsimp only
  rw [if_neg (Nat.not_lt.mpr hsix), verifyStartCode_eq (by omega), readLengthField hsix,
    decide_eq_true hcode, if_neg (by decide), if_pos (.inr hcode)]
  dsimp only
  rw [if_pos hzero, hparsed]
  by_cases hfits : HeaderFits (front ++ piece)
  · rw [decide_eq_true hfits, hheader hfits, decide_eq_true (hcomplete.mpr hfits)]
    dsimp only
    rw [getHeaderSize_headerFrom, if_pos hfits.headerSize_le]
    unfold held
    rw [hexpected, decide_eq_true (hcomplete.mpr hfits)]
  · have hnot : ¬Complete (front ++ piece) := fun h => hfits (hcomplete.mp h)
    rw [decide_eq_false hfits, decide_eq_false hnot, ← held_append_of_expected hnot hexpected]

lemma check_bounded {front piece : List UInt8} (hsix : 6 ≤ (front ++ piece).length)
    (hcode : (front ++ piece).take 3 = [0, 0, 1]) (hzero : lengthField (front ++ piece) ≠ 0) :
    parseAndCheckComplete { held front with buffer := front ++ piece } =
      (collected (front ++ piece), decide (Complete (front ++ piece))) := by
  have hcomplete : Complete (front ++ piece) ↔
      6 + (lengthField (front ++ piece)).toNat ≤ (front ++ piece).length := by
    unfold Complete
    rw [if_neg hzero]
    exact ⟨fun h => h.2.2, fun h => ⟨hsix, hcode, h⟩⟩
  have hexpected : expected (front ++ piece) = 6 + (lengthField (front ++ piece)).toNat :=
    if_neg (fun h => h.elim (Nat.not_lt.mpr hsix) hzero)
  unfold parseAndCheckComplete collected
  dsimp only
  rw [if_neg (Nat.not_lt.mpr hsix), verifyStartCode_eq (by omega), readLengthField hsix,
    decide_eq_true hcode, if_neg (by decide), if_pos (.inr hcode)]
  dsimp only
  rw [if_neg hzero]
  by_cases hroom : 6 + (lengthField (front ++ piece)).toNat ≤ (front ++ piece).length
  · rw [decide_eq_true (hcomplete.mpr hroom)]
    unfold held
    rw [hexpected, decide_eq_true (hcomplete.mpr hroom)]
    exact if_pos hroom
  · have hnot : ¬Complete (front ++ piece) := fun h => hroom (hcomplete.mp h)
    rw [decide_eq_false hnot, ← held_append hnot, hexpected]
    exact if_neg hroom

lemma parseAndCheckComplete_held (front piece : List UInt8) :
    parseAndCheckComplete { held front with buffer := front ++ piece } =
      (collected (front ++ piece), decide (Complete (front ++ piece))) := by
  by_cases hshort : (front ++ piece).length < 6
  · exact check_short hshort
  have hsix : 6 ≤ (front ++ piece).length := Nat.le_of_not_lt hshort
  by_cases hcode : (front ++ piece).take 3 = [0, 0, 1]
  · by_cases hzero : lengthField (front ++ piece) = 0
    · exact check_unbounded hsix hcode hzero
    · exact check_bounded hsix hcode hzero
  · exact check_wrong_code hsix hcode

lemma addData_held (front : List UInt8) {piece : List UInt8} (hpiece : piece ≠ []) :
    (held front).addData piece false =
      (collected (front ++ piece), decide (Complete (front ++ piece))) := by
  have hempty : piece.isEmpty = false := List.isEmpty_eq_false_iff.mpr hpiece
  unfold addData
  rw [hempty]
  exact parseAndCheckComplete_held front piece

lemma addData_start (acc : PESAccumulator) {piece : List UInt8} (hpiece : piece ≠ []) :
    acc.addData piece true = (collected piece, decide (Complete piece)) := by
  have hempty : piece.isEmpty = false := List.isEmpty_eq_false_iff.mpr hpiece
  unfold addData
  rw [hempty]
  exact parseAndCheckComplete_held [] piece

lemma addData_unsynced {acc : PESAccumulator} (h : acc.synced = false) (piece : List UInt8) :
    acc.addData piece false = (acc, false) := by
  unfold addData
  split
  · rfl
  · simp [h]

lemma getPacket_held {data : List UInt8} (hcomplete : Complete data) (hfits : HeaderFits data)
    (packet : PESPacket) : (held data).getPacket packet =
      ({}, ⟨headerFrom packet.header data, data.drop (headerSize data), true⟩, true) := by
  have hflag : (held data).complete = true := decide_eq_true hcomplete
  have hbuffer : (held data).buffer = data := rfl
  unfold getPacket
  rw [hflag, hbuffer, parsePacket_of_fits hfits packet]
  rfl

lemma getPacket_rejected {data : List UInt8} (hfits : ¬HeaderFits data) (packet : PESPacket) :
    ((held data).getPacket packet).1 = held data ∧ ((held data).getPacket packet).2.2 = false := by
  obtain ⟨rejected, hrejected⟩ := parsePacket_of_not_fits hfits packet
  have hbuffer : (held data).buffer = data := rfl
  unfold getPacket
  rw [hbuffer, hrejected]
  split <;> exact ⟨rfl, rfl⟩

lemma getPacket_incomplete {acc : PESAccumulator} (h : acc.complete = false) (packet : PESPacket) :
    acc.getPacket packet = (acc, packet, false) := by
  unfold getPacket
  rw [h]
  rfl

/-! ### Bounded packets -/

/-- One piece, with the flag that says whether a packet starts with it. -/
def receive (acc : PESAccumulator) (input : List UInt8 × Bool) : PESAccumulator × Bool :=
  acc.addData input.1 input.2

/-- The pieces of a packet: only the first one carries the flag. -/
def pieceInputs : List (List UInt8) → List (List UInt8 × Bool)
  | [] => []
  | first :: others => (first, true) :: others.map (fun piece => (piece, false))

lemma receive_first (acc : PESAccumulator) {piece : List UInt8} (hpiece : piece ≠ []) :
    receive acc (piece, true) = receive (held []) (piece, false) :=
  (addData_start acc hpiece).trans (addData_held [] hpiece).symm

end PESAccumulator

namespace PESContent

open PESAccumulator PESParser

lemma six_le_length_head (self : PESContent) : 6 ≤ self.head.length := by
  have hsize := (self.headerFits []).2
  unfold headerSize at hsize
  split at hsize <;> omega

lemma started_front {self : PESContent} {data : List UInt8} (h : data <+: self.encode) :
    Started data := by
  obtain ⟨back, hback⟩ := h
  by_cases hshort : data.length < 6
  · exact .inl hshort
  · have hcode := congrArg (List.take 3) hback
    rw [List.take_append_of_le_length (by omega)] at hcode
    exact .inr hcode

lemma lengthField_front {self : PESContent} {data : List UInt8} (h : data <+: self.encode)
    (hsix : 6 ≤ data.length) : lengthField data = UInt16.ofNat self.packetLength.toNat := by
  obtain ⟨back, hback⟩ := h
  have hmask : (0xFF : UInt8).toNat = 2 ^ 8 - 1 := rfl
  have hfield := PSIParser.fieldOf_halfword hmask (le_refl 8) self.packetLength
  rw [Nat.mod_eq_of_lt self.packetLength.isLt] at hfield
  rw [← lengthField_append hsix back, hback]
  exact hfield

lemma complete_iff_of_bounded {self : PESContent} (hbounded : self.Bounded) {data : List UInt8}
    (h : data <+: self.encode) : Complete data ↔ data.length = self.encode.length := by
  obtain ⟨hne, hlength⟩ := hbounded
  have hle := h.length_le
  have hpositive : 0 < self.packetLength.toNat := by
    by_contra hzero
    exact hne (BitVec.eq_of_toNat_eq (Nat.eq_zero_of_not_pos hzero))
  have hvalue : (UInt16.ofNat self.packetLength.toNat).toNat = self.packetLength.toNat :=
    UInt16.toNat_ofNat_of_lt' self.packetLength.isLt
  have hfield : 6 ≤ data.length → ¬lengthField data = 0 ∧
      (lengthField data).toNat = self.packetLength.toNat := by
    intro hsix
    rw [lengthField_front h hsix, hvalue]
    refine ⟨fun hzero => ?_, rfl⟩
    rw [hzero] at hvalue
    have : (0 : UInt16).toNat = 0 := rfl
    omega
  constructor
  · rintro ⟨hsix, -, hrest⟩
    obtain ⟨hzero, htoNat⟩ := hfield hsix
    rw [if_neg hzero, htoNat] at hrest
    omega
  · intro hall
    have hsix : 6 ≤ data.length := by omega
    obtain ⟨hzero, htoNat⟩ := hfield hsix
    refine ⟨hsix, (started_front h).resolve_left (by omega), ?_⟩
    rw [if_neg hzero, htoNat]
    omega

lemma answers_pieces {self : PESContent} (hbounded : self.Bounded) {front : List UInt8}
    {pieces : List (List UInt8)} (hsome : pieces ≠ []) (hpieces : ∀ piece ∈ pieces, piece ≠ [])
    (h : front ++ pieces.flatten = self.encode) :
    Transducer.answers receive (held front) (pieces.map (fun piece => (piece, false))) =
        List.replicate (pieces.length - 1) false ++ [true] ∧
      Transducer.final receive (held front) (pieces.map (fun piece => (piece, false))) =
        held self.encode := by
  induction pieces generalizing front with
  | nil => exact absurd rfl hsome
  | cons piece pieces ih =>
    have hpiece := hpieces piece List.mem_cons_self
    rw [List.flatten_cons, ← List.append_assoc] at h
    have hpart : front ++ piece <+: self.encode := ⟨pieces.flatten, h⟩
    have hstep : receive (held front) (piece, false) =
        (held (front ++ piece), decide (Complete (front ++ piece))) := by
      unfold receive
      rw [addData_held front hpiece]
      unfold collected
      rw [if_pos (started_front hpart)]
    rw [List.map_cons, Transducer.answers_cons, Transducer.final_cons, hstep]
    cases pieces with
    | nil =>
      rw [List.flatten_nil, List.append_nil] at h
      have hcomplete := (complete_iff_of_bounded hbounded hpart).mpr (congrArg List.length h)
      rw [decide_eq_true hcomplete, h]
      exact ⟨rfl, rfl⟩
    | cons next rest =>
      have hnot : ¬Complete (front ++ piece) := by
        intro hcomplete
        have hlength := (complete_iff_of_bounded hbounded hpart).mp hcomplete
        have hnext := List.length_pos_iff.mpr (hpieces next (by simp))
        have htotal := congrArg List.length h
        simp only [List.flatten_cons, List.length_append] at htotal hlength
        omega
      obtain ⟨hanswers, hfinal⟩ := ih (List.cons_ne_nil next rest)
        (fun p hp => hpieces p (List.mem_cons_of_mem piece hp)) h
      rw [decide_eq_false hnot]
      dsimp only
      rw [hanswers, hfinal]
      exact ⟨rfl, rfl⟩

/-- A bounded packet comes out of the accumulator as it was, however it is cut. -/
theorem bounded_assembled {content : PESContent} (hbounded : content.Bounded) (acc : PESAccumulator)
    {pieces : List (List UInt8)} (hpieces : ∀ piece ∈ pieces, piece ≠ [])
    (h : pieces.flatten = content.encode) :
    Transducer.answers receive acc (pieceInputs pieces) =
        List.replicate (pieces.length - 1) false ++ [true] ∧
      (Transducer.final receive acc (pieceInputs pieces)).getPacket {} =
        ({}, ⟨content.header, content.payload, true⟩, true) := by
  have hsix := content.six_le_length_head
  have hencode : content.encode = content.head ++ content.payload := rfl
  have hlength : content.head.length ≤ content.encode.length := by
    rw [hencode, List.length_append]
    exact Nat.le_add_right _ _
  cases pieces with
  | nil =>
    rw [← h, List.flatten_nil, List.length_nil] at hlength
    omega
  | cons first others =>
    have hfirst := receive_first acc (hpieces first List.mem_cons_self)
    have hall : [] ++ (first :: others).flatten = content.encode := h
    obtain ⟨hanswers, hfinal⟩ := answers_pieces hbounded (List.cons_ne_nil first others) hpieces hall
    rw [List.map_cons, Transducer.answers_cons, ← hfirst] at hanswers
    rw [List.map_cons, Transducer.final_cons, ← hfirst] at hfinal
    obtain ⟨hfits, hsize⟩ := content.headerFits content.payload
    have hcomplete := (complete_iff_of_bounded hbounded List.prefix_rfl).mpr rfl
    refine ⟨hanswers, ?_⟩
    unfold pieceInputs
    rw [Transducer.final_cons, hfinal, getPacket_held hcomplete hfits]
    rw [← hencode] at hsize
    rw [hsize, hencode, List.drop_left, headerFrom_head]

/-- A video packet with both timestamps, two bytes of stuffing and three of payload. -/
def sampleContent : PESContent where
  streamId := 0xE0
  packetLength := 18
  fields := some
    { flags := ⟨2, 1, true, false, true, false, 3, false, false, false, false, false, false⟩
      pts := 0x1FFFFFFFF
      dts := 0x123456789
      stuffing := [0xFF, 0xFF]
      fits := by decide }
  payload := [7, 8, 9]
  fields_iff := by decide

/-- Cut inside the length field and inside the PTS. -/
theorem bounded_assembled_sample :
    Transducer.answers receive {} (pieceInputs [[0, 0, 1, 0xE0, 0], [18, 0x9A, 0xC0, 12, 0x3F, 0xFF],
        [0xFF, 0xFF, 0xFF, 0x19, 0x8D, 0x15, 0xCF, 0x13, 0xFF, 0xFF, 7, 8, 9]]) =
        [false, false, true] ∧
      (Transducer.final receive {} (pieceInputs [[0, 0, 1, 0xE0, 0],
        [18, 0x9A, 0xC0, 12, 0x3F, 0xFF],
        [0xFF, 0xFF, 0xFF, 0x19, 0x8D, 0x15, 0xCF, 0x13, 0xFF, 0xFF, 7, 8, 9]])).getPacket {} =
        ({}, ⟨sampleContent.header, [7, 8, 9], true⟩, true) :=
  @bounded_assembled sampleContent ⟨by decide, by decide⟩ {} _ (by decide) (by decide)

end PESContent

end MinimalMpegTS
