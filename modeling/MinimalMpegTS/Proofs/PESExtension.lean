import MinimalMpegTS.Proofs.PESRetrieval

/-!
# Bytes behind a PES header

A header that has been accepted is read off the same bytes however many follow. An unbounded packet
that was reported complete therefore stays complete, and what is fetched later has the same header
and all bytes behind it.
-/

namespace MinimalMpegTS

namespace PESParser

lemma parseHeader_append {header parsed : PESHeader} {front : List UInt8}
    (h : parseHeader header front = some (parsed, true)) (back : List UInt8) :
    parseHeader header (front ++ back) = some (parsed, true) := by
  obtain ⟨hfits, rfl⟩ := parseHeader_accepted h
  rw [parseHeader_of_fits (hfits.append back), hfits.headerFrom_append]

end PESParser

namespace PESAccumulator

open PESParser

lemma held_of_reported {acc acc' : PESAccumulator} {bytes data : List UInt8}
    {payloadUnitStart : Bool} (h : Holds acc bytes)
    (hreport : acc.addData data payloadUnitStart = (acc', true)) :
    ∃ front, acc' = held front ∧ Complete front := by
  have hcollected : ∀ front, (collected front, decide (Complete front)) = (acc', true) →
      ∃ front, acc' = held front ∧ Complete front := by
    intro front heq
    obtain ⟨hacc, hcomplete⟩ := Prod.mk.inj heq
    have hwhole : Complete front := of_decide_eq_true hcomplete
    refine ⟨front, ?_, hwhole⟩
    rw [← hacc]
    exact if_pos (.inr hwhole.2.1)
  cases hdata : data with
  | nil =>
    rw [hdata] at hreport
    cases hreport
  | cons byte rest =>
    have hne : data ≠ [] := by
      rw [hdata]
      exact List.cons_ne_nil byte rest
    cases payloadUnitStart with
    | true => exact hcollected data (by rw [← addData_start acc hne, hreport])
    | false =>
      rcases h with rfl | rfl
      · rw [addData_unsynced rfl] at hreport
        cases hreport
      · exact hcollected (bytes ++ data) (by rw [← addData_held bytes hne, hreport])

lemma receive_complete {front : List UInt8} (h : Complete front) (piece : List UInt8) :
    receive (held front) (piece, false) = (held (front ++ piece), !piece.isEmpty) := by
  unfold receive
  cases hpiece : piece with
  | nil =>
    rw [List.append_nil]
    rfl
  | cons byte rest =>
    have hwhole : Complete (front ++ byte :: rest) := h.append _
    rw [addData_held front (List.cons_ne_nil byte rest), decide_eq_true hwhole]
    exact congrArg (·, true) (if_pos (.inr hwhole.2.1))

lemma receive_pieces {front : List UInt8} (h : Complete front) (pieces : List (List UInt8)) :
    Transducer.answers receive (held front) (pieces.map (fun piece => (piece, false))) =
        pieces.map (fun piece => !piece.isEmpty) ∧
      Transducer.final receive (held front) (pieces.map (fun piece => (piece, false))) =
        held (front ++ pieces.flatten) := by
  induction pieces generalizing front with
  | nil =>
    rw [List.flatten_nil, List.append_nil]
    exact ⟨rfl, rfl⟩
  | cons piece pieces ih =>
    obtain ⟨hanswers, hfinal⟩ := ih (h.append piece)
    rw [List.map_cons, Transducer.answers_cons, Transducer.final_cons, receive_complete h]
    dsimp only
    rw [hanswers, hfinal, List.flatten_cons, List.append_assoc]
    exact ⟨rfl, rfl⟩

lemma getPacket_pieces {front : List UInt8} (h : Complete front) (hzero : lengthField front = 0)
    (packet : PESPacket) (pieces : List (List UInt8)) :
    ∃ header, parseHeader packet.header front = some (header, true) ∧
      (held (front ++ pieces.flatten)).getPacket packet =
        ({}, ⟨header, (front ++ pieces.flatten).drop header.getHeaderSize, true⟩, true) := by
  have hfits : HeaderFits front := by
    have hrest := h.2.2
    rwa [if_pos hzero] at hrest
  refine ⟨headerFrom packet.header front, parseHeader_of_fits hfits packet.header, ?_⟩
  rw [getPacket_held (h.append _) (hfits.append _), hfits.headerFrom_append, hfits.headerSize_append,
    getHeaderSize_headerFrom]

/-- Accepted headers are stable under extension. Once an unbounded packet has been reported complete,
pieces without the flag keep it complete, and the packet fetched has the same header and all bytes
behind it. -/
theorem unbounded_extension :
    (∀ header parsed front, parseHeader header front = some (parsed, true) →
      ∀ back, parseHeader header (front ++ back) = some (parsed, true)) ∧
    ∀ operations data payloadUnitStart acc,
      (Transducer.final operate {} operations).addData data payloadUnitStart = (acc, true) →
      lengthField acc.buffer = 0 → ∀ pieces : List (List UInt8), ∃ acc',
        Transducer.final receive acc (pieces.map (fun piece => (piece, false))) = acc' ∧
        Transducer.answers receive acc (pieces.map (fun piece => (piece, false))) =
          pieces.map (fun piece => !piece.isEmpty) ∧
        acc'.isComplete = true ∧ acc'.buffer = acc.buffer ++ pieces.flatten ∧
        ∀ packet, ∃ header, parseHeader packet.header acc.buffer = some (header, true) ∧
          acc'.getPacket packet =
            ({}, ⟨header, (acc.buffer ++ pieces.flatten).drop header.getHeaderSize, true⟩, true) := by
  refine ⟨fun _ _ _ h back => parseHeader_append h back, ?_⟩
  intro operations data payloadUnitStart acc hreport hzero pieces
  have hidle : Holds {} [] := .inl rfl
  obtain ⟨front, rfl, hcomplete⟩ := held_of_reported (holds_run hidle operations) hreport
  obtain ⟨hanswers, hfinal⟩ := receive_pieces hcomplete pieces
  refine ⟨held (front ++ pieces.flatten), hfinal, hanswers, ?_, rfl, ?_⟩
  · exact decide_eq_true (hcomplete.append _)
  · intro packet
    exact getPacket_pieces hcomplete hzero packet pieces

/-- A header in two pieces, and three more pieces behind it, one of them empty. -/
theorem unbounded_extension_sample : ∃ acc',
    Transducer.final receive (held [0, 0, 1, 0xE0, 0, 0, 0x80, 0, 0])
        [([7], false), ([], false), ([8, 9], false)] = acc' ∧
      Transducer.answers receive (held [0, 0, 1, 0xE0, 0, 0, 0x80, 0, 0])
        [([7], false), ([], false), ([8, 9], false)] = [true, false, true] ∧
      acc'.isComplete = true ∧ acc'.buffer = [0, 0, 1, 0xE0, 0, 0, 0x80, 0, 0, 7, 8, 9] ∧
      ∀ packet, ∃ header,
        parseHeader packet.header [0, 0, 1, 0xE0, 0, 0, 0x80, 0, 0] = some (header, true) ∧
        acc'.getPacket packet = ({}, ⟨header, ([0, 0, 1, 0xE0, 0, 0, 0x80, 0, 0, 7, 8, 9] :
          List UInt8).drop header.getHeaderSize, true⟩, true) := by
  have hreport : (Transducer.final operate {} [.addData [0, 0, 1, 0xE0] true]).addData
      [0, 0, 0x80, 0, 0] false = (held [0, 0, 1, 0xE0, 0, 0, 0x80, 0, 0], true) := by decide
  exact unbounded_extension.2 _ _ _ _ hreport (by decide) [[7], [], [8, 9]]

end PESAccumulator

end MinimalMpegTS
