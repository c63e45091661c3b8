import MinimalMpegTS.Proofs.PESAccumulation

/-!
# Fetching PES packets

What a consumer gets out of the accumulator. The rest of an unbounded packet is lost once its
beginning has been fetched, a bounded packet takes in all bytes appended before it is fetched, and a
packet whose length ends inside its header counts as complete and cannot be fetched.
-/

namespace MinimalMpegTS

namespace PESAccumulator

open PESParser

/-! ### Unbounded packets -/

/-- One piece for a consumer that fetches the packet as soon as there is one: the payloads it gets. -/
def consume (acc : PESAccumulator) (input : List UInt8 × Bool) :
    PESAccumulator × List (List UInt8) :=
  match acc.addData input.1 input.2 with
  | (acc, false) => (acc, [])
  | (acc, true) =>
    match acc.getPacket {} with
    | (acc, packet, true) => (acc, [packet.payload])
    | (acc, _, false) => (acc, [])

/-- The bytes of all payloads that the consumer gets. -/
def obtained (acc : PESAccumulator) (inputs : List (List UInt8 × Bool)) : List UInt8 :=
  (Transducer.answers consume acc inputs).flatten.flatten

lemma obtained_cons (acc : PESAccumulator) (input : List UInt8 × Bool)
    (inputs : List (List UInt8 × Bool)) : obtained acc (input :: inputs) =
      (consume acc input).2.flatten ++ obtained (consume acc input).1 inputs := by
  unfold obtained
  rw [Transducer.answers_cons, List.flatten_cons, List.flatten_append]

lemma obtained_append (acc : PESAccumulator) (xs ys : List (List UInt8 × Bool)) :
    obtained acc (xs ++ ys) =
      obtained acc xs ++ obtained (Transducer.final consume acc xs) ys := by
  induction xs generalizing acc with
  | nil => rfl
  | cons input xs ih =>
    rw [List.cons_append, obtained_cons, obtained_cons, ih, Transducer.final_cons, List.append_assoc]

lemma consume_first (acc : PESAccumulator) {piece : List UInt8} (hpiece : piece ≠ []) :
    consume acc (piece, true) = consume (held []) (piece, false) := by
  unfold consume
  dsimp only
  rw [addData_start acc hpiece, addData_held [] hpiece, List.nil_append]

lemma obtained_unsynced (pieces : List (List UInt8)) :
    obtained {} (pieces.map (fun piece => (piece, false))) = [] := by
  induction pieces with
  | nil => rfl
  | cons piece pieces ih =>
    have hstep : consume {} (piece, false) = ({}, []) := by
      unfold consume
      rw [addData_unsynced rfl]
    rw [List.map_cons, obtained_cons, hstep, ih]
    rfl

end PESAccumulator

namespace PESContent

open PESAccumulator PESParser

lemma complete_iff_of_unbounded {self : PESContent} (hzero : self.packetLength = 0)
    {data : List UInt8} (h : data <+: self.encode) :
    Complete data ↔ self.head.length ≤ data.length := by
  have hsix := self.six_le_length_head
  have hfield : 6 ≤ data.length → lengthField data = 0 := by
    intro hlength
    rw [lengthField_front h hlength, hzero]
    rfl
  constructor
  · rintro ⟨hlength, -, hfits⟩
    rw [if_pos (hfield hlength)] at hfits
    by_contra hshort
    have hhead : data <+: self.head :=
      List.prefix_of_prefix_length_le h (List.prefix_append _ _) (by omega)
    exact self.not_headerFits hhead (by omega) hfits
  · intro hlength
    obtain ⟨back, rfl⟩ := List.prefix_of_prefix_length_le (List.prefix_append self.head self.payload) h
      hlength
    refine ⟨by omega, (started_front h).resolve_left (by omega), ?_⟩
    rw [if_pos (hfield (by omega))]
    exact (self.headerFits back).1

lemma consume_held {self : PESContent} (hzero : self.packetLength = 0) {front piece : List UInt8}
    (hpiece : piece ≠ []) (h : front ++ piece <+: self.encode) :
    consume (held front) (piece, false) =
      if self.head.length ≤ (front ++ piece).length then
        ({}, [(front ++ piece).drop self.head.length])
      else (held (front ++ piece), []) := by
  have hcomplete := complete_iff_of_unbounded hzero h
  unfold consume
  dsimp only
  rw [addData_held front hpiece]
  unfold collected
  rw [if_pos (started_front h)]
  by_cases hlength : self.head.length ≤ (front ++ piece).length
  · obtain ⟨back, hback⟩ :=
      List.prefix_of_prefix_length_le (List.prefix_append self.head self.payload) h hlength
    have hfits := self.headerFits back
    rw [hback] at hfits
    rw [decide_eq_true (hcomplete.mpr hlength), if_pos hlength]
    dsimp only
    rw [getPacket_held (hcomplete.mpr hlength) hfits.1, hfits.2]
  · rw [decide_eq_false (fun hc => hlength (hcomplete.mp hc)), if_neg hlength]

lemma obtained_pieces {self : PESContent} (hzero : self.packetLength = 0) {front : List UInt8}
    (hfront : front.length < self.head.length) {pieces : List (List UInt8)}
    (hpieces : ∀ piece ∈ pieces, piece ≠ []) (h : front ++ pieces.flatten = self.encode) :
    obtained (held front) (pieces.map (fun piece => (piece, false))) = self.payload ↔
      (front ++ pieces.dropLast.flatten).length < self.head.length := by
  have hencode : self.encode = self.head ++ self.payload := rfl
  induction pieces generalizing front with
  | nil =>
    have hlength := congrArg List.length h
    rw [hencode, List.flatten_nil, List.append_nil, List.length_append] at hlength
    omega
  | cons piece pieces ih =>
    have hpiece := hpieces piece List.mem_cons_self
    have hrest : ∀ p ∈ pieces, p ≠ [] := fun p hp => hpieces p (List.mem_cons_of_mem piece hp)
    rw [List.flatten_cons, ← List.append_assoc] at h
    have hpart : front ++ piece <+: self.encode := ⟨pieces.flatten, h⟩
    rw [List.map_cons, obtained_cons, consume_held hzero hpiece hpart]
    have hwhole : (front ++ piece).length + pieces.flatten.length =
        self.head.length + self.payload.length :=
      List.length_append.symm.trans ((congrArg List.length h).trans List.length_append)
    by_cases hlength : self.head.length ≤ (front ++ piece).length
    · have hpayload : self.payload = (front ++ piece).drop self.head.length ++ pieces.flatten := by
        have hdrop := congrArg (List.drop self.head.length) h
        rw [hencode, List.drop_left, List.drop_append_of_le_length hlength] at hdrop
        exact hdrop.symm
      rw [if_pos hlength, obtained_unsynced, List.append_nil, List.flatten_singleton]
      cases pieces with
      | nil =>
        rw [List.flatten_nil, List.append_nil] at hpayload
        rw [List.dropLast_singleton, List.flatten_nil, List.append_nil]
        exact ⟨fun _ => hfront, fun _ => hpayload.symm⟩
      | cons next rest =>
        have hnext := List.length_pos_iff.mpr (hrest next List.mem_cons_self)
        constructor
        · intro heq
          have hlost := congrArg List.length (heq.trans hpayload)
          simp only [List.flatten_cons, List.length_append] at hlost
          omega
        · intro hshort
          rw [List.dropLast_cons_cons, List.flatten_cons, ← List.append_assoc,
            List.length_append] at hshort
          omega
    · have hsome : pieces ≠ [] := by
        rintro rfl
        rw [List.flatten_nil, List.length_nil] at hwhole
        omega
      obtain ⟨next, rest, rfl⟩ := List.exists_cons_of_ne_nil hsome
      rw [if_neg hlength]
      dsimp only
      rw [List.flatten_nil, List.nil_append, List.dropLast_cons_cons, List.flatten_cons,
        ← List.append_assoc]
      exact ih (Nat.lt_of_not_le hlength) hrest h

/-- A consumer gets the whole payload of an unbounded packet exactly if all pieces but the last end
inside the header. The next piece with the flag brings nothing but its own. -/
theorem unbounded_payload_iff {content : PESContent} (hzero : content.packetLength = 0)
    (acc : PESAccumulator) {pieces : List (List UInt8)} (hpieces : ∀ piece ∈ pieces, piece ≠ [])
    (h : pieces.flatten = content.encode) {next : List UInt8} (hnext : next ≠ []) :
    obtained acc (pieceInputs pieces ++ [(next, true)]) =
        content.payload ++ obtained {} [(next, true)] ↔
      pieces.dropLast.flatten.length < content.head.length := by
  have hsix := content.six_le_length_head
  have hlast : ∀ acc : PESAccumulator, obtained acc [(next, true)] = obtained {} [(next, true)] := by
    intro acc
    rw [obtained_cons, obtained_cons, consume_first acc hnext, consume_first {} hnext]
  rw [obtained_append, hlast, List.append_cancel_right_eq]
  cases pieces with
  | nil =>
    have hlength := congrArg List.length h
    unfold encode at hlength
    rw [List.flatten_nil, List.length_nil, List.length_append] at hlength
    omega
  | cons first others =>
    have hfirst := consume_first acc (hpieces first List.mem_cons_self)
    have hfront : ([] : List UInt8).length < content.head.length := by
      rw [List.length_nil]
      omega
    have hpieced := obtained_pieces hzero hfront hpieces h
    rw [List.map_cons, obtained_cons, ← hfirst, ← obtained_cons] at hpieced
    exact hpieced

/-- A video packet without timestamps and with two bytes of payload. -/
def shortContent : PESContent where
  streamId := 0xE0
  packetLength := 0
  fields := some
    { flags := ⟨2, 0, false, false, false, false, 0, false, false, false, false, false, false⟩
      pts := 0
      dts := 0
      stuffing := []
      fits := by decide }
  payload := [7, 8]
  fields_iff := by decide

/-- All of the payload in the piece that completes the header. -/
theorem unbounded_payload_whole :
    obtained {} (pieceInputs [[0, 0, 1, 0xE0], [0, 0, 0x80, 0, 0, 7, 8]] ++
        [([0, 0, 1, 0xE0, 0, 0], true)]) =
      shortContent.payload ++ obtained {} [([0, 0, 1, 0xE0, 0, 0], true)] :=
  (unbounded_payload_iff (by decide) {} (by decide) (by decide) (by decide)).mpr (by decide)

/-- One byte of payload in the next piece: it is lost. -/
theorem unbounded_payload_lost :
    shortContent.packetLength = 0 ∧
      ([[0, 0, 1, 0xE0, 0, 0, 0x80, 0, 0, 7], [8]] : List (List UInt8)).flatten = shortContent.encode ∧
      obtained {} (pieceInputs [[0, 0, 1, 0xE0, 0, 0, 0x80, 0, 0, 7], [8]] ++
          [([0, 0, 1, 0xE0, 0, 0], true)]) ≠
        shortContent.payload ++ obtained {} [([0, 0, 1, 0xE0, 0, 0], true)] := by
  decide

end PESContent

namespace PESAccumulator

open PESParser

/-! ### Runs of the accumulator -/

inductive Operation
  | addData (data : List UInt8) (payloadUnitStart : Bool)
  | getPacket (packet : PESPacket)
  | reset
  deriving DecidableEq

/-- One operation, with what it returns. -/
def operate (acc : PESAccumulator) : Operation → PESAccumulator × Bool
  | .addData data payloadUnitStart => acc.addData data payloadUnitStart
  | .getPacket packet => ((acc.getPacket packet).1, (acc.getPacket packet).2.2)
  | .reset => (acc.reset, false)

/-- The bytes since the last start of a packet. -/
def fed (bytes : List UInt8) : Operation → List UInt8
  | .addData data payloadUnitStart =>
    if data.isEmpty then bytes else if payloadUnitStart then data else bytes ++ data
  | _ => bytes

/-- The accumulator is idle, or holds the bytes since the last start of a packet. -/
def Holds (acc : PESAccumulator) (bytes : List UInt8) : Prop := acc = {} ∨ acc = held bytes

lemma holds_collected (bytes : List UInt8) : Holds (collected bytes) bytes := by
  unfold collected
  split
  · exact .inr rfl
  · exact .inl rfl

lemma holds_operate {acc : PESAccumulator} {bytes : List UInt8} (h : Holds acc bytes)
    (operation : Operation) : Holds (operate acc operation).1 (fed bytes operation) := by
  cases operation with
  | addData data payloadUnitStart =>
    show Holds (acc.addData data payloadUnitStart).1 _
    cases hdata : data with
    | nil => exact h
    | cons byte rest =>
      have hne : byte :: rest ≠ [] := List.cons_ne_nil byte rest
      cases payloadUnitStart with
      | true =>
        rw [addData_start acc hne]
        exact holds_collected _
      | false =>
        rcases h with rfl | rfl
        · rw [addData_unsynced rfl]
          exact .inl rfl
        · rw [addData_held bytes hne]
          exact holds_collected _
  | getPacket packet =>
    show Holds (acc.getPacket packet).1 bytes
    rcases h with rfl | rfl
    · exact .inl rfl
    · by_cases hcomplete : Complete bytes
      · by_cases hfits : HeaderFits bytes
        · rw [getPacket_held hcomplete hfits]
          exact .inl rfl
        · exact .inr (getPacket_rejected hfits packet).1
      · rw [getPacket_incomplete (decide_eq_false hcomplete)]
        exact .inr rfl
  | reset => exact .inl rfl

/-- The run lemma: what the accumulator holds after any operations. -/
theorem holds_run {acc : PESAccumulator} {bytes : List UInt8} (h : Holds acc bytes)
    (operations : List Operation) :
    Holds (Transducer.final operate acc operations) (operations.foldl fed bytes) := by
  induction operations generalizing acc bytes with
  | nil => exact h
  | cons operation operations ih => exact ih (holds_operate h operation)

/-! ### Announced packets -/

/-- A packet that is announced as complete can be fetched. -/
def Retrievable (acc : PESAccumulator) : Prop :=
  acc.isComplete = true → ∀ packet, (acc.getPacket packet).2.2 = true ∧ (acc.getPacket packet).1 = {}

/-- All bytes of a bounded packet are there, and they are too few for the header. -/
def EndsInHeader (bytes : List UInt8) : Prop :=
  6 ≤ bytes.length ∧ bytes.take 3 = [0, 0, 1] ∧ lengthField bytes ≠ 0 ∧
    6 + (lengthField bytes).toNat ≤ bytes.length ∧ ¬HeaderFits bytes

/-- The operation does not bring all bytes of a packet that ends inside its header. -/
def BringsHeader (acc : PESAccumulator) : Operation → Prop
  | .addData data payloadUnitStart =>
    data ≠ [] → (payloadUnitStart = true ∨ acc.synced = true) →
      ¬EndsInHeader (if payloadUnitStart then data else acc.buffer ++ data)
  | _ => True

lemma retrievable_idle : Retrievable {} := by
  intro h
  cases h

lemma retrievable_held_iff (bytes : List UInt8) :
    Retrievable (held bytes) ↔ ¬EndsInHeader bytes := by
  constructor
  · rintro h ⟨hsix, hcode, hne, hlength, hnot⟩
    have hcomplete : Complete bytes := ⟨hsix, hcode, by rwa [if_neg hne]⟩
    have hfetched := (h (decide_eq_true hcomplete) {}).1
    rw [(getPacket_rejected hnot {}).2] at hfetched
    cases hfetched
  · intro h hflag packet
    have hcomplete : Complete bytes := of_decide_eq_true hflag
    have hfits : HeaderFits bytes := by
      obtain ⟨hsix, hcode, hrest⟩ := hcomplete
      by_cases hzero : lengthField bytes = 0
      · rwa [if_pos hzero] at hrest
      · rw [if_neg hzero] at hrest
        by_contra hnot
        exact h ⟨hsix, hcode, hzero, hrest, hnot⟩
    rw [getPacket_held hcomplete hfits]
    exact ⟨rfl, rfl⟩

lemma retrievable_collected_iff (bytes : List UInt8) :
    Retrievable (collected bytes) ↔ ¬EndsInHeader bytes := by
  unfold collected
  split
  · exact retrievable_held_iff bytes
  · next hstarted =>
    constructor
    · rintro - ⟨-, hcode, -⟩
      exact hstarted (.inr hcode)
    · intro _
      exact retrievable_idle

lemma retrievable_operate_iff {acc : PESAccumulator} (hholds : ∃ bytes, Holds acc bytes)
    (h : Retrievable acc) (operation : Operation) :
    Retrievable (operate acc operation).1 ↔ BringsHeader acc operation := by
  obtain ⟨bytes, hbytes⟩ := hholds
  cases operation with
  | addData data payloadUnitStart =>
    show Retrievable (acc.addData data payloadUnitStart).1 ↔ _
    cases hdata : data with
    | nil => exact ⟨fun _ hne => absurd rfl hne, fun _ => h⟩
    | cons byte rest =>
      have hne : byte :: rest ≠ [] := List.cons_ne_nil byte rest
      cases payloadUnitStart with
      | true =>
        rw [addData_start acc hne, retrievable_collected_iff]
        exact ⟨fun hnot _ _ => hnot, fun hbrings => hbrings hne (.inl rfl)⟩
      | false =>
        rcases hbytes with rfl | rfl
        · rw [addData_unsynced rfl]
          refine ⟨fun _ _ hsynced => ?_, fun _ => h⟩
          rcases hsynced with hsynced | hsynced <;> cases hsynced
        · rw [addData_held bytes hne, retrievable_collected_iff]
          exact ⟨fun hnot _ _ => hnot, fun hbrings => hbrings hne (.inr rfl)⟩
  | getPacket packet =>
    refine ⟨fun _ => trivial, fun _ => ?_⟩
    show Retrievable (acc.getPacket packet).1
    by_cases hcomplete : acc.isComplete = true
    · rw [(h hcomplete packet).2]
      exact retrievable_idle
    · rw [getPacket_incomplete (Bool.not_eq_true _ ▸ hcomplete)]
      exact h
  | reset => exact ⟨fun _ => trivial, fun _ => retrievable_idle⟩

/-- In every state of a run the packet announced can be fetched, exactly if no operation brings all
bytes of a packet that ends inside its header. -/
theorem announced_retrievable_iff (operations : List Operation) :
    (∀ front, front <+: operations → Retrievable (Transducer.final operate {} front)) ↔
      Transducer.Along operate BringsHeader {} operations := by
  apply Transducer.forall_prefix_iff_along (fun acc => ∃ bytes, Holds acc bytes) Retrievable
  · rintro acc operation ⟨bytes, hbytes⟩
    exact ⟨_, holds_operate hbytes operation⟩
  · intro acc operation hholds h
    exact retrievable_operate_iff hholds h operation
  · exact ⟨[], .inl rfl⟩
  · exact retrievable_idle

/-- A packet of one byte behind its length field, complete and not to be fetched. -/
theorem announced_not_retrievable :
    ((operate {} (.addData [0, 0, 1, 0xE0, 0, 1, 0xFF] true)).1.isComplete = true) ∧
      ((operate {} (.addData [0, 0, 1, 0xE0, 0, 1, 0xFF] true)).1.getPacket {}).2.2 = false := by
  decide

/-! ### Foreign bytes -/

lemma packetLength_headerFrom (header : PESHeader) (data : List UInt8) :
    (headerFrom header data).packetLength = lengthField data := by
  unfold headerFrom
  split <;> rfl

/-- A packet that was fetched is as long as it says, exactly if just as many bytes came with it. -/
theorem no_foreign_bytes_iff {operations : List Operation} {acc : PESAccumulator}
    {packet found : PESPacket}
    (h : (Transducer.final operate {} operations).getPacket packet = (acc, found, true)) :
    found.header.getHeaderSize + found.payload.length = 6 + found.header.packetLength.toNat ↔
      (operations.foldl fed []).length = 6 + (lengthField (operations.foldl fed [])).toNat := by
  have hidle : Holds {} [] := .inl rfl
  rcases holds_run hidle operations with hstate | hstate
  · rw [hstate] at h
    cases h
  · rw [hstate] at h
    generalize operations.foldl fed [] = bytes at h
    by_cases hcomplete : Complete bytes
    swap
    · rw [getPacket_incomplete (decide_eq_false hcomplete)] at h
      cases h
    by_cases hfits : HeaderFits bytes
    swap
    · have hrejected := (getPacket_rejected hfits packet).2
      rw [h] at hrejected
      cases hrejected
    have hsize := hfits.headerSize_le
    rw [getPacket_held hcomplete hfits] at h
    obtain ⟨-, rfl⟩ := (Prod.mk.inj h).imp_right (fun h => (Prod.mk.inj h).1)
    rw [getHeaderSize_headerFrom, packetLength_headerFrom, List.length_drop,
      Nat.add_sub_of_le hsize]

/-- One byte of payload, as announced. -/
theorem no_foreign_bytes_sample :
    (headerFrom {} [0, 0, 1, 0xBF, 0, 1, 7]).getHeaderSize + ([7] : List UInt8).length =
      6 + (headerFrom {} [0, 0, 1, 0xBF, 0, 1, 7]).packetLength.toNat := by
  have h : (Transducer.final operate {} [.addData [0, 0, 1, 0xBF, 0] true,
      .addData [1, 7] false]).getPacket {} =
      ({}, ⟨headerFrom {} [0, 0, 1, 0xBF, 0, 1, 7], [7], true⟩, true) := by decide
  exact (no_foreign_bytes_iff h).mpr (by decide)

/-- Two bytes where the packet announces one. -/
theorem foreign_byte : ∃ found,
    (Transducer.final operate {} [.addData [0, 0, 1, 0xBF, 0, 1, 7] true, .addData [8] false]).getPacket
        {} = ({}, found, true) ∧ found.header.packetLength ≠ 0 ∧
      found.header.getHeaderSize + found.payload.length ≠ 6 + found.header.packetLength.toNat :=
  ⟨_, rfl, by decide, by decide⟩

end PESAccumulator

end MinimalMpegTS
