import MinimalMpegTS.Model.Packet
import MinimalMpegTS.Proofs.Fields

/-!
# The layout of a packet

The packets that `parse` accepts, as conditions on the values of their bytes, and the places of the
parts of an accepted packet. All reads lie within the packet.
-/

namespace MinimalMpegTS

namespace TSPacket

/-- The value of the byte at a position. -/
def value (data : List UInt8) (position : Nat) : Nat := (data.getD position 0).toNat

/-- A bit of the byte at a position, counted from the lowest one. -/
def bit (data : List UInt8) (position k : Nat) : Bool := (value data position).testBit k

/-- The size of the fields between the flags and the private data. -/
def optionalSize (data : List UInt8) : Nat :=
  (if bit data 5 4 then 6 else 0) + (if bit data 5 3 then 6 else 0) + if bit data 5 2 then 1 else 0

/-- The length of the private data, from the byte in front of it. -/
def privateLength (data : List UInt8) : Nat := value data (6 + optionalSize data)

/-- The adaptation field is empty, or lies within the packet and holds what its flags announce. -/
def FieldFits (data : List UInt8) : Prop :=
  value data 4 = 0 ∨ value data 4 ≤ 183 ∧
    1 + optionalSize data + (if bit data 5 1 then 1 + privateLength data else 0) ≤ value data 4

/-- The packets that are accepted. -/
structure WellFormed (data : List UInt8) : Prop where
  sync : value data 0 = 0x47
  noError : bit data 1 7 = false
  control : value data 3 / 16 % 4 ≠ 0
  field : bit data 3 5 = true → FieldFits data

/-- The payload starts behind the header and the adaptation field. -/
def payloadStart (data : List UInt8) : Nat := if bit data 3 5 then 5 + value data 4 else 4

/-- There is an adaptation field with private data. -/
def hasPrivate (data : List UInt8) : Bool := bit data 3 5 && value data 4 != 0 && bit data 5 1

def headerFrom (data : List UInt8) : TSPacketHeader where
  syncByte := data.getD 0 0
  transportErrorIndicator := bit data 1 7
  payloadUnitStart := bit data 1 6
  transportPriority := bit data 1 5
  pid := UInt16.ofNat (value data 1 % 32 * 256 + value data 2)
  scramblingControl := UInt8.ofNat (value data 3 / 64)
  adaptationControl := .ofBits (UInt8.ofNat (value data 3 / 16 % 4))
  continuityCounter := UInt8.ofNat (value data 3 % 16)

/-- The length and the flags of an adaptation field that is not empty. -/
def flagsFrom (data : List UInt8) : TSAdaptationField where
  length := data.getD 4 0
  discontinuityIndicator := bit data 5 7
  randomAccessIndicator := bit data 5 6
  esPriorityIndicator := bit data 5 5
  pcrFlag := bit data 5 4
  opcrFlag := bit data 5 3
  splicingPointFlag := bit data 5 2
  transportPrivateDataFlag := bit data 5 1
  adaptationExtensionFlag := bit data 5 0

/-- An empty adaptation field has the flags of a fresh object. -/
def fieldFrom (data : List UInt8) : TSAdaptationField :=
  if value data 4 = 0 then {}
  else if bit data 5 1 then
    { flagsFrom data with
      privateDataLength := data.getD (6 + optionalSize data) 0
      privateData := some (data.drop (7 + optionalSize data)) }
  else flagsFrom data

/-- The object that an accepted packet is parsed into. -/
def packetFrom (data : List UInt8) : TSPacket where
  header := headerFrom data
  adaptationField := if bit data 3 5 then fieldFrom data else {}
  payloadData := if bit data 3 4 then some (data.drop (payloadStart data)) else none
  payloadSize := if bit data 3 4 then mpegtsPacketSize - payloadStart data else 0
  hasAdaptation := bit data 3 5
  hasPayload := bit data 3 4
  valid := true

/-- The length and the flags of an adaptation field, in an object that has been used before. -/
def flagsOver (field : TSAdaptationField) (data : List UInt8) : TSAdaptationField :=
  { field with
    length := data.getD 4 0
    discontinuityIndicator := bit data 5 7
    randomAccessIndicator := bit data 5 6
    esPriorityIndicator := bit data 5 5
    pcrFlag := bit data 5 4
    opcrFlag := bit data 5 3
    splicingPointFlag := bit data 5 2
    transportPrivateDataFlag := bit data 5 1
    adaptationExtensionFlag := bit data 5 0 }

/-- What an adaptation field leaves in an object that has been used before. -/
def fieldOver (field : TSAdaptationField) (data : List UInt8) : TSAdaptationField :=
  if value data 4 = 0 then { field with length := data.getD 4 0 }
  else if bit data 5 1 then
    { flagsOver field data with
      privateDataLength := data.getD (6 + optionalSize data) 0
      privateData := some (data.drop (7 + optionalSize data)) }
  else flagsOver field data

/-- What an accepted packet leaves in an object that has been used before. -/
def packetOver (self : TSPacket) (data : List UInt8) : TSPacket where
  header := headerFrom data
  adaptationField :=
    if bit data 3 5 then fieldOver self.adaptationField data else self.adaptationField
  payloadData := if bit data 3 4 then some (data.drop (payloadStart data)) else self.payloadData
  payloadSize := if bit data 3 4 then mpegtsPacketSize - payloadStart data else self.payloadSize
  hasAdaptation := bit data 3 5 || self.hasAdaptation
  hasPayload := bit data 3 4 || self.hasPayload
  valid := true

lemma fieldOver_fresh (data : List UInt8) : fieldOver {} data = fieldFrom data := by
  unfold fieldOver fieldFrom
  by_cases hempty : value data 4 = 0
  · have hbyte : data.getD 4 0 = 0 := UInt8.toNat_inj.mp hempty
    rw [if_pos hempty, if_pos hempty, hbyte]
  · rw [if_neg hempty, if_neg hempty]
    rfl

lemma packetOver_fresh (data : List UInt8) : packetOver {} data = packetFrom data := by
  unfold packetOver packetFrom
  rw [fieldOver_fresh, Bool.or_false, Bool.or_false]

/-! ### Bits -/

lemma bitAt_eq (byte : UInt8) {k : UInt8} (hk : k < 8) : bitAt byte k = byte.toNat.testBit k.toNat := by
  have hk : k.toNat < 8 := hk
  unfold bitAt Nat.testBit
  rw [Bool.eq_iff_iff, bne_iff_ne, bne_iff_ne, ne_eq, ne_eq, ← UInt8.toNat_inj, UInt8.toNat_and,
    UInt8.toNat_shiftRight, Nat.mod_eq_of_lt hk, Nat.and_comm]
  rfl

private lemma control_ofNat : ∀ n < 256,
    announcesAdaptation (.ofBits (UInt8.ofNat (n / 16 % 4))) = n.testBit 5 ∧
      announcesPayload (.ofBits (UInt8.ofNat (n / 16 % 4))) = n.testBit 4 ∧
      ((AdaptationFieldControl.ofBits (UInt8.ofNat (n / 16 % 4)) != .reserved) = true ↔
        n / 16 % 4 ≠ 0) := by
  decide +kernel

lemma announcesAdaptation_from (data : List UInt8) :
    announcesAdaptation (headerFrom data).adaptationControl = bit data 3 5 :=
  (control_ofNat (value data 3) (UInt8.toNat_lt _)).1

lemma announcesPayload_from (data : List UInt8) :
    announcesPayload (headerFrom data).adaptationControl = bit data 3 4 :=
  (control_ofNat (value data 3) (UInt8.toNat_lt _)).2.1

lemma control_from (data : List UInt8) :
    ((headerFrom data).adaptationControl != .reserved) = true ↔ value data 3 / 16 % 4 ≠ 0 :=
  (control_ofNat (value data 3) (UInt8.toNat_lt _)).2.2

lemma value_lt (data : List UInt8) (position : Nat) : value data position < 256 :=
  (data.getD position 0).toNat_lt

lemma getElem?_position {data : List UInt8} (hdata : data.length = mpegtsPacketSize) {position : Nat}
    (h : position < mpegtsPacketSize) : data[position]? = some (data.getD position 0) :=
  getElem?_getD (by rwa [hdata])

lemma bitAt_getD (data : List UInt8) (position : Nat) {k : UInt8} (hk : k < 8) :
    bitAt (data.getD position 0) k = bit data position k.toNat := bitAt_eq _ hk

/-! ### The header -/

lemma parseHeader_noSync {data : List UInt8} (hdata : data.length = mpegtsPacketSize)
    (hsync : value data 0 ≠ 0x47) (self : TSPacket) :
    ∃ packet, parseHeader self data = some (packet, false) := by
  have hbyte : data.getD 0 0 ≠ mpegtsSyncByte := fun h => hsync (congrArg UInt8.toNat h)
  unfold parseHeader
  rw [getElem?_position hdata (by decide), Option.bind_eq_bind, Option.bind_some]
  exact ⟨_, if_pos hbyte⟩

lemma parseHeader_sync {data : List UInt8} (hdata : data.length = mpegtsPacketSize)
    (hsync : value data 0 = 0x47) (self : TSPacket) :
    parseHeader self data = some ({ self with header := headerFrom data },
      !bit data 1 7 && (headerFrom data).adaptationControl != .reserved) := by
  have hbyte : data.getD 0 0 = mpegtsSyncByte := UInt8.toNat_inj.mp hsync
  have hpid : ((data.getD 1 0 &&& 0x1F).toUInt16 <<< 8) ||| (data.getD 2 0).toUInt16 =
      UInt16.ofNat (value data 1 % 32 * 256 + value data 2) := by
    have hmask : (0x1F : UInt8).toNat = 2 ^ 5 - 1 := rfl
    have hlow := value_lt data 2
    have hlt : value data 1 % 32 * 256 + value data 2 < UInt16.size := by
      unfold UInt16.size
      omega
    apply UInt16.toNat_inj.mp
    rw [UInt16.toNat_ofNat_of_lt' hlt]
    exact PSIParser.toNat_fieldOf hmask (data.getD 1 0) (data.getD 2 0)
  have hscrambling : (data.getD 3 0 >>> 6) &&& 0x03 = UInt8.ofNat (value data 3 / 64) := by
    have hmask : (0x03 : UInt8).toNat = 2 ^ 2 - 1 := rfl
    have hvalue := value_lt data 3
    have hlt : value data 3 / 64 < UInt8.size := by
      unfold UInt8.size
      omega
    apply UInt8.toNat_inj.mp
    rw [toNat_and_mask hmask, UInt8.toNat_shiftRight, Nat.shiftRight_eq_div_pow,
      UInt8.toNat_ofNat_of_lt' hlt]
    show value data 3 / 64 % 4 = value data 3 / 64
    omega
  have hcontrol : (data.getD 3 0 >>> 4) &&& 0x03 = UInt8.ofNat (value data 3 / 16 % 4) := by
    have hmask : (0x03 : UInt8).toNat = 2 ^ 2 - 1 := rfl
    have hlt : value data 3 / 16 % 4 < UInt8.size := by
      unfold UInt8.size
      omega
    apply UInt8.toNat_inj.mp
    rw [toNat_and_mask hmask, UInt8.toNat_shiftRight, Nat.shiftRight_eq_div_pow,
      UInt8.toNat_ofNat_of_lt' hlt]
    rfl
  have hcounter : data.getD 3 0 &&& 0x0F = UInt8.ofNat (value data 3 % 16) := by
    have hmask : (0x0F : UInt8).toNat = 2 ^ 4 - 1 := rfl
    have hlt : value data 3 % 16 < UInt8.size := by
      unfold UInt8.size
      omega
    apply UInt8.toNat_inj.mp
    rw [toNat_and_mask hmask, UInt8.toNat_ofNat_of_lt' hlt]
    rfl
  unfold parseHeader
  simp only [getElem?_position hdata (by decide : 0 < mpegtsPacketSize),
    getElem?_position hdata (by decide : 1 < mpegtsPacketSize),
    getElem?_position hdata (by decide : 2 < mpegtsPacketSize),
    getElem?_position hdata (by decide : 3 < mpegtsPacketSize), Option.bind_eq_bind, Option.bind_some]
  rw [if_neg (not_not_intro hbyte), hpid, hscrambling, hcontrol, hcounter]
  simp only [bitAt_getD data 1 (by decide : (7 : UInt8) < 8),
    bitAt_getD data 1 (by decide : (6 : UInt8) < 8), bitAt_getD data 1 (by decide : (5 : UInt8) < 8)]
  rfl

/-! ### The adaptation field -/

private lemma exceeds_iff (pcr opcr splice : Bool) {afterPcr afterOpcr afterSplice fieldEnd : Nat}
    (hpcr : afterPcr = if pcr then 6 + 6 else 6)
    (hopcr : afterOpcr = if opcr then afterPcr + 6 else afterPcr)
    (hsplice : afterSplice = if splice then afterOpcr + 1 else afterOpcr) (hend : 6 ≤ fieldEnd) :
    (pcr && decide (fieldEnd < afterPcr)) = true ∨ (opcr && decide (fieldEnd < afterOpcr)) = true ∨
      (splice && decide (fieldEnd < afterSplice)) = true ↔ fieldEnd < afterSplice := by
  subst hpcr hopcr hsplice
  cases pcr <;> cases opcr <;> cases splice <;> simp <;> omega

private lemma afterSplice_eq (data : List UInt8) {afterPcr afterOpcr afterSplice : Nat}
    (hpcr : afterPcr = if bit data 5 4 then 6 + 6 else 6)
    (hopcr : afterOpcr = if bit data 5 3 then afterPcr + 6 else afterPcr)
    (hsplice : afterSplice = if bit data 5 2 then afterOpcr + 1 else afterOpcr) :
    afterSplice = 6 + optionalSize data := by
  subst hpcr hopcr hsplice
  unfold optionalSize
  cases bit data 5 4 <;> cases bit data 5 3 <;> cases bit data 5 2 <;> rfl

/-- The result of parsing an adaptation field into an object. -/
def ParsesField (data : List UInt8) (self : TSPacket) (result : Option (TSPacket × Bool)) : Prop :=
  ∃ packet ok, result = some (packet, ok) ∧ (ok = true ↔ FieldFits data) ∧
    (ok = true → packet = { self with adaptationField := fieldOver self.adaptationField data })

lemma ParsesField.reject {data : List UInt8} (h : ¬FieldFits data) (self rejected : TSPacket) :
    ParsesField data self (some (rejected, false)) := by
  refine ⟨rejected, false, rfl, iff_of_false Bool.false_ne_true h, ?_⟩
  intro hok
  exact absurd hok Bool.false_ne_true

lemma ParsesField.accept {data : List UInt8} (h : FieldFits data) {self accepted : TSPacket}
    (haccepted : accepted = { self with adaptationField := fieldOver self.adaptationField data }) :
    ParsesField data self (some (accepted, true)) :=
  ⟨accepted, true, rfl, iff_of_true rfl h, fun _ => haccepted⟩

lemma parsesField_private {data : List UInt8} (hdata : data.length = mpegtsPacketSize)
    (self : TSPacket) (hempty : value data 4 ≠ 0) (hfits : value data 4 ≤ 183)
    (hroom : 1 + optionalSize data ≤ value data 4) {afterSplice fieldEnd : Nat}
    (hafter : afterSplice = 6 + optionalSize data) (hend : fieldEnd = 5 + value data 4) :
    ParsesField data self
      (if bit data 5 1 then
        if fieldEnd < afterSplice + 1 then
          some ({ self with adaptationField := flagsOver self.adaptationField data }, false)
        else data[afterSplice]?.bind fun privateLength =>
          if fieldEnd < afterSplice + 1 + privateLength.toNat then
            some ({ self with adaptationField :=
              { flagsOver self.adaptationField data with privateDataLength := privateLength } }, false)
          else
            some ({ self with adaptationField :=
              { flagsOver self.adaptationField data with
                privateDataLength := privateLength
                privateData := some (data.drop (afterSplice + 1)) } }, true)
      else some ({ self with adaptationField := flagsOver self.adaptationField data }, true)) := by
  subst hafter hend
  by_cases hprivate : bit data 5 1 = true
  · have hshort : value data 4 < 1 + optionalSize data + (1 + privateLength data) → ¬FieldFits data := by
      rintro hlt (hnil | ⟨_, hall⟩)
      · exact hempty hnil
      · rw [if_pos hprivate] at hall
        omega
    rw [if_pos hprivate]
    split
    · exact .reject (hshort (by omega)) self _
    next hlength =>
    have hread : data[6 + optionalSize data]? = some (data.getD (6 + optionalSize data) 0) := by
      apply getElem?_position hdata
      unfold mpegtsPacketSize
      omega
    have hvalue : (data.getD (6 + optionalSize data) 0).toNat = privateLength data := rfl
    rw [hread, Option.bind_some, hvalue]
    split
    · exact .reject (hshort (by omega)) self _
    next hbytes =>
    refine .accept (.inr ⟨hfits, ?_⟩) ?_
    · rw [if_pos hprivate]
      omega
    · have hstart : 6 + optionalSize data + 1 = 7 + optionalSize data := by omega
      unfold fieldOver
      rw [if_neg hempty, if_pos hprivate, hstart]
  · rw [if_neg hprivate]
    refine .accept (.inr ⟨hfits, ?_⟩) ?_
    · rw [if_neg hprivate]
      omega
    · unfold fieldOver
      rw [if_neg hempty, if_neg hprivate]

lemma parsesField {data : List UInt8} (hdata : data.length = mpegtsPacketSize) (self : TSPacket) :
    ParsesField data self (parseAdaptationField self data 4) := by
  unfold parseAdaptationField
  rw [if_neg (by decide), getElem?_position hdata (by decide), Option.bind_eq_bind,
    Option.bind_some]
  extract_lets fresh field fieldEnd afterFlags
  have hzero : data.getD 4 0 = 0 ↔ value data 4 = 0 := UInt8.toNat_inj.symm
  have hfieldEnd : fieldEnd = 5 + value data 4 := rfl
  by_cases hempty : value data 4 = 0
  · rw [if_pos (hzero.mpr hempty)]
    have hfield : field = fieldOver self.adaptationField data := by
      unfold fieldOver
      rw [if_pos hempty]
    exact .accept (.inl hempty) (by rw [hfield])
  rw [if_neg (fun h => hempty (hzero.mp h))]
  by_cases hlong : mpegtsPacketSize < fieldEnd
  · rw [if_pos hlong]
    unfold mpegtsPacketSize at hlong
    apply ParsesField.reject
    rintro (hnil | ⟨hle, _⟩)
    · exact hempty hnil
    · omega
  rw [if_neg hlong, getElem?_position hdata (by decide), Option.bind_some]
  have hbit : ∀ k : UInt8, k < 8 → bitAt (data.getD (4 + 1) 0) k = bit data 5 k.toNat :=
    fun _ hk => bitAt_getD data 5 hk
  rw [hbit 7 (by decide), hbit 6 (by decide), hbit 5 (by decide), hbit 4 (by decide),
    hbit 3 (by decide), hbit 2 (by decide), hbit 1 (by decide), hbit 0 (by decide)]
  extract_lets marked flagged afterPcr afterOpcr afterSplice
  have hpcrEnd : afterPcr = if bit data 5 4 then 6 + 6 else 6 := rfl
  have hopcrEnd : afterOpcr = if bit data 5 3 then afterPcr + 6 else afterPcr := rfl
  have hspliceEnd : afterSplice = if bit data 5 2 then afterOpcr + 1 else afterOpcr := rfl
  have hsixth : 6 ≤ fieldEnd := by omega
  have hafter := afterSplice_eq data hpcrEnd hopcrEnd hspliceEnd
  have hexceeds := exceeds_iff (bit data 5 4) (bit data 5 3) (bit data 5 2) hpcrEnd hopcrEnd hspliceEnd
    hsixth
  have hshort : fieldEnd < afterSplice → ¬FieldFits data := by
    rintro hlt (hnil | ⟨_, hall⟩)
    · exact hempty hnil
    · omega
  split
  · next hpcr => exact .reject (hshort (hexceeds.mp (.inl hpcr))) self flagged
  next hpcr =>
  split
  · next hopcr => exact .reject (hshort (hexceeds.mp (.inr (.inl hopcr)))) self flagged
  next hopcr =>
  split
  · next hsplice => exact .reject (hshort (hexceeds.mp (.inr (.inr hsplice)))) self flagged
  next hsplice =>
  have hroom : afterSplice ≤ fieldEnd := by
    by_contra hlt
    obtain h | h | h := hexceeds.mpr (Nat.lt_of_not_le hlt)
    · exact hpcr h
    · exact hopcr h
    · exact hsplice h
  unfold mpegtsPacketSize at hlong
  exact parsesField_private hdata self hempty (by omega) (by omega) hafter hfieldEnd

/-! ### The packet -/

lemma FieldFits.le {data : List UInt8} (h : FieldFits data) : value data 4 ≤ 183 := by
  obtain h | ⟨h, _⟩ := h
  · omega
  · exact h

lemma toNat_length_fieldOver (field : TSAdaptationField) (data : List UInt8) :
    (fieldOver field data).length.toNat = value data 4 := by
  unfold fieldOver
  split
  · rfl
  · split <;> rfl

lemma toNat_length_fieldFrom (data : List UInt8) : (fieldFrom data).length.toNat = value data 4 := by
  rw [← fieldOver_fresh, toNat_length_fieldOver]

lemma WellFormed.payloadStart_le {data : List UInt8} (h : WellFormed data) :
    payloadStart data ≤ mpegtsPacketSize := by
  unfold payloadStart mpegtsPacketSize
  split
  · next hfield =>
    have hle := (h.field hfield).le
    omega
  · decide

lemma parsePayload_over {data : List UInt8} {offset : Nat} (hoffset : payloadStart data = offset)
    (hle : offset ≤ mpegtsPacketSize) (self : TSPacket) {object : TSPacket}
    (hobject : object = { self with
      header := headerFrom data
      adaptationField :=
        if bit data 3 5 then fieldOver self.adaptationField data else self.adaptationField
      hasAdaptation := bit data 3 5 || self.hasAdaptation }) :
    object.parsePayload data offset = packetOver self data := by
  subst hobject hoffset
  unfold parsePayload packetOver sizeSub
  rw [announcesPayload_from, if_pos hle]
  cases bit data 3 4 <;> rfl

/-- The result of parsing a packet into an object. -/
def ParsesPacket (data : List UInt8) (self : TSPacket) (result : Option (TSPacket × Bool)) : Prop :=
  ∃ packet ok, result = some (packet, ok) ∧ (ok = true ↔ WellFormed data) ∧
    (ok = true → packet = packetOver self data)

lemma ParsesPacket.reject {data : List UInt8} (h : ¬WellFormed data) (self rejected : TSPacket) :
    ParsesPacket data self (some (rejected, false)) := by
  refine ⟨rejected, false, rfl, iff_of_false Bool.false_ne_true h, ?_⟩
  intro hok
  exact absurd hok Bool.false_ne_true

lemma ParsesPacket.accept {data : List UInt8} (h : WellFormed data) {self accepted : TSPacket}
    (haccepted : accepted = packetOver self data) : ParsesPacket data self (some (accepted, true)) :=
  ⟨accepted, true, rfl, iff_of_true rfl h, fun _ => haccepted⟩

lemma parse_over {data : List UInt8} (hdata : data.length = mpegtsPacketSize) (self : TSPacket) :
    ParsesPacket data self (parse self data) := by
  unfold parse
  by_cases hsync : value data 0 = 0x47
  · rw [parseHeader_sync hdata hsync, Option.bind_eq_bind, Option.bind_some]
    dsimp only
    split
    · next hheader =>
      apply ParsesPacket.reject
      intro h
      have hcontrol := (control_from data).mpr h.control
      rw [h.noError, hcontrol] at hheader
      cases hheader
    next hheader =>
    have hheader : bit data 1 7 = false ∧ value data 3 / 16 % 4 ≠ 0 := by
      rw [← control_from]
      simpa using hheader
    rw [announcesAdaptation_from]
    split
    · next hfield =>
      obtain ⟨packet, ok, hparse, hok, hpacket⟩ := parsesField hdata
        { self with header := headerFrom data, hasAdaptation := true }
      rw [hparse, Option.bind_some]
      cases ok with
      | false =>
        apply ParsesPacket.reject
        intro h
        cases hok.mpr (h.field hfield)
      | true =>
        have hfits := hok.mp rfl
        have h : WellFormed data := ⟨hsync, hheader.1, hheader.2, fun _ => hfits⟩
        have hobject := hpacket rfl
        subst hobject
        have hstart : payloadStart data =
            4 + (1 + (fieldOver self.adaptationField data).length.toNat) := by
          unfold payloadStart
          rw [if_pos hfield, toNat_length_fieldOver]
          omega
        apply ParsesPacket.accept h
        apply parsePayload_over hstart (hstart ▸ h.payloadStart_le)
        rw [if_pos hfield, hfield, Bool.true_or]
    · next hfield =>
      have h : WellFormed data := ⟨hsync, hheader.1, hheader.2, fun h => absurd h hfield⟩
      have hstart : payloadStart data = 4 := if_neg hfield
      apply ParsesPacket.accept h
      apply parsePayload_over hstart (by decide)
      rw [if_neg hfield, Bool.eq_false_of_not_eq_true hfield, Bool.false_or]
  · obtain ⟨packet, hparse⟩ := parseHeader_noSync hdata hsync self
    rw [hparse, Option.bind_eq_bind, Option.bind_some]
    exact .reject (fun h => hsync h.sync) self _

lemma parse_from {data : List UInt8} (hdata : data.length = mpegtsPacketSize) :
    ∃ packet ok, parse {} data = some (packet, ok) ∧ (ok = true ↔ WellFormed data) ∧
      (ok = true → packet = packetFrom data) := by
  rw [← packetOver_fresh]
  exact parse_over hdata {}

/-- The parts of an accepted packet are where the layout has them. -/
structure CutFrom (data : List UInt8) (packet : TSPacket) : Prop where
  object : packet = packetFrom data
  payload : bit data 3 4 = true → packet.payloadBytes = data.drop (payloadStart data) ∧
    packet.payloadSize + payloadStart data = mpegtsPacketSize
  noPayload : bit data 3 4 = false → packet.payloadData = none ∧ packet.payloadSize = 0
  privateData : hasPrivate data = true →
    packet.privateBytes = (data.drop (7 + optionalSize data)).take (privateLength data) ∧
      packet.getPrivateDataLength = privateLength data
  privateFits : hasPrivate data = true →
    7 + optionalSize data + privateLength data ≤ 5 + value data 4 ∧ 5 + value data 4 ≤ payloadStart data
  noPrivate : hasPrivate data = false → packet.getPrivateData = none ∧ packet.getPrivateDataLength = 0

lemma private_packetFrom (data : List UInt8) :
    (packetFrom data).getPrivateData =
        (if hasPrivate data then some (data.drop (7 + optionalSize data)) else none) ∧
      (packetFrom data).getPrivateDataLength = if hasPrivate data then privateLength data else 0 := by
  unfold getPrivateData getPrivateDataLength packetFrom hasPrivate fieldFrom
  by_cases hfield : bit data 3 5 = true
  · rw [if_pos hfield, hfield]
    by_cases hempty : value data 4 = 0
    · simp [hempty]
    by_cases hprivate : bit data 5 1 = true
    · simp [hempty, hprivate, flagsFrom]
      rfl
    · simp [hempty, hprivate, flagsFrom]
  · simp [hfield]

lemma WellFormed.cutFrom {data : List UInt8} (hdata : data.length = mpegtsPacketSize)
    (h : WellFormed data) : CutFrom data (packetFrom data) := by
  obtain ⟨hprivateData, hprivateLength⟩ := private_packetFrom data
  constructor
  · rfl
  · intro hpayload
    have hsize : (packetFrom data).payloadSize = mpegtsPacketSize - payloadStart data := if_pos hpayload
    have hbytes : (packetFrom data).payloadData = some (data.drop (payloadStart data)) := if_pos hpayload
    have hhas : (packetFrom data).hasPayload = true := hpayload
    unfold payloadBytes
    rw [if_pos hhas, hbytes, hsize, Option.getD_some]
    constructor
    · rw [← hdata, ← List.length_drop, List.take_length]
    · exact Nat.sub_add_cancel h.payloadStart_le
  · intro hpayload
    have hnot : ¬bit data 3 4 = true := Bool.not_eq_true _ ▸ hpayload
    exact ⟨if_neg hnot, if_neg hnot⟩
  · intro hprivate
    rw [if_pos hprivate] at hprivateData hprivateLength
    unfold privateBytes
    rw [hprivateData, hprivateLength]
    exact ⟨rfl, rfl⟩
  · intro hprivate
    unfold hasPrivate at hprivate
    rw [Bool.and_eq_true, Bool.and_eq_true, bne_iff_ne] at hprivate
    obtain ⟨⟨hfield, hempty⟩, hflag⟩ := hprivate
    have hstart : payloadStart data = 5 + value data 4 := if_pos hfield
    obtain hnil | ⟨_, hall⟩ := h.field hfield
    · exact absurd hnil hempty
    · rw [if_pos hflag] at hall
      omega
  · intro hprivate
    have hnot : ¬hasPrivate data = true := Bool.not_eq_true _ ▸ hprivate
    rw [if_neg hnot] at hprivateData hprivateLength
    exact ⟨hprivateData, hprivateLength⟩

lemma accept_from {data : List UInt8} (hdata : data.length = mpegtsPacketSize) {packet : TSPacket}
    (h : accept data = some packet) : WellFormed data ∧ packet = packetFrom data := by
  obtain ⟨parsed, ok, hparse, hok, hparsed⟩ := parse_from hdata
  unfold accept at h
  rw [hparse] at h
  cases ok with
  | false => cases h
  | true =>
    dsimp only at h
    split at h
    · cases h
      exact ⟨hok.mp rfl, hparsed rfl⟩
    · cases h

/-- Parsing reads within the packet, accepts the packets that have the layout, and cuts them at the
places of their parts. -/
theorem parse_layout {data : List UInt8} (hdata : data.length = mpegtsPacketSize) :
    ∃ packet ok, parse {} data = some (packet, ok) ∧ (ok = true ↔ WellFormed data) ∧
      (ok = true → CutFrom data packet) := by
  obtain ⟨packet, ok, hparse, hok, hpacket⟩ := parse_from hdata
  refine ⟨packet, ok, hparse, hok, ?_⟩
  intro haccepted
  rw [hpacket haccepted]
  exact (hok.mp haccepted).cutFrom hdata

/-- An adaptation field with a clock reference and two bytes of private data, and a payload. -/
theorem parse_layout_sample :
    ∃ packet, parse {} ([0x47, 0x41, 0x00, 0x37, 10, 0x12, 1, 2, 3, 4, 5, 6, 2, 0xA1, 0xA2] ++
        List.replicate 173 0xFF) = some (packet, true) ∧
      CutFrom ([0x47, 0x41, 0x00, 0x37, 10, 0x12, 1, 2, 3, 4, 5, 6, 2, 0xA1, 0xA2] ++
        List.replicate 173 0xFF) packet := by
  have hdata : ([0x47, 0x41, 0x00, 0x37, 10, 0x12, 1, 2, 3, 4, 5, 6, 2, 0xA1, 0xA2] ++
      List.replicate 173 0xFF : List UInt8).length = mpegtsPacketSize := rfl
  obtain ⟨packet, ok, hparse, hok, hcut⟩ := parse_layout hdata
  have haccepted : ok = true :=
    hok.mpr ⟨by decide, by decide, by decide, fun _ => .inr (by decide)⟩
  subst haccepted
  exact ⟨packet, hparse, hcut rfl⟩

end TSPacket

end MinimalMpegTS
