import MinimalMpegTS.Model.PCR
import MinimalMpegTS.Proofs.PESHeaders

/-!
# The decoders read within their input

A PCR takes six bytes behind the flags, but `extractPCR` asks for six bytes altogether: in a field of
exactly six bytes it reads one byte too many. The PES parsers check the length before every read.
-/

namespace MinimalMpegTS

/-- The field announces a PCR and ends before its last byte. -/
def CutPCR (data : List UInt8) : Prop := data.length = 6 ∧ data.getD 0 0 &&& 0x10 ≠ 0

instance (data : List UInt8) : Decidable (CutPCR data) := inferInstanceAs (Decidable (_ ∧ _))

lemma exists_extractPCR_iff (data : List UInt8) :
    (∃ result, extractPCR (some data) data.length = some result) ↔ ¬CutPCR data := by
  unfold extractPCR CutPCR
  dsimp only
  by_cases hshort : data.length < 6
  · rw [if_pos hshort]
    exact iff_of_true ⟨_, rfl⟩ (fun h => by omega)
  rw [if_neg hshort, getElem?_getD (by omega : 0 < data.length), Option.bind_eq_bind,
    Option.bind_some]
  by_cases hflag : data.getD 0 0 &&& 0x10 = 0
  · rw [if_pos hflag]
    exact iff_of_true ⟨_, rfl⟩ (fun h => h.2 hflag)
  rw [if_neg hflag]
  by_cases hsix : data.length = 6
  · -- the byte behind the field is read
    have hnone : data[6]? = none := List.getElem?_eq_none (by omega)
    refine iff_of_false ?_ (fun h => h ⟨hsix, hflag⟩)
    rintro ⟨result, hresult⟩
    simp [hnone] at hresult
  · rw [getElem?_getD (by omega : 1 < data.length), getElem?_getD (by omega : 2 < data.length),
      getElem?_getD (by omega : 3 < data.length), getElem?_getD (by omega : 4 < data.length),
      getElem?_getD (by omega : 5 < data.length), getElem?_getD (by omega : 6 < data.length)]
    simp only [Option.bind_some]
    refine iff_of_true ?_ (fun h => hsix h.1)
    split <;> exact ⟨_, rfl⟩

namespace PESParser

lemma exists_parseHeader (header : PESHeader) (data : List UInt8) :
    ∃ result, parseHeader header data = some result := by
  obtain ⟨parsed, hparsed, -⟩ := parseHeader_eq header data
  exact ⟨_, hparsed⟩

lemma exists_parsePacket (packet : PESPacket) (data : List UInt8) :
    ∃ result, parsePacket packet data = some result := by
  by_cases hfits : HeaderFits data
  · exact ⟨_, parsePacket_of_fits hfits packet⟩
  · obtain ⟨rejected, hrejected⟩ := parsePacket_of_not_fits hfits packet
    exact ⟨_, hrejected⟩

end PESParser

/-- All reads of the decoders lie within the data exactly if the data is no field of six bytes that
announces a PCR. -/
theorem decoders_in_bounds_iff (data : List UInt8) :
    ((∃ result, extractPCR (some data) data.length = some result) ∧
      (∀ header, ∃ result, PESParser.parseHeader header data = some result) ∧
      ∀ packet, ∃ result, PESParser.parsePacket packet data = some result) ↔ ¬CutPCR data := by
  rw [exists_extractPCR_iff]
  constructor
  · intro h
    exact h.1
  · intro h
    exact ⟨h, fun header => PESParser.exists_parseHeader header data,
      fun packet => PESParser.exists_parsePacket packet data⟩

/-- Six bytes that announce a PCR: the seventh is read. -/
theorem extractPCR_out_of_bounds :
    ¬∃ result, extractPCR (some [0x10, 0, 0, 0, 0, 0])
      ([0x10, 0, 0, 0, 0, 0] : List UInt8).length = some result := by
  rw [exists_extractPCR_iff]
  decide

end MinimalMpegTS
