import MinimalMpegTS.Proofs.PATSections
import MinimalMpegTS.Proofs.PMTSections

/-!
# The parsers read within their input

No read of the section parsers is out of bounds, whatever the bytes are: each is covered by a length
check made before. The CRC check is the one that keeps the end of the entries and of the streams
from wrapping, since it rejects sections of less than four bytes.
-/

namespace MinimalMpegTS

namespace PSIParser

lemma exists_readField16 {data : List UInt8} {offset : Nat} (h : offset + 2 ≤ data.length) (mask : UInt8) :
    ∃ value, readField16 mask data offset = some value := by
  unfold readField16
  rw [List.getElem?_eq_getElem (by omega : offset < data.length),
    List.getElem?_eq_getElem (by omega : offset + 1 < data.length)]
  exact ⟨_, rfl⟩

lemma exists_readWord32 {data : List UInt8} {offset : Nat} (h : offset + 4 ≤ data.length) :
    ∃ word, readWord32 data offset = some word := by
  obtain ⟨front, byte0, byte1, byte2, byte3, back, rfl, rfl⟩ := exists_word h
  exact ⟨_, readWord32_append front byte0 byte1 byte2 byte3 back⟩

lemma exists_readBytes {data : List UInt8} {offset length : Nat} (h : offset + length ≤ data.length) :
    ∃ bytes, readBytes data offset length = some bytes ∧ bytes <:+: data := by
  refine ⟨(data.drop offset).take length, if_pos h, ?_⟩
  exact (List.take_prefix _ _).isInfix.trans (List.drop_suffix _ _).isInfix

lemma exists_parseSectionHeader (header : PSISectionHeader) (data : List UInt8) :
    ∃ parsed size, parseSectionHeader header data = some (parsed, size) ∧ size ≤ 8 := by
  match data with
  | [] | [_] | [_, _] => exact ⟨header, 0, rfl, by decide⟩
  | byte0 :: byte1 :: byte2 :: rest =>
    cases hbit : bitAt byte1 7 with
    | false => exact ⟨_, 3, parseSectionHeader_short hbit header byte0 byte2 rest, by decide⟩
    | true =>
      match rest with
      | byte3 :: byte4 :: byte5 :: byte6 :: byte7 :: rest =>
        exact ⟨_, 8, parseSectionHeader_long hbit header byte0 byte2 byte3 byte4 byte5 byte6 byte7 rest,
          le_refl 8⟩
      | [] | [_] | [_, _] | [_, _, _] | [_, _, _, _] =>
        exact ⟨_, 0, by simp [parseSectionHeader, readField16, hbit]; rfl, by decide⟩

/-! ### PAT -/

lemma exists_parsePrograms {data : List UInt8} {entriesEnd : Nat} (hend : entriesEnd ≤ data.length)
    (fuel offset : Nat) : ∃ added, ∀ programs,
      parsePrograms data entriesEnd fuel offset programs = some (programs ++ added) := by
  induction fuel generalizing offset with
  | zero =>
    refine ⟨[], ?_⟩
    intro programs
    rw [parsePrograms, List.append_nil]
  | succ fuel ih =>
    by_cases hentry : offset + 4 ≤ entriesEnd
    · have hlow : offset + 2 ≤ data.length := by omega
      have hhigh : offset + 2 + 2 ≤ data.length := by omega
      obtain ⟨number, hnumber⟩ := exists_readField16 hlow 0xFF
      obtain ⟨pid, hpid⟩ := exists_readField16 hhigh 0x1F
      obtain ⟨added, hadded⟩ := ih (offset + 4)
      refine ⟨⟨number, pid⟩ :: added, ?_⟩
      intro programs
      rw [parsePrograms, if_pos hentry, hnumber, hpid]
      simp only [Option.bind_eq_bind, Option.bind_some]
      rw [hadded, List.append_assoc, List.singleton_append]
    · refine ⟨[], ?_⟩
      intro programs
      rw [parsePrograms, if_neg hentry, List.append_nil]

lemma exists_parsePAT (pat : PAT) (data : List UInt8) : ∃ result, parsePAT pat data = some result := by
  unfold parsePAT
  split
  · exact ⟨_, rfl⟩
  obtain ⟨header, size, hheader, _⟩ := exists_parseSectionHeader pat.header data
  rw [hheader, Option.bind_eq_bind, Option.bind_some]
  dsimp only
  split
  · exact ⟨_, rfl⟩
  split
  · exact ⟨_, rfl⟩
  split
  · exact ⟨_, rfl⟩
  next hfits =>
  obtain ⟨ok, hok⟩ := exists_verifyCRC32 (Nat.le_of_not_lt hfits)
  rw [hok, Option.bind_eq_bind, Option.bind_some]
  cases ok with
  | false => exact ⟨_, rfl⟩
  | true =>
    have hend : sizeSub (3 + header.sectionLength.toNat) 4 + 4 ≤ data.length := by
      rw [sizeSub_of_verifyCRC32 hok]
      omega
    obtain ⟨added, hprograms⟩ := exists_parsePrograms (Nat.le_of_add_right_le hend)
      (sizeSub (3 + header.sectionLength.toNat) 4) size
    obtain ⟨crc, hcrc⟩ := exists_readWord32 hend
    rw [hprograms, hcrc]
    exact ⟨_, rfl⟩

/-! ### PMT -/

lemma exists_parseStreams {data : List UInt8} {streamsEnd : Nat} (hend : streamsEnd ≤ data.length)
    (fuel offset : Nat) : ∃ added ok,
      (∀ streams, parseStreams data streamsEnd fuel offset streams = some (streams ++ added, ok)) ∧
        ∀ stream ∈ added, stream.descriptors <:+: data := by
  have hnone : ∀ stream ∈ ([] : List PMTStreamInfo), stream.descriptors <:+: data := by
    intro stream hstream
    cases hstream
  induction fuel generalizing offset with
  | zero =>
    refine ⟨[], true, ?_, hnone⟩
    intro streams
    rw [parseStreams, List.append_nil]
  | succ fuel ih =>
    by_cases hrecord : offset + 5 ≤ streamsEnd
    · have hpidEnd : offset + 1 + 2 ≤ data.length := by omega
      have hinfoEnd : offset + 3 + 2 ≤ data.length := by omega
      have htype : data[offset]? = some data[offset] := List.getElem?_eq_getElem (by omega)
      obtain ⟨pid, hpid⟩ := exists_readField16 hpidEnd 0x1F
      obtain ⟨info, hinfo⟩ := exists_readField16 hinfoEnd 0x0F
      by_cases hover : (decide (streamsEnd < offset + 5 + info.toNat) && info != 0) = true
      · refine ⟨[], false, ?_, hnone⟩
        intro streams
        rw [parseStreams, if_pos hrecord, htype, hpid, hinfo]
        simp only [Option.bind_eq_bind, Option.bind_some]
        rw [if_pos hover, List.append_nil]
      · have hinfoFits : offset + 5 + info.toNat ≤ data.length := by
          by_cases hzero : info = 0
          · rw [hzero]
            show offset + 5 ≤ data.length
            omega
          · rw [bne_iff_ne.mpr hzero, Bool.and_true, decide_eq_true_eq] at hover
            omega
        obtain ⟨descriptors, hread, hslice⟩ := exists_readBytes hinfoFits
        obtain ⟨added, ok, hloop, hadded⟩ := ih (offset + 5 + info.toNat)
        refine ⟨⟨⟨data[offset]⟩, pid, info, descriptors⟩ :: added, ok, ?_, ?_⟩
        · intro streams
          rw [parseStreams, if_pos hrecord, htype, hpid, hinfo]
          simp only [Option.bind_eq_bind, Option.bind_some]
          rw [if_neg hover, hread, Option.bind_some, hloop, List.append_assoc, List.singleton_append]
        · intro stream hstream
          obtain rfl | hstream := List.mem_cons.mp hstream
          · exact hslice
          · exact hadded stream hstream
    · refine ⟨[], true, ?_, hnone⟩
      intro streams
      rw [parseStreams, if_neg hrecord, List.append_nil]

/-- The descriptors that a vector holds were there before or lie in the data. -/
def DescriptorsWithin (data : List UInt8) (pmt pmt' : PMT) : Prop :=
  (pmt'.programDescriptors = pmt.programDescriptors ∨ pmt'.programDescriptors <:+: data) ∧
    ∃ added, pmt'.streams = pmt.streams ++ added ∧
      ∀ stream ∈ added, stream.descriptors <:+: data

lemma DescriptorsWithin.same {data : List UInt8} {pmt pmt' : PMT}
    (hdescriptors : pmt'.programDescriptors = pmt.programDescriptors ∨
      pmt'.programDescriptors <:+: data)
    (hstreams : pmt'.streams = pmt.streams) : DescriptorsWithin data pmt pmt' := by
  refine ⟨hdescriptors, [], by rw [hstreams, List.append_nil], ?_⟩
  intro stream hstream
  cases hstream

lemma exists_finish {data : List UInt8} {total offset : Nat} {pmt assigned : PMT}
    (hend : sizeSub total 4 + 4 ≤ data.length)
    (hdescriptors : assigned.programDescriptors = pmt.programDescriptors ∨
      assigned.programDescriptors <:+: data)
    (hstreams : assigned.streams = pmt.streams) :
    ∃ pmt' ok, ((parseStreams data (sizeSub total 4) (sizeSub total 4) offset assigned.streams).bind
      fun result =>
        if !result.2 then some ({ assigned with streams := result.1 }, false)
        else (readWord32 data (sizeSub total 4)).bind fun crc =>
          some ({ assigned with streams := result.1, crc32 := crc }, true)) = some (pmt', ok) ∧
      DescriptorsWithin data pmt pmt' := by
  obtain ⟨added, streamsOk, hloop, hadded⟩ := exists_parseStreams (Nat.le_of_add_right_le hend)
    (sizeSub total 4) offset
  obtain ⟨crc, hcrc⟩ := exists_readWord32 hend
  rw [hstreams, hloop, Option.bind_some, hcrc]
  cases streamsOk with
  | false => exact ⟨_, _, rfl, hdescriptors, added, rfl, hadded⟩
  | true => exact ⟨_, _, rfl, hdescriptors, added, rfl, hadded⟩

lemma exists_parsePMT (pmt : PMT) (data : List UInt8) :
    ∃ pmt' ok, parsePMT pmt data = some (pmt', ok) ∧ DescriptorsWithin data pmt pmt' := by
  unfold parsePMT
  split
  · exact ⟨_, _, rfl, .same (.inl rfl) rfl⟩
  next hlen =>
  obtain ⟨header, size, hheader, hsize⟩ := exists_parseSectionHeader pmt.header data
  rw [hheader, Option.bind_eq_bind, Option.bind_some]
  dsimp only
  split
  · exact ⟨_, _, rfl, .same (.inl rfl) rfl⟩
  split
  · exact ⟨_, _, rfl, .same (.inl rfl) rfl⟩
  split
  · exact ⟨_, _, rfl, .same (.inl rfl) rfl⟩
  next hfits =>
  obtain ⟨ok, hok⟩ := exists_verifyCRC32 (Nat.le_of_not_lt hfits)
  rw [hok, Option.bind_eq_bind, Option.bind_some]
  cases ok with
  | false => exact ⟨_, _, rfl, .same (.inl rfl) rfl⟩
  | true =>
    have hend : sizeSub (3 + header.sectionLength.toNat) 4 + 4 ≤ data.length := by
      rw [sizeSub_of_verifyCRC32 hok]
      omega
    -- the first check covers the fixed fields behind either form of the header
    have hpidEnd : size + 2 ≤ data.length := by omega
    have hinfoEnd : size + 2 + 2 ≤ data.length := by omega
    obtain ⟨pid, hpid⟩ := exists_readField16 hpidEnd 0x1F
    obtain ⟨info, hinfo⟩ := exists_readField16 hinfoEnd 0x0F
    rw [if_neg (by decide), hpid, hinfo]
    simp only [Option.bind_eq_bind, Option.bind_some]
    split
    · exact ⟨_, _, rfl, .same (.inl rfl) rfl⟩
    next hroom =>
    have hinfoFits : size + 4 + info.toNat ≤ data.length := by
      by_cases hzero : info = 0
      · rw [hzero]
        show size + 4 ≤ data.length
        omega
      · rw [bne_iff_ne.mpr hzero, Bool.true_and, decide_eq_true_eq] at hroom
        omega
    obtain ⟨descriptors, hread, hslice⟩ := exists_readBytes hinfoFits
    rw [hread, Option.bind_some]
    refine exists_finish hend ?_ ?_
    · split
      · exact .inl rfl
      · exact .inr hslice
    · split <;> rfl

/-- The parsers read only within the data: every read of theirs succeeds. The ends of the entries and
of the streams do not wrap, and the descriptors are slices of the data. -/
theorem parsers_in_bounds (data : List UInt8) :
    (∀ header, ∃ result, parseSectionHeader header data = some result) ∧
    (∀ length ≤ data.length, ∃ ok, verifyCRC32 data length = some ok) ∧
    (∀ pat, ∃ result, parsePAT pat data = some result) ∧
    (∀ pmt, ∃ pmt' ok, parsePMT pmt data = some (pmt', ok) ∧ DescriptorsWithin data pmt pmt') ∧
    ∀ sectionLength, verifyCRC32 data (3 + sectionLength) = some true →
      sizeSub (3 + sectionLength) 4 + 4 = 3 + sectionLength := by
  refine ⟨?_, fun _ h => exists_verifyCRC32 h, fun pat => exists_parsePAT pat data,
    fun pmt => exists_parsePMT pmt data, fun _ h => sizeSub_of_verifyCRC32 h⟩
  intro header
  obtain ⟨parsed, size, h, _⟩ := exists_parseSectionHeader header data
  exact ⟨(parsed, size), h⟩

end PSIParser

end MinimalMpegTS
