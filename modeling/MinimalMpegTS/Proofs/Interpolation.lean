import MinimalMpegTS.Proofs.ClockDifferences

/-!
# Interpolation between clock references

Between two samples the clock is taken to run evenly. The interpolated reference lies where it
should on the circle of clock values, but its base is not reduced: where the clock has wrapped
since the sample before, the result is no valid reference.
-/

namespace MinimalMpegTS

/-! ### Ticks and references -/

namespace PCR

lemma getValue27MHz_ofTicks (ticks : UInt64) : (PCRTracker.ofTicks ticks).getValue27MHz = ticks := by
  have hticks := ticks.toNat_lt
  apply UInt64.toNat_inj.mp
  unfold PCR.getValue27MHz PCRTracker.ofTicks
  simp only [UInt64.toNat_add, UInt64.toNat_mul, UInt64.toNat_div, UInt16.toNat_toUInt64,
    UInt64.toNat_toUInt16, UInt64.toNat_mod, UInt64.reduceToNat]
  omega

lemma isValid_ofTicks (ticks : UInt64) :
    (PCRTracker.ofTicks ticks).isValid = true ↔ ticks.toNat < 300 * 2 ^ 33 := by
  have hextension : (ticks % 300).toUInt16.toNat = ticks.toNat % 300 := by
    simp only [UInt64.toNat_toUInt16, UInt64.toNat_mod, UInt64.reduceToNat]
    omega
  have hthree : (300 : UInt16).toNat = 300 := rfl
  have hlimit : ((1 : UInt64) <<< 33).toNat = 2 ^ 33 := by decide
  have hbase : (ticks / 300).toNat = ticks.toNat / 300 := UInt64.toNat_div ticks 300
  unfold PCR.isValid PCRTracker.ofTicks
  rw [Bool.and_eq_true, decide_eq_true_iff, decide_eq_true_iff, UInt64.lt_iff_toNat_lt,
    UInt16.lt_iff_toNat_lt, hbase, hlimit, hextension, hthree]
  omega

lemma ofTicks_getValue27MHz {pcr : PCR} (h : pcr.isValid = true) :
    PCRTracker.ofTicks pcr.getValue27MHz = pcr := by
  obtain ⟨base, extension⟩ := pcr
  have hvalue := (toNat_getValue27MHz h).1
  have hextension : extension.toNat < 300 := of_decide_eq_true (Bool.and_eq_true_iff.mp h).2
  have hthree : (300 : UInt64).toNat = 300 := rfl
  dsimp only at hvalue
  unfold PCRTracker.ofTicks
  congr 1
  · apply UInt64.toNat_inj.mp
    rw [UInt64.toNat_div, hvalue, hthree]
    omega
  · apply UInt16.toNat_inj.mp
    rw [UInt64.toNat_toUInt16, UInt64.toNat_mod, hvalue, hthree]
    omega

end PCR

namespace PCRTracker

lemma truncate_div (d k t : Nat) (h : d * k / t < 2 ^ 64) :
    truncate ((d : ℤ) * ((k : ℚ) / (t : ℚ))) = UInt64.ofNat (d * k / t) := by
  have hx : ((d : ℤ) : ℚ) * ((k : ℚ) / (t : ℚ)) = ((d * k : ℕ) : ℤ) / (t : ℚ) := by
    push_cast
    ring
  have hnonneg : 0 ≤ (((d * k : ℕ) : ℤ) / (t : ℚ) : ℚ) := by positivity
  have hfloor : (((d * k : ℕ) : ℤ) / (t : ℚ) : ℚ).num.tdiv (((d * k : ℕ) : ℤ) / (t : ℚ) : ℚ).den =
      ((d * k / t : ℕ) : ℤ) := by
    rw [Int.tdiv_eq_ediv_of_nonneg (Rat.num_nonneg.mpr hnonneg), ← Rat.floor_def',
      Rat.floor_intCast_div_natCast, Int.natCast_ediv]
  unfold truncate UInt64.ofInt
  rw [hx, hfloor]
  generalize d * k / t = ticks at h
  congr 1
  omega

/-! ### The search for the samples around a packet -/

/-- Two neighbours of a history with the packet from the first on and before the second. -/
structure Bracket (samples : List PCRSample) (packetNumber : UInt64) (before after : PCRSample) :
    Prop where
  adjacent : [before, after] <:+: samples
  le : before.packetNumber ≤ packetNumber
  lt : packetNumber < after.packetNumber

/-- The samples of a history are in the order of their packets. -/
def Ordered (samples : List PCRSample) : Prop :=
  samples.Pairwise (fun sample next => sample.packetNumber < next.packetNumber)

lemma searchSamples_append {packetNumber : UInt64} {before after : PCRSample}
    {front : List PCRSample} (back : List PCRSample) (i : Nat) (last : Option (Nat × PCRSample))
    (hfront : ∀ sample ∈ front, sample.packetNumber ≤ packetNumber)
    (hbefore : before.packetNumber ≤ packetNumber) (hafter : packetNumber < after.packetNumber) :
    searchSamples packetNumber i last (front ++ before :: after :: back) =
      (some (i + front.length, before), some after) := by
  induction front generalizing i last with
  | nil =>
    have hnot : ¬after.packetNumber ≤ packetNumber := UInt64.not_le.mpr hafter
    rw [List.nil_append, searchSamples, if_pos hbefore, searchSamples, if_neg hnot]
    rfl
  | cons sample front ih =>
    have hsample := hfront sample List.mem_cons_self
    have hrest := ih (i + 1) (some (i, sample)) (fun s hs => hfront s (List.mem_cons_of_mem _ hs))
    rw [List.cons_append, searchSamples, if_pos hsample, hrest, List.length_cons]
    congr 3
    omega

lemma Bracket.searchSamples_eq {samples : List PCRSample} {packetNumber : UInt64}
    {before after : PCRSample} (h : Bracket samples packetNumber before after)
    (hordered : Ordered samples) : ∃ i,
      searchSamples packetNumber 0 none samples = (some (i, before), some after) := by
  obtain ⟨front, back, rfl⟩ := h.adjacent
  have hfront : ∀ sample ∈ front, sample.packetNumber ≤ packetNumber := by
    intro sample hsample
    have hpair := List.pairwise_append.mp (List.append_assoc front _ back ▸ hordered)
    have hlt := hpair.2.2 sample hsample before List.mem_cons_self
    exact UInt64.le_trans (UInt64.le_of_lt hlt) h.le
  have hsearch := searchSamples_append back 0 none hfront h.le h.lt
  rw [List.append_assoc]
  exact ⟨0 + front.length, hsearch⟩

lemma exists_bracket {samples : List PCRSample} {packetNumber : UInt64} {first last : PCRSample}
    (hfirst : samples.head? = some first) (hlast : samples.getLast? = some last)
    (hle : first.packetNumber ≤ packetNumber) (hlt : packetNumber < last.packetNumber) :
    ∃ before after, Bracket samples packetNumber before after := by
  induction samples generalizing first with
  | nil => simp at hfirst
  | cons sample samples ih =>
    obtain rfl : sample = first := by simpa using hfirst
    cases samples with
    | nil =>
      obtain rfl : sample = last := by simpa using hlast
      exact absurd hlt (UInt64.not_lt.mpr hle)
    | cons next rest =>
      by_cases hnext : next.packetNumber ≤ packetNumber
      · obtain ⟨before, after, hbracket⟩ := ih rfl (by simpa using hlast) hnext
        exact ⟨before, after, hbracket.adjacent.trans (List.suffix_cons _ _).isInfix,
          hbracket.le, hbracket.lt⟩
      · exact ⟨sample, next, ⟨[], rest, rfl⟩, hle, UInt64.not_le.mp hnext⟩

/-! ### The interpolated reference -/

/-- The histories that interpolation is for: valid references in the order of their packets, with
the clock never running backward. -/
structure WellSampled (tracker : PCRTracker) : Prop where
  valid : ∀ sample ∈ tracker.samples, sample.pcr.isValid = true
  ordered : Ordered tracker.samples
  forward : ∀ before after, [before, after] <:+: tracker.samples →
    0 ≤ (pcrDifference before.pcr after.pcr).toInt

/-- The ticks from the sample before to a packet, at an even pace up to the sample after. -/
def elapsedTicks (before after : PCRSample) (packetNumber : UInt64) : Nat :=
  (pcrDifference before.pcr after.pcr).toInt.toNat *
    (packetNumber.toNat - before.packetNumber.toNat) /
      (after.packetNumber.toNat - before.packetNumber.toNat)

/-- At an even pace the clock has not wrapped between the sample before and a packet. -/
def ClockNotWrapped (before after : PCRSample) (packetNumber : UInt64) : Prop :=
  (pcrDifference before.pcr after.pcr).toInt.toNat *
      (packetNumber.toNat - before.packetNumber.toNat) <
    (300 * 2 ^ 33 - before.pcr.getValue27MHz.toNat) *
      (after.packetNumber.toNat - before.packetNumber.toNat)

section

variable {tracker : PCRTracker} {packetNumber : UInt64} {before after : PCRSample}

lemma Bracket.mem (h : Bracket tracker.samples packetNumber before after) :
    before ∈ tracker.samples ∧ after ∈ tracker.samples :=
  ⟨h.adjacent.subset (by simp), h.adjacent.subset (by simp)⟩

lemma pcrDifference_le {pcr1 pcr2 : PCR} (h1 : pcr1.isValid = true) (h2 : pcr2.isValid = true) :
    (pcrDifference pcr1 pcr2).toInt ≤ 150 * 2 ^ 33 := by
  obtain ⟨hvalid1, hdifference⟩ := toInt_pcrDifference h1 h2
  have hvalid2 := (toInt_pcrDifference h2 h2).1
  have hrange := (Circular.distance_mem (by norm_num) hvalid1 hvalid2).2
  rw [hdifference]
  omega

lemma Bracket.elapsedTicks_le (h : Bracket tracker.samples packetNumber before after) :
    elapsedTicks before after packetNumber ≤ (pcrDifference before.pcr after.pcr).toInt.toNat := by
  have hlt := UInt64.lt_iff_toNat_lt.mp h.lt
  unfold elapsedTicks
  apply Nat.div_le_of_le_mul
  rw [Nat.mul_comm]
  exact Nat.mul_le_mul_right _ (by omega)

lemma elapsedTicks_mono (before after : PCRSample) {m n : UInt64} (h : m ≤ n) :
    elapsedTicks before after m ≤ elapsedTicks before after n := by
  have hle := UInt64.le_iff_toNat_le.mp h
  unfold elapsedTicks
  exact Nat.div_le_div_right (Nat.mul_le_mul_left _ (by omega))

lemma Bracket.elapsedTicks_lt (h : Bracket tracker.samples packetNumber before after)
    (htracker : tracker.WellSampled) : elapsedTicks before after packetNumber ≤ 150 * 2 ^ 33 := by
  have hle := h.elapsedTicks_le
  have hdistance := pcrDifference_le (htracker.valid before h.mem.1) (htracker.valid after h.mem.2)
  omega

lemma toNat_add_ofNat {value : UInt64} {ticks : Nat} (hvalue : value.toNat < 300 * 2 ^ 33)
    (hticks : ticks ≤ 150 * 2 ^ 33) : (value + UInt64.ofNat ticks).toNat = value.toNat + ticks := by
  rw [UInt64.toNat_add, UInt64.toNat_ofNat']
  omega

lemma Bracket.interpolatePCR_eq (h : Bracket tracker.samples packetNumber before after)
    (htracker : tracker.WellSampled) : tracker.interpolatePCR packetNumber =
      some (ofTicks (before.pcr.getValue27MHz +
        UInt64.ofNat (elapsedTicks before after packetNumber))) := by
  obtain ⟨i, hsearch⟩ := h.searchSamples_eq htracker.ordered
  have htwo : ¬tracker.samples.length < 2 := by
    have hlength := h.adjacent.length_le
    simp only [List.length_cons, List.length_nil] at hlength
    omega
  have hle := h.le
  have hlt := h.lt
  have hle' := UInt64.le_iff_toNat_le.mp h.le
  have hlt' := UInt64.lt_iff_toNat_lt.mp h.lt
  have htotal : (after.packetNumber - before.packetNumber).toNat =
      after.packetNumber.toNat - before.packetNumber.toNat :=
    UInt64.toNat_sub_of_le _ _ (UInt64.le_trans hle (UInt64.le_of_lt hlt))
  have hoffset : (packetNumber - before.packetNumber).toNat =
      packetNumber.toNat - before.packetNumber.toNat := UInt64.toNat_sub_of_le _ _ hle
  have hne : after.packetNumber - before.packetNumber ≠ 0 := by
    intro hzero
    rw [hzero] at htotal
    have : (0 : UInt64).toNat = 0 := rfl
    omega
  have hforward := htracker.forward before after h.adjacent
  have hnat : ((pcrDifference before.pcr after.pcr).toInt.toNat : ℤ) =
      (pcrDifference before.pcr after.pcr).toInt := Int.toNat_of_nonneg hforward
  have hsmall := h.elapsedTicks_lt htracker
  unfold elapsedTicks at hsmall ⊢
  have htruncate := truncate_div (pcrDifference before.pcr after.pcr).toInt.toNat
    (packetNumber.toNat - before.packetNumber.toNat)
    (after.packetNumber.toNat - before.packetNumber.toNat) (by omega)
  unfold interpolatePCR
  rw [if_neg htwo, hsearch]
  dsimp only
  rw [if_neg hne, htotal, hoffset, ← hnat, htruncate, hnat]

lemma Bracket.pcrDifference_ofTicks (h : Bracket tracker.samples packetNumber before after)
    (htracker : tracker.WellSampled) {ticks : Nat} (hticks : ticks ≤ 150 * 2 ^ 33) :
    (pcrDifference before.pcr (ofTicks (before.pcr.getValue27MHz + UInt64.ofNat ticks))).toInt =
      ticks := by
  have hmax : pcrMax.toInt = 300 * 2 ^ 33 := by decide
  have hvalid := htracker.valid before h.mem.1
  have hlt := (PCR.toNat_getValue27MHz hvalid).2
  have hbefore : before.pcr.getValue27MHz.toInt64.toInt = before.pcr.getValue27MHz.toNat :=
    toInt_toInt64 (by omega)
  have hsum := toNat_add_ofNat hlt hticks
  have hvalue : (before.pcr.getValue27MHz + UInt64.ofNat ticks).toInt64.toInt =
      before.pcr.getValue27MHz.toNat + ticks := by
    rw [toInt_toInt64 (by omega), hsum]
    push_cast
    rfl
  rw [pcrDifference_eq, PCR.getValue27MHz_ofTicks, fitsSigned_pcrMax.toInt_wrapDifference, hbefore,
    hvalue, hmax]
  · exact Circular.distance_add_right (by omega) (by omega)
  · rw [hbefore, hmax]
    constructor <;> omega
  · rw [hvalue, hmax]
    constructor <;> omega

lemma Bracket.isValid_iff (h : Bracket tracker.samples packetNumber before after)
    (htracker : tracker.WellSampled) :
    (ofTicks (before.pcr.getValue27MHz +
        UInt64.ofNat (elapsedTicks before after packetNumber))).isValid = true ↔
      ClockNotWrapped before after packetNumber := by
  have hlt := (PCR.toNat_getValue27MHz (htracker.valid before h.mem.1)).2
  have hle := UInt64.le_iff_toNat_le.mp h.le
  have hafter := UInt64.lt_iff_toNat_lt.mp h.lt
  have hdiv : elapsedTicks before after packetNumber <
      300 * 2 ^ 33 - before.pcr.getValue27MHz.toNat ↔ ClockNotWrapped before after packetNumber :=
    Nat.div_lt_iff_lt_mul (by omega)
  rw [PCR.isValid_ofTicks, toNat_add_ofNat hlt (h.elapsedTicks_lt htracker), ← hdiv]
  omega

/-- What the reference of a packet between two samples has to be. -/
structure Interpolates (tracker : PCRTracker) (packetNumber : UInt64) (before after : PCRSample)
    (pcr : PCR) : Prop where
  result : tracker.interpolatePCR packetNumber = some pcr
  valid : pcr.isValid = true
  exact : ∀ sample ∈ tracker.samples, sample.packetNumber = packetNumber → pcr = sample.pcr
  nonneg : 0 ≤ (pcrDifference before.pcr pcr).toInt
  le : (pcrDifference before.pcr pcr).toInt ≤ (pcrDifference before.pcr after.pcr).toInt
  monotone : ∀ m earlier, before.packetNumber ≤ m → m ≤ packetNumber →
    tracker.interpolatePCR m = some earlier →
      (pcrDifference before.pcr earlier).toInt ≤ (pcrDifference before.pcr pcr).toInt

lemma Bracket.eq_before (h : Bracket tracker.samples packetNumber before after)
    (htracker : tracker.WellSampled) {sample : PCRSample} (hmem : sample ∈ tracker.samples)
    (hnumber : sample.packetNumber = packetNumber) : sample = before := by
  obtain ⟨front, back, hsplit⟩ := h.adjacent
  have hordered := htracker.ordered
  rw [← hsplit, List.append_assoc] at hordered hmem
  obtain ⟨-, hrest, hfront⟩ := List.pairwise_append.mp hordered
  obtain ⟨hbefore, hafter⟩ := List.pairwise_cons.mp hrest
  obtain ⟨hback, -⟩ := List.pairwise_cons.mp hafter
  have hle := UInt64.le_iff_toNat_le.mp h.le
  have hlt := UInt64.lt_iff_toNat_lt.mp h.lt
  rcases List.mem_append.mp hmem with hin | hin
  · have hless := UInt64.lt_iff_toNat_lt.mp (hfront sample hin before List.mem_cons_self)
    rw [hnumber] at hless
    omega
  rcases List.mem_cons.mp hin with heq | hin
  · exact heq
  rcases List.mem_cons.mp hin with rfl | hin
  · rw [hnumber] at hlt
    omega
  · have hless := UInt64.lt_iff_toNat_lt.mp (hback sample hin)
    rw [hnumber] at hless
    omega

lemma Bracket.interpolates (h : Bracket tracker.samples packetNumber before after)
    (htracker : tracker.WellSampled) (hwrap : ClockNotWrapped before after packetNumber) :
    ∃ pcr, Interpolates tracker packetNumber before after pcr := by
  have hforward := htracker.forward before after h.adjacent
  have hsmall := h.elapsedTicks_lt htracker
  have hdifference := h.pcrDifference_ofTicks htracker hsmall
  refine ⟨_, h.interpolatePCR_eq htracker, (h.isValid_iff htracker).mpr hwrap, ?_, ?_, ?_, ?_⟩
  · intro sample hmem hnumber
    obtain rfl := h.eq_before htracker hmem hnumber
    have hzero : elapsedTicks sample after packetNumber = 0 := by
      unfold elapsedTicks
      rw [hnumber, Nat.sub_self, Nat.mul_zero, Nat.zero_div]
    have hadd : sample.pcr.getValue27MHz + UInt64.ofNat 0 = sample.pcr.getValue27MHz :=
      UInt64.add_zero _
    rw [hzero, hadd, PCR.ofTicks_getValue27MHz (htracker.valid sample hmem)]
  · rw [hdifference]
    exact Int.natCast_nonneg _
  · have hle := h.elapsedTicks_le
    rw [hdifference]
    omega
  · intro m earlier hbefore hm hearlier
    have hbracket : Bracket tracker.samples m before after :=
      ⟨h.adjacent, hbefore, UInt64.lt_of_le_of_lt hm h.lt⟩
    have hmono := elapsedTicks_mono before after hm
    rw [hbracket.interpolatePCR_eq htracker] at hearlier
    obtain rfl := Option.some.inj hearlier
    rw [hdifference, hbracket.pcrDifference_ofTicks htracker (by omega)]
    exact_mod_cast hmono

/-- Interpolation is right exactly as long as the clock has not wrapped since the sample before. -/
theorem interpolates_iff {first last : PCRSample} (htracker : tracker.WellSampled)
    (hfirst : tracker.samples.head? = some first) (hlast : tracker.samples.getLast? = some last)
    (hle : first.packetNumber ≤ packetNumber) (hlt : packetNumber < last.packetNumber) :
    ∃ before after, Bracket tracker.samples packetNumber before after ∧
      ((∃ pcr, Interpolates tracker packetNumber before after pcr) ↔
        ClockNotWrapped before after packetNumber) := by
  obtain ⟨before, after, hbracket⟩ := exists_bracket hfirst hlast hle hlt
  refine ⟨before, after, hbracket, ?_, hbracket.interpolates htracker⟩
  rintro ⟨pcr, hpcr⟩
  have hresult := hpcr.result
  rw [hbracket.interpolatePCR_eq htracker] at hresult
  obtain rfl := Option.some.inj hresult
  exact (hbracket.isValid_iff htracker).mp hpcr.valid

end

lemma eq_of_adjacent_pair {before after first last : PCRSample}
    (h : [before, after] <:+: [first, last]) : before = first ∧ after = last := by
  simpa using h.eq_of_length rfl

lemma wellSampled_pair (pid : UInt16) {first last : PCRSample} (hfirst : first.pcr.isValid = true)
    (hlast : last.pcr.isValid = true) (hlt : first.packetNumber < last.packetNumber)
    (hforward : 0 ≤ (pcrDifference first.pcr last.pcr).toInt) :
    WellSampled { pid := pid, samples := [first, last] } := by
  refine ⟨?_, List.pairwise_pair.mpr hlt, ?_⟩
  · intro sample hsample
    rcases List.mem_pair.mp hsample with rfl | rfl
    · exact hfirst
    · exact hlast
  · intro before after hadjacent
    obtain ⟨rfl, rfl⟩ := eq_of_adjacent_pair hadjacent
    exact hforward

/-- The last two base ticks before the end of the clock come with the packets 0 and 1, and the second
sample behind the end. -/
def lateTracker : PCRTracker :=
  { pid := 0x100, samples := [⟨⟨8589934590, 0⟩, 0, 0⟩, ⟨⟨2, 0⟩, 4, 0⟩] }

/-- The packet lies between the two samples, before the clock wraps. -/
theorem interpolates_between : ∃ before after, Bracket lateTracker.samples 1 before after ∧
    before.packetNumber < 1 ∧ ∃ pcr, Interpolates lateTracker 1 before after pcr := by
  obtain ⟨before, after, hbracket, hiff⟩ := interpolates_iff
    (wellSampled_pair 0x100 (by decide) (by decide) (by decide) (by decide) : lateTracker.WellSampled)
    rfl rfl (by decide) (by decide : (1 : UInt64) < 4)
  obtain ⟨rfl, rfl⟩ := eq_of_adjacent_pair hbracket.adjacent
  refine ⟨_, _, hbracket, by decide, hiff.mpr ?_⟩
  unfold ClockNotWrapped
  decide

/-- Two samples 600 ticks apart, before and behind the end of the clock. -/
def wrappingTracker : PCRTracker :=
  { pid := 0x100, samples := [⟨⟨8589934591, 0⟩, 0, 0⟩, ⟨⟨1, 0⟩, 2, 0⟩] }

lemma wellSampled_wrappingTracker : wrappingTracker.WellSampled :=
  wellSampled_pair 0x100 (by decide) (by decide) (by decide) (by decide)

/-- Half way the clock has wrapped, and the base has 34 bits. -/
theorem interpolated_behind_wrap : wrappingTracker.WellSampled ∧
    Bracket wrappingTracker.samples 1 ⟨⟨8589934591, 0⟩, 0, 0⟩ ⟨⟨1, 0⟩, 2, 0⟩ ∧
    wrappingTracker.interpolatePCR 1 = some ⟨8589934592, 0⟩ ∧
    ¬∃ pcr, Interpolates wrappingTracker 1 ⟨⟨8589934591, 0⟩, 0, 0⟩ ⟨⟨1, 0⟩, 2, 0⟩ pcr := by
  have hbracket : Bracket wrappingTracker.samples 1 ⟨⟨8589934591, 0⟩, 0, 0⟩ ⟨⟨1, 0⟩, 2, 0⟩ :=
    ⟨List.infix_rfl, by decide, by decide⟩
  have hresult : wrappingTracker.interpolatePCR 1 = some ⟨8589934592, 0⟩ := by
    rw [hbracket.interpolatePCR_eq wellSampled_wrappingTracker]
    rfl
  refine ⟨wellSampled_wrappingTracker, hbracket, hresult, ?_⟩
  rintro ⟨pcr, hpcr⟩
  obtain rfl := Option.some.inj (hresult.symm.trans hpcr.result)
  have hvalid := hpcr.valid
  revert hvalid
  decide

end PCRTracker

end MinimalMpegTS
