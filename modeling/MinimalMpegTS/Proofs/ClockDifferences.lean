import MinimalMpegTS.Lib.Circular
import MinimalMpegTS.Model.PCR
import MinimalMpegTS.Model.PES

/-!
# Differences of clock values

Both clocks wrap: timestamps at `2 ^ 33`, clock references at `300 * 2 ^ 33`. The two differences
of the code are one computation on signed 64-bit values, which is exact on valid values and gives
the signed distance on the circle.
-/

namespace MinimalMpegTS

/-- The computation behind both differences. -/
def wrapDifference (max v1 v2 : Int64) : Int64 :=
  let diff := v2 - v1
  if diff > max / 2 then diff - max
  else if diff < -max / 2 then diff + max
  else diff

lemma timestampDifference_eq (ts1 ts2 : Timestamp) : timestampDifference ts1 ts2 =
    wrapDifference tsMax ts1.value.toInt64 ts2.value.toInt64 := rfl

lemma pcrDifference_eq (pcr1 pcr2 : PCR) : pcrDifference pcr1 pcr2 =
    wrapDifference pcrMax pcr1.getValue27MHz.toInt64 pcr2.getValue27MHz.toInt64 := rfl

/-- None of the signed operations of the computation overflows. -/
structure NoOverflow (max v1 v2 : Int64) : Prop where
  difference : v2.toBitVec.ssubOverflow v1.toBitVec = false
  negation : max.toBitVec.negOverflow = false
  forward : v2 - v1 > max / 2 → (v2 - v1).toBitVec.ssubOverflow max.toBitVec = false
  backward : ¬v2 - v1 > max / 2 → v2 - v1 < -max / 2 →
    (v2 - v1).toBitVec.saddOverflow max.toBitVec = false

/-- A length of a circle whose values the signed computation can hold. -/
structure FitsSigned (max : Int64) : Prop where
  pos : 0 < max.toInt
  small : max.toInt < 2 ^ 61
  even : 2 ∣ max.toInt

lemma fitsSigned_tsMax : FitsSigned tsMax := ⟨by decide, by decide, by decide⟩

lemma fitsSigned_pcrMax : FitsSigned pcrMax := ⟨by decide, by decide, by decide⟩

lemma ssubOverflow_eq_false {x y : Int64}
    (h : -2 ^ 63 ≤ x.toInt - y.toInt ∧ x.toInt - y.toInt < 2 ^ 63) :
    x.toBitVec.ssubOverflow y.toBitVec = false := by
  unfold BitVec.ssubOverflow
  rw [Int64.toInt_toBitVec, Int64.toInt_toBitVec, decide_eq_false (by omega),
    decide_eq_false (by omega)]
  rfl

lemma saddOverflow_eq_false {x y : Int64}
    (h : -2 ^ 63 ≤ x.toInt + y.toInt ∧ x.toInt + y.toInt < 2 ^ 63) :
    x.toBitVec.saddOverflow y.toBitVec = false := by
  unfold BitVec.saddOverflow
  rw [Int64.toInt_toBitVec, Int64.toInt_toBitVec, decide_eq_false (by omega),
    decide_eq_false (by omega)]
  rfl

lemma toInt_sub_exact {x y : Int64} (h : x.toBitVec.ssubOverflow y.toBitVec = false) :
    (x - y).toInt = x.toInt - y.toInt :=
  BitVec.toInt_sub_of_not_ssubOverflow (by rw [h]; decide)

lemma toInt_add_exact {x y : Int64} (h : x.toBitVec.saddOverflow y.toBitVec = false) :
    (x + y).toInt = x.toInt + y.toInt :=
  BitVec.toInt_add_of_not_saddOverflow (by rw [h]; decide)

lemma toInt_toInt64 {v : UInt64} (h : v.toNat < 2 ^ 63) : v.toInt64.toInt = v.toNat := by
  rw [← Int64.toInt_toBitVec, UInt64.toBitVec_toInt64, BitVec.toInt_eq_toNat_of_lt]
  · rfl
  · show 2 * v.toNat < 2 ^ 64
    omega

section

variable {max v1 v2 v3 : Int64}

lemma FitsSigned.toInt_half (hmax : FitsSigned max) :
    (max / 2).toInt = max.toInt / 2 ∧ (-max / 2).toInt = -(max.toInt / 2) := by
  obtain ⟨hpos, hsmall, k, hk⟩ := hmax
  have hne : (2 : Int64) ≠ -1 := by decide
  have htwo : (2 : Int64).toInt = 2 := by decide
  have hneg : (-max).toInt = -max.toInt := by
    rw [Int64.toInt_neg]
    apply Int.bmod_eq_of_le <;> omega
  constructor
  · rw [Int64.toInt_div_of_ne_right _ _ hne, htwo]
    exact Int.tdiv_eq_ediv_of_nonneg hpos.le
  · rw [Int64.toInt_div_of_ne_right _ _ hne, htwo, hneg, Int.neg_tdiv,
      Int.tdiv_eq_ediv_of_nonneg hpos.le]

lemma FitsSigned.noOverflow (hmax : FitsSigned max) (h1 : Circular.Valid (2 * max.toInt) v1.toInt)
    (h2 : Circular.Valid (2 * max.toInt) v2.toInt) : NoOverflow max v1 v2 := by
  have hsmall := hmax.small
  have hpos := hmax.pos
  obtain ⟨h10, h1max⟩ := h1
  obtain ⟨h20, h2max⟩ := h2
  have hdifference : v2.toBitVec.ssubOverflow v1.toBitVec = false :=
    ssubOverflow_eq_false (by omega)
  have hexact := toInt_sub_exact hdifference
  refine ⟨hdifference, ?_, ?_, ?_⟩
  · unfold BitVec.negOverflow
    rw [Int64.toInt_toBitVec]
    exact beq_false_of_ne (by omega)
  · intro _
    exact ssubOverflow_eq_false (by omega)
  · intro _ _
    exact saddOverflow_eq_false (by omega)

/-- The computation gives the signed distance on the circle. -/
theorem FitsSigned.toInt_wrapDifference (hmax : FitsSigned max)
    (h1 : Circular.Valid (2 * max.toInt) v1.toInt) (h2 : Circular.Valid (2 * max.toInt) v2.toInt) :
    (wrapDifference max v1 v2).toInt = Circular.distance max.toInt v1.toInt v2.toInt := by
  have hexact := hmax.noOverflow h1 h2
  have hdiff := toInt_sub_exact hexact.difference
  obtain ⟨hhalf, hnegHalf⟩ := hmax.toInt_half
  have hforward : v2 - v1 > max / 2 ↔ max.toInt / 2 < v2.toInt - v1.toInt := by
    rw [gt_iff_lt, Int64.lt_iff_toInt_lt, hhalf, hdiff]
  have hbackward : v2 - v1 < -max / 2 ↔ v2.toInt - v1.toInt < -(max.toInt / 2) := by
    rw [Int64.lt_iff_toInt_lt, hnegHalf, hdiff]
  unfold wrapDifference Circular.distance
  dsimp only
  by_cases hgt : v2 - v1 > max / 2
  · rw [if_pos hgt, if_pos (hforward.mp hgt), toInt_sub_exact (hexact.forward hgt), hdiff]
  · rw [if_neg hgt, if_neg (fun h => hgt (hforward.mpr h))]
    by_cases hlt : v2 - v1 < -max / 2
    · rw [if_pos hlt, if_pos (hbackward.mp hlt), toInt_add_exact (hexact.backward hgt hlt), hdiff]
    · rw [if_neg hlt, if_neg (fun h => hlt (hbackward.mpr h)), hdiff]

end

/-! ### The two clocks -/

lemma Timestamp.valid_value {ts : Timestamp} (h : ts.isValid = true) :
    ts.value.toInt64.toInt = ts.value.toNat ∧ Circular.Valid tsMax.toInt ts.value.toInt64.toInt := by
  have hlt : ts.value.toNat < 2 ^ 33 := of_decide_eq_true h
  have hmax : tsMax.toInt = 2 ^ 33 := by decide
  rw [toInt_toInt64 (by omega), hmax]
  exact ⟨rfl, by omega, by omega⟩

lemma PCR.toNat_getValue27MHz {pcr : PCR} (h : pcr.isValid = true) :
    pcr.getValue27MHz.toNat = pcr.base.toNat * 300 + pcr.extension.toNat ∧
      pcr.getValue27MHz.toNat < 300 * 2 ^ 33 := by
  obtain ⟨hbaseLt, hextensionLt⟩ := Bool.and_eq_true_iff.mp h
  have hbase : pcr.base.toNat < 2 ^ 33 := of_decide_eq_true hbaseLt
  have hextension : pcr.extension.toNat < 300 := of_decide_eq_true hextensionLt
  have hthree : (300 : UInt64).toNat = 300 := rfl
  have hvalue : pcr.getValue27MHz.toNat = pcr.base.toNat * 300 + pcr.extension.toNat := by
    unfold PCR.getValue27MHz
    rw [UInt64.toNat_add, UInt64.toNat_mul, UInt16.toNat_toUInt64, hthree]
    omega
  omega

lemma PCR.valid_value {pcr : PCR} (h : pcr.isValid = true) :
    pcr.getValue27MHz.toInt64.toInt = pcr.getValue27MHz.toNat ∧
      Circular.Valid pcrMax.toInt pcr.getValue27MHz.toInt64.toInt := by
  have hlt := (toNat_getValue27MHz h).2
  have hmax : pcrMax.toInt = 300 * 2 ^ 33 := by decide
  rw [toInt_toInt64 (by omega), hmax]
  exact ⟨rfl, by omega, by omega⟩

/-- What a difference `d` of values on a circle of length `M` has to be on three of them. -/
structure SignedDistance {α : Type} (M : ℤ) (value : α → ℤ) (d : α → α → Int64) (a b c : α) :
    Prop where
  range : -(M / 2) ≤ (d a b).toInt ∧ (d a b).toInt ≤ M / 2
  congruent : value a + (d a b).toInt ≡ value b [ZMOD M]
  antisymmetric : (d b a).toInt = -(d a b).toInt
  additive : |(d a b).toInt + (d b c).toInt| < M / 2 →
    (d a c).toInt = (d a b).toInt + (d b c).toInt

lemma signedDistance_of_eq {α : Type} {M : ℤ} {value : α → ℤ} {d : α → α → Int64} {a b c : α}
    (hpos : 0 < M) (heven : 2 ∣ M) (ha : Circular.Valid M (value a))
    (hb : Circular.Valid M (value b)) (hc : Circular.Valid M (value c))
    (hd : ∀ x ∈ [a, b, c], ∀ y ∈ [a, b, c], (d x y).toInt = Circular.distance M (value x) (value y)) :
    SignedDistance M value d a b c := by
  have hab := hd a (by simp) b (by simp)
  have hba := hd b (by simp) a (by simp)
  have hbc := hd b (by simp) c (by simp)
  have hac := hd a (by simp) c (by simp)
  refine ⟨?_, ?_, ?_, ?_⟩
  · rw [hab]
    exact Circular.distance_mem heven ha hb
  · rw [hab]
    exact Circular.add_distance M (value a) (value b)
  · rw [hab, hba]
    exact Circular.distance_neg hpos
  · intro hlt
    rw [hab, hbc] at hlt ⊢
    rw [hac]
    exact Circular.distance_add heven ha hc hlt

lemma toInt_timestampDifference {ts1 ts2 : Timestamp} (h1 : ts1.isValid = true)
    (h2 : ts2.isValid = true) : Circular.Valid (2 ^ 33) (ts1.value.toNat : ℤ) ∧
      (timestampDifference ts1 ts2).toInt =
        Circular.distance (2 ^ 33) ts1.value.toNat ts2.value.toNat := by
  have hmax : tsMax.toInt = 2 ^ 33 := by decide
  obtain ⟨hvalue1, hvalid1⟩ := Timestamp.valid_value h1
  obtain ⟨hvalue2, hvalid2⟩ := Timestamp.valid_value h2
  rw [timestampDifference_eq, fitsSigned_tsMax.toInt_wrapDifference hvalid1.double hvalid2.double,
    hvalue1, hvalue2, hmax]
  rw [hvalue1, hmax] at hvalid1
  exact ⟨hvalid1, rfl⟩

lemma toInt_getValue27MHz {pcr : PCR} (h : pcr.isValid = true) :
    pcr.getValue27MHz.toInt64.toInt = (pcr.base.toNat * 300 + pcr.extension.toNat : ℤ) := by
  rw [(PCR.valid_value h).1, (PCR.toNat_getValue27MHz h).1]
  push_cast
  rfl

lemma toInt_pcrDifference {pcr1 pcr2 : PCR} (h1 : pcr1.isValid = true) (h2 : pcr2.isValid = true) :
    Circular.Valid (300 * 2 ^ 33) (pcr1.base.toNat * 300 + pcr1.extension.toNat : ℤ) ∧
      (pcrDifference pcr1 pcr2).toInt =
        Circular.distance (300 * 2 ^ 33) (pcr1.base.toNat * 300 + pcr1.extension.toNat)
          (pcr2.base.toNat * 300 + pcr2.extension.toNat) := by
  have hmax : pcrMax.toInt = 300 * 2 ^ 33 := by decide
  have hvalid1 := (PCR.valid_value h1).2
  have hvalid2 := (PCR.valid_value h2).2
  rw [pcrDifference_eq, fitsSigned_pcrMax.toInt_wrapDifference hvalid1.double hvalid2.double,
    toInt_getValue27MHz h1, toInt_getValue27MHz h2, hmax]
  rw [toInt_getValue27MHz h1, hmax] at hvalid1
  exact ⟨hvalid1, rfl⟩

lemma timestampDifference_signedDistance {a b c : Timestamp} (ha : a.isValid = true)
    (hb : b.isValid = true) (hc : c.isValid = true) :
    SignedDistance (2 ^ 33) (fun ts => ts.value.toNat) timestampDifference a b c := by
  have hall : ∀ x ∈ [a, b, c], x.isValid = true := by simp [ha, hb, hc]
  refine signedDistance_of_eq (by norm_num) (by norm_num) ?_ ?_ ?_ ?_
  · exact (toInt_timestampDifference ha ha).1
  · exact (toInt_timestampDifference hb hb).1
  · exact (toInt_timestampDifference hc hc).1
  · exact fun x hx y hy => (toInt_timestampDifference (hall x hx) (hall y hy)).2

lemma pcrDifference_signedDistance {p q r : PCR} (hp : p.isValid = true) (hq : q.isValid = true)
    (hr : r.isValid = true) :
    SignedDistance (300 * 2 ^ 33) (fun pcr => pcr.base.toNat * 300 + pcr.extension.toNat)
      pcrDifference p q r := by
  have hall : ∀ x ∈ [p, q, r], x.isValid = true := by simp [hp, hq, hr]
  refine signedDistance_of_eq (by norm_num) (by norm_num) ?_ ?_ ?_ ?_
  · exact (toInt_pcrDifference hp hp).1
  · exact (toInt_pcrDifference hq hq).1
  · exact (toInt_pcrDifference hr hr).1
  · exact fun x hx y hy => (toInt_pcrDifference (hall x hx) (hall y hy)).2

/-- Both differences are exact signed distances, and nothing in them overflows. -/
theorem clock_differences {a b c : Timestamp} {p q r : PCR} (ha : a.isValid = true)
    (hb : b.isValid = true) (hc : c.isValid = true) (hp : p.isValid = true) (hq : q.isValid = true)
    (hr : r.isValid = true) :
    SignedDistance (2 ^ 33) (fun ts => ts.value.toNat) timestampDifference a b c ∧
      NoOverflow tsMax a.value.toInt64 b.value.toInt64 ∧
      a.value.toInt64.toInt = a.value.toNat ∧
      SignedDistance (300 * 2 ^ 33) (fun pcr => pcr.base.toNat * 300 + pcr.extension.toNat)
        pcrDifference p q r ∧
      NoOverflow pcrMax p.getValue27MHz.toInt64 q.getValue27MHz.toInt64 ∧
      p.getValue27MHz.toInt64.toInt = p.base.toNat * 300 + p.extension.toNat := by
  refine ⟨timestampDifference_signedDistance ha hb hc, ?_, (Timestamp.valid_value ha).1,
    pcrDifference_signedDistance hp hq hr, ?_, toInt_getValue27MHz hp⟩
  · exact fitsSigned_tsMax.noOverflow (Timestamp.valid_value ha).2.double
      (Timestamp.valid_value hb).2.double
  · exact fitsSigned_pcrMax.noOverflow (PCR.valid_value hp).2.double (PCR.valid_value hq).2.double

/-- Around the wrap of both clocks. -/
theorem clock_differences_wrap :
    SignedDistance (2 ^ 33) (fun ts => ts.value.toNat) timestampDifference
        ⟨8589934591⟩ ⟨5⟩ ⟨0⟩ ∧
      NoOverflow tsMax (8589934591 : UInt64).toInt64 (5 : UInt64).toInt64 ∧
      (8589934591 : UInt64).toInt64.toInt = (8589934591 : UInt64).toNat ∧
      SignedDistance (300 * 2 ^ 33) (fun pcr => pcr.base.toNat * 300 + pcr.extension.toNat)
        pcrDifference ⟨8589934591, 299⟩ ⟨0, 1⟩ ⟨1, 0⟩ ∧
      NoOverflow pcrMax (PCR.getValue27MHz ⟨8589934591, 299⟩).toInt64
        (PCR.getValue27MHz ⟨0, 1⟩).toInt64 ∧
      (PCR.getValue27MHz ⟨8589934591, 299⟩).toInt64.toInt =
        (8589934591 : UInt64).toNat * 300 + (299 : UInt16).toNat :=
  clock_differences (by decide) (by decide) (by decide) (by decide) (by decide) (by decide)

end MinimalMpegTS
