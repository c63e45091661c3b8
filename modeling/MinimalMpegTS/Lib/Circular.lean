import Mathlib

/-!
# Signed distances on a circle

A counter that wraps at `M` runs around a circle. The signed distance from one of its values to
another is the way around that is not longer than half the circle, forward if it is positive.
-/

namespace Circular

variable {M : ℤ}

/-- The signed distance from `a` to `b` on a circle of length `M`. -/
def distance (M a b : ℤ) : ℤ :=
  if M / 2 < b - a then b - a - M
  else if b - a < -(M / 2) then b - a + M
  else b - a

/-- The values of the counter. -/
def Valid (M a : ℤ) : Prop := 0 ≤ a ∧ a < M

lemma Valid.double {a : ℤ} (h : Valid M a) : Valid (2 * M) a := by
  unfold Valid at *
  omega

lemma distance_mem {a b : ℤ} (heven : 2 ∣ M) (ha : Valid M a) (hb : Valid M b) :
    -(M / 2) ≤ distance M a b ∧ distance M a b ≤ M / 2 := by
  obtain ⟨ha0, haM⟩ := ha
  obtain ⟨hb0, hbM⟩ := hb
  unfold distance
  split_ifs <;> omega

/-- Going the distance leads from `a` to `b`. -/
lemma add_distance (M a b : ℤ) : a + distance M a b ≡ b [ZMOD M] := by
  apply Int.modEq_iff_dvd.mpr
  unfold distance
  split_ifs
  · exact ⟨1, by ring⟩
  · exact ⟨-1, by ring⟩
  · exact ⟨0, by ring⟩

lemma distance_neg {a b : ℤ} (hM : 0 < M) : distance M b a = -distance M a b := by
  unfold distance
  split_ifs <;> omega

/-- Two numbers that are congruent and closer than the circle is long are equal. -/
lemma eq_of_modEq {x y : ℤ} (h : x ≡ y [ZMOD M]) (hlt : |y - x| < M) : x = y := by
  have hzero := Int.eq_zero_of_abs_lt_dvd (Int.modEq_iff_dvd.mp h) hlt
  omega

/-- Distances add up as long as they do not lead half way around. -/
theorem distance_add {a b c : ℤ} (heven : 2 ∣ M) (ha : Valid M a) (hc : Valid M c)
    (hlt : |distance M a b + distance M b c| < M / 2) :
    distance M a c = distance M a b + distance M b c := by
  have hmem := distance_mem heven ha hc
  have hab := add_distance M a b
  have hbc := add_distance M b c
  have hac := add_distance M a c
  have hsum : a + (distance M a b + distance M b c) ≡ c [ZMOD M] := by
    have h := (hab.add_right (distance M b c)).trans hbc
    rwa [add_assoc] at h
  have hcongr : distance M a c ≡ distance M a b + distance M b c [ZMOD M] :=
    Int.ModEq.add_left_cancel' a (hac.trans hsum.symm)
  apply eq_of_modEq hcongr
  rw [abs_lt] at hlt ⊢
  omega

/-- Going forward by less than half the circle, without passing its start. -/
lemma distance_add_right {a d : ℤ} (hd : 0 ≤ d) (hle : d ≤ M / 2) : distance M a (a + d) = d := by
  unfold distance
  split_ifs <;> omega

end Circular
