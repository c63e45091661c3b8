import Mathlib

/-!
# Fixed-width frames in a byte stream

`frames w accept buf` reads the consecutive windows of width `w` from the start of `buf` and
keeps what `accept` makes of them, up to the first window that is rejected or incomplete;
`leftover` is the rest of the buffer. A buffer is `Drained` when reading stopped because less
than one window is left, and not because a window was rejected. The laws here say how reading
goes on when the buffer is extended, which is what feeding a stream in chunks does.
-/

namespace Framing

variable {α β : Type*} (w : Nat) (accept : List α → Option β)

/-- Reading with a bound on the number of windows. -/
def framesAux : Nat → List α → List β
  | 0, _ => []
  | n + 1, buf =>
    if w ≤ buf.length then
      match accept (buf.take w) with
      | some x => x :: framesAux n (buf.drop w)
      | none => []
    else []

/-- The accepted windows from the start of the buffer. -/
def frames (buf : List α) : List β := framesAux w accept buf.length buf

/-- What is left of the buffer after its accepted windows. -/
def leftover (buf : List α) : List α := buf.drop (w * (frames w accept buf).length)

/-- Reading stopped for want of a complete window. -/
def Drained (buf : List α) : Prop := (leftover w accept buf).length < w

instance (buf : List α) : Decidable (Drained w accept buf) := by
  unfold Drained
  infer_instance

variable {w accept}

lemma framesAux_stable (hw : 0 < w) {n m : Nat} {buf : List α} (hn : buf.length ≤ n)
    (hm : buf.length ≤ m) : framesAux w accept n buf = framesAux w accept m buf := by
  induction n generalizing m buf with
  | zero =>
    have hbuf : ¬w ≤ buf.length := by omega
    cases m <;> simp [framesAux, hbuf]
  | succ n ih =>
    cases m with
    | zero =>
      have hbuf : ¬w ≤ buf.length := by omega
      simp [framesAux, hbuf]
    | succ m =>
      simp only [framesAux]
      by_cases hlen : w ≤ buf.length
      · have hd : (buf.drop w).length = buf.length - w := List.length_drop
        cases hx : accept (buf.take w) with
        | none => simp [hlen]
        | some x =>
        have hrest : framesAux w accept n (buf.drop w) = framesAux w accept m (buf.drop w) :=
          ih (by omega) (by omega)
        simp only [hlen, if_true, hrest]
      · simp [hlen]

/-- A buffer shorter than a window has no frames. -/
lemma frames_short {buf : List α} (h : buf.length < w) : frames w accept buf = [] := by
  unfold frames
  cases buf.length with
  | zero => rfl
  | succ n => simp [framesAux, Nat.not_le.mpr h]

lemma frames_reject {buf : List α} (h : accept (buf.take w) = none) : frames w accept buf = [] := by
  unfold frames
  cases buf.length with
  | zero => rfl
  | succ n => simp [framesAux, h]

lemma frames_accept (hw : 0 < w) {buf : List α} {x : β} (hlen : w ≤ buf.length)
    (h : accept (buf.take w) = some x) :
    frames w accept buf = x :: frames w accept (buf.drop w) := by
  unfold frames
  have hd : (buf.drop w).length = buf.length - w := List.length_drop
  cases hn : buf.length with
  | zero => omega
  | succ n =>
    have hrest : framesAux w accept n (buf.drop w) =
        framesAux w accept (buf.drop w).length (buf.drop w) :=
      framesAux_stable hw (by omega) le_rfl
    simp only [framesAux, hlen, if_true, h, hrest]

lemma leftover_short {buf : List α} (h : buf.length < w) : leftover w accept buf = buf := by
  simp [leftover, frames_short h]

lemma leftover_reject {buf : List α} (h : accept (buf.take w) = none) :
    leftover w accept buf = buf := by
  simp [leftover, frames_reject h]

lemma leftover_accept (hw : 0 < w) {buf : List α} {x : β} (hlen : w ≤ buf.length)
    (h : accept (buf.take w) = some x) :
    leftover w accept buf = leftover w accept (buf.drop w) := by
  simp only [leftover, frames_accept hw hlen h, List.length_cons, List.drop_drop]
  congr 1
  ring

lemma drained_short {buf : List α} (h : buf.length < w) : Drained w accept buf := by
  simpa [Drained, leftover_short h] using h

lemma drained_accept (hw : 0 < w) {buf : List α} {x : β} (hlen : w ≤ buf.length)
    (h : accept (buf.take w) = some x) :
    Drained w accept buf ↔ Drained w accept (buf.drop w) := by
  simp only [Drained, leftover_accept hw hlen h]

lemma not_drained_reject {buf : List α} (hlen : w ≤ buf.length) (h : accept (buf.take w) = none) :
    ¬Drained w accept buf := by
  simpa [Drained, leftover_reject h] using hlen

/-- Induction over the windows of a buffer: too short, rejected, accepted. -/
theorem window_induction (accept : List α → Option β) (hw : 0 < w) {P : List α → Prop}
    (short : ∀ buf, buf.length < w → P buf)
    (reject : ∀ buf, w ≤ buf.length → accept (buf.take w) = none → P buf)
    (next : ∀ buf x, w ≤ buf.length → accept (buf.take w) = some x → P (buf.drop w) → P buf)
    (buf : List α) : P buf := by
  induction hn : buf.length using Nat.strong_induction_on generalizing buf with
  | _ n ih =>
    by_cases hlen : w ≤ buf.length
    · cases hx : accept (buf.take w) with
      | none => exact reject buf hlen hx
      | some x =>
        have hd : (buf.drop w).length = buf.length - w := List.length_drop
        exact next buf x hlen hx (ih _ (by omega) _ rfl)
    · exact short buf (by omega)

private lemma take_append_window {a b : List α} (h : w ≤ a.length) :
    (a ++ b).take w = a.take w := List.take_append_of_le_length h

private lemma drop_append_window {a b : List α} (h : w ≤ a.length) :
    (a ++ b).drop w = a.drop w ++ b := List.drop_append_of_le_length h

/-- Frames of an extended buffer: those of the buffer, then those read from its leftover. -/
theorem frames_append (hw : 0 < w) {a b : List α} (h : Drained w accept a) :
    frames w accept (a ++ b) = frames w accept a ++ frames w accept (leftover w accept a ++ b) := by
  induction a using window_induction accept hw with
  | short a ha => rw [frames_short ha, leftover_short ha, List.nil_append]
  | reject a ha hx => exact absurd h (not_drained_reject ha hx)
  | next a x ha hx ih =>
    have hab : accept ((a ++ b).take w) = some x := by rwa [take_append_window ha]
    have hlen : w ≤ (a ++ b).length := by rw [List.length_append]; omega
    rw [frames_accept hw hlen hab, drop_append_window ha, ih ((drained_accept hw ha hx).mp h),
      frames_accept hw ha hx, leftover_accept hw ha hx, List.cons_append]

theorem leftover_append (hw : 0 < w) {a b : List α} (h : Drained w accept a) :
    leftover w accept (a ++ b) = leftover w accept (leftover w accept a ++ b) := by
  induction a using window_induction accept hw with
  | short a ha => rw [leftover_short ha]
  | reject a ha hx => exact absurd h (not_drained_reject ha hx)
  | next a x ha hx ih =>
    have hab : accept ((a ++ b).take w) = some x := by rwa [take_append_window ha]
    have hlen : w ≤ (a ++ b).length := by rw [List.length_append]; omega
    rw [leftover_accept hw hlen hab, drop_append_window ha, ih ((drained_accept hw ha hx).mp h),
      leftover_accept hw ha hx]

theorem drained_append (hw : 0 < w) {a b : List α} (h : Drained w accept a) :
    Drained w accept (a ++ b) ↔ Drained w accept (leftover w accept a ++ b) := by
  simp only [Drained, leftover_append hw h]

/-- A rejected window stays rejected: nothing more is read from an extended buffer. -/
theorem frames_append_of_not_drained (hw : 0 < w) {a b : List α} (h : ¬Drained w accept a) :
    frames w accept (a ++ b) = frames w accept a ∧ ¬Drained w accept (a ++ b) := by
  induction a using window_induction accept hw with
  | short a ha => exact absurd (drained_short ha) h
  | reject a ha hx =>
    have hab : accept ((a ++ b).take w) = none := by rwa [take_append_window ha]
    have hlen : w ≤ (a ++ b).length := by rw [List.length_append]; omega
    exact ⟨by rw [frames_reject hab, frames_reject hx], not_drained_reject hlen hab⟩
  | next a x ha hx ih =>
    have hab : accept ((a ++ b).take w) = some x := by rwa [take_append_window ha]
    have hlen : w ≤ (a ++ b).length := by rw [List.length_append]; omega
    obtain ⟨hf, hd⟩ := ih (fun h' => h ((drained_accept hw ha hx).mpr h'))
    rw [drained_accept hw hlen hab, frames_accept hw hlen hab, drop_append_window ha,
      frames_accept hw ha hx, hf]
    exact ⟨rfl, hd⟩

/-- A buffer is drained exactly when all of its complete windows are accepted. -/
theorem drained_iff (hw : 0 < w) (buf : List α) :
    Drained w accept buf ↔
      ∀ i, w * (i + 1) ≤ buf.length → accept ((buf.drop (w * i)).take w) ≠ none := by
  induction buf using window_induction accept hw with
  | short buf h =>
    refine ⟨?_, fun _ => drained_short h⟩
    intro _ i hi
    rw [Nat.mul_succ] at hi
    omega
  | reject buf hlen hx =>
    refine ⟨fun h => absurd h (not_drained_reject hlen hx), ?_⟩
    intro h
    exact absurd hx (by simpa using h 0 (by simpa using hlen))
  | next buf x hlen hx ih =>
    rw [drained_accept hw hlen hx, ih, List.length_drop]
    constructor
    · intro h i hi
      cases i with
      | zero =>
        rw [Nat.mul_zero, List.drop_zero, hx]
        exact Option.some_ne_none x
      | succ i =>
        have hrest := h i (by rw [Nat.mul_succ] at hi; omega)
        rwa [List.drop_drop, Nat.add_comm, ← Nat.mul_succ] at hrest
    · intro h i hi
      have hnext := h (i + 1) (by rw [Nat.mul_succ]; omega)
      rwa [List.drop_drop, Nat.add_comm, ← Nat.mul_succ]

/-- Whole accepted windows are read one by one. -/
theorem frames_flatten (hw : 0 < w) {ps : List (List α)} {xs : List β}
    (h : List.Forall₂ (fun p x => p.length = w ∧ accept p = some x) ps xs) (b : List α) :
    frames w accept (ps.flatten ++ b) = xs ++ frames w accept b ∧
      leftover w accept (ps.flatten ++ b) = leftover w accept b := by
  induction h with
  | nil => simp
  | @cons p x ps xs hp _ ih =>
    have ht : (p ++ (ps.flatten ++ b)).take w = p := by rw [← hp.1, List.take_left]
    have hd : (p ++ (ps.flatten ++ b)).drop w = ps.flatten ++ b := by rw [← hp.1, List.drop_left]
    have hlen : w ≤ (p ++ (ps.flatten ++ b)).length := by rw [List.length_append, hp.1]; omega
    rw [List.flatten_cons, List.append_assoc, frames_accept hw hlen (by rw [ht]; exact hp.2), hd,
      leftover_accept hw hlen (by rw [ht]; exact hp.2), hd, ih.1, ih.2]
    exact ⟨rfl, rfl⟩

/-- Every frame is read from a window of the buffer. -/
lemma exists_window_of_mem_frames (hw : 0 < w) {buf : List α} {x : β}
    (h : x ∈ frames w accept buf) : ∃ window, window.length = w ∧ accept window = some x := by
  induction buf using window_induction accept hw with
  | short buf hlen => simp [frames_short hlen] at h
  | reject buf _ hx => simp [frames_reject hx] at h
  | next buf y hlen hy ih =>
    rw [frames_accept hw hlen hy, List.mem_cons] at h
    rcases h with rfl | h
    · exact ⟨buf.take w, List.length_take_of_le hlen, hy⟩
    · exact ih h

lemma frames_length_le (hw : 0 < w) (buf : List α) :
    w * (frames w accept buf).length ≤ buf.length := by
  induction buf using window_induction accept hw with
  | short buf h => simp [frames_short h]
  | reject buf _ h => simp [frames_reject h]
  | next buf x hlen h ih =>
    rw [frames_accept hw hlen h, List.length_cons, Nat.mul_succ]
    rw [List.length_drop] at ih
    omega

lemma frames_length_of_drained (hw : 0 < w) {buf : List α} (h : Drained w accept buf) :
    (frames w accept buf).length = buf.length / w := by
  have hle : w * (frames w accept buf).length ≤ buf.length := frames_length_le hw buf
  unfold Drained leftover at h
  rw [List.length_drop] at h
  symm
  apply Nat.div_eq_of_lt_le
  · rwa [Nat.mul_comm]
  · rw [Nat.succ_mul, Nat.mul_comm]
    omega

end Framing
