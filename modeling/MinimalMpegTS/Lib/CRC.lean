import Mathlib

/-!
# Cyclic redundancy codes

A register of `w` bits divides a stream of bits, the highest bit of each number first, by the
polynomial `x ^ w + poly`. The register is linear in what it holds and in what it reads, which
gives the table that replaces `k` steps by one (`run_bits`). When the polynomial is odd a step
loses nothing, and the only register that a message of at most `w` bits clears is that message
(`run_eq_zero_iff`): a number behind a message clears the register if and only if it is what the
register held, and messages that differ within `w` consecutive bits leave different registers. Messages that
differ in one or two bits do so as well when no walk of their length leads from the polynomial to
the register with the highest bit only (`run_ne_of_errors`).
-/

namespace CRC

variable {w : Nat} (poly : BitVec w)

/-- The register after one more bit. -/
def stepBit (crc : BitVec w) (bit : Bool) : BitVec w :=
  if crc.msb ^^ bit then (crc <<< 1) ^^^ poly else crc <<< 1

/-- The register after some more bits. -/
def run (crc : BitVec w) (message : List Bool) : BitVec w := message.foldl (stepBit poly) crc

/-- The bits of a number, the highest one first. -/
def bits {k : Nat} (x : BitVec k) : List Bool := (List.range k).map (fun i => x.getMsbD i)

/-- The highest `k` bits of a register. -/
def top (k : Nat) (crc : BitVec w) : BitVec k := (crc >>> (w - k)).setWidth k

@[simp] lemma run_nil (crc : BitVec w) : run poly crc [] = crc := rfl

@[simp] lemma run_cons (crc : BitVec w) (bit : Bool) (message : List Bool) :
    run poly crc (bit :: message) = run poly (stepBit poly crc bit) message := rfl

lemma run_append (crc : BitVec w) (front back : List Bool) :
    run poly crc (front ++ back) = run poly (run poly crc front) back := List.foldl_append

@[simp] lemma length_bits {k : Nat} (x : BitVec k) : (bits x).length = k := by simp [bits]

lemma getElem?_bits {k i : Nat} (x : BitVec k) (h : i < k) : (bits x)[i]? = some (x.getMsbD i) := by
  simp [bits, h]

lemma bits_injective {k : Nat} : Function.Injective (bits : BitVec k → List Bool) := by
  intro x y h
  apply BitVec.eq_of_getMsbD_eq
  intro i hi
  have hget := congrArg (fun l : List Bool => l[i]?) h
  simpa only [getElem?_bits _ hi, Option.some.injEq] using hget

lemma zipWith_bits {k : Nat} (x y : BitVec k) :
    List.zipWith xor (bits x) (bits y) = bits (x ^^^ y) := by
  simp [bits, List.zipWith_map, List.zipWith_self]

lemma bits_append {j k : Nat} (x : BitVec j) (y : BitVec k) : bits (x ++ y) = bits x ++ bits y := by
  unfold bits
  rw [List.range_add, List.map_append, List.map_map]
  congr 1
  · apply List.map_congr_left
    intro i hi
    simp [BitVec.getMsbD_append, List.mem_range.mp hi]
  · apply List.map_congr_left
    intro i hi
    simp [BitVec.getMsbD_append]

/-! ### Linearity -/

lemma ite_xor (a b : Bool) : (if a ^^ b then poly else 0#w) =
    (if a then poly else 0#w) ^^^ (if b then poly else 0#w) := by
  cases a <;> cases b <;> simp

lemma stepBit_eq (crc : BitVec w) (bit : Bool) :
    stepBit poly crc bit = (crc <<< 1) ^^^ (if crc.msb ^^ bit then poly else 0#w) := by
  unfold stepBit
  split <;> simp

lemma stepBit_xor (x y : BitVec w) (a b : Bool) :
    stepBit poly (x ^^^ y) (a ^^ b) = stepBit poly x a ^^^ stepBit poly y b := by
  simp only [stepBit_eq, BitVec.msb_xor, BitVec.shiftLeft_xor_distrib, ite_xor]
  ac_rfl

lemma run_xor {front back : List Bool} (h : front.length = back.length) (x y : BitVec w) :
    run poly (x ^^^ y) (List.zipWith xor front back) = run poly x front ^^^ run poly y back := by
  induction front generalizing back x y with
  | nil =>
    obtain rfl := List.eq_nil_of_length_eq_zero h.symm
    rfl
  | cons a front ih =>
    cases back with
    | nil => cases h
    | cons b back =>
      rw [List.zipWith_cons_cons, run_cons, stepBit_xor, ih (Nat.succ.inj h)]
      rfl

lemma zipWith_false (message : List Bool) :
    List.zipWith xor message (List.replicate message.length false) = message := by
  induction message with
  | nil => rfl
  | cons bit message ih => rw [List.length_cons, List.replicate_succ, List.zipWith_cons_cons, ih,
      Bool.xor_false]

/-- What the register holds is added to what the message leaves. -/
lemma run_add (x y : BitVec w) (message : List Bool) : run poly (x ^^^ y) message =
    run poly x message ^^^ run poly y (List.replicate message.length false) := by
  rw [← run_xor poly (by simp), zipWith_false]

/-! ### Many bits at a time -/

lemma getMsbD_top {k i : Nat} (crc : BitVec w) (hk : k ≤ w) (hi : i < k) :
    (top k crc).getMsbD i = crc.getMsbD i := by
  have hindex : i + w - k - (w - k) = i := by omega
  have hfirst : k - w ≤ i := by omega
  have hlast : i + w - k < w := by omega
  have hlow : ¬i + w - k < w - k := by omega
  simp [top, BitVec.getMsbD_setWidth, BitVec.getMsbD_ushiftRight, hindex, hfirst, hlast, hlow]

lemma top_succ {k : Nat} (crc : BitVec w) (h : k + 1 ≤ w) :
    bits (top (k + 1) crc) = crc.msb :: bits (top k (crc <<< 1)) := by
  unfold bits
  rw [List.range_succ_eq_map, List.map_cons, List.map_map, getMsbD_top crc h (by omega),
    BitVec.msb_eq_getMsbD_zero]
  congr 1
  apply List.map_congr_left
  intro i hi
  have hi := List.mem_range.mp hi
  rw [Function.comp_apply, getMsbD_top crc h (by omega), getMsbD_top _ (by omega) hi,
    BitVec.getMsbD_shiftLeft]

/-- A message moves the register up and adds what the message and the bits that leave the register
lead to together. -/
theorem run_top (crc : BitVec w) {message : List Bool} (h : message.length ≤ w) :
    run poly crc message = (crc <<< message.length) ^^^
      run poly 0#w (List.zipWith xor (bits (top message.length crc)) message) := by
  induction message generalizing crc with
  | nil => simp
  | cons bit message ih =>
    have hlen : message.length + 1 ≤ w := h
    have hfirst : stepBit poly crc bit = (crc <<< 1) ^^^ stepBit poly 0#w (crc.msb ^^ bit) := by
      simp [stepBit_eq]
    have hzip : (List.zipWith xor (bits (top message.length (crc <<< 1))) message).length =
        message.length := by simp
    rw [List.length_cons, top_succ crc hlen, List.zipWith_cons_cons, run_cons, run_cons, hfirst,
      run_add, ih _ (by omega), Nat.add_comm, BitVec.shiftLeft_add]
    have hsplit := run_add poly 0#w (stepBit poly 0#w (crc.msb ^^ bit))
      (List.zipWith xor (bits (top message.length (crc <<< 1))) message)
    rw [hzip, BitVec.zero_xor] at hsplit
    rw [hsplit, BitVec.xor_assoc]

/-! ### Odd polynomials -/

section Odd

variable {poly} (hpoly : poly.getLsbD 0 = true)
include hpoly

lemma width_pos : 0 < w := by
  by_contra hw
  obtain rfl : w = 0 := by omega
  simp at hpoly

/-- The lowest bit tells whether the register has been reduced. -/
lemma getMsbD_stepBit_last (crc : BitVec w) (bit : Bool) :
    (stepBit poly crc bit).getMsbD (w - 1) = (crc.msb ^^ bit) := by
  have hw := width_pos hpoly
  unfold stepBit
  cases crc.msb ^^ bit <;> simp [BitVec.getMsbD_eq_getLsbD, hpoly, hw]

/-- A message of at most `w` bits clears the register that starts with it and goes on with zeros,
and no other one. -/
theorem run_eq_zero_iff (crc : BitVec w) {message : List Bool} (h : message.length ≤ w) :
    run poly crc message = 0#w ↔ ∀ i < w, crc.getMsbD i = message.getD i false := by
  induction message generalizing crc with
  | nil =>
    constructor
    · intro hzero i _
      have hcrc : crc = 0#w := hzero
      simp [hcrc]
    · intro hbits
      apply BitVec.eq_of_getMsbD_eq
      intro i hi
      simpa using hbits i hi
  | cons bit message ih =>
    have hw := width_pos hpoly
    have hlen : message.length + 1 ≤ w := h
    have hbeyond : message.getD (w - 1) false = false := by
      rw [List.getD_eq_getElem?_getD, List.getElem?_eq_none (by omega), Option.getD_none]
    rw [run_cons, ih _ (by omega)]
    constructor
    · intro hbits i hi
      have hsame : (crc.msb ^^ bit) = false := by
        rw [← getMsbD_stepBit_last hpoly, hbits (w - 1) (by omega), hbeyond]
      cases i with
      | zero =>
        rw [List.getD_cons_zero, ← BitVec.msb_eq_getMsbD_zero]
        simpa using hsame
      | succ i =>
        have hnext := hbits i (by omega)
        unfold stepBit at hnext
        rw [hsame, if_neg (by decide), BitVec.getMsbD_shiftLeft] at hnext
        rw [List.getD_cons_succ, hnext]
    · intro hbits i hi
      have hfirst := hbits 0 hw
      rw [List.getD_cons_zero, ← BitVec.msb_eq_getMsbD_zero] at hfirst
      unfold stepBit
      rw [hfirst, Bool.xor_self, if_neg (by decide), BitVec.getMsbD_shiftLeft]
      by_cases hlast : i + 1 < w
      · rw [hbits (i + 1) hlast, List.getD_cons_succ]
      · have hi : i = w - 1 := by omega
        rw [hi, hbeyond, BitVec.getMsbD_of_ge _ _ (by omega)]

lemma stepBit_injective (bit : Bool) : Function.Injective (fun crc => stepBit poly crc bit) := by
  intro x y h
  have hw := width_pos hpoly
  have hzero : run poly (x ^^^ y) [false] = 0#w := by
    have hsame : stepBit poly x bit = stepBit poly y bit := h
    have hxor := stepBit_xor poly x y bit bit
    rw [Bool.xor_self] at hxor
    rw [run_cons, run_nil, hxor, hsame, BitVec.xor_self]
  rw [run_eq_zero_iff hpoly _ (by rw [List.length_singleton]; omega)] at hzero
  rw [← BitVec.xor_eq_zero_iff]
  apply BitVec.eq_of_getMsbD_eq
  intro i hi
  rw [hzero i hi, BitVec.getMsbD_zero]
  cases i with
  | zero => rfl
  | succ i => simp

/-- A message loses nothing of what the register held. -/
theorem run_injective (message : List Bool) : Function.Injective (fun crc => run poly crc message) := by
  induction message with
  | nil => exact fun x y h => h
  | cons bit message ih => exact fun x y h => stepBit_injective hpoly bit (ih h)

/-- A number clears the register that holds it. -/
theorem run_bits_eq_zero_iff (crc x : BitVec w) : run poly crc (bits x) = 0#w ↔ x = crc := by
  rw [run_eq_zero_iff hpoly crc (length_bits x).le]
  constructor
  · intro hbits
    apply BitVec.eq_of_getMsbD_eq
    intro i hi
    rw [hbits i hi, List.getD_eq_getElem?_getD, getElem?_bits x hi, Option.getD_some]
  · rintro rfl i hi
    rw [List.getD_eq_getElem?_getD, getElem?_bits x hi, Option.getD_some]

/-- Two messages of at most `w` bits that leave the same register are the same. -/
theorem eq_of_run_eq {crc : BitVec w} {front back : List Bool} (hlen : front.length = back.length)
    (hw : front.length ≤ w) (h : run poly crc front = run poly crc back) : front = back := by
  have hzero : run poly 0#w (List.zipWith xor front back) = 0#w := by
    have hxor := run_xor poly hlen crc crc
    rwa [BitVec.xor_self, h, BitVec.xor_self] at hxor
  rw [run_eq_zero_iff hpoly _ (by rw [List.length_zipWith]; omega)] at hzero
  apply List.ext_getElem hlen
  intro i hfront hback
  have hbit := hzero i (by omega)
  rw [BitVec.getMsbD_zero, List.getD_eq_getElem _ _ (by rw [List.length_zipWith]; omega),
    List.getElem_zipWith] at hbit
  simpa using hbit.symm

end Odd

/-! ### Two errors -/

lemma run_zeros (n : Nat) : run poly 0#w (List.replicate n false) = 0#w := by
  induction n with
  | zero => rfl
  | succ n ih =>
    have hstep : stepBit poly 0#w false = 0#w := by simp [stepBit]
    rw [List.replicate_succ, run_cons, hstep, ih]

lemma stepBit_zero_true : stepBit poly 0#w true = poly := by simp [stepBit]

lemma eq_zeros {errors : List Bool} (h : errors.count true = 0) :
    errors = List.replicate errors.length false := by
  rw [List.eq_replicate_iff]
  refine ⟨rfl, ?_⟩
  intro bit hbit
  have hne : bit ≠ true := fun heq => List.count_eq_zero.mp h (heq ▸ hbit)
  simpa using hne

/-- The first error, with what follows it. -/
lemma exists_first {errors : List Bool} (h : errors.count true ≠ 0) :
    ∃ n rest, errors = List.replicate n false ++ true :: rest ∧
      errors.count true = rest.count true + 1 := by
  have hmem : true ∈ errors := List.count_pos_iff.mp (Nat.pos_of_ne_zero h)
  obtain ⟨front, rest, rfl, hfront⟩ := List.eq_append_cons_of_mem hmem
  have hzero : front.count true = 0 := List.count_eq_zero.mpr hfront
  refine ⟨front.length, rest, ?_, ?_⟩
  · rw [← eq_zeros hzero]
  · rw [List.count_append, List.count_cons_self, hzero, Nat.zero_add]

lemma eq_of_zipWith_zeros {front back : List Bool} (hlen : front.length = back.length)
    (h : (List.zipWith xor front back).count true = 0) : front = back := by
  apply List.ext_getElem hlen
  intro i hfront hback
  have hzip : i < (List.zipWith xor front back).length := by
    rw [List.length_zipWith]
    omega
  have hne : (List.zipWith xor front back)[i] ≠ true := fun heq =>
    List.count_eq_zero.mp h (heq ▸ List.getElem_mem hzip)
  rw [List.getElem_zipWith] at hne
  simpa using hne

section Errors

variable {poly} (hpoly : poly.getLsbD 0 = true)
include hpoly

/-- One or two errors are not cleared when no number of steps from the polynomial on leads to the
register with the highest bit only. -/
theorem run_errors_ne {errors : List Bool} (hone : errors.count true ≠ 0)
    (htwo : errors.count true ≤ 2) (horder : ∀ n < errors.length,
      run poly poly (List.replicate n false) ≠ BitVec.twoPow w (w - 1)) :
    run poly 0#w errors ≠ 0#w := by
  intro hzero
  have hw := width_pos hpoly
  have hclear : ∀ (r : BitVec w) n, run poly r (List.replicate n false) = 0#w → r = 0#w := by
    intro r n hrun
    exact run_injective hpoly _ (hrun.trans (run_zeros poly n).symm)
  have hne : poly ≠ 0#w := by
    rintro rfl
    simp at hpoly
  obtain ⟨n, rest, rfl, hcount⟩ := exists_first hone
  rw [run_append, run_zeros, run_cons, stepBit_zero_true] at hzero
  by_cases hlast : rest.count true = 0
  · rw [eq_zeros hlast] at hzero
    exact hne (hclear _ _ hzero)
  · obtain ⟨m, more, rfl, hmore⟩ := exists_first hlast
    have hrest : more.count true = 0 := by omega
    rw [run_append, run_cons, eq_zeros hrest] at hzero
    have hsecond := hclear _ _ hzero
    have hm : m < (List.replicate n false ++ true :: (List.replicate m false ++ true :: more)).length := by
      simp only [List.length_append, List.length_cons, List.length_replicate]
      omega
    refine horder m hm ?_
    have hsingle : [true].length ≤ w := by
      rw [List.length_singleton]
      omega
    have hbits :=
      (run_eq_zero_iff hpoly (run poly poly (List.replicate m false)) hsingle).mp hsecond
    apply BitVec.eq_of_getMsbD_eq
    intro i hi
    rw [hbits i hi]
    cases i with
    | zero => simp [BitVec.getMsbD_eq_getLsbD, hw]
    | succ i =>
      rw [List.getD_cons_succ, List.getD_nil, BitVec.getMsbD_eq_getLsbD, BitVec.getLsbD_twoPow]
      have hindex : w - 1 ≠ w - 1 - (i + 1) := by omega
      simp [hindex]

/-- Messages that differ in one or two bits leave different registers. -/
theorem run_ne_of_errors {crc : BitVec w} {front back : List Bool}
    (hlen : front.length = back.length) (hone : (List.zipWith xor front back).count true ≠ 0)
    (htwo : (List.zipWith xor front back).count true ≤ 2) (horder : ∀ n < front.length,
      run poly poly (List.replicate n false) ≠ BitVec.twoPow w (w - 1)) :
    run poly crc front ≠ run poly crc back := by
  intro h
  have hxor := run_xor poly hlen crc crc
  rw [BitVec.xor_self, h, BitVec.xor_self] at hxor
  refine run_errors_ne hpoly hone htwo ?_ hxor
  intro n hn
  rw [List.length_zipWith] at hn
  exact horder n (by omega)

end Errors

/-! ### Walks -/

/-- Walk `2 ^ k` steps, unless a state on the way is zero or the one to avoid. Each state is matched
on, so that evaluation does not put off the steps that lead to it. -/
def walk (step : Nat → Nat) (avoid : Nat) : Nat → Nat → Option Nat
  | 0, state =>
    match state with
    | 0 => none
    | m + 1 => bif Nat.beq (m + 1) avoid then none else some (step (m + 1))
  | k + 1, state =>
    match walk step avoid k state with
    | none => none
    | some next => walk step avoid k next

theorem walk_avoids {step : Nat → Nat} {avoid k state last : Nat}
    (h : walk step avoid k state = some last) :
    last = step^[2 ^ k] state ∧ ∀ n < 2 ^ k, step^[n] state ≠ avoid := by
  induction k generalizing state last with
  | zero =>
    cases state with
    | zero => cases h
    | succ m =>
      rw [walk] at h
      cases havoid : Nat.beq (m + 1) avoid with
      | true =>
        rw [havoid] at h
        cases h
      | false =>
        rw [havoid] at h
        refine ⟨(Option.some.inj h).symm, ?_⟩
        intro n hn
        obtain rfl : n = 0 := by simpa using hn
        exact Nat.ne_of_beq_eq_false havoid
  | succ k ih =>
    rw [walk] at h
    cases hfirst : walk step avoid k state with
    | none =>
      rw [hfirst] at h
      cases h
    | some next =>
      rw [hfirst] at h
      obtain ⟨rfl, hbefore⟩ := ih hfirst
      obtain ⟨rfl, hbehind⟩ := ih h
      have hpow : 2 ^ (k + 1) = 2 ^ k + 2 ^ k := by rw [pow_succ, Nat.mul_two]
      constructor
      · rw [hpow, Function.iterate_add_apply]
      · intro n hn
        by_cases hlow : n < 2 ^ k
        · exact hbefore n hlow
        · have hsplit : n = (n - 2 ^ k) + 2 ^ k := by omega
          rw [hsplit, Function.iterate_add_apply]
          exact hbehind (n - 2 ^ k) (by omega)

/-- Two walks, one behind the other. -/
theorem walk_bind_avoids {step : Nat → Nat} {avoid j k state : Nat}
    (h : ((walk step avoid j state).bind (walk step avoid k)).isSome = true) :
    ∀ n < 2 ^ j + 2 ^ k, step^[n] state ≠ avoid := by
  intro n hn
  obtain ⟨last, hlast⟩ := Option.isSome_iff_exists.mp h
  obtain ⟨next, hfirst, hsecond⟩ := Option.bind_eq_some_iff.mp hlast
  obtain ⟨rfl, hbefore⟩ := walk_avoids hfirst
  obtain ⟨_, hbehind⟩ := walk_avoids hsecond
  by_cases hlow : n < 2 ^ j
  · exact hbefore n hlow
  · have hsplit : n = (n - 2 ^ j) + 2 ^ j := by omega
    rw [hsplit, Function.iterate_add_apply]
    exact hbehind (n - 2 ^ j) (by omega)

end CRC
