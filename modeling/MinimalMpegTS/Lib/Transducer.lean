import Mathlib

/-!
# Runs of a deterministic machine

A machine is a step function that takes a state and an input to the next state and an
answer. This file has the final state and the answers of a run over a list of inputs,
the ghost trace that the steps of a run emit, the runs whose every step meets a guard,
the induction rules for invariants and bisimulations of such runs, and the last item of
a trace that has a property.
-/

namespace Transducer

variable {σ σ' ι ω τ : Type*}

/-- The state reached after a list of inputs. -/
def final (step : σ → ι → σ × ω) (s : σ) (inputs : List ι) : σ :=
  inputs.foldl (fun s i => (step s i).1) s

/-- The answers of a run, one for each input. -/
def answers (step : σ → ι → σ × ω) : σ → List ι → List ω
  | _, [] => []
  | s, i :: inputs => (step s i).2 :: answers step (step s i).1 inputs

/-- The concatenation of what `emit` reads off each step of a run. -/
def trace (step : σ → ι → σ × ω) (emit : σ → ι → List τ) : σ → List ι → List τ
  | _, [] => []
  | s, i :: inputs => emit s i ++ trace step emit (step s i).1 inputs

/-- Every step of the run meets the guard in the state where it is taken. -/
def Along (step : σ → ι → σ × ω) (guard : σ → ι → Prop) : σ → List ι → Prop
  | _, [] => True
  | s, i :: inputs => guard s i ∧ Along step guard (step s i).1 inputs

section Runs

variable (step : σ → ι → σ × ω) (emit : σ → ι → List τ) (guard : σ → ι → Prop)

@[simp] lemma final_nil (s : σ) : final step s [] = s := rfl

@[simp] lemma final_cons (s : σ) (i : ι) (inputs : List ι) :
    final step s (i :: inputs) = final step (step s i).1 inputs := rfl

lemma final_append (s : σ) (xs ys : List ι) :
    final step s (xs ++ ys) = final step (final step s xs) ys := by
  simp only [final, List.foldl_append]

@[simp] lemma answers_nil (s : σ) : answers step s [] = [] := rfl

@[simp] lemma answers_cons (s : σ) (i : ι) (inputs : List ι) :
    answers step s (i :: inputs) = (step s i).2 :: answers step (step s i).1 inputs := rfl

@[simp] lemma trace_nil (s : σ) : trace step emit s [] = [] := rfl

@[simp] lemma trace_cons (s : σ) (i : ι) (inputs : List ι) :
    trace step emit s (i :: inputs) = emit s i ++ trace step emit (step s i).1 inputs := rfl

lemma trace_append (s : σ) (xs ys : List ι) :
    trace step emit s (xs ++ ys) = trace step emit s xs ++ trace step emit (final step s xs) ys := by
  induction xs generalizing s with
  | nil => rfl
  | cons i xs ih => rw [List.cons_append, trace_cons, trace_cons, ih, final_cons, List.append_assoc]

@[simp] lemma along_nil (s : σ) : Along step guard s [] := trivial

@[simp] lemma along_cons (s : σ) (i : ι) (inputs : List ι) :
    Along step guard s (i :: inputs) ↔ guard s i ∧ Along step guard (step s i).1 inputs := Iff.rfl

lemma along_mono {guard guard' : σ → ι → Prop} (h : ∀ s i, guard s i → guard' s i)
    {s : σ} {inputs : List ι} (hs : Along step guard s inputs) : Along step guard' s inputs := by
  induction inputs generalizing s with
  | nil => trivial
  | cons i inputs ih => exact ⟨h s i hs.1, ih hs.2⟩

/-- A guard on the inputs alone holds along a run when it holds of every input. -/
lemma along_of_forall {p : ι → Prop} {s : σ} {inputs : List ι} (h : ∀ i ∈ inputs, p i) :
    Along step (fun _ i => p i) s inputs := by
  induction inputs generalizing s with
  | nil => trivial
  | cons i inputs ih =>
    exact ⟨h i List.mem_cons_self, ih (fun j hj => h j (List.mem_cons_of_mem i hj))⟩

lemma along_append {s : σ} {xs ys : List ι} :
    Along step guard s (xs ++ ys) ↔ Along step guard s xs ∧ Along step guard (final step s xs) ys := by
  induction xs generalizing s with
  | nil => simp
  | cons i xs ih => rw [List.cons_append, along_cons, along_cons, ih, final_cons, and_assoc]

/-- A guard holds along a run exactly if it holds in the state in front of every input. -/
theorem along_iff_forall {s : σ} {inputs : List ι} : Along step guard s inputs ↔
    ∀ front i back, inputs = front ++ i :: back → guard (final step s front) i := by
  induction inputs generalizing s with
  | nil =>
    constructor
    · intro _ front i back hsplit
      cases front <;> cases hsplit
    · intro _
      trivial
  | cons j inputs ih =>
    rw [along_cons, ih]
    constructor
    · rintro ⟨hfirst, hrest⟩ front i back hsplit
      cases front with
      | nil =>
        cases hsplit
        exact hfirst
      | cons k front =>
        cases hsplit
        exact hrest front i back rfl
    · intro h
      refine ⟨h [] j inputs rfl, ?_⟩
      intro front i back hsplit
      exact h (j :: front) i back (by rw [hsplit, List.cons_append])

/-- Invariant rule with a ghost trace: a relation between the state and what has been
emitted so far, kept by every guarded step, relates the final state to the whole trace. -/
theorem traced_invariant (step : σ → ι → σ × ω) (emit : σ → ι → List τ)
    (guard : σ → ι → Prop) (P : σ → List τ → Prop)
    (hstep : ∀ s i l, P s l → guard s i → P (step s i).1 (l ++ emit s i))
    {s : σ} {l : List τ} {inputs : List ι} (hs : P s l) (hg : Along step guard s inputs) :
    P (final step s inputs) (l ++ trace step emit s inputs) := by
  induction inputs generalizing s l with
  | nil => simpa using hs
  | cons i inputs ih =>
    rw [final_cons, trace_cons, ← List.append_assoc]
    exact ih (hstep s i l hs hg.1) hg.2

/-- Exactness rule: where, as long as an invariant and a property hold, a step keeps the property
exactly if it meets the guard, the property holds in every state of a run exactly if all its steps
meet the guard. -/
theorem forall_prefix_iff_along {step : σ → ι → σ × ω} {guard : σ → ι → Prop} (I P : σ → Prop)
    (hI : ∀ s i, I s → I (step s i).1) (hstep : ∀ s i, I s → P s → (P (step s i).1 ↔ guard s i))
    {s : σ} (hs : I s) (hP : P s) (inputs : List ι) :
    (∀ front, front <+: inputs → P (final step s front)) ↔ Along step guard s inputs := by
  induction inputs generalizing s with
  | nil =>
    constructor
    · intro _
      trivial
    · intro _ front hfront
      rw [List.prefix_nil.mp hfront]
      exact hP
  | cons i inputs ih =>
    rw [along_cons]
    constructor
    · intro h
      have hfirst : P (step s i).1 := h [i] ⟨inputs, rfl⟩
      refine ⟨(hstep s i hs hP).mp hfirst, (ih (hI s i hs) hfirst).mp ?_⟩
      intro front hfront
      exact h (i :: front) (List.cons_prefix_cons.mpr ⟨rfl, hfront⟩)
    · rintro ⟨hguard, halong⟩ front hfront
      cases front with
      | nil => exact hP
      | cons j front =>
        obtain ⟨rfl, hrest⟩ := List.cons_prefix_cons.mp hfront
        exact (ih (hI s j hs) ((hstep s j hs hP).mpr hguard)).mpr halong front hrest

/-- Invariant rule for all runs. -/
theorem invariant {step : σ → ι → σ × ω} (P : σ → Prop)
    (hstep : ∀ s i, P s → P (step s i).1) {s : σ} (hs : P s) (inputs : List ι) :
    P (final step s inputs) := by
  induction inputs generalizing s with
  | nil => exact hs
  | cons i inputs ih => exact ih (hstep s i hs)

end Runs

/-- Skipping rule: a relation that is kept when both sides take an input of the kind `p` and when
the left side alone takes one of another kind holds between a run and the run of the inputs of
the kind `p`. The relation may look ahead to the inputs that are left. -/
theorem filter_simulation (step : σ → ι → σ × ω) (p : ι → Bool) (R : σ → σ → List ι → Prop)
    (hkeep : ∀ s t i rest, p i = true → R s t (i :: rest) → R (step s i).1 (step t i).1 rest)
    (hskip : ∀ s t i rest, p i = false → R s t (i :: rest) → R (step s i).1 t rest)
    {s t : σ} {inputs : List ι} (h : R s t inputs) :
    R (final step s inputs) (final step t (inputs.filter p)) [] := by
  induction inputs generalizing s t with
  | nil => exact h
  | cons i inputs ih =>
    cases hp : p i with
    | true =>
      rw [List.filter_cons_of_pos hp]
      exact ih (hkeep s t i inputs hp h)
    | false =>
      rw [List.filter_cons_of_neg (by simp [hp])]
      exact ih (hskip s t i inputs hp h)

/-- Bisimulation rule: a relation between the states of two machines that is kept when both take
the same input of the kind `p` holds after every list of such inputs. -/
theorem bisimulation (step : σ → ι → σ × ω) (step' : σ' → ι → σ' × ω) (p : ι → Prop)
    (R : σ → σ' → Prop) (hkeep : ∀ s t i, p i → R s t → R (step s i).1 (step' t i).1)
    {s : σ} {t : σ'} {inputs : List ι} (h : R s t) (hp : ∀ i ∈ inputs, p i) :
    R (final step s inputs) (final step' t inputs) := by
  induction inputs generalizing s t with
  | nil => exact h
  | cons i inputs ih =>
    exact ih (hkeep s t i (hp i List.mem_cons_self) h) (fun j hj => hp j (List.mem_cons_of_mem i hj))

/-! ### The last item with a property -/

/-- `x` is the last of the items with the property, and `before` is what precedes it. -/
structure LastWith (p : τ → Prop) (items before : List τ) (x : τ) : Prop where
  holds : p x
  split : ∃ after, items = before ++ x :: after ∧ ∀ y ∈ after, ¬p y

/-- An item at the end is the last one if it has the property, and changes nothing otherwise. -/
theorem lastWith_concat {p : τ → Prop} {items before : List τ} {x y : τ} :
    LastWith p (items ++ [y]) before x ↔
      (p y ∧ before = items ∧ x = y) ∨ (¬p y ∧ LastWith p items before x) := by
  constructor
  · rintro ⟨hx, after, hsplit, hafter⟩
    rcases List.eq_nil_or_concat after with rfl | ⟨after, z, rfl⟩
    · obtain ⟨hitems, hy⟩ := List.append_inj' hsplit rfl
      obtain rfl := List.singleton_inj.mp hy
      exact .inl ⟨hx, hitems.symm, rfl⟩
    · rw [List.concat_eq_append] at hsplit hafter
      rw [← List.cons_append, ← List.append_assoc] at hsplit
      obtain ⟨hitems, hy⟩ := List.append_inj' hsplit rfl
      obtain rfl := List.singleton_inj.mp hy
      right
      refine ⟨hafter y (List.mem_append_right _ List.mem_cons_self), hx, after, hitems, ?_⟩
      intro z hz
      exact hafter z (List.mem_append_left _ hz)
  · rintro (⟨hy, rfl, rfl⟩ | ⟨hy, hx, after, rfl, hafter⟩)
    · exact ⟨hy, [], rfl, fun z hz => absurd hz List.not_mem_nil⟩
    · refine ⟨hx, after ++ [y], ?_, ?_⟩
      · rw [List.append_assoc, List.cons_append]
      · intro z hz
        rcases List.mem_append.mp hz with hz | hz
        · exact hafter z hz
        · rwa [List.mem_singleton.mp hz]

/-- Where there is an item with the property, there is a last one. -/
theorem exists_lastWith {p : τ → Prop} {items : List τ} (h : ∃ x ∈ items, p x) :
    ∃ before x, LastWith p items before x := by
  induction items using List.reverseRecOn with
  | nil =>
    obtain ⟨x, hx, _⟩ := h
    exact absurd hx List.not_mem_nil
  | append_singleton items y ih =>
    by_cases hy : p y
    · exact ⟨items, y, lastWith_concat.mpr (.inl ⟨hy, rfl, rfl⟩)⟩
    · obtain ⟨x, hx, hp⟩ := h
      rcases List.mem_append.mp hx with hx | hx
      · obtain ⟨before, z, hz⟩ := ih ⟨x, hx, hp⟩
        exact ⟨before, z, lastWith_concat.mpr (.inr ⟨hy, hz⟩)⟩
      · rw [List.mem_singleton.mp hx] at hp
        exact absurd hp hy

end Transducer
