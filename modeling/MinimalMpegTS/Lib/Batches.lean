import Mathlib

/-!
# Cutting a stream of items into batches

Items arrive one by one; an item that satisfies `starts` begins a new batch, any other item
joins the batch under construction. `Batches` holds the finished batches and the open one, `push`
adds an item and `close` finishes the open batch. Without a `close` in between, the batches are
the list cut before every starting item (`closed_pushes`); with them the cut is a refinement
of that one (`refines_of_related`). Finished batches may be dropped at any time; what is left
thins the batches out (`Thins`).
-/

/-- Finished batches and the batch under construction, which is empty when there is none. -/
structure Batches (α : Type*) where
  closed : List (List α)
  opened : List α
  closed_ne : ∀ g ∈ closed, g ≠ []

namespace Batches

variable {α : Type*}

@[ext] lemma ext {u v : Batches α} (hc : u.closed = v.closed) (ho : u.opened = v.opened) : u = v := by
  cases u
  cases v
  simp_all

/-- No batch at all. -/
def empty : Batches α := ⟨[], [], by simp⟩

/-- Finish the open batch, if there is one. -/
def close (u : Batches α) : Batches α :=
  if h : u.opened = [] then u
  else ⟨u.closed ++ [u.opened], [], by
    intro g hg
    rcases List.mem_append.mp hg with hg | hg
    · exact u.closed_ne g hg
    · rw [List.mem_singleton.mp hg]
      exact h⟩

/-- Add an item: it opens a new batch if none is open or if it is a starting item. -/
def push (starts : α → Bool) (u : Batches α) (x : α) : Batches α :=
  if u.opened.isEmpty || starts x then { u.close with opened := [x] }
  else { u with opened := u.opened ++ [x] }

/-- All items in the order of arrival. -/
def items (u : Batches α) : List α := u.closed.flatten ++ u.opened

@[simp] lemma closed_empty : (empty : Batches α).closed = [] := rfl

@[simp] lemma opened_empty : (empty : Batches α).opened = [] := rfl

@[simp] lemma items_empty : (empty : Batches α).items = [] := rfl

lemma close_of_nil {u : Batches α} (h : u.opened = []) : u.close = u := by
  simp [close, h]

lemma closed_close_of_ne {u : Batches α} (h : u.opened ≠ []) :
    u.close.closed = u.closed ++ [u.opened] := by
  simp [close, h]

@[simp] lemma opened_close (u : Batches α) : u.close.opened = [] := by
  by_cases h : u.opened = []
  · rw [close_of_nil h, h]
  · simp [close, h]

@[simp] lemma close_close (u : Batches α) : u.close.close = u.close := close_of_nil (opened_close u)

@[simp] lemma items_close (u : Batches α) : u.close.items = u.items := by
  by_cases h : u.opened = []
  · rw [close_of_nil h]
  · simp [items, closed_close_of_ne h]

lemma flatten_closed_close (u : Batches α) : u.close.closed.flatten = u.items := by
  have h := items_close u
  rwa [items, opened_close, List.append_nil] at h

variable (starts : α → Bool)

lemma push_start {u : Batches α} {x : α} (h : u.opened = [] ∨ starts x = true) :
    push starts u x = { u.close with opened := [x] } := by
  rcases h with h | h <;> simp [push, h]

lemma push_join {u : Batches α} {x : α} (ho : u.opened ≠ []) (hx : starts x = false) :
    push starts u x = { u with opened := u.opened ++ [x] } := by
  simp [push, ho, hx]

@[simp] lemma items_push (u : Batches α) (x : α) : (push starts u x).items = u.items ++ [x] := by
  by_cases h : u.opened = [] ∨ starts x = true
  · rw [push_start starts h, items, flatten_closed_close]
  · push Not at h
    rw [push_join starts h.1 (by simpa using h.2)]
    simp [items]

lemma opened_push_ne (u : Batches α) (x : α) : (push starts u x).opened ≠ [] := by
  unfold push
  split <;> simp

lemma items_pushes (u : Batches α) (xs : List α) :
    (xs.foldl (push starts) u).items = u.items ++ xs := by
  induction xs generalizing u with
  | nil => simp
  | cons x xs ih => simp [ih]

lemma opened_pushes_ne {u : Batches α} {xs : List α} (h : xs ≠ []) :
    (xs.foldl (push starts) u).opened ≠ [] := by
  rw [← List.dropLast_append_getLast h, List.foldl_append, List.foldl_cons, List.foldl_nil]
  exact opened_push_ne starts _ _

/-! ### Batches without an outside `close` -/

/-- The cut of a list before its starting items, one item longer. -/
lemma splitBy_concat (xs : List α) (x : α) :
    (xs ++ [x]).splitBy (fun _ y => !starts y) =
      if xs = [] ∨ starts x = true then xs.splitBy (fun _ y => !starts y) ++ [[x]]
      else (xs.splitBy (fun _ y => !starts y)).dropLast ++
        [(xs.splitBy (fun _ y => !starts y)).getLastD [] ++ [x]] := by
  by_cases hnil : xs = []
  · subst hnil
    rfl
  by_cases hx : starts x = true
  · rw [if_pos (.inr hx)]
    have h := List.splitBy_append (r := fun _ y => !starts y) (l := xs) (m := [x])
      (fun _ _ => by simp [hx])
    rw [h]
    rfl
  · rw [if_neg (by simp [hnil, hx])]
    have hsplit := (List.splitBy_eq_iff (m := xs) (r := fun _ y => !starts y)).mp rfl
    obtain ⟨hflat, hne, hin, hbetween⟩ := hsplit
    set gs := xs.splitBy (fun _ y => !starts y) with hgs
    have hgne : gs ≠ [] := List.splitBy_ne_nil.mpr hnil
    obtain ⟨init, last, hlast⟩ : ∃ init last, gs = init ++ [last] :=
      ⟨gs.dropLast, gs.getLast hgne, (List.dropLast_append_getLast hgne).symm⟩
    have hlne : last ≠ [] := fun h => hne (by rw [hlast, h]; simp)
    rw [hlast, List.dropLast_concat, List.getLastD_concat]
    rw [hlast] at hflat hne hin hbetween
    rw [List.splitBy_eq_iff]
    refine ⟨by rw [hflat]; simp, by simpa using fun h => hne (by simp [h]), ?_, ?_⟩
    · intro g hg
      rcases List.mem_append.mp hg with hg | hg
      · exact hin g (List.mem_append_left _ hg)
      · rw [List.mem_singleton.mp hg]
        refine List.IsChain.append (hin last (by simp)) (List.isChain_singleton _) ?_
        intro a _ b hb
        have hbx : b = x := by simpa using hb.symm
        simp [hbx, hx]
    · rw [List.isChain_append] at hbetween ⊢
      refine ⟨hbetween.1, List.isChain_singleton _, ?_⟩
      intro a ha b hb
      have hb' : last ++ [x] = b := by simpa using hb
      obtain ⟨hane, _, hr⟩ := hbetween.2.2 a ha last (by simp)
      subst hb'
      refine ⟨hane, by simp, ?_⟩
      rwa [List.head_append_of_ne_nil hlne]

/-- Pushing a list cuts it before every starting item. -/
theorem closed_pushes (xs : List α) :
    (xs.foldl (push starts) empty).close.closed = xs.splitBy (fun _ y => !starts y) := by
  induction xs using List.reverseRecOn with
  | nil => rfl
  | append_singleton xs x ih =>
    rw [List.foldl_append, List.foldl_cons, List.foldl_nil, splitBy_concat, ← ih]
    set u := xs.foldl (push starts) empty with hu
    have hopen : u.opened = [] → xs = [] := fun h => by
      by_contra hxs
      exact opened_pushes_ne starts hxs h
    by_cases hxs : xs = []
    · subst hxs
      simp [hu, push, close]
    have hone : u.opened ≠ [] := fun h => hxs (hopen h)
    by_cases hx : starts x = true
    · rw [if_pos (.inr hx), push_start starts (.inr hx), closed_close_of_ne (by simp)]
    · rw [if_neg (by simp [hxs, hx]), push_join starts hone (by simpa using hx),
        closed_close_of_ne (by simp), closed_close_of_ne hone, List.dropLast_concat,
        List.getLastD_concat]

/-! ### Batches with extra closes -/

/-- Every batch of `coarse` is a non-empty run of consecutive batches of `fine`, put together. -/
def Refines (fine coarse : List (List α)) : Prop :=
  ∃ parts : List (List (List α)), (∀ part ∈ parts, part ≠ []) ∧ parts.flatten = fine ∧
    parts.map List.flatten = coarse

/-- `u` went through the same items as `v`, with extra closes. -/
def Related (u v : Batches α) : Prop :=
  ∃ (parts : List (List (List α))) (pre : List (List α)), (∀ part ∈ parts, part ≠ []) ∧
    parts.map List.flatten = v.closed ∧ u.closed = parts.flatten ++ pre ∧
    pre.flatten ++ u.opened = v.opened

lemma related_refl (u : Batches α) : Related u u := by
  refine ⟨u.closed.map (fun g => [g]), [], by simp, ?_, ?_, by simp⟩
  · simp [Function.comp_def]
  · induction u.closed with
    | nil => rfl
    | cons g gs ih => simpa using ih

/-- An extra close keeps the relation. -/
lemma related_close_left {u v : Batches α} (h : Related u v) : Related u.close v := by
  by_cases ho : u.opened = []
  · rwa [close_of_nil ho]
  · obtain ⟨parts, pre, hne, hv, hu, hopen⟩ := h
    exact ⟨parts, pre ++ [u.opened], hne, hv, by rw [closed_close_of_ne ho, hu, List.append_assoc],
      by simpa using hopen⟩

/-- Closing on both sides turns what is under construction into one more batch. -/
lemma related_close {u v : Batches α} (h : Related u v) : Related u.close v.close := by
  obtain ⟨parts, pre, hne, hv, hu, hopen⟩ := related_close_left h
  rw [opened_close, List.append_nil] at hopen
  by_cases ho : v.opened = []
  · rw [close_of_nil ho]
    exact ⟨parts, pre, hne, hv, hu, by rw [opened_close, List.append_nil, hopen]⟩
  · have hpre : pre ≠ [] := fun h => ho (by rw [← hopen, h]; rfl)
    refine ⟨parts ++ [pre], [], ?_, ?_, by simpa using hu, by simp⟩
    · intro part hp
      rcases List.mem_append.mp hp with hp | hp
      · exact hne part hp
      · rw [List.mem_singleton.mp hp]
        exact hpre
    · rw [List.map_append, hv, closed_close_of_ne ho, List.map_singleton, hopen]

/-- Pushing the same item keeps the relation. -/
lemma related_push {u v : Batches α} (h : Related u v) (x : α) :
    Related (push starts u x) (push starts v x) := by
  by_cases hstart : v.opened = [] ∨ starts x = true
  · have hu : u.opened = [] ∨ starts x = true := by
      rcases hstart with hv | hx
      · obtain ⟨_, pre, _, _, _, hopen⟩ := h
        rw [hv, List.append_eq_nil_iff] at hopen
        exact .inl hopen.2
      · exact .inr hx
    rw [push_start starts hu, push_start starts hstart]
    obtain ⟨parts, pre, hne, hv, hc, hopen⟩ := related_close h
    rw [opened_close, opened_close, List.append_nil] at hopen
    exact ⟨parts, pre, hne, hv, hc, by rw [hopen]; rfl⟩
  · push Not at hstart
    have hx : starts x = false := by simpa using hstart.2
    obtain ⟨parts, pre, hne, hv, hc, hopen⟩ := h
    rw [push_join starts hstart.1 hx]
    by_cases ho : u.opened = []
    · rw [push_start starts (.inl ho), close_of_nil ho]
      exact ⟨parts, pre, hne, hv, hc, by rw [← hopen, ho, List.append_nil]⟩
    · rw [push_join starts ho hx]
      exact ⟨parts, pre, hne, hv, hc, by rw [← hopen, List.append_assoc]⟩

/-- Related batches, both closed, refine each other. -/
theorem refines_of_related {u v : Batches α} (h : Related u v) :
    Refines u.close.closed v.close.closed := by
  obtain ⟨parts, pre, hne, hv, hu, hopen⟩ := related_close h
  rw [opened_close, opened_close, List.append_nil] at hopen
  refine ⟨parts, hne, ?_, hv⟩
  have hpre : pre = [] := by
    cases pre with
    | nil => rfl
    | cons g gs =>
      have hg : g ∈ u.close.closed := by rw [hu]; simp
      rw [List.flatten_cons, List.append_eq_nil_iff] at hopen
      exact absurd hopen.1 (u.close.closed_ne g hg)
  rw [hu, hpre, List.append_nil]

/-! ### Batches of which some were dropped -/

/-- `u` is what is left of `v` after some finished batches have been dropped. -/
structure Thins (u v : Batches α) : Prop where
  closed : u.closed.Sublist v.closed
  opened : u.opened = v.opened

lemma Thins.refl (u : Batches α) : Thins u u := ⟨List.Sublist.refl _, rfl⟩

lemma Thins.trans {u v w : Batches α} (h : Thins u v) (h' : Thins v w) : Thins u w :=
  ⟨h.closed.trans h'.closed, h.opened.trans h'.opened⟩

lemma Thins.close {u v : Batches α} (h : Thins u v) : Thins u.close v.close := by
  by_cases ho : u.opened = []
  · have hv : v.opened = [] := by rw [← h.opened, ho]
    rwa [close_of_nil ho, close_of_nil hv]
  · have hv : v.opened ≠ [] := by rwa [← h.opened]
    constructor
    · rw [closed_close_of_ne ho, closed_close_of_ne hv, h.opened]
      exact h.closed.append_right [v.opened]
    · rw [opened_close, opened_close]

/-- Pushing an item does not depend on what has been dropped. -/
lemma Thins.push {u v : Batches α} (h : Thins u v) (x : α) :
    Thins (push starts u x) (push starts v x) := by
  by_cases hstart : u.opened = [] ∨ starts x = true
  · have hv : v.opened = [] ∨ starts x = true := by rwa [← h.opened]
    rw [push_start starts hstart, push_start starts hv]
    exact ⟨h.close.closed, rfl⟩
  · push Not at hstart
    have hx : starts x = false := by simpa using hstart.2
    have hv : v.opened ≠ [] := by
      rw [← h.opened]
      exact hstart.1
    rw [push_join starts hstart.1 hx, push_join starts hv hx]
    exact ⟨h.closed, congrArg (· ++ [x]) h.opened⟩

/-- Only the first item of a batch may be a starting item. -/
def HeadsOnly (u : Batches α) : Prop :=
  (∀ g ∈ u.closed, ∀ x ∈ g.tail, starts x = false) ∧ ∀ x ∈ u.opened.tail, starts x = false

lemma headsOnly_empty : HeadsOnly starts (empty : Batches α) := by
  constructor
  · intro g hg
    exact absurd hg List.not_mem_nil
  · intro x hx
    exact absurd hx List.not_mem_nil

variable {starts} in
lemma HeadsOnly.close {u : Batches α} (h : HeadsOnly starts u) : HeadsOnly starts u.close := by
  by_cases ho : u.opened = []
  · rwa [close_of_nil ho]
  · constructor
    · intro g hg
      rw [closed_close_of_ne ho] at hg
      rcases List.mem_append.mp hg with hg | hg
      · exact h.1 g hg
      · rw [List.mem_singleton.mp hg]
        exact h.2
    · intro x hx
      rw [opened_close] at hx
      exact absurd hx List.not_mem_nil

variable {starts} in
lemma HeadsOnly.push {u : Batches α} (h : HeadsOnly starts u) (x : α) :
    HeadsOnly starts (Batches.push starts u x) := by
  by_cases hstart : u.opened = [] ∨ starts x = true
  · rw [push_start starts hstart]
    refine ⟨h.close.1, ?_⟩
    intro y hy
    exact absurd hy List.not_mem_nil
  · push Not at hstart
    have hx : starts x = false := by simpa using hstart.2
    rw [push_join starts hstart.1 hx]
    refine ⟨h.1, ?_⟩
    intro y hy
    rw [List.tail_append_of_ne_nil hstart.1] at hy
    rcases List.mem_append.mp hy with hy | hy
    · exact h.2 y hy
    · rwa [List.mem_singleton.mp hy]

/-! ### Cuts that are known -/

/-- Items of which at most the first one starts a batch are one batch. -/
lemma splitBy_single {xs : List α} (hne : xs ≠ []) (h : ∀ x ∈ xs.tail, starts x = false) :
    xs.splitBy (fun _ y => !starts y) = [xs] := by
  apply List.splitBy_of_isChain hne
  obtain ⟨first, rest, rfl⟩ := List.exists_cons_of_ne_nil hne
  clear hne
  induction rest generalizing first with
  | nil => exact List.isChain_singleton first
  | cons next rest ih =>
    have hnext : starts next = false := h next List.mem_cons_self
    refine List.isChain_cons_cons.mpr ⟨by rw [hnext, Bool.not_false], ih next ?_⟩
    intro x hx
    exact h x (List.mem_cons_of_mem next hx)

/-- Items that start none, followed by batches that are each started by their first item. -/
theorem splitBy_batches {lead : List α} {batches : List (List α)}
    (hlead : ∀ x ∈ lead, starts x = false)
    (hbatches : ∀ b ∈ batches, ∃ x xs, b = x :: xs ∧ starts x = true ∧ ∀ y ∈ xs, starts y = false) :
    (lead ++ batches.flatten).splitBy (fun _ y => !starts y) =
      (if lead = [] then [] else [lead]) ++ batches := by
  have hhead : ∀ bs : List (List α), (∀ b ∈ bs, b ∈ batches) → ∀ y ∈ bs.flatten.head?,
      starts y = true := by
    intro bs hbs y hy
    cases bs with
    | nil => exact absurd hy (by simp)
    | cons b bs =>
      obtain ⟨x, xs, rfl, hx, _⟩ := hbatches b (hbs b List.mem_cons_self)
      rw [List.flatten_cons, List.cons_append, List.head?_cons, Option.mem_some] at hy
      rwa [← hy]
  have hcut : ∀ bs : List (List α), (∀ b ∈ bs, b ∈ batches) →
      bs.flatten.splitBy (fun _ y => !starts y) = bs := by
    intro bs hbs
    induction bs with
    | nil => rfl
    | cons b bs ih =>
      have hrest : ∀ b' ∈ bs, b' ∈ batches := fun b' hb' => hbs b' (List.mem_cons_of_mem b hb')
      obtain ⟨x, xs, rfl, _, hxs⟩ := hbatches b (hbs b List.mem_cons_self)
      rw [List.flatten_cons, List.splitBy_append, ih hrest,
        splitBy_single starts (List.cons_ne_nil x xs) hxs, List.singleton_append]
      intro _ _ y hy
      rw [hhead bs hrest y hy, Bool.not_true]
  rw [List.splitBy_append, hcut batches (fun b hb => hb)]
  · congr 1
    by_cases hnil : lead = []
    · rw [hnil, if_pos rfl, List.splitBy_nil]
    · rw [if_neg hnil]
      exact splitBy_single starts hnil (fun x hx => hlead x (List.mem_of_mem_tail hx))
  · intro _ _ y hy
    rw [hhead batches (fun b hb => hb) y hy, Bool.not_true]

/-- The cut of items that are read off others is that of the others. -/
lemma splitBy_map {β : Type*} (f : β → α) (xs : List β) : (xs.map f).splitBy (fun _ y => !starts y) =
    (xs.splitBy (fun _ y => !starts (f y))).map (List.map f) := by
  rw [List.splitBy_eq_iff]
  refine ⟨?_, ?_, ?_, ?_⟩
  · rw [← List.map_flatten, List.flatten_splitBy]
  · intro hnil
    obtain ⟨b, hb, hempty⟩ := List.mem_map.mp hnil
    exact List.ne_nil_of_mem_splitBy hb (List.map_eq_nil_iff.mp hempty)
  · intro _ hmem
    obtain ⟨b, hb, rfl⟩ := List.mem_map.mp hmem
    exact (List.isChain_map f).mpr (List.isChain_of_mem_splitBy hb)
  · rw [List.isChain_map]
    apply (List.isChain_getLast_head_splitBy (fun _ y => !starts (f y)) xs).imp
    rintro a b ⟨ha, hb, h⟩
    refine ⟨fun h => ha (List.map_eq_nil_iff.mp h), fun h => hb (List.map_eq_nil_iff.mp h), ?_⟩
    rw [List.head_map]
    exact h

end Batches
