import Mathlib

/-!
# Bounded histories

A history keeps the items added last, up to a limit: an item that does not fit pushes the oldest one
out. After any number of items it is the end of the list of all of them.
-/

namespace History

variable {α : Type*} {limit : Nat}

/-- Add an item to a history of at most `limit` items. -/
def push (limit : Nat) (history : List α) (item : α) : List α :=
  if limit < (history ++ [item]).length then (history ++ [item]).tail else history ++ [item]

lemma length_rtake (limit : Nat) (items : List α) :
    (items.rtake limit).length = min items.length limit := by
  unfold List.rtake
  rw [List.length_drop]
  omega

lemma rtake_suffix (limit : Nat) (items : List α) : items.rtake limit <:+ items :=
  List.drop_suffix _ _

/-- A list within the limit is kept as a whole. -/
lemma rtake_of_length_le {items : List α} (h : items.length ≤ limit) : items.rtake limit = items := by
  unfold List.rtake
  rw [Nat.sub_eq_zero_of_le h, List.drop_zero]

lemma getLast?_push (hlimit : 0 < limit) (history : List α) (item : α) :
    (push limit history item).getLast? = some item := by
  unfold push
  split
  · next hfull =>
    rw [List.length_append, List.length_singleton] at hfull
    rw [List.tail_append_of_ne_nil (List.ne_nil_of_length_pos (by omega)), List.getLast?_concat]
  · rw [List.getLast?_concat]

/-- Pushing an item onto the end of a list makes it the end of the longer list. -/
theorem push_rtake (limit : Nat) (items : List α) (item : α) :
    push limit (items.rtake limit) item = (items ++ [item]).rtake limit := by
  have hlength := length_rtake limit items
  unfold push
  rw [List.length_append, hlength, List.length_singleton]
  split
  · next hfull =>
    -- the list has reached the limit, so the kept part starts one item later
    unfold List.rtake
    rw [← List.drop_append_of_le_length (by omega), ← List.drop_one, List.drop_drop,
      List.length_append, List.length_singleton]
    congr 1
    omega
  · next hfits =>
    have hshort : items.length + 1 ≤ limit := by omega
    have hlonger : (items ++ [item]).length ≤ limit := by
      rwa [List.length_append, List.length_singleton]
    rw [rtake_of_length_le hlonger, rtake_of_length_le (by omega)]

/-- A history of a list that goes on is the end of the whole list. -/
theorem foldl_push (limit : Nat) (before items : List α) :
    items.foldl (push limit) (before.rtake limit) = (before ++ items).rtake limit := by
  induction items generalizing before with
  | nil => rw [List.foldl_nil, List.append_nil]
  | cons item items ih => rw [List.foldl_cons, push_rtake, ih, List.append_assoc, List.singleton_append]

end History
