import Mathlib

/-!
# Sequences of self-delimiting records

A record is written as a non-empty string, and a sequence of records as their strings one after the
other. Reading such a sequence goes on until no record starts at the front: every string is a
sequence of records and a rest on which reading is stuck.
-/

/-- Records and the strings they are written as. -/
structure RecordCode (ρ α : Type*) where
  encode : ρ → List α
  encode_ne_nil : ∀ r, encode r ≠ []

namespace RecordCode

variable {ρ α : Type*} (code : RecordCode ρ α)

/-- The string of a sequence of records. -/
def encodeAll (records : List ρ) : List α := records.flatMap code.encode

/-- No record starts at the front. -/
def Stuck (left : List α) : Prop := ∀ r rest, left ≠ code.encode r ++ rest

@[simp] lemma encodeAll_nil : code.encodeAll [] = [] := rfl

@[simp] lemma encodeAll_cons (r : ρ) (records : List ρ) :
    code.encodeAll (r :: records) = code.encode r ++ code.encodeAll records := rfl

lemma length_encodeAll (records : List ρ) :
    (code.encodeAll records).length = (records.map (fun r => (code.encode r).length)).sum := by
  induction records with
  | nil => rfl
  | cons r records ih => rw [encodeAll_cons, List.length_append, ih, List.map_cons, List.sum_cons]

/-- Reading from the front gets stuck behind the last record. -/
theorem exists_records (l : List α) :
    ∃ records left, l = code.encodeAll records ++ left ∧ code.Stuck left := by
  induction hn : l.length using Nat.strong_induction_on generalizing l with
  | _ n ih =>
    by_cases hstuck : code.Stuck l
    · exact ⟨[], l, rfl, hstuck⟩
    · unfold Stuck at hstuck
      push Not at hstuck
      obtain ⟨r, rest, rfl⟩ := hstuck
      have hpos : 0 < (code.encode r).length := List.length_pos_iff.mpr (code.encode_ne_nil r)
      rw [List.length_append] at hn
      obtain ⟨records, left, rfl, hleft⟩ := ih rest.length (by omega) rest rfl
      exact ⟨r :: records, left, by rw [encodeAll_cons, List.append_assoc], hleft⟩

end RecordCode
