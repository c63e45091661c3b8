import MinimalMpegTS.Lib.Transducer

/-!
# Parts of a machine

A part of the state of a machine that each input either leaves alone or steps as a smaller machine
would. A container of machines has such a part for each key: a slot, which is empty until the first
input for its key and holds a machine from then on until it is vacated.
-/

namespace Transducer

variable {σ ρ ι ε ω ω' τ : Type*}

/-- Projection rule: where every input of the kind `p` either concerns a part of the state, which then
steps as the smaller machine does, or leaves it alone, a run of such inputs does to the part what the
smaller machine does with the inputs that concern it, and emits about it what the smaller machine
emits. -/
theorem projection {step : σ → ι → σ × ω} (solo : ρ → ε → ρ × ω') (part : σ → ρ)
    (concerns : ι → Option ε) (p : ι → Prop) {emit : σ → ι → List τ} {emitSolo : ρ → ε → List τ}
    (hsome : ∀ s i e, p i → concerns i = some e →
      part (step s i).1 = (solo (part s) e).1 ∧ emit s i = emitSolo (part s) e)
    (hnone : ∀ s i, p i → concerns i = none → part (step s i).1 = part s ∧ emit s i = [])
    (s : σ) (inputs : List ι) (hp : ∀ i ∈ inputs, p i) :
    part (final step s inputs) = final solo (part s) (inputs.filterMap concerns) ∧
      trace step emit s inputs = trace solo emitSolo (part s) (inputs.filterMap concerns) := by
  induction inputs generalizing s with
  | nil => exact ⟨rfl, rfl⟩
  | cons i inputs ih =>
    have hfirst := hp i List.mem_cons_self
    obtain ⟨hfinal, htrace⟩ := ih (step s i).1 (fun j hj => hp j (List.mem_cons_of_mem i hj))
    rw [final_cons, trace_cons, hfinal, htrace]
    cases hi : concerns i with
    | none =>
      obtain ⟨hpart, hemit⟩ := hnone s i hfirst hi
      rw [List.filterMap_cons_none hi, hpart, hemit, List.nil_append]
      exact ⟨rfl, rfl⟩
    | some e =>
      obtain ⟨hpart, hemit⟩ := hsome s i e hfirst hi
      rw [List.filterMap_cons_some hi, hpart, hemit]
      exact ⟨rfl, rfl⟩

end Transducer

namespace Slot

open Transducer

variable {σ ι ω τ : Type*}

/-- What can happen to a slot. -/
inductive Event (ι : Type*)
  | input (i : ι)
  | vacate

/-- The machine in the slot takes the input, and a fresh one if the slot is empty. -/
def step (machine : σ → ι → σ × ω) (fresh : σ) (slot : Option σ) :
    Event ι → Option σ × Option ω
  | .input i =>
    let next := machine (slot.getD fresh) i
    (some next.1, some next.2)
  | .vacate => (none, none)

/-- What the machine in the slot emits. -/
def emitted (emit : σ → ι → List τ) (fresh : σ) (slot : Option σ) : Event ι → List τ
  | .input i => emit (slot.getD fresh) i
  | .vacate => []

/-- The slot is in use after these events. -/
def InUse (slot : Option σ) (events : List (Event ι)) : Prop :=
  match events.getLast? with
  | none => slot.isSome
  | some (.input _) => True
  | some .vacate => False

variable (machine : σ → ι → σ × ω) (emit : σ → ι → List τ) (fresh : σ)

/-- A slot is in use exactly if its last event is an input. -/
theorem isSome_final_iff (slot : Option σ) (events : List (Event ι)) :
    (final (step machine fresh) slot events).isSome ↔ InUse slot events := by
  unfold InUse
  rcases List.eq_nil_or_concat events with rfl | ⟨front, event, rfl⟩
  · exact Iff.rfl
  · rw [List.concat_eq_append, final_append, List.getLast?_append]
    cases event with
    | input i => exact ⟨fun _ => trivial, fun _ => rfl⟩
    | vacate => exact ⟨fun h => Bool.false_ne_true h, fun h => h.elim⟩

/-- Inputs alone reach the machine in the slot, or the fresh one. -/
theorem trace_inputs (slot : Option σ) (inputs : List ι) :
    trace (step machine fresh) (emitted emit fresh) slot (inputs.map .input) =
      trace machine emit (slot.getD fresh) inputs := by
  induction inputs generalizing slot with
  | nil => rfl
  | cons i inputs ih =>
    rw [List.map_cons, trace_cons, trace_cons, ih]
    rfl

end Slot
