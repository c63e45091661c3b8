import MinimalMpegTS.Lib.Keyed
import MinimalMpegTS.Proofs.PESRetrieval
import MinimalMpegTS.Proofs.Agreement

/-!
# Accumulators for many PIDs

The manager keeps one accumulator for each PID. In whatever order the PIDs are served, each one sees
an accumulator of its own, so that packets whose pieces are interleaved come out as they went in.
-/

namespace MinimalMpegTS

open Transducer

namespace PESAccumulator

/-- What a client asks of an accumulator. -/
inductive Request
  | addData (data : List UInt8) (payloadUnitStart : Bool)
  | getPacket (packet : PESPacket)
  | isComplete
  | reset
  deriving DecidableEq

inductive Reply
  | flag (value : Bool)
  | packet (packet : PESPacket) (available : Bool)
  | done
  deriving DecidableEq

def respond (acc : PESAccumulator) : Request → PESAccumulator × Reply
  | .addData data payloadUnitStart =>
    ((acc.addData data payloadUnitStart).1, .flag (acc.addData data payloadUnitStart).2)
  | .getPacket packet =>
    ((acc.getPacket packet).1, .packet (acc.getPacket packet).2.1 (acc.getPacket packet).2.2)
  | .isComplete => (acc, .flag acc.isComplete)
  | .reset => (acc.reset, .done)

end PESAccumulator

namespace PESManager

open PESAccumulator

/-- What a client asks of the manager: to use the accumulator of a PID, or one of its own calls. -/
inductive Call
  | use (pid : UInt16) (request : Request)
  | hasAccumulator (pid : UInt16)
  | removeAccumulator (pid : UInt16)
  | clear
  | getPIDs
  deriving DecidableEq

inductive Answer
  | reply (reply : Reply)
  | present (value : Bool)
  | pids (pids : List UInt16)
  | done
  deriving DecidableEq

/-- A step of the accumulator of a PID. -/
def update {ω : Type} (manager : PESManager) (pid : UInt16)
    (step : PESAccumulator → PESAccumulator × ω) : PESManager × ω :=
  let (manager, accumulator) := manager.getAccumulator pid
  let (accumulator, answer) := step accumulator
  (manager.putAccumulator pid accumulator, answer)

def call (manager : PESManager) : Call → PESManager × Answer
  | .use pid request =>
    let (manager, reply) := manager.update pid (fun accumulator => accumulator.respond request)
    (manager, .reply reply)
  | .hasAccumulator pid => (manager, .present (manager.hasAccumulator pid))
  | .removeAccumulator pid => (manager.removeAccumulator pid, .done)
  | .clear => (manager.clear, .done)
  | .getPIDs => (manager, .pids manager.getPIDs)

/-- The slot of a PID. -/
def slot (pid : UInt16) (manager : PESManager) : Option PESAccumulator :=
  manager.accumulators.lookup pid

lemma getAccumulator_snd (manager : PESManager) (pid : UInt16) :
    (manager.getAccumulator pid).2 = (manager.slot pid).getD {} := by
  unfold getAccumulator slot
  cases manager.accumulators.lookup pid <;> rfl

lemma slot_putAccumulator (manager : PESManager) (pid : UInt16) (accumulator : PESAccumulator) :
    (manager.putAccumulator pid accumulator).slot pid = some accumulator :=
  AList.lookup_insert _

lemma slot_putAccumulator_ne {pid other : UInt16} (h : other ≠ pid) (manager : PESManager)
    (accumulator : PESAccumulator) :
    (manager.putAccumulator pid accumulator).slot other = manager.slot other :=
  AList.lookup_insert_ne h

lemma slot_getAccumulator_ne {pid other : UInt16} (h : other ≠ pid) (manager : PESManager) :
    (manager.getAccumulator pid).1.slot other = manager.slot other := by
  unfold getAccumulator
  cases manager.accumulators.lookup pid with
  | none => exact AList.lookup_insert_ne h
  | some accumulator => rfl

section

variable {ω : Type} (manager : PESManager) (pid : UInt16)
  (step : PESAccumulator → PESAccumulator × ω)

lemma update_same : (manager.update pid step).1.slot pid =
      some (step ((manager.slot pid).getD {})).1 ∧
    (manager.update pid step).2 = (step ((manager.slot pid).getD {})).2 := by
  unfold update
  dsimp only
  rw [slot_putAccumulator, getAccumulator_snd]
  exact ⟨rfl, rfl⟩

lemma update_ne {other : UInt16} (h : other ≠ pid) :
    (manager.update pid step).1.slot other = manager.slot other := by
  unfold update
  dsimp only
  rw [slot_putAccumulator_ne h, slot_getAccumulator_ne h]

end

/-! ### One PID alone -/

/-- What a call does to the slot of a PID. -/
def concerns (pid : UInt16) : Call → Option (Slot.Event Request)
  | .use other request => if other = pid then some (.input request) else none
  | .removeAccumulator other => if other = pid then some .vacate else none
  | .clear => some .vacate
  | _ => none

/-- The reply of a call that uses the accumulator of the PID. -/
def repliesOf (pid : UInt16) (manager : PESManager) (call : Call) : List Reply :=
  match call, (manager.call call).2 with
  | .use other _, .reply reply => if other = pid then [reply] else []
  | _, _ => []

/-- The replies of an accumulator alone. -/
def replyOf (accumulator : PESAccumulator) (request : Request) : List Reply :=
  [(accumulator.respond request).2]

lemma concerns_use (pid other : UInt16) (request : Request) :
    concerns pid (.use other request) = if other = pid then some (.input request) else none := rfl

lemma concerns_removeAccumulator (pid other : UInt16) :
    concerns pid (.removeAccumulator other) = if other = pid then some .vacate else none := rfl

lemma repliesOf_use (manager : PESManager) (pid other : UInt16) (request : Request) :
    repliesOf pid manager (.use other request) = if other = pid then
      [(manager.update other (fun accumulator => accumulator.respond request)).2] else [] := rfl

lemma slot_call_removeAccumulator (manager : PESManager) (pid other : UInt16) :
    (manager.call (.removeAccumulator other)).1.slot pid =
      if other = pid then none else manager.slot pid := by
  show (manager.accumulators.erase other).lookup pid = _
  by_cases h : other = pid
  · rw [if_pos h, h, AList.lookup_erase]
  · rw [if_neg h, AList.lookup_erase_ne (Ne.symm h)]
    rfl

lemma call_concerns (manager : PESManager) {pid : UInt16} {call : Call}
    {event : Slot.Event Request} (h : concerns pid call = some event) :
    (manager.call call).1.slot pid = (Slot.step respond {} (manager.slot pid) event).1 ∧
      repliesOf pid manager call = Slot.emitted replyOf {} (manager.slot pid) event := by
  cases call with
  | use other request =>
    obtain ⟨rfl, hevent⟩ := Option.ite_none_right_eq_some.mp h
    obtain rfl := Option.some.inj hevent
    obtain ⟨hslot, hanswer⟩ := manager.update_same other (fun a => a.respond request)
    refine ⟨hslot, ?_⟩
    rw [repliesOf_use, if_pos rfl, hanswer]
    rfl
  | removeAccumulator other =>
    obtain ⟨hpid, hevent⟩ := Option.ite_none_right_eq_some.mp h
    obtain rfl := Option.some.inj hevent
    refine ⟨?_, rfl⟩
    rw [slot_call_removeAccumulator, if_pos hpid]
    rfl
  | clear =>
    obtain rfl := Option.some.inj h
    exact ⟨AList.lookup_empty pid, rfl⟩
  | hasAccumulator other => cases h
  | getPIDs => cases h

lemma call_not_concerns (manager : PESManager) {pid : UInt16} {call : Call}
    (h : concerns pid call = none) :
    (manager.call call).1.slot pid = manager.slot pid ∧ repliesOf pid manager call = [] := by
  cases call with
  | use other request =>
    have hpid : other ≠ pid := by
      rintro rfl
      rw [concerns_use, if_pos rfl] at h
      cases h
    refine ⟨manager.update_ne other (fun a => a.respond request) (Ne.symm hpid), ?_⟩
    rw [repliesOf_use, if_neg hpid]
  | removeAccumulator other =>
    have hpid : other ≠ pid := by
      rintro rfl
      rw [concerns_removeAccumulator, if_pos rfl] at h
      cases h
    refine ⟨?_, rfl⟩
    rw [slot_call_removeAccumulator, if_neg hpid]
  | clear => cases h
  | hasAccumulator other => exact ⟨rfl, rfl⟩
  | getPIDs => exact ⟨rfl, rfl⟩

lemma mem_getPIDs (manager : PESManager) (pid : UInt16) :
    pid ∈ manager.getPIDs ↔ manager.hasAccumulator pid = true :=
  MPEGTSDemuxer.mem_sortedEntries_keys manager.accumulators pid

lemma getPIDs_ascending (manager : PESManager) : manager.getPIDs.Pairwise (· < ·) :=
  MPEGTSDemuxer.sortedEntries_keys_ascending manager.accumulators

/-- In any run of the manager, a PID gets the replies of an accumulator of its own that is fresh at the
beginning and after each call that drops it; the manager has one for it exactly if the last call about
the PID used it, and lists these PIDs in ascending order. -/
theorem accumulators_isolated (calls : List Call) (pid : UInt16) :
    trace call (repliesOf pid) {} calls =
        trace (Slot.step respond {}) (Slot.emitted replyOf {}) none
          (calls.filterMap (concerns pid)) ∧
      ((final call {} calls).hasAccumulator pid = true ↔
        Slot.InUse (none : Option PESAccumulator) (calls.filterMap (concerns pid))) ∧
      (pid ∈ (final call {} calls).getPIDs ↔
        Slot.InUse (none : Option PESAccumulator) (calls.filterMap (concerns pid))) ∧
      (final call {} calls).getPIDs.Pairwise (· < ·) := by
  obtain ⟨hslot, htrace⟩ := projection (Slot.step respond {}) (slot pid) (concerns pid)
    (fun _ => True)
    (fun manager call event _ h => call_concerns manager h)
    (fun manager call _ h => call_not_concerns manager h) ({} : PESManager) calls
    (fun _ _ => trivial)
  have hhas : (final call {} calls).hasAccumulator pid = true ↔
      Slot.InUse (none : Option PESAccumulator) (calls.filterMap (concerns pid)) := by
    rw [← Slot.isSome_final_iff respond {}]
    exact iff_of_eq (congrArg (fun s : Option PESAccumulator => s.isSome = true) hslot)
  exact ⟨htrace, hhas, (mem_getPIDs _ pid).trans hhas, getPIDs_ascending _⟩

end PESManager

/-! ### Packets that are fetched as soon as they are there -/

namespace PESAccumulator

open PESParser

/-- One piece for a consumer that fetches the packet as soon as there is one. -/
def fetch (acc : PESAccumulator) (input : List UInt8 × Bool) : PESAccumulator × Option PESPacket :=
  match acc.addData input.1 input.2 with
  | (acc, false) => (acc, none)
  | (acc, true) =>
    match acc.getPacket {} with
    | (acc, packet, true) => (acc, some packet)
    | (acc, _, false) => (acc, none)

def fetched (acc : PESAccumulator) (input : List UInt8 × Bool) : List PESPacket :=
  (acc.fetch input).2.toList

lemma fetch_first (acc : PESAccumulator) {piece : List UInt8} (hpiece : piece ≠ []) :
    acc.fetch (piece, true) = (held []).fetch (piece, false) := by
  unfold fetch
  dsimp only
  rw [addData_start acc hpiece, addData_held [] hpiece, List.nil_append]

end PESAccumulator

/-- What arrives of a bounded packet: all of its pieces, or the first ones. -/
structure Delivery where
  content : PESContent
  pieces : List (List UInt8)
  bounded : content.Bounded
  nonempty : ∀ piece ∈ pieces, piece ≠ []
  arrived : pieces.flatten <+: content.encode

namespace Delivery

open PESAccumulator PESParser

/-- The packet, if all of it arrives. -/
def packet (self : Delivery) : Option PESPacket :=
  if self.pieces.flatten = self.content.encode then
    some ⟨self.content.header, self.content.payload, true⟩
  else none

end Delivery

namespace PESContent

open PESAccumulator PESParser

lemma encode_ne_nil (self : PESContent) : self.encode ≠ [] := by
  intro h
  have hsix := self.six_le_length_head
  have hlength := congrArg List.length h
  have hencode : self.encode = self.head ++ self.payload := rfl
  rw [hencode, List.length_append, List.length_nil] at hlength
  omega

lemma fetch_held {self : PESContent} (hbounded : self.Bounded) {front piece : List UInt8}
    (hpiece : piece ≠ []) (h : front ++ piece <+: self.encode) :
    (held front).fetch (piece, false) =
      if front ++ piece = self.encode then ({}, some ⟨self.header, self.payload, true⟩)
      else (held (front ++ piece), none) := by
  have hcomplete := complete_iff_of_bounded hbounded h
  unfold fetch
  dsimp only
  rw [addData_held front hpiece]
  unfold collected
  rw [if_pos (started_front h)]
  by_cases hwhole : front ++ piece = self.encode
  · have hall := hcomplete.mpr (congrArg List.length hwhole)
    obtain ⟨hfits, hsize⟩ := self.headerFits self.payload
    have hencode : self.encode = self.head ++ self.payload := rfl
    rw [decide_eq_true hall, if_pos hwhole, hwhole, hencode]
    dsimp only
    rw [hwhole, hencode] at hall
    rw [getPacket_held hall hfits, hsize, List.drop_left, headerFrom_head]
  · have hnot : ¬Complete (front ++ piece) :=
      fun hall => hwhole (h.eq_of_length (hcomplete.mp hall))
    rw [decide_eq_false hnot, if_neg hwhole]

lemma fetched_pieces {self : PESContent} (hbounded : self.Bounded) {front : List UInt8}
    {pieces : List (List UInt8)} (hpieces : ∀ piece ∈ pieces, piece ≠ [])
    (hfront : front ≠ self.encode) (h : front ++ pieces.flatten <+: self.encode) :
    trace fetch fetched (held front) (pieces.map (fun piece => (piece, false))) =
      if front ++ pieces.flatten = self.encode then [⟨self.header, self.payload, true⟩]
      else [] := by
  induction pieces generalizing front with
  | nil =>
    rw [List.flatten_nil, List.append_nil, if_neg hfront]
    rfl
  | cons piece pieces ih =>
    have hpiece := hpieces piece List.mem_cons_self
    have hrest : ∀ p ∈ pieces, p ≠ [] := fun p hp => hpieces p (List.mem_cons_of_mem piece hp)
    rw [List.flatten_cons, ← List.append_assoc] at h ⊢
    have hpart : front ++ piece <+: self.encode := (List.prefix_append _ _).trans h
    have hstep := fetch_held hbounded hpiece hpart
    rw [List.map_cons, trace_cons]
    unfold fetched
    rw [hstep]
    by_cases hwhole : front ++ piece = self.encode
    · have hnil : pieces.flatten = [] := by
        have hlength := h.length_le
        rw [List.length_append, hwhole] at hlength
        exact List.eq_nil_of_length_eq_zero (by omega)
      have hnone : pieces = [] := by
        cases pieces with
        | nil => rfl
        | cons next others =>
          rw [List.flatten_cons, List.append_eq_nil_iff] at hnil
          exact absurd hnil.1 (hrest next List.mem_cons_self)
      rw [if_pos hwhole, hnone, List.flatten_nil, List.append_nil, if_pos hwhole]
      rfl
    · rw [if_neg hwhole]
      exact ih hrest hwhole h

end PESContent

namespace Delivery

open PESAccumulator PESParser

lemma fetched_delivery (self : Delivery) (acc : PESAccumulator) :
    trace fetch fetched acc (pieceInputs self.pieces) = self.packet.toList := by
  have hpacket : self.packet.toList = if [] ++ self.pieces.flatten = self.content.encode then
      [⟨self.content.header, self.content.payload, true⟩] else [] := by
    unfold packet
    rw [List.nil_append]
    split <;> rfl
  rw [hpacket, ← self.content.fetched_pieces self.bounded self.nonempty self.content.encode_ne_nil.symm self.arrived]
  cases hpieces : self.pieces with
  | nil => rfl
  | cons first others =>
    have hfirst : first ≠ [] := self.nonempty first (hpieces ▸ List.mem_cons_self)
    unfold pieceInputs
    rw [List.map_cons, trace_cons, trace_cons]
    unfold fetched
    rw [fetch_first acc hfirst]

lemma fetched_deliveries (deliveries : List Delivery) (acc : PESAccumulator) :
    trace fetch fetched acc (deliveries.flatMap (fun d => pieceInputs d.pieces)) =
      deliveries.filterMap packet := by
  induction deliveries generalizing acc with
  | nil => rfl
  | cons delivery deliveries ih =>
    rw [List.flatMap_cons, trace_append, fetched_delivery, ih]
    cases hpacket : delivery.packet with
    | none => rw [List.filterMap_cons_none hpacket, Option.toList_none, List.nil_append]
    | some packet => rw [List.filterMap_cons_some hpacket, Option.toList_some, List.singleton_append]

end Delivery

namespace PESManager

open PESAccumulator

/-- One piece for the PID that it came on, for a consumer that fetches a packet as soon as there is
one. -/
def receive (manager : PESManager) (input : UInt16 × List UInt8 × Bool) :
    PESManager × Option PESPacket :=
  manager.update input.1 (fun accumulator => accumulator.fetch input.2)

/-- The packet that comes out for the PID. -/
def received (pid : UInt16) (manager : PESManager) (input : UInt16 × List UInt8 × Bool) :
    List PESPacket :=
  if input.1 = pid then (manager.receive input).2.toList else []

/-- The piece, if it came on the PID. -/
def pieceOf (pid : UInt16) (input : UInt16 × List UInt8 × Bool) : Option (List UInt8 × Bool) :=
  if input.1 = pid then some input.2 else none

lemma received_isolated (manager : PESManager) (pid : UInt16)
    (inputs : List (UInt16 × List UInt8 × Bool)) :
    trace receive (received pid) manager inputs =
      trace fetch fetched ((manager.slot pid).getD {}) (inputs.filterMap (pieceOf pid)) := by
  have hsome : ∀ manager input event, True →
      (pieceOf pid input).map Slot.Event.input = some event →
      (receive manager input).1.slot pid = (Slot.step fetch {} (manager.slot pid) event).1 ∧
        received pid manager input = Slot.emitted fetched {} (manager.slot pid) event := by
    rintro manager ⟨other, input⟩ event - h
    obtain ⟨piece, hpiece, rfl⟩ := Option.map_eq_some_iff.mp h
    obtain ⟨rfl, hinput⟩ := Option.ite_none_right_eq_some.mp hpiece
    obtain rfl := Option.some.inj hinput
    obtain ⟨hslot, hanswer⟩ := manager.update_same other (fun a => a.fetch input)
    refine ⟨hslot, ?_⟩
    unfold received
    rw [if_pos rfl]
    exact congrArg Option.toList hanswer
  have hnone : ∀ manager input, True → (pieceOf pid input).map Slot.Event.input = none →
      (receive manager input).1.slot pid = manager.slot pid ∧ received pid manager input = [] := by
    rintro manager ⟨other, input⟩ - h
    have hpid : other ≠ pid := by
      rintro rfl
      unfold pieceOf at h
      rw [if_pos rfl] at h
      cases h
    exact ⟨manager.update_ne other (fun a => a.fetch input) (Ne.symm hpid), if_neg hpid⟩
  have hprojection := projection (Slot.step fetch {}) (slot pid) _ _ hsome hnone manager inputs
    (fun _ _ => trivial)
  rw [hprojection.2, ← List.map_filterMap, Slot.trace_inputs]

/-- Bounded packets whose pieces arrive interleaved with those of other PIDs, in any order, come out
for each PID as they were encoded, in order; a packet that is cut short is lost and the next one is
not. -/
theorem interleaved_packets_assembled (manager : PESManager) (pid : UInt16)
    (inputs : List (UInt16 × List UInt8 × Bool)) (deliveries : List Delivery)
    (h : inputs.filterMap (pieceOf pid) = deliveries.flatMap (fun d => pieceInputs d.pieces)) :
    trace receive (received pid) manager inputs = deliveries.filterMap Delivery.packet := by
  rw [received_isolated, h, Delivery.fetched_deliveries]

/-- The first nine bytes of a packet only. -/
def cutDelivery : Delivery where
  content := PESContent.sampleContent
  pieces := [[0, 0, 1, 0xE0, 0, 18, 0x9A, 0xC0, 12]]
  bounded := ⟨by decide, by decide⟩
  nonempty := by decide
  arrived := by decide

/-- The packet in three pieces. -/
def wholeDelivery : Delivery where
  content := PESContent.sampleContent
  pieces := [[0, 0, 1, 0xE0, 0], [18, 0x9A, 0xC0, 12, 0x3F, 0xFF],
    [0xFF, 0xFF, 0xFF, 0x19, 0x8D, 0x15, 0xCF, 0x13, 0xFF, 0xFF, 7, 8, 9]]
  bounded := ⟨by decide, by decide⟩
  nonempty := by decide
  arrived := by decide

/-- The pieces of PID 0x101, with those of a packet of PID 0x102 between them. -/
def interleavedPieces : List (UInt16 × List UInt8 × Bool) :=
  [(0x101, [0, 0, 1, 0xE0, 0, 18, 0x9A, 0xC0, 12], true), (0x101, [0, 0, 1, 0xE0, 0], true),
    (0x102, [0, 0, 1, 0xE0, 0], true), (0x101, [18, 0x9A, 0xC0, 12, 0x3F, 0xFF], false),
    (0x102, [9, 9], false),
    (0x101, [0xFF, 0xFF, 0xFF, 0x19, 0x8D, 0x15, 0xCF, 0x13, 0xFF, 0xFF, 7, 8, 9], false)]

theorem interleaved_packets_assembled_sample :
    trace receive (received 0x101) {} interleavedPieces =
      [cutDelivery, wholeDelivery].filterMap Delivery.packet :=
  interleaved_packets_assembled {} 0x101 interleavedPieces [cutDelivery, wholeDelivery] (by decide)

end PESManager

end MinimalMpegTS
