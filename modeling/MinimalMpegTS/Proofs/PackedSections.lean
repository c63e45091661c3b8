import MinimalMpegTS.Proofs.Reassembly

/-!
# Sections packed back to back

A stream of sections without gaps is cut into payloads: a payload in which some section starts
begins with a pointer field, the others carry the continuation of a section only. A consumer that
takes each section out as soon as it is complete loses the section that ends in front of a pointer
target, and all but the first of the sections that start in one payload.
-/

namespace MinimalMpegTS

open PSIAccumulator

/-- The payload of a packet. -/
structure PSIPayload where
  payloadUnitStart : Bool
  data : List UInt8
  deriving DecidableEq

/-- The payloads carry what is left of a section, and then the sections. -/
inductive PackedInto : List UInt8 → List (List UInt8) → List PSIPayload → Prop
  | nil : PackedInto [] [] []
  | continuation (piece : List UInt8) {carry : List UInt8} {sections : List (List UInt8)}
      {payloads : List PSIPayload} (rest : PackedInto carry sections payloads) :
      PackedInto (piece ++ carry) sections (⟨false, piece⟩ :: payloads)
  | start {pointer : UInt8} {carry : List UInt8} (hpointer : pointer.toNat = carry.length)
      (whole : List (List UInt8)) {front : List UInt8} (hfront : front ≠ []) {back : List UInt8}
      {sections : List (List UInt8)} {payloads : List PSIPayload}
      (rest : PackedInto back sections payloads) :
      PackedInto carry (whole ++ (front ++ back) :: sections)
        (⟨true, pointer :: (carry ++ (whole.flatten ++ front))⟩ :: payloads)

/-- What a payload carries, without its pointer field. -/
def PSIPayload.body : PSIPayload → List UInt8
  | ⟨true, data⟩ => data.tail
  | ⟨false, data⟩ => data

/-- The sections that a consumer takes out, one after each `addData` that returns true. -/
def receive : PSIAccumulator → List PSIPayload → List (List UInt8)
  | _, [] => []
  | acc, payload :: payloads =>
    let (acc, ready) := acc.addData payload.data payload.payloadUnitStart
    if ready then
      let (acc, data) := acc.getSection
      data.toList ++ receive acc payloads
    else receive acc payloads

/-! ### Every cut of the sections -/

theorem PackedInto.flatten_body {carry : List UInt8} {sections : List (List UInt8)}
    {payloads : List PSIPayload} (h : PackedInto carry sections payloads) :
    (payloads.map PSIPayload.body).flatten = carry ++ sections.flatten := by
  induction h with
  | nil => rfl
  | continuation piece rest ih =>
    rw [List.map_cons, List.flatten_cons, ih, List.append_assoc]
    rfl
  | start hpointer whole hfront rest ih =>
    rw [List.map_cons, List.flatten_cons, ih]
    simp [PSIPayload.body]

lemma exists_last_start {part more : List UInt8} {sections : List (List UInt8)} (hpart : part ≠ [])
    (h : part ++ more = sections.flatten) : ∃ whole front back later, front ≠ [] ∧
      sections = whole ++ (front ++ back) :: later ∧ part = whole.flatten ++ front ∧
      more = back ++ later.flatten := by
  induction sections generalizing part with
  | nil => exact absurd (List.append_eq_nil_iff.mp h).1 hpart
  | cons data sections ih =>
    rw [List.flatten_cons] at h
    obtain ⟨back, rfl, rfl⟩ | ⟨rest, rfl, hrest⟩ := List.append_eq_append_iff.mp h
    · exact ⟨[], part, back, sections, hpart, rfl, rfl, rfl⟩
    · by_cases hnil : rest = []
      · subst hnil
        rw [List.append_nil] at hpart ⊢
        exact ⟨[], data, [], sections, hpart, by rw [List.append_nil]; rfl, rfl, hrest.symm⟩
      · obtain ⟨whole, front, back, later, hfront, rfl, rfl, hmore⟩ := ih hnil hrest.symm
        exact ⟨data :: whole, front, back, later, hfront, rfl, by simp, hmore⟩

/-- However the sections are cut, the pieces can be sent. -/
theorem exists_packedInto {pieces : List (List UInt8)} {carry : List UInt8}
    {sections : List (List UInt8)} (hpieces : ∀ piece ∈ pieces, piece.length ≤ 256)
    (hsections : ∀ data ∈ sections, data ≠ [])
    (h : pieces.flatten = carry ++ sections.flatten) :
    ∃ payloads, PackedInto carry sections payloads ∧ payloads.map PSIPayload.body = pieces := by
  induction pieces generalizing carry sections with
  | nil =>
    obtain ⟨rfl, hnil⟩ := List.append_eq_nil_iff.mp h.symm
    cases sections with
    | nil => exact ⟨[], PackedInto.nil, rfl⟩
    | cons data sections =>
      exact absurd (List.append_eq_nil_iff.mp hnil).1 (hsections data List.mem_cons_self)
  | cons piece pieces ih =>
    rw [List.forall_mem_cons] at hpieces
    rw [List.flatten_cons] at h
    by_cases hle : piece.length ≤ carry.length
    · -- no section starts in this piece
      obtain ⟨rest, hcarry⟩ := List.prefix_of_prefix_length_le
        (List.prefix_append piece pieces.flatten) (h ▸ List.prefix_append carry sections.flatten) hle
      subst hcarry
      rw [List.append_assoc, List.append_cancel_left_eq] at h
      obtain ⟨payloads, hpacked, hbody⟩ := ih hpieces.2 hsections h
      exact ⟨⟨false, piece⟩ :: payloads, hpacked.continuation piece, by rw [List.map_cons, hbody]; rfl⟩
    · obtain ⟨part, hpiece⟩ := List.prefix_of_prefix_length_le
        (List.prefix_append carry sections.flatten) (h ▸ List.prefix_append piece pieces.flatten)
        (by omega)
      subst hpiece
      rw [List.append_assoc, List.append_cancel_left_eq] at h
      have hpart : part ≠ [] := by
        rintro rfl
        rw [List.append_nil] at hle
        exact hle le_rfl
      obtain ⟨whole, front, back, later, hfront, rfl, rfl, hmore⟩ := exists_last_start hpart h
      have hlater : ∀ data ∈ later, data ≠ [] := fun data hdata => hsections data (by simp [hdata])
      obtain ⟨payloads, hpacked, hbody⟩ := ih hpieces.2 hlater hmore
      have hpointer : (UInt8.ofNat carry.length).toNat = carry.length := by
        have hlen := hpieces.1
        rw [List.length_append] at hle hlen
        have hlt : carry.length < 256 := by omega
        exact UInt8.toNat_ofNat_of_lt' hlt
      exact ⟨_, PackedInto.start hpointer whole hfront hpacked, by rw [List.map_cons, hbody]; rfl⟩

/-! ### What the consumer does with a payload -/

lemma receive_of_append {acc : PSIAccumulator} {start : Bool} {bytes front data : List UInt8}
    (h : acc.addData bytes start = (collected front).append data)
    (payloads : List PSIPayload) : receive acc (⟨start, bytes⟩ :: payloads) =
      (collect (front ++ data)).2.toList ++ receive (collect (front ++ data)).1 payloads := by
  rw [receive, h, append_collected]
  unfold collect
  by_cases hcomplete : Complete (front ++ data)
  · rw [if_pos hcomplete, if_pos hcomplete]
    rfl
  · rw [if_neg hcomplete, if_neg hcomplete]
    rfl

lemma receive_idle (piece : List UInt8) (payloads : List PSIPayload) :
    receive {} (⟨false, piece⟩ :: payloads) = receive {} payloads := rfl

lemma receive_continuation (front piece : List UInt8) (payloads : List PSIPayload) :
    receive (collected front) (⟨false, piece⟩ :: payloads) =
      (collect (front ++ piece)).2.toList ++ receive (collect (front ++ piece)).1 payloads :=
  receive_of_append rfl payloads

lemma receive_start (acc : PSIAccumulator) {pointer : UInt8} {carry data : List UInt8}
    (hpointer : pointer.toNat = carry.length) (hdata : data ≠ []) (payloads : List PSIPayload) :
    receive acc (⟨true, pointer :: (carry ++ data)⟩ :: payloads) =
      (collect data).2.toList ++ receive (collect data).1 payloads := by
  have hlt : pointer.toNat < (carry ++ data).length := by
    have hpos := List.length_pos_iff.mpr hdata
    rw [List.length_append]
    omega
  have hadd : acc.addData (pointer :: (carry ++ data)) true = (collected []).append data := by
    unfold addData
    simp only [if_true, if_pos hlt]
    rw [hpointer, List.drop_left]
    rfl
  exact receive_of_append hadd payloads

lemma collect_end {data : List UInt8} (h : IsSection data) (more : List UInt8) :
    collect (data ++ more) = ({}, some data) := collect_whole h.2 h.pos more

lemma collect_front {front back : List UInt8} (h : IsSection (front ++ back)) (hback : back ≠ []) :
    collect front = (collected front, none) := by
  have hpos := List.length_pos_iff.mpr hback
  refine collect_part h.2 (List.prefix_append front back) ?_
  rw [List.length_append]
  omega

lemma receive_whole (acc : PSIAccumulator) {pointer : UInt8} {carry data : List UInt8}
    (hpointer : pointer.toNat = carry.length) (hdata : IsSection data) (more : List UInt8)
    (payloads : List PSIPayload) :
    receive acc (⟨true, pointer :: (carry ++ (data ++ more))⟩ :: payloads) =
      data :: receive {} payloads := by
  have hne : data ++ more ≠ [] := fun h => hdata.1 (List.append_eq_nil_iff.mp h).1
  rw [receive_start acc hpointer hne, collect_end hdata]
  rfl

lemma receive_front (acc : PSIAccumulator) {pointer : UInt8} {carry front back : List UInt8}
    (hpointer : pointer.toNat = carry.length) (hfront : front ≠ []) (hback : back ≠ [])
    (hsection : IsSection (front ++ back)) (payloads : List PSIPayload) :
    receive acc (⟨true, pointer :: (carry ++ front)⟩ :: payloads) =
      receive (collected front) payloads := by
  rw [receive_start acc hpointer hfront, collect_front hsection hback]
  rfl

/-! ### Which streams arrive -/

def startCount (payloads : List PSIPayload) : Nat :=
  (payloads.filter PSIPayload.payloadUnitStart).length

/-- Each section starts at the beginning of a payload of its own: the pointer fields are 0, and there
are as many of them as sections. -/
def StartsOwnPayload (sections : List (List UInt8)) (payloads : List PSIPayload) : Prop :=
  startCount payloads = sections.length ∧
    ∀ payload ∈ payloads, payload.payloadUnitStart = true → payload.data.head? = some 0

lemma startCount_le {carry : List UInt8} {sections : List (List UInt8)} {payloads : List PSIPayload}
    (h : PackedInto carry sections payloads) : startCount payloads ≤ sections.length := by
  induction h with
  | nil => exact le_refl 0
  | continuation piece rest ih => exact ih
  | start hpointer whole hfront rest ih =>
    rw [List.length_append, List.length_cons]
    have hcons : ∀ (data : List UInt8) (payloads : List PSIPayload),
        startCount (⟨true, data⟩ :: payloads) = startCount payloads + 1 := fun _ _ => rfl
    rw [hcons]
    omega

lemma startsOwnPayload_continuation (sections : List (List UInt8)) (piece : List UInt8)
    (payloads : List PSIPayload) : StartsOwnPayload sections (⟨false, piece⟩ :: payloads) ↔
      StartsOwnPayload sections payloads := by
  unfold StartsOwnPayload
  have hcount : startCount (⟨false, piece⟩ :: payloads) = startCount payloads := rfl
  rw [hcount, List.forall_mem_cons]
  simp

lemma startsOwnPayload_start {carry back : List UInt8} {sections : List (List UInt8)}
    {payloads : List PSIPayload} (rest : PackedInto back sections payloads) {pointer : UInt8}
    (hpointer : pointer.toNat = carry.length) (whole : List (List UInt8)) (last data : List UInt8) :
    StartsOwnPayload (whole ++ last :: sections) (⟨true, pointer :: data⟩ :: payloads) ↔
      carry = [] ∧ whole = [] ∧ StartsOwnPayload sections payloads := by
  have hle := startCount_le rest
  have hcount : startCount (⟨true, pointer :: data⟩ :: payloads) = startCount payloads + 1 := rfl
  have hzero : pointer = 0 ↔ carry = [] := by
    rw [← UInt8.toNat_inj, hpointer]
    exact List.length_eq_zero_iff
  unfold StartsOwnPayload
  rw [hcount, List.length_append, List.length_cons, List.forall_mem_cons, ← hzero]
  constructor
  · rintro ⟨hsum, hfirst, hrest⟩
    refine ⟨by simpa using hfirst, List.eq_nil_of_length_eq_zero (by omega), by omega, hrest⟩
  · rintro ⟨rfl, rfl, hsum, hrest⟩
    exact ⟨by rw [List.length_nil]; omega, fun _ => rfl, hrest⟩

lemma length_receive_starts_le (acc : PSIAccumulator) {pointer : UInt8}
    {carry front back : List UInt8} {whole : List (List UInt8)}
    (hpointer : pointer.toNat = carry.length) (hfront : front ≠ [])
    (hsections : ∀ data ∈ whole ++ [front ++ back], IsSection data) {payloads : List PSIPayload}
    {n : Nat} (hidle : (receive {} payloads).length ≤ n)
    (hfed : back ≠ [] → (receive (collected front) payloads).length ≤ n + 1) :
    (receive acc (⟨true, pointer :: (carry ++ (whole.flatten ++ front))⟩ :: payloads)).length ≤
      n + 1 := by
  have hlast : IsSection (front ++ back) := hsections _ (by simp)
  cases whole with
  | cons data whole =>
    have hfirst : IsSection data := hsections data (by simp)
    rw [List.flatten_cons, List.append_assoc, receive_whole acc hpointer hfirst, List.length_cons]
    omega
  | nil =>
    rw [List.flatten_nil, List.nil_append]
    by_cases hback : back = []
    · rw [hback, List.append_nil] at hlast
      have hwhole := receive_whole acc hpointer hlast [] payloads
      rw [List.append_nil] at hwhole
      rw [hwhole, List.length_cons]
      omega
    · rw [receive_front acc hpointer hfront hback hlast]
      exact hfed hback

lemma isSection_starting {whole sections : List (List UInt8)} {last : List UInt8}
    (h : ∀ data ∈ whole ++ last :: sections, IsSection data) :
    (∀ data ∈ whole ++ [last], IsSection data) ∧ ∀ data ∈ sections, IsSection data := by
  constructor
  · intro data hdata
    apply h
    simp only [List.mem_append, List.mem_cons, List.not_mem_nil, or_false] at hdata ⊢
    tauto
  · intro data hdata
    exact h data (by simp [hdata])

lemma length_receive_le {carry : List UInt8} {sections : List (List UInt8)}
    {payloads : List PSIPayload} (h : PackedInto carry sections payloads)
    (hsections : ∀ data ∈ sections, IsSection data) :
    (receive {} payloads).length ≤ sections.length ∧
      ∀ fed, carry ≠ [] → IsSection (fed ++ carry) →
        (receive (collected fed) payloads).length ≤ sections.length + 1 := by
  induction h with
  | nil => exact ⟨le_refl 0, fun _ _ _ => Nat.zero_le _⟩
  | @continuation piece carry sections payloads rest ih =>
    obtain ⟨hidle, hfed⟩ := ih hsections
    refine ⟨hidle, ?_⟩
    intro fed _ hsection
    rw [← List.append_assoc] at hsection
    rw [receive_continuation]
    by_cases hcarry : carry = []
    · subst hcarry
      have hcollect := collect_end hsection []
      rw [List.append_nil, List.append_nil] at hcollect
      rw [hcollect]
      show (receive {} payloads).length + 1 ≤ _
      omega
    · rw [collect_front hsection hcarry]
      exact hfed _ hcarry hsection
  | @start pointer carry hpointer whole front hfront back sections payloads rest ih =>
    obtain ⟨hstarting, hlater⟩ := isSection_starting hsections
    obtain ⟨hidle, hfed⟩ := ih hlater
    have hlast : IsSection (front ++ back) := hstarting _ (by simp)
    have hall := fun acc => length_receive_starts_le acc hpointer hfront hstarting hidle
      fun hback => hfed front hback hlast
    rw [List.length_append, List.length_cons]
    constructor
    · have hstart := hall {}
      omega
    · intro fed _ _
      have hstart := hall (collected fed)
      omega

lemma receive_eq_iff {carry : List UInt8} {sections : List (List UInt8)}
    {payloads : List PSIPayload} (h : PackedInto carry sections payloads)
    (hsections : ∀ data ∈ sections, IsSection data) :
    (carry = [] → (receive {} payloads = sections ↔ StartsOwnPayload sections payloads)) ∧
      ∀ fed, carry ≠ [] → IsSection (fed ++ carry) →
        (receive (collected fed) payloads = (fed ++ carry) :: sections ↔
          StartsOwnPayload sections payloads) := by
  induction h with
  | nil =>
    refine ⟨fun _ => ?_, fun _ hcarry => absurd rfl hcarry⟩
    exact iff_of_true rfl ⟨rfl, fun _ hpayload => absurd hpayload List.not_mem_nil⟩
  | @continuation piece carry sections payloads rest ih =>
    obtain ⟨hidle, hfed⟩ := ih hsections
    rw [startsOwnPayload_continuation]
    constructor
    · intro hnil
      rw [receive_idle]
      exact hidle (List.append_eq_nil_iff.mp hnil).2
    · intro fed _ hsection
      rw [← List.append_assoc] at hsection ⊢
      rw [receive_continuation]
      by_cases hcarry : carry = []
      · subst hcarry
        have hcollect := collect_end hsection []
        rw [List.append_nil, List.append_nil] at hcollect
        rw [hcollect, List.append_nil]
        show (fed ++ piece) :: receive {} payloads = _ ↔ _
        rw [List.cons_eq_cons, and_iff_right rfl]
        exact hidle rfl
      · rw [collect_front hsection hcarry]
        exact hfed _ hcarry hsection
  | @start pointer carry hpointer whole front hfront back sections payloads rest ih =>
    obtain ⟨hstarting, hlater⟩ := isSection_starting hsections
    obtain ⟨hidle, hfed⟩ := ih hlater
    obtain ⟨hidleLe, hfedLe⟩ := length_receive_le rest hlater
    have hlast : IsSection (front ++ back) := hstarting _ (by simp)
    have hall := fun acc => length_receive_starts_le acc hpointer hfront hstarting hidleLe
      fun hback => hfedLe front hback hlast
    rw [startsOwnPayload_start rest hpointer]
    constructor
    · intro hcarry
      rw [and_iff_right hcarry]
      cases whole with
      | cons data whole =>
        -- the section that starts first hides the others
        refine iff_of_false ?_ ?_
        · intro heq
          have hstart := hall {}
          rw [heq, List.length_append, List.length_cons, List.length_cons] at hstart
          omega
        · rintro ⟨hnil, -⟩
          exact List.cons_ne_nil _ _ hnil
      | nil =>
        rw [and_iff_right rfl, List.flatten_nil, List.nil_append, List.nil_append]
        by_cases hback : back = []
        · subst hback
          rw [List.append_nil] at hlast ⊢
          have hwhole := receive_whole {} hpointer hlast [] payloads
          rw [List.append_nil] at hwhole
          rw [hwhole, List.cons_eq_cons, and_iff_right rfl]
          exact hidle rfl
        · rw [receive_front {} hpointer hfront hback hlast]
          exact hfed front hback hlast
    · intro fed hcarry _
      -- the end of the section that goes on in this payload is skipped
      refine iff_of_false ?_ fun hstart => hcarry hstart.1
      intro heq
      have hstart := hall (collected fed)
      rw [heq, List.length_cons, List.length_append, List.length_cons] at hstart
      omega

/-- All sections arrive exactly when each one starts at the beginning of a payload of its own. -/
theorem receive_packed_iff {sections : List (List UInt8)} {payloads : List PSIPayload}
    (hpacked : PackedInto [] sections payloads) (hsections : ∀ data ∈ sections, IsSection data) :
    receive {} payloads = sections ↔ StartsOwnPayload sections payloads :=
  (receive_eq_iff hpacked hsections).1 rfl

/-- A section of four bytes in two payloads, and one of three bytes in a payload of its own. -/
theorem receive_packed_sample :
    receive {} [⟨true, [0, 0x42, 0x30]⟩, ⟨false, [0x01, 7]⟩, ⟨true, [0, 0x00, 0x30, 0x00]⟩] =
      [[0x42, 0x30, 0x01, 7], [0x00, 0x30, 0x00]] := by
  have hlast : PackedInto [] [[0x00, 0x30, 0x00]] [⟨true, [0, 0x00, 0x30, 0x00]⟩] :=
    PackedInto.start rfl [] (List.cons_ne_nil 0x00 [0x30, 0x00]) PackedInto.nil
  have hpacked : PackedInto [] [[0x42, 0x30, 0x01, 7], [0x00, 0x30, 0x00]]
      [⟨true, [0, 0x42, 0x30]⟩, ⟨false, [0x01, 7]⟩, ⟨true, [0, 0x00, 0x30, 0x00]⟩] :=
    PackedInto.start rfl [] (List.cons_ne_nil 0x42 [0x30])
      (PackedInto.continuation [0x01, 7] hlast)
  exact (receive_packed_iff hpacked (by decide)).mpr ⟨rfl, by decide⟩

/-- Two sections in one payload, and a section that ends in front of the start of the next one. -/
theorem packed_section_lost :
    (∃ sections payloads, (∀ data ∈ sections, IsSection data) ∧ PackedInto [] sections payloads ∧
        (∀ payload ∈ payloads, payload.data.head? = some 0) ∧ receive {} payloads ≠ sections) ∧
      ∃ sections payloads, (∀ data ∈ sections, IsSection data) ∧ PackedInto [] sections payloads ∧
        startCount payloads = sections.length ∧ receive {} payloads ≠ sections := by
  constructor
  · refine ⟨[[0x00, 0x30, 0x00], [0x01, 0x30, 0x00]],
      [⟨true, [0, 0x00, 0x30, 0x00, 0x01, 0x30, 0x00]⟩], by decide, ?_, by decide, by decide⟩
    exact PackedInto.start rfl [[0x00, 0x30, 0x00]] (List.cons_ne_nil 0x01 [0x30, 0x00]) PackedInto.nil
  · refine ⟨[[0x00, 0x30, 0x00], [0x01, 0x30, 0x00]],
      [⟨true, [0, 0x00, 0x30]⟩, ⟨true, [1, 0x00, 0x01, 0x30, 0x00]⟩], by decide, ?_, rfl, by decide⟩
    have hlast : PackedInto [0x00] [[0x01, 0x30, 0x00]] [⟨true, [1, 0x00, 0x01, 0x30, 0x00]⟩] :=
      PackedInto.start rfl [] (List.cons_ne_nil 0x01 [0x30, 0x00]) PackedInto.nil
    exact PackedInto.start rfl [] (List.cons_ne_nil 0x00 [0x30]) hlast

end MinimalMpegTS
