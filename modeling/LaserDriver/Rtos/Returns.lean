import LaserDriver.Rtos.Loans

/-! How the items a no-split buffer has lent come back to it, in whatever order. -/

namespace LaserDriver.Rtos.Nosplit
open Effects

/-- What is left when the returned items in front have been passed, and the dummy data
in front of the first that has not been returned. -/
def reclaim : List Slot → List Slot
  | [] => []
  | slot :: rest => if slot.returned then reclaim rest else { slot with skip := 0 } :: rest

def loans (circle : Storage) : Nat → List Slot → List (Nat × List UInt8)
  | _, [] => []
  | place, slot :: rest =>
    (if slot.returned then [] else [(slot.start circle place + headerSize, slot.item)]) ++
      loans circle (circle.after place slot.span) rest

/-- The part of a buffer that is lent, when it is not the whole of it. -/
structure Lending (ring : Ringbuffer) (memory : Memory) (lent : List Slot) : Prop where
  tail : ring.pucTail = ring.pucHead + ring.xSize
  regular : Regular ring.circle
  free : Spot ring.circle ring.pucFree
  laid : Laid ring.circle memory (xMaxItemSize ring) ring.pucFree lent
  read : ring.pucRead = ring.circle.after ring.pucFree (total lent)
  part : total lent < ring.xSize

variable {ring : Ringbuffer} {memory : Memory} {slot : Slot} {rest lent waiting : List Slot}

theorem passFreed_stop (fuel : Nat) (stays : ring.pucFree = ring.pucRead ∨
    ∃ size, ItemHeader.read memory ring.pucFree = ⟨size, 8⟩) : passFreed (fuel + 1) ring memory = some (ring, memory) := by
  unfold passFreed
  apply if_neg
  rintro ⟨flags, apart⟩
  obtain same | ⟨size, header⟩ := stays
  · exact apart same
  · have kept : ItemHeader.has ⟨size, 8⟩ itemFreeFlag = false := ItemHeader.has_of (by decide)
    have real : ItemHeader.has ⟨size, 8⟩ itemDummyDataFlag = false := ItemHeader.has_of (by decide)
    rw [header, kept, real] at flags
    exact flags.elim Bool.false_ne_true Bool.false_ne_true

theorem passFreed_item (fuel : Nat) {size : Nat} (header : ItemHeader.read memory ring.pucFree = ⟨size, 9⟩)
    (apart : ring.pucFree ≠ ring.pucRead)
    (inside : ring.pucFree + (alignSize size + headerSize) ≤ ring.pucHead + ring.xSize) :
    passFreed (fuel + 1) ring memory =
      passFreed fuel { ring with pucFree := around ring (ring.pucFree + (alignSize size + headerSize)) } memory := by
  have freed : ItemHeader.has ⟨size, 9⟩ itemFreeFlag = true := ItemHeader.has_of (by decide)
  have real : ItemHeader.has ⟨size, 9⟩ itemDummyDataFlag = false := ItemHeader.has_of (by decide)
  rw [passFreed]
  simp only [header, freed, real, true_or, true_and, if_pos apart, Bool.false_eq_true, if_false]
  rw [Ringbuffer.configAssert_of inside]
  rfl

theorem passFreed_dummy (fuel : Nat) (header : ItemHeader.read memory ring.pucFree = ⟨0, 10⟩)
    (apart : ring.pucFree ≠ ring.pucRead) (headed : ring.pucHead + headerSize ≤ ring.pucTail) :
    passFreed (fuel + 1) ring memory =
      passFreed fuel { ring with pucFree := ring.pucHead } (ItemHeader.write ⟨0, 11⟩ memory ring.pucFree) := by
  have dummy : ItemHeader.has ⟨0, 10⟩ itemDummyDataFlag = true := ItemHeader.has_of (by decide)
  have marked : ItemHeader.mark ⟨0, 10⟩ itemFreeFlag = ⟨0, 11⟩ := ItemHeader.mark_of (by decide)
  have there : around { ring with pucFree := ring.pucHead } ring.pucHead = ring.pucHead := if_neg (by simp only; omega)
  rw [passFreed]
  simp only [header, dummy, marked, or_true, true_and, if_pos apart, if_true, Option.bind_eq_bind, Option.bind_some, there]

/-- The loop that moves `pucFree` passes what has been returned and changes nothing else. -/
def Passes (ring : Ringbuffer) (memory : Memory) (lent : List Slot) (result : Option (Ringbuffer × Memory)) : Prop :=
  ∃ passed later, result = some ({ ring with pucFree := ring.circle.after ring.pucFree passed }, later) ∧
    passed + total (reclaim lent) = total lent ∧
    Laid ring.circle later (xMaxItemSize ring) (ring.circle.after ring.pucFree passed) (reclaim lent) ∧
    Spot ring.circle (ring.circle.after ring.pucFree passed) ∧
    loans ring.circle (ring.circle.after ring.pucFree passed) (reclaim lent) = loans ring.circle ring.pucFree lent ∧
    ∀ place, (∀ offset < total lent, place ≠ ring.circle.after ring.pucFree offset) → later place = memory place

namespace Lending

theorem apart (lending : Lending ring memory (slot :: rest)) : ring.pucFree ≠ ring.pucRead := by
  have headed := lending.laid.1.headed
  have part := lending.part
  have positive : 0 < total (slot :: rest) := by
    rw [total_cons]
    unfold Slot.span
    unfold headerSize at headed
    omega
  have first := Storage.after_zero lending.free.has
  rw [lending.read]
  intro same
  exact Storage.after_ne lending.free.has positive part (first.trans same)

theorem bounded (lending : Lending ring memory (slot :: rest)) : slot.span + total rest < ring.xSize := by
  have part := lending.part
  rw [total_cons] at part
  exact part

theorem start_straight (lending : Lending ring memory (slot :: rest)) (straight : slot.skip = 0) :
    slot.start ring.circle ring.pucFree = ring.pucFree := by
  rw [Slot.start, straight]
  exact Storage.after_zero lending.free.has

/-- The loop ends at an item that has not been returned. -/
theorem pass_lent (lending : Lending ring memory (slot :: rest)) (straight : slot.skip = 0) (lent : slot.returned = false)
    (fuel : Nat) : Passes ring memory (slot :: rest) (passFreed (fuel + 1) ring memory) := by
  have flags : slot.flags = 8 := by
    rw [Slot.flags, lent]
    rfl
  have here := Storage.after_zero lending.free.has
  have whole : { slot with skip := 0 } = slot := by rw [← straight]
  have same : reclaim (slot :: rest) = slot :: rest := by
    rw [reclaim, if_neg (by rw [lent]; exact Bool.false_ne_true), whole]
  have header := lending.laid.1.header
  rw [lending.start_straight straight, flags] at header
  refine ⟨0, memory, ?_, ?_, ?_, ?_, ?_, fun _ _ => rfl⟩
  · rw [passFreed_stop fuel (.inr ⟨_, header⟩), here]
  · rw [same, Nat.zero_add]
  · rw [same, here]
    exact lending.laid
  · rw [here]
    exact lending.free
  · rw [same, here]

/-- One round of the loop, past an item that has been returned. -/
theorem passFreed_straight (lending : Lending ring memory (slot :: rest)) (straight : slot.skip = 0)
    (returned : slot.returned = true) (fuel : Nat) : passFreed (fuel + 1) ring memory =
      passFreed fuel { ring with pucFree := ring.circle.after ring.pucFree slot.span } memory := by
  have lies := lending.laid.1
  have bounded := lending.bounded
  have start := lending.start_straight straight
  have flags : slot.flags = 9 := by
    rw [Slot.flags, returned]
    rfl
  have header := lies.header
  have inside := lies.inside
  have next := around_edge lending.tail lies lending.free.has (by omega)
  rw [Slot.edge, start] at inside next
  rw [start, flags] at header
  have finish : ring.circle.head + ring.circle.size = ring.pucHead + ring.xSize := rfl
  have step := passFreed_item fuel header lending.apart (by omega)
  rw [Nat.add_comm (alignSize _), next] at step
  exact step

/-- What is lent behind the first slot. -/
theorem behind (lending : Lending ring memory (slot :: rest)) :
    Lending { ring with pucFree := ring.circle.after ring.pucFree slot.span } memory rest := by
  have bounded := lending.bounded
  refine ⟨lending.tail, lending.regular,
    lending.laid.1.spot lending.regular lending.free (by change slot.span ≤ ring.xSize; omega), lending.laid.2, ?_, ?_⟩
  · change ring.pucRead = ring.circle.after (ring.circle.after ring.pucFree slot.span) (total rest)
    rw [Storage.after_add lending.free.has (Nat.le_of_lt bounded), lending.read, total_cons]
  · change total rest < ring.xSize
    omega

/-- Once the first slot has been passed, what is passed behind it is passed in all. -/
theorem passes_behind (lending : Lending ring memory (slot :: rest)) (returned : slot.returned = true)
    {result : Option (Ringbuffer × Memory)}
    (passes : Passes { ring with pucFree := ring.circle.after ring.pucFree slot.span } memory rest result) :
    Passes ring memory (slot :: rest) result := by
  have has := lending.free.has
  have bounded := lending.bounded
  have same : reclaim (slot :: rest) = reclaim rest := by
    simp only [reclaim, returned, if_true]
  obtain ⟨passed, later, result, amount, laid, spot, kept, unchanged⟩ := passes
  have joined : ring.circle.after (ring.circle.after ring.pucFree slot.span) passed =
      ring.circle.after ring.pucFree (slot.span + passed) := Storage.after_add has (by change _ ≤ ring.xSize; omega)
  change _ = some ({ ring with pucFree := ring.circle.after (ring.circle.after ring.pucFree slot.span) passed }, later)
    at result
  change Laid ring.circle later (xMaxItemSize ring)
    (ring.circle.after (ring.circle.after ring.pucFree slot.span) passed) (reclaim rest) at laid
  change Spot ring.circle (ring.circle.after (ring.circle.after ring.pucFree slot.span) passed) at spot
  change loans ring.circle (ring.circle.after (ring.circle.after ring.pucFree slot.span) passed) (reclaim rest) =
    loans ring.circle (ring.circle.after ring.pucFree slot.span) rest at kept
  rw [joined] at result laid spot kept
  refine ⟨slot.span + passed, later, result, ?_, ?_, spot, ?_, ?_⟩
  · rw [same, total_cons, ← amount, Nat.add_assoc]
  · rw [same]
    exact laid
  · rw [same, kept]
    simp only [loans, returned, if_true, List.nil_append]
  · intro place outside
    apply unchanged
    intro offset within
    change place ≠ ring.circle.after (ring.circle.after ring.pucFree slot.span) offset
    rw [Storage.after_add has (by change _ ≤ ring.xSize; omega)]
    exact outside _ (by rw [total_cons]; omega)

/-- A slot without dummy data in front of it has been returned or ends the loop. -/
theorem pass_straight (lending : Lending ring memory (slot :: rest)) (straight : slot.skip = 0) (fuel : Nat)
    (onward : ∀ after, Lending after memory rest → Passes after memory rest (passFreed fuel after memory)) :
    Passes ring memory (slot :: rest) (passFreed (fuel + 1) ring memory) := by
  cases returned : slot.returned with
  | false => exact lending.pass_lent straight returned fuel
  | true =>
    rw [lending.passFreed_straight straight returned]
    exact lending.passes_behind returned (onward _ lending.behind)

theorem around_dummy (lending : Lending ring memory (slot :: rest)) (skipped : slot.skip ≠ 0) :
    headerSize ≤ slot.skip ∧ ring.pucFree + slot.skip = ring.circle.head + ring.circle.size ∧
      ItemHeader.read memory ring.pucFree = ⟨0, 10⟩ ∧
      ∀ offset, slot.skip + offset ≤ ring.xSize →
        ring.circle.after ring.pucHead offset = ring.circle.after ring.pucFree (slot.skip + offset) := by
  obtain none_skipped | ⟨headed, reached, marked⟩ := lending.laid.1.dummy
  · exact absurd none_skipped skipped
  · refine ⟨headed, reached, marked, ?_⟩
    intro offset inside
    have start : ring.circle.after ring.pucFree slot.skip = ring.pucHead := Storage.after_end reached
    rw [← start]
    exact Storage.after_add lending.free.has inside

theorem head_spot (lending : Lending ring memory lent) : Spot ring.circle ring.pucHead := by
  have least : 12 ≤ ring.xSize := lending.regular.least
  refine ⟨⟨Nat.le_refl _, ?_⟩, lending.regular.head, ?_⟩
  · change ring.pucHead < ring.pucHead + ring.xSize
    omega
  · change ring.pucHead + headerSize ≤ ring.pucHead + ring.xSize
    unfold headerSize
    omega

theorem behind_dummy (lending : Lending ring memory (slot :: rest)) (skipped : slot.skip ≠ 0) :
    Lending { ring with pucFree := ring.pucHead } (ItemHeader.write ⟨0, 11⟩ memory ring.pucFree)
      ({ slot with skip := 0 } :: rest) := by
  have lies := lending.laid.1
  have bounded := lending.bounded
  have has := lending.free.has
  have room := lies.headed
  have head := lending.head_spot
  have here : ring.circle.after ring.pucHead 0 = ring.pucHead := Storage.after_zero head.has
  have span : slot.span = slot.skip + slot.room := rfl
  obtain ⟨headed, reached, -, onto⟩ := lending.around_dummy skipped
  have start : ring.circle.after ring.pucFree slot.skip = ring.pucHead := Storage.after_end reached
  have kept : ∀ offset, headerSize ≤ offset → offset < ring.xSize →
      ItemHeader.write ⟨0, 11⟩ memory ring.pucFree (ring.circle.after ring.pucFree offset) =
        memory (ring.circle.after ring.pucFree offset) := by
    intro offset past inside
    have apart : ring.circle.after ring.pucFree offset < ring.circle.after ring.pucFree 0 ∨
        ring.circle.after ring.pucFree 0 + headerSize ≤ ring.circle.after ring.pucFree offset :=
      Storage.after_apart has (by change 0 + headerSize ≤ ring.xSize; omega) (.inr (by omega)) inside
    rw [Storage.after_zero has] at apart
    exact ItemHeader.write_outside _ _ apart
  have dropped : Lies ring.circle memory (xMaxItemSize ring) ring.pucHead { slot with skip := 0 } := by
    obtain ⟨-, header, bytes, short, inside, ended⟩ := lies
    unfold Slot.edge at inside ended
    unfold Slot.start at header bytes inside ended
    rw [start] at header bytes inside ended
    refine ⟨.inl rfl, ?_, ?_, short, ?_, ?_⟩
    all_goals
      simp only [Slot.edge, Slot.start, here]
      assumption
  refine ⟨lending.tail, lending.regular, head, ⟨?_, ?_⟩, ?_, ?_⟩
  · refine dropped.frame head.has (by change 0 + slot.room ≤ ring.xSize; omega) ?_
    intro offset inside
    change offset < 0 + slot.room at inside
    rw [onto offset (by omega)]
    exact kept _ (by omega) (by omega)
  · change Laid ring.circle _ (xMaxItemSize ring) (ring.circle.after ring.pucHead (0 + slot.room)) rest
    rw [Nat.zero_add, onto slot.room (by omega)]
    refine lending.laid.2.frame (has.after (by change slot.skip + slot.room ≤ ring.xSize; omega))
      (by change total rest ≤ ring.xSize; omega) ?_
    intro offset inside
    rw [Storage.after_add has (by change _ ≤ ring.xSize; omega)]
    exact kept _ (by omega) (by omega)
  · change ring.pucRead = ring.circle.after ring.pucHead (0 + slot.room + total rest)
    rw [onto _ (by omega), lending.read, total_cons]
    congr 1
    omega
  · change 0 + slot.room + total rest < ring.xSize
    omega

/-- Dummy data is passed whether or not the item behind it has been returned. -/
theorem pass_dummy (lending : Lending ring memory (slot :: rest)) (skipped : slot.skip ≠ 0) (fuel : Nat)
    (onward : ∀ after later, Lending after later ({ slot with skip := 0 } :: rest) →
      Passes after later ({ slot with skip := 0 } :: rest) (passFreed fuel after later)) :
    Passes ring memory (slot :: rest) (passFreed (fuel + 1) ring memory) := by
  have bounded := lending.bounded
  have room := lending.laid.1.headed
  have head := lending.head_spot
  have here : ring.circle.after ring.pucHead 0 = ring.pucHead := Storage.after_zero head.has
  have span : slot.span = slot.skip + slot.room := rfl
  obtain ⟨headed, reached, marked, onto⟩ := lending.around_dummy skipped
  have start : ring.circle.after ring.pucFree slot.skip = ring.pucHead := Storage.after_end reached
  have step := passFreed_dummy fuel marked lending.apart (lending.tail ▸ head.headed)
  have same : reclaim ({ slot with skip := 0 } :: rest) = reclaim (slot :: rest) := rfl
  obtain ⟨passed, later, result, amount, laid, spot, lent, unchanged⟩ := onward _ _ (lending.behind_dummy skipped)
  rw [same] at amount laid lent
  have less : passed ≤ slot.room + total rest := by
    change passed + _ = 0 + slot.room + total rest at amount
    omega
  have joined : ring.circle.after ring.pucHead passed = ring.circle.after ring.pucFree (slot.skip + passed) :=
    onto passed (by omega)
  change passFreed fuel _ _ = some ({ ring with pucFree := ring.circle.after ring.pucHead passed }, later) at result
  change Laid ring.circle later (xMaxItemSize ring) (ring.circle.after ring.pucHead passed) _ at laid
  change Spot ring.circle (ring.circle.after ring.pucHead passed) at spot
  change loans ring.circle (ring.circle.after ring.pucHead passed) _ =
    loans ring.circle ring.pucHead ({ slot with skip := 0 } :: rest) at lent
  rw [joined] at result laid spot lent
  refine ⟨slot.skip + passed, later, step.trans result, ?_, laid, spot, ?_, ?_⟩
  · change passed + _ = 0 + slot.room + total rest at amount
    rw [total_cons]
    omega
  · rw [lent]
    simp only [loans, Slot.start, Slot.span, here, start, Nat.zero_add]
    rw [onto slot.room (by omega)]
  · intro place outside
    have other : place < ring.pucFree ∨ ring.pucFree + headerSize ≤ place :=
      Storage.outside_straight (by omega) (by rw [total_cons]; omega) outside
    refine Eq.trans (unchanged place ?_) (ItemHeader.write_outside _ _ other)
    intro offset within
    change offset < 0 + slot.room + total rest at within
    change place ≠ ring.circle.after ring.pucHead offset
    rw [onto offset (by omega)]
    exact outside _ (by rw [total_cons]; omega)

/-- The loop ends, whatever has been returned. -/
theorem passes (lending : Lending ring memory lent) {fuel : Nat} (enough : 2 * lent.length < fuel) :
    Passes ring memory lent (passFreed fuel ring memory) := by
  induction lent generalizing ring memory fuel with
  | nil =>
    obtain ⟨fuel, rfl⟩ := Nat.exists_eq_add_one_of_ne_zero (Nat.ne_of_gt (Nat.lt_of_le_of_lt (Nat.zero_le _) enough))
    have here := Storage.after_zero lending.free.has
    have met : ring.pucFree = ring.pucRead := by
      rw [lending.read, total_nil, here]
    refine ⟨0, memory, ?_, rfl, trivial, ?_, rfl, fun _ _ => rfl⟩
    · rw [passFreed_stop fuel (.inl met), here]
    · rw [here]
      exact lending.free
  | cons slot rest ih =>
    rw [List.length_cons] at enough
    obtain ⟨fuel, rfl⟩ := Nat.exists_eq_add_one_of_ne_zero (Nat.ne_of_gt (Nat.lt_of_le_of_lt (Nat.zero_le _) enough))
    by_cases straight : slot.skip = 0
    · exact lending.pass_straight straight fuel fun _ others => ih others (by omega)
    · obtain ⟨fuel, rfl⟩ : ∃ less, fuel = less + 1 := ⟨fuel - 1, by omega⟩
      apply lending.pass_dummy straight
      intro after later others
      exact others.pass_straight rfl fuel fun _ behind => ih behind (by omega)

end Lending
theorem reclaim_first : ∀ slot ∈ (reclaim lent).head?, slot.returned = false := by
  induction lent with
  | nil => nofun
  | cons slot rest ih =>
    intro first found
    unfold reclaim at found
    split at found
    · exact ih first found
    · rename_i still
      cases found
      exact Bool.eq_false_iff.mpr still

theorem reclaim_all (all : ∀ slot ∈ lent, slot.returned = true) (circle : Storage) (place : Nat) :
    reclaim lent = [] ∧ loans circle place lent = [] := by
  induction lent generalizing place with
  | nil => exact ⟨rfl, rfl⟩
  | cons slot rest ih =>
    have returned := all slot List.mem_cons_self
    obtain ⟨left, lent⟩ := ih (fun other member => all other (List.mem_cons_of_mem _ member)) (circle.after place slot.span)
    rw [reclaim, loans, returned, left, lent]
    exact ⟨rfl, rfl⟩

def giveBack (slot : Slot) : Slot := { slot with returned := true }

section
variable {front behind : List Slot}

theorem total_giveBack : total (front ++ giveBack slot :: behind) = total (front ++ slot :: behind) := by
  rw [total_append, total_append, total_cons, total_cons]
  rfl

namespace Holds
variable (holds : Holds ring memory (front ++ slot :: behind) waiting)
include holds

theorem lent_bounded : total front + slot.span + total behind ≤ ring.xSize := by
  have fits := holds.fits
  rw [total_append, total_cons] at fits
  omega

theorem lent_parts : Laid ring.circle memory (xMaxItemSize ring) ring.pucFree front ∧
    Spot ring.circle (ring.circle.after ring.pucFree (total front)) ∧
    Lies ring.circle memory (xMaxItemSize ring) (ring.circle.after ring.pucFree (total front)) slot ∧
    Laid ring.circle memory (xMaxItemSize ring) (ring.circle.after ring.pucFree (total front + slot.span)) behind := by
  have bounded := holds.lent_bounded
  have has := holds.free.has
  obtain ⟨first, lies, last⟩ := holds.parts.1.split has (by rw [total_cons]; change _ ≤ ring.xSize; omega)
  rw [Storage.after_add has (by change _ ≤ ring.xSize; omega)] at last
  exact ⟨first, first.spot holds.regular holds.free (by change _ ≤ ring.xSize; omega), lies, last⟩

theorem marks (offset : Nat) (inside : offset < ring.xSize)
    (apart : offset < total front + slot.skip ∨ total front + slot.skip + headerSize ≤ offset) (header : ItemHeader) :
    header.write memory (slot.start ring.circle (ring.circle.after ring.pucFree (total front)))
      (ring.circle.after ring.pucFree offset) = memory (ring.circle.after ring.pucFree offset) := by
  have bounded := holds.lent_bounded
  have room := holds.lent_parts.2.2.1.headed
  have has := holds.free.has
  unfold Slot.span at bounded
  have start : slot.start ring.circle (ring.circle.after ring.pucFree (total front)) =
      ring.circle.after ring.pucFree (total front + slot.skip) :=
    Storage.after_add has (by change _ ≤ ring.xSize; omega)
  rw [start]
  apply ItemHeader.write_outside
  exact Storage.after_apart has (by change _ ≤ ring.xSize; omega) apart inside

theorem marked_laid : Laid ring.circle
    (ItemHeader.write ⟨slot.item.length, 9⟩ memory (slot.start ring.circle (ring.circle.after ring.pucFree (total front))))
    (xMaxItemSize ring) ring.pucFree (front ++ giveBack slot :: behind) := by
  have bounded := holds.lent_bounded
  have has := holds.free.has
  obtain ⟨first, spot, lies, last⟩ := holds.lent_parts
  have room := lies.headed
  have needed := lies.needed
  have long := length_le_alignSize slot.item.length
  have span : slot.span = slot.skip + slot.room := rfl
  have max_bounded : xMaxItemSize ring < 0x100000000 := by
    have limited := holds.limited
    unfold xMaxItemSize alignSize
    omega
  have size : slot.item.length < 0x100000000 := Nat.lt_of_le_of_lt lies.short max_bounded
  have begun := lies.start_cases spot.has
  refine (first.frame has (by change _ ≤ ring.xSize; omega) ?_).append has ?_ ⟨?_, ?_⟩
  · intro offset inside
    exact holds.marks offset (by omega) (.inl (by omega)) _
  · rw [total_cons]
    change total front + (slot.span + total behind) ≤ ring.xSize
    omega
  · refine ⟨?_, ItemHeader.read_write size _ _, ?_, lies.short, lies.inside, lies.ended⟩
    · obtain none_skipped | ⟨headed, reached, dummy⟩ := lies.dummy
      · exact .inl none_skipped
      · refine .inr ⟨headed, reached, ?_⟩
        refine Eq.trans (ItemHeader.read_congr ?_) dummy
        intro i within
        have placed : ring.circle.after (ring.circle.after ring.pucFree (total front)) i =
            ring.circle.after ring.pucFree (total front) + i := Storage.after_inside (by omega)
        rw [← placed, Storage.after_add has (by change _ ≤ ring.xSize; omega)]
        exact holds.marks _ (by omega) (.inl (by omega)) _
    · refine Eq.trans (load_congr ?_) lies.bytes
      intro i _
      apply ItemHeader.write_outside
      exact .inr (Nat.le_add_right _ _)
  · change Laid ring.circle _ _ (ring.circle.after (ring.circle.after ring.pucFree (total front)) slot.span) behind
    rw [Storage.after_add has (by change _ ≤ ring.xSize; omega)]
    refine last.frame (has.after (by change _ ≤ ring.xSize; omega)) (by change _ ≤ ring.xSize; omega) ?_
    intro offset inside
    rw [Storage.after_add has (by change _ ≤ ring.xSize; omega)]
    exact holds.marks _ (by omega) (.inr (by omega)) _

theorem return_checked (still : slot.returned = false) :
    vRingbufferReturnItem ring memory
        (slot.start ring.circle (ring.circle.after ring.pucFree (total front)) + headerSize) =
      (passFreed ring.xSize ring (ItemHeader.write ⟨slot.item.length, 9⟩ memory
        (slot.start ring.circle (ring.circle.after ring.pucFree (total front))))).bind fun (ring, memory) =>
        if ring.bufferFull = true ∧ (ring.pucFree ≠ ring.pucAcquire ∨ ring.pucFree = ring.pucRead) then
          some ({ ring with bufferFull := false }, memory)
        else some (ring, memory) := by
  obtain ⟨-, spot, lies, -⟩ := holds.lent_parts
  have tail := holds.tail
  have inside := lies.inside
  have short := lies.short
  have header := lies.header
  have flags : slot.flags = 8 := by
    rw [Slot.flags, still]
    rfl
  have begun := lies.start_cases spot.has
  have head : ring.circle.head % 4 = 0 := holds.regular.head
  have whole := spot.aligned
  have low : ring.circle.head ≤ ring.circle.after ring.pucFree (total front) := spot.has.1
  have finish : ring.circle.head + ring.circle.size = ring.pucTail := tail.symm
  rw [flags] at header
  unfold Slot.edge at inside
  generalize slot.start ring.circle (ring.circle.after ring.pucFree (total front)) = place at *
  have aligned : (place + headerSize) % 4 = 0 := by
    unfold headerSize
    omega
  have above : place + headerSize ≥ ring.pucHead := by
    change place + headerSize ≥ ring.circle.head
    omega
  have below : place + headerSize ≤ ring.pucTail := by omega
  have back : place + headerSize - headerSize = place := Nat.add_sub_cancel _ _
  have real : ItemHeader.has ⟨slot.item.length, 8⟩ itemDummyDataFlag = false := ItemHeader.has_of (by decide)
  have lent : ItemHeader.has ⟨slot.item.length, 8⟩ itemFreeFlag = false := ItemHeader.has_of (by decide)
  have marked : (ItemHeader.clear ⟨slot.item.length, 8⟩ itemSplitFlag).mark itemFreeFlag = ⟨slot.item.length, 9⟩ :=
    ItemHeader.relabel_of (by decide)
  unfold vRingbufferReturnItem prvReturnItemDefault
  rw [back, header, Ringbuffer.configAssert_of aligned, Ringbuffer.configAssert_of above, Ringbuffer.configAssert_of below]
  dsimp only
  rw [Ringbuffer.configAssert_of short, Ringbuffer.configAssert_of real, Ringbuffer.configAssert_of lent, marked]
  simp only [Option.bind_eq_bind, Option.bind_some, Option.pure_def]
  congr 1
  funext passed
  obtain ⟨after, later⟩ := passed
  dsimp only
  by_cases full : after.bufferFull = true
  · by_cases apart : after.pucFree = after.pucAcquire <;> simp [full, apart]
  · simp [full]

theorem marks_inside (header : ItemHeader) (place : Nat)
    (outside : ∀ offset < total (front ++ slot :: behind), place ≠ ring.circle.after ring.pucFree offset) :
    header.write memory (slot.start ring.circle (ring.circle.after ring.pucFree (total front))) place = memory place := by
  have bounded := holds.lent_bounded
  obtain ⟨-, spot, lies, -⟩ := holds.lent_parts
  have room := lies.headed
  have span : slot.span = slot.skip + slot.room := rfl
  have used : total (front ++ slot :: behind) = total front + (slot.span + total behind) := by
    rw [total_append, total_cons]
  have along : ∀ i < headerSize, ring.circle.after ring.pucFree (total front + slot.skip + i) =
      slot.start ring.circle (ring.circle.after ring.pucFree (total front)) + i := by
    intro i inside
    have row := lies.row spot.has (by change _ ≤ ring.xSize; omega) (i := i) (by omega)
    rw [Storage.after_add holds.free.has (by change _ ≤ ring.xSize; omega)] at row
    rw [Nat.add_assoc]
    exact row
  exact ItemHeader.write_outside _ _ (Storage.outside_row along (by omega) outside)

end Holds
end

theorem settled {later : Memory} {bufferFull : Bool} {passed : Nat} (holds : Holds ring memory lent waiting)
    {remaining : List Slot} (amount : passed + total remaining = total lent)
    (laid : Laid ring.circle later (xMaxItemSize ring) (ring.circle.after ring.pucFree passed) remaining)
    (spot : Spot ring.circle (ring.circle.after ring.pucFree passed))
    (first : ∀ slot ∈ remaining.head?, slot.returned = false)
    (full : bufferFull = true ↔ total remaining + total waiting = ring.xSize)
    (kept : ∀ place, (∀ offset < total lent, place ≠ ring.circle.after ring.pucFree offset) → later place = memory place) :
    Holds { ring with pucFree := ring.circle.after ring.pucFree passed, bufferFull } later remaining waiting ∧
      ring.Within { ring with pucFree := ring.circle.after ring.pucFree passed, bufferFull } memory later := by
  have has := holds.free.has
  have fits := holds.fits
  have onto : ∀ offset, passed + offset ≤ ring.xSize →
      ring.circle.after (ring.circle.after ring.pucFree passed) offset = ring.circle.after ring.pucFree (passed + offset) :=
    fun offset inside => Storage.after_add has inside
  have others : Laid ring.circle later (xMaxItemSize ring) ring.pucRead waiting := by
    refine holds.parts.2.frame holds.spot_read.has (by change _ ≤ ring.xSize; omega) ?_
    intro offset inside
    apply kept
    intro other less
    rw [holds.read, Storage.after_add has (by change _ ≤ ring.xSize; omega)]
    exact (Storage.after_ne has (by omega) (by change _ < ring.xSize; omega)).symm
  refine ⟨⟨holds.tail, holds.regular, holds.limited, spot, ?_, ?_, holds.write, holds.counted, ?_, full, ?_, holds.unread,
    first⟩, rfl, rfl, ?_⟩
  · change ring.pucRead = ring.circle.after (ring.circle.after ring.pucFree passed) (total remaining)
    rw [onto _ (by omega), amount]
    exact holds.read
  · change ring.pucAcquire = ring.circle.after (ring.circle.after ring.pucFree passed) (total remaining + total waiting)
    rw [onto _ (by omega), ← Nat.add_assoc, amount]
    exact holds.acquire
  · change total remaining + total waiting ≤ ring.xSize
    omega
  · refine laid.append spot.has (by change _ ≤ ring.xSize; omega) ?_
    rw [onto _ (by omega), amount, ← holds.read]
    exact others
  · intro place outside
    apply kept
    intro offset inside same
    exact outside (same ▸ has.after (by change _ ≤ ring.xSize; omega))

/-- An item comes back. Its storage is free again when that of all items in front of it is. -/
def ComesBack (ring : Ringbuffer) (memory : Memory) (front : List Slot) (slot : Slot) (behind waiting : List Slot) : Prop :=
  ∃ after later, vRingbufferReturnItem ring memory
      (slot.start ring.circle (ring.circle.after ring.pucFree (total front)) + headerSize) = some (after, later) ∧
    Holds after later (reclaim (front ++ giveBack slot :: behind)) waiting ∧ ring.Within after memory later ∧
    loans after.circle after.pucFree (reclaim (front ++ giveBack slot :: behind)) =
      loans ring.circle ring.pucFree (front ++ giveBack slot :: behind)

namespace Holds
variable {front behind : List Slot} (holds : Holds ring memory (front ++ slot :: behind) waiting)
include holds

theorem give_back_last (still : slot.returned = false) (whole : total (front ++ slot :: behind) = ring.xSize)
    (others : ∀ other ∈ front ++ behind, other.returned = true) : ComesBack ring memory front slot behind waiting := by
  have has := holds.free.has
  have fits := holds.fits
  have least : 12 ≤ ring.xSize := holds.regular.least
  have written := holds.marks_inside ⟨slot.item.length, 9⟩
  unfold ComesBack
  rw [holds.return_checked still]
  generalize ItemHeader.write ⟨slot.item.length, 9⟩ memory
    (slot.start ring.circle (ring.circle.after ring.pucFree (total front))) = middle at written ⊢
  have around : ring.circle.after ring.pucFree (total (front ++ slot :: behind)) = ring.pucFree :=
    (Storage.after_eq_start has (Nat.le_of_eq whole)).mpr (.inr whole)
  have returned : ∀ other ∈ front ++ giveBack slot :: behind, other.returned = true := by
    intro other member
    obtain first | rfl | last := (List.mem_append.mp member).imp_right List.mem_cons.mp
    · exact others other (List.mem_append_left _ first)
    · rfl
    · exact others other (List.mem_append_right _ last)
  obtain ⟨nothing, -⟩ := reclaim_all returned ring.circle ring.pucFree
  have marked_full : ring.bufferFull = true := holds.full.mpr (by omega)
  -- the loop does not run: `pucFree` is where `pucRead` is
  have stopped : ring.pucFree = ring.pucRead := by rw [holds.read, around]
  have stop : passFreed (ring.xSize - 1 + 1) ring middle = some (ring, middle) := passFreed_stop _ (.inl stopped)
  rw [Nat.sub_add_cancel (by omega)] at stop
  have first : ∀ other ∈ ([] : List Slot).head?, other.returned = false := by
    intro other member
    cases member
  have some_free : false = true ↔ total [] + total waiting = ring.xSize := by
    rw [total_nil]
    exact iff_of_false Bool.false_ne_true (by omega)
  have spot : Spot ring.circle (ring.circle.after ring.pucFree (total (front ++ slot :: behind))) := by
    rw [around]
    exact holds.free
  have emptied : Holds { ring with
        pucFree := ring.circle.after ring.pucFree (total (front ++ slot :: behind)), bufferFull := false }
      middle [] waiting ∧ ring.Within { ring with
        pucFree := ring.circle.after ring.pucFree (total (front ++ slot :: behind)), bufferFull := false }
      memory middle := settled holds (Nat.add_zero _) trivial spot first some_free written
  rw [around] at emptied
  obtain ⟨held, within⟩ := emptied
  refine ⟨{ ring with bufferFull := false }, middle, ?_, nothing ▸ held, within, ?_⟩
  · rw [stop]
    exact if_pos ⟨marked_full, .inr stopped⟩
  · rw [nothing, (reclaim_all returned ring.circle ring.pucFree).2]
    rfl

theorem give_back_part (still : slot.returned = false) (part : total (front ++ slot :: behind) < ring.xSize) :
    ComesBack ring memory front slot behind waiting := by
  have has := holds.free.has
  have fits := holds.fits
  have met := holds.acquire_eq_free
  have marked := holds.marked_laid
  have room := holds.lent_parts.2.2.1.headed
  have same : total (front ++ giveBack slot :: behind) = total (front ++ slot :: behind) := total_giveBack
  have positive : 0 < total (front ++ slot :: behind) := by
    rw [total_append, total_cons, Slot.span]
    unfold headerSize at room
    omega
  have written := holds.marks_inside ⟨slot.item.length, 9⟩
  unfold ComesBack
  rw [holds.return_checked still]
  generalize ItemHeader.write ⟨slot.item.length, 9⟩ memory
    (slot.start ring.circle (ring.circle.after ring.pucFree (total front))) = middle at marked written ⊢
  have lending : Lending ring middle (front ++ giveBack slot :: behind) :=
    ⟨holds.tail, holds.regular, holds.free, marked, same ▸ holds.read, same ▸ part⟩
  have short := marked.length_le
  unfold headerSize at short
  have run : Passes ring middle (front ++ giveBack slot :: behind) (passFreed ring.xSize ring middle) :=
    lending.passes (by omega)
  obtain ⟨passed, later, result, amount, laid, spot, lent, unchanged⟩ := run
  rw [same] at amount unchanged
  have kept : ∀ place, (∀ offset < total (front ++ slot :: behind), place ≠ ring.circle.after ring.pucFree offset) →
      later place = memory place := fun place outside => (unchanged place outside).trans (written place outside)
  have distinct : ring.pucFree ≠ ring.pucRead := by
    rw [holds.read]
    intro met
    have ends := (Storage.after_eq_start has (Nat.le_of_lt part)).mp met.symm
    change _ ∨ _ = ring.xSize at ends
    omega
  rw [result]
  by_cases moved : passed = 0
  · have place : ring.circle.after ring.pucFree passed = ring.pucFree := by
      rw [moved]
      exact Storage.after_zero has
    have stays : ¬ (ring.bufferFull = true ∧
        (ring.circle.after ring.pucFree passed ≠ ring.pucAcquire ∨ ring.circle.after ring.pucFree passed = ring.pucRead)) := by
      rintro ⟨marked_full, apart | stopped⟩
      · exact apart (place.trans (met.mpr (.inr (holds.full.mp marked_full))).symm)
      · exact distinct (place.symm.trans stopped)
    have unmoved : total (reclaim (front ++ giveBack slot :: behind)) = total (front ++ slot :: behind) := by omega
    obtain ⟨held, within⟩ := settled holds amount laid spot reclaim_first (unmoved ▸ holds.full) kept
    exact ⟨_, later, if_neg stays, held, within, lent⟩
  · have less : total (reclaim (front ++ giveBack slot :: behind)) + total waiting ≠ ring.xSize := by omega
    by_cases marked_full : ring.bufferFull = true
    · have all := holds.full.mp marked_full
      have away : ring.circle.after ring.pucFree passed ≠ ring.pucAcquire := by
        rw [met.mpr (.inr all)]
        intro back
        have ends := (Storage.after_eq_start has (by change _ ≤ ring.xSize; omega)).mp back
        change _ ∨ _ = ring.xSize at ends
        omega
      obtain ⟨held, within⟩ := settled holds amount laid spot reclaim_first (iff_of_false Bool.false_ne_true less) kept
      exact ⟨_, later, if_pos ⟨marked_full, .inl away⟩, held, within, lent⟩
    · obtain ⟨held, within⟩ := settled holds amount laid spot reclaim_first (iff_of_false marked_full less) kept
      exact ⟨_, later, if_neg (fun full => marked_full full.1), held, within, lent⟩

theorem give_back (still : slot.returned = false)
    (careful : total (front ++ slot :: behind) = ring.xSize → ∀ other ∈ front ++ behind, other.returned = true) :
    ComesBack ring memory front slot behind waiting := by
  by_cases whole : total (front ++ slot :: behind) = ring.xSize
  · exact holds.give_back_last still whole (careful whole)
  · exact holds.give_back_part still (Nat.lt_of_le_of_ne (Nat.le_trans (Nat.le_add_right _ _) holds.fits) whole)

end Holds
end LaserDriver.Rtos.Nosplit
