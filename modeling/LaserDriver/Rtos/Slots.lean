import LaserDriver.Rtos.Nosplit

/-! How the items of a no-split buffer lie round its storage, one behind the other. -/

namespace LaserDriver.Rtos
open Effects

/-- An item, the dummy data in front of it, and what it takes up with its header. -/
structure Slot where
  skip : Nat
  room : Nat
  item : List UInt8
  returned : Bool
  deriving Repr, DecidableEq

/-- What a storage is made for: whole words, and a header and more. -/
structure Regular (circle : Storage) : Prop where
  head : circle.head % 4 = 0
  size : circle.size % 4 = 0
  least : 12 ≤ circle.size

structure Spot (circle : Storage) (place : Nat) : Prop where
  has : circle.Has place
  aligned : place % 4 = 0
  headed : place + headerSize ≤ circle.head + circle.size

namespace Slot

def span (slot : Slot) : Nat := slot.skip + slot.room

def start (slot : Slot) (circle : Storage) (place : Nat) : Nat := circle.after place slot.skip

/-- Where the item and what it is rounded up by end. -/
def edge (slot : Slot) (circle : Storage) (place : Nat) : Nat :=
  slot.start circle place + (headerSize + alignSize slot.item.length)

def flags (slot : Slot) : UInt32 := if slot.returned then 9 else 8

end Slot

/-- How a slot lies from a place on. What remains behind the item goes with it where
no header fits there. -/
structure Lies (circle : Storage) (memory : Memory) (limit place : Nat) (slot : Slot) : Prop where
  dummy : slot.skip = 0 ∨ headerSize ≤ slot.skip ∧ place + slot.skip = circle.head + circle.size ∧
    ItemHeader.read memory place = ⟨0, 10⟩
  header : ItemHeader.read memory (slot.start circle place) = ⟨slot.item.length, slot.flags⟩
  bytes : load memory (slot.start circle place + headerSize) slot.item.length = slot.item
  short : slot.item.length ≤ limit
  inside : slot.edge circle place ≤ circle.head + circle.size
  ended : (circle.head + circle.size < slot.edge circle place + headerSize ∧
      slot.start circle place + slot.room = circle.head + circle.size) ∨
    (slot.edge circle place + headerSize ≤ circle.head + circle.size ∧
      slot.room = headerSize + alignSize slot.item.length)

def Laid (circle : Storage) (memory : Memory) (limit : Nat) : Nat → List Slot → Prop
  | _, [] => True
  | place, slot :: rest => Lies circle memory limit place slot ∧ Laid circle memory limit (circle.after place slot.span) rest

def total : List Slot → Nat
  | [] => 0
  | slot :: rest => slot.span + total rest

section
variable {circle : Storage} {memory later : Memory} {limit place : Nat} {slot : Slot} {slots others : List Slot}

theorem length_le_alignSize (xSize : Nat) : xSize ≤ alignSize xSize := by
  unfold alignSize
  omega

theorem alignSize_mod (xSize : Nat) : alignSize xSize % 4 = 0 := Nat.mul_mod_left _ _

@[simp] theorem total_nil : total [] = 0 := rfl

@[simp] theorem total_cons : total (slot :: slots) = slot.span + total slots := rfl

@[simp] theorem total_append : total (slots ++ others) = total slots + total others := by
  induction slots with
  | nil => rw [List.nil_append, total_nil, Nat.zero_add]
  | cons slot rest ih => rw [List.cons_append, total_cons, total_cons, ih, Nat.add_assoc]

namespace Lies

theorem start_cases (lies : Lies circle memory limit place slot) (has : circle.Has place) :
    (slot.skip = 0 ∧ slot.start circle place = place) ∨
    (headerSize ≤ slot.skip ∧ place + slot.skip = circle.head + circle.size ∧ slot.start circle place = circle.head) := by
  obtain none_skipped | ⟨skipped, reached, -⟩ := lies.dummy
  · refine .inl ⟨none_skipped, ?_⟩
    rw [Slot.start, none_skipped]
    exact Storage.after_zero has
  · exact .inr ⟨skipped, reached, Storage.after_end reached⟩

theorem needed (lies : Lies circle memory limit place slot) : headerSize + alignSize slot.item.length ≤ slot.room := by
  have inside := lies.inside
  have ended := lies.ended
  unfold Slot.edge at inside ended
  omega

theorem straight (lies : Lies circle memory limit place slot) :
    slot.start circle place + slot.room ≤ circle.head + circle.size := by
  have ended := lies.ended
  unfold Slot.edge headerSize at ended
  omega

theorem headed (lies : Lies circle memory limit place slot) : headerSize ≤ slot.room :=
  Nat.le_trans (Nat.le_add_right _ _) lies.needed

theorem row (lies : Lies circle memory limit place slot) (has : circle.Has place) (bounded : slot.span ≤ circle.size)
    {i : Nat} (inside : i < slot.room) : circle.after place (slot.skip + i) = slot.start circle place + i := by
  have straight := lies.straight
  unfold Slot.span at bounded
  rw [← Storage.after_add has (Nat.le_trans (Nat.add_le_add_left (Nat.le_of_lt inside) _) bounded)]
  exact Storage.after_inside (Nat.lt_of_lt_of_le (Nat.add_lt_add_left inside _) straight)

theorem frame (lies : Lies circle memory limit place slot) (has : circle.Has place) (bounded : slot.span ≤ circle.size)
    (same : ∀ offset < slot.span, later (circle.after place offset) = memory (circle.after place offset)) :
    Lies circle later limit place slot := by
  have row : ∀ i < slot.room, later (slot.start circle place + i) = memory (slot.start circle place + i) := by
    intro i inside
    rw [← lies.row has bounded inside]
    exact same _ (Nat.add_lt_add_left inside _)
  refine ⟨?_, ?_, ?_, lies.short, lies.inside, lies.ended⟩
  · obtain none_skipped | ⟨skipped, reached, marked⟩ := lies.dummy
    · exact .inl none_skipped
    · refine .inr ⟨skipped, reached, ?_⟩
      rw [← marked]
      apply ItemHeader.read_congr
      intro i inside
      have placed : circle.after place i = place + i := Storage.after_inside (by omega)
      rw [← placed]
      apply same
      unfold Slot.span
      omega
  · rw [← lies.header]
    apply ItemHeader.read_congr
    intro i inside
    exact row i (Nat.lt_of_lt_of_le inside lies.headed)
  · have long := length_le_alignSize slot.item.length
    have needed := lies.needed
    refine Eq.trans (load_congr ?_) lies.bytes
    intro i inside
    rw [Nat.add_assoc]
    exact row (headerSize + i) (by omega)

theorem spot (lies : Lies circle memory limit place slot) (regular : Regular circle) (spot : Spot circle place)
    (bounded : slot.span ≤ circle.size) : Spot circle (circle.after place slot.span) := by
  have aligned := alignSize_mod slot.item.length
  obtain ⟨head, size, least⟩ := regular
  obtain ⟨⟨above, below⟩, whole, -⟩ := spot
  have begun := lies.start_cases ⟨above, below⟩
  have ended := lies.ended
  have next : circle.after (circle.after place slot.skip) slot.room = circle.after place (slot.skip + slot.room) :=
    Storage.after_add ⟨above, below⟩ bounded
  unfold Slot.edge at ended
  unfold Slot.span headerSize at *
  rw [← next]
  change Spot circle (circle.after (slot.start circle place) slot.room)
  obtain ⟨behind, filled⟩ | ⟨behind, exact_room⟩ := ended
  · rw [Storage.after_end filled]
    exact ⟨⟨Nat.le_refl _, by omega⟩, head, by unfold headerSize; omega⟩
  · have placed : circle.after (slot.start circle place) slot.room = slot.start circle place + slot.room :=
      Storage.after_inside (by omega)
    rw [placed, exact_room]
    refine ⟨⟨?_, ?_⟩, ?_, ?_⟩
    all_goals
      unfold headerSize at *
      omega

end Lies

theorem Laid.append (laid : Laid circle memory limit place slots) (has : circle.Has place)
    (bounded : total slots + total others ≤ circle.size)
    (more : Laid circle memory limit (circle.after place (total slots)) others) :
    Laid circle memory limit place (slots ++ others) := by
  induction slots generalizing place with
  | nil =>
    rw [total_nil, Storage.after_zero has] at more
    exact more
  | cons slot rest ih =>
    obtain ⟨lies, laid⟩ := laid
    rw [total_cons] at bounded more
    rw [← Storage.after_add has (by omega)] at more
    exact ⟨lies, ih laid (has.after (by omega)) (by omega) more⟩

theorem Laid.split (laid : Laid circle memory limit place (slots ++ others)) (has : circle.Has place)
    (bounded : total slots + total others ≤ circle.size) :
    Laid circle memory limit place slots ∧ Laid circle memory limit (circle.after place (total slots)) others := by
  induction slots generalizing place with
  | nil =>
    rw [total_nil, Storage.after_zero has]
    exact ⟨trivial, laid⟩
  | cons slot rest ih =>
    obtain ⟨lies, laid⟩ := laid
    rw [total_cons] at bounded
    obtain ⟨front, back⟩ := ih laid (has.after (by omega)) (by omega)
    rw [Storage.after_add has (by omega)] at back
    rw [total_cons]
    exact ⟨⟨lies, front⟩, back⟩

theorem Laid.frame (laid : Laid circle memory limit place slots) (has : circle.Has place)
    (bounded : total slots ≤ circle.size)
    (same : ∀ offset < total slots, later (circle.after place offset) = memory (circle.after place offset)) :
    Laid circle later limit place slots := by
  induction slots generalizing place with
  | nil => trivial
  | cons slot rest ih =>
    obtain ⟨lies, laid⟩ := laid
    rw [total_cons] at bounded same
    refine ⟨lies.frame has (by omega) fun offset inside => same offset (by omega), ?_⟩
    apply ih laid (has.after (by omega)) (by omega)
    intro offset inside
    rw [Storage.after_add has (by omega)]
    exact same _ (by omega)

theorem Laid.spot (laid : Laid circle memory limit place slots) (regular : Regular circle) (spot : Spot circle place)
    (bounded : total slots ≤ circle.size) : Spot circle (circle.after place (total slots)) := by
  induction slots generalizing place with
  | nil =>
    rw [total_nil, Storage.after_zero spot.has]
    exact spot
  | cons slot rest ih =>
    obtain ⟨lies, laid⟩ := laid
    rw [total_cons] at bounded ⊢
    have next := ih laid (lies.spot regular spot (by omega)) (by omega)
    rw [Storage.after_add spot.has (by omega)] at next
    exact next

theorem Laid.length_le (laid : Laid circle memory limit place slots) : headerSize * slots.length ≤ total slots := by
  induction slots generalizing place with
  | nil => exact Nat.le_refl 0
  | cons slot rest ih =>
    have first := laid.1.headed
    have others := ih laid.2
    rw [total_cons, List.length_cons, Nat.mul_succ, Slot.span]
    omega

end
end LaserDriver.Rtos
