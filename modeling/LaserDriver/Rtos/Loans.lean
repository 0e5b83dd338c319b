import LaserDriver.Rtos.Slots
import Mathlib.Tactic.ByContra

/-! What the operations of a no-split buffer do to the items it holds. -/

namespace LaserDriver.Rtos.Nosplit
open Effects

/-- The slots from `pucFree` on are those of the items that are lent and, from `pucRead`
on, those of the items that wait. A lent item may have been returned while the one
in front of it is still lent. -/
structure Holds (ring : Ringbuffer) (memory : Memory) (lent waiting : List Slot) : Prop where
  tail : ring.pucTail = ring.pucHead + ring.xSize
  regular : Regular ring.circle
  limited : ring.xSize < 0x100000000
  free : Spot ring.circle ring.pucFree
  read : ring.pucRead = ring.circle.after ring.pucFree (total lent)
  acquire : ring.pucAcquire = ring.circle.after ring.pucFree (total lent + total waiting)
  write : ring.pucWrite = ring.pucAcquire
  counted : ring.xItemsWaiting = waiting.length
  fits : total lent + total waiting ≤ ring.xSize
  full : ring.bufferFull = true ↔ total lent + total waiting = ring.xSize
  laid : Laid ring.circle memory (xMaxItemSize ring) ring.pucFree (lent ++ waiting)
  unread : ∀ slot ∈ waiting, slot.returned = false
  first : ∀ slot ∈ lent.head?, slot.returned = false

def Fits (ring : Ringbuffer) (xItemSize : Nat) : Prop :=
  ring.bufferFull = false ∧ (ring.pucAcquire = ring.pucFree ∨
    (ring.pucAcquire < ring.pucFree ∧ ring.pucAcquire + (alignSize xItemSize + headerSize) ≤ ring.pucFree) ∨
    (ring.pucFree < ring.pucAcquire ∧ (ring.pucAcquire + (alignSize xItemSize + headerSize) ≤ ring.pucTail ∨
      ring.pucHead + (alignSize xItemSize + headerSize) ≤ ring.pucFree)))

instance (ring : Ringbuffer) (xItemSize : Nat) : Decidable (Fits ring xItemSize) := by
  unfold Fits
  infer_instance

def putItem (memory : Memory) (place : Nat) (item : List UInt8) : Memory :=
  ItemHeader.write ⟨item.length, 8⟩
    (store (ItemHeader.write ⟨item.length, 0⟩ memory place) (place + headerSize) item) place

def slotFor (ring : Ringbuffer) (item : List UInt8) : Slot :=
  let needed := headerSize + alignSize item.length
  if ring.pucTail < ring.pucAcquire + needed then ⟨ring.pucTail - ring.pucAcquire, needed, item, false⟩
  else if ring.pucTail - (ring.pucAcquire + needed) < headerSize then ⟨0, ring.pucTail - ring.pucAcquire, item, false⟩
  else ⟨0, needed, item, false⟩

variable {ring : Ringbuffer} {memory : Memory} {lent waiting : List Slot}

section
variable {place : Nat} {item : List UInt8}

theorem read_acquired (memory : Memory) (fits : item.length < 0x100000000) :
    ItemHeader.read (store (ItemHeader.write ⟨item.length, 0⟩ memory place) (place + headerSize) item) place =
      ⟨item.length, 0⟩ := by
  have written : ItemHeader.read (ItemHeader.write ⟨item.length, 0⟩ memory place) place = ⟨item.length, 0⟩ :=
    ItemHeader.read_write fits memory place
  refine Eq.trans (ItemHeader.read_congr ?_) written
  intro i inside
  apply store_outside
  omega

theorem read_putItem (memory : Memory) (fits : item.length < 0x100000000) :
    ItemHeader.read (putItem memory place item) place = ⟨item.length, 8⟩ :=
  ItemHeader.read_write fits _ _

theorem load_putItem (memory : Memory) : load (putItem memory place item) (place + headerSize) item.length = item := by
  have stored := load_store (ItemHeader.write ⟨item.length, 0⟩ memory place) (place + headerSize) item
  refine Eq.trans (load_congr ?_) stored
  intro i inside
  apply ItemHeader.write_outside
  omega

theorem putItem_outside {other : Nat} (outside : other < place ∨ place + headerSize + item.length ≤ other) :
    putItem memory place item other = memory other := by
  rw [putItem, ItemHeader.write_outside _ _ (by omega), store_outside _ (by omega), ItemHeader.write_outside _ _ (by omega)]

end

theorem read_item_before (memory : Memory) {item : List UInt8} (fits : item.length < 0x100000000) {place other : Nat}
    (apart : place + headerSize + item.length ≤ other) (header : ItemHeader) :
    ItemHeader.read (header.write (putItem memory place item) other) place = ⟨item.length, 8⟩ ∧
      load (header.write (putItem memory place item) other) (place + headerSize) item.length = item := by
  constructor
  · refine Eq.trans (ItemHeader.read_congr ?_) (read_putItem memory fits)
    intro i inside
    apply ItemHeader.write_outside
    omega
  · refine Eq.trans (load_congr ?_) (load_putItem memory)
    intro i inside
    apply ItemHeader.write_outside
    omega

theorem acquire_straight (xItemSize : Nat) (aligned : ring.pucAcquire % 4 = 0) (above : ring.pucHead ≤ ring.pucAcquire)
    (straight : ring.pucAcquire + (headerSize + alignSize xItemSize) ≤ ring.pucTail) :
    prvAcquireItemNoSplit ring memory xItemSize = some (ring.pucAcquire + headerSize,
      { ring with pucAcquire := around ring (ring.pucAcquire + (headerSize + alignSize xItemSize)) }.markFull,
      ItemHeader.write ⟨xItemSize, 0⟩ memory ring.pucAcquire) := by
  have below : ring.pucAcquire < ring.pucTail := by
    unfold headerSize at straight
    omega
  have enough : ring.pucTail - ring.pucAcquire ≥ headerSize := by omega
  have fits : ¬ ring.pucTail - ring.pucAcquire < alignSize xItemSize + headerSize := by omega
  unfold prvAcquireItemNoSplit
  dsimp only
  rw [Ringbuffer.configAssert_of aligned, Ringbuffer.configAssert_of ⟨above, below⟩, Ringbuffer.configAssert_of enough]
  simp only [Option.bind_eq_bind, Option.bind_some, Option.pure_def, if_neg fits]

/-- Dummy data up to the end and the item at the start. -/
theorem acquire_around (xItemSize : Nat) (aligned : ring.pucAcquire % 4 = 0) (above : ring.pucHead ≤ ring.pucAcquire)
    (headed : ring.pucAcquire + headerSize ≤ ring.pucTail)
    (wraps : ring.pucTail < ring.pucAcquire + (headerSize + alignSize xItemSize)) :
    prvAcquireItemNoSplit ring memory xItemSize = some (ring.pucHead + headerSize,
      { ring with pucAcquire := around ring (ring.pucHead + (headerSize + alignSize xItemSize)) }.markFull,
      ItemHeader.write ⟨xItemSize, 0⟩ (ItemHeader.write ⟨0, itemDummyDataFlag⟩ memory ring.pucAcquire) ring.pucHead) := by
  have below : ring.pucAcquire < ring.pucTail := by
    unfold headerSize at headed
    omega
  have enough : ring.pucTail - ring.pucAcquire ≥ headerSize := by omega
  have long : ring.pucTail - ring.pucAcquire < alignSize xItemSize + headerSize := by omega
  unfold prvAcquireItemNoSplit
  dsimp only
  rw [Ringbuffer.configAssert_of aligned, Ringbuffer.configAssert_of ⟨above, below⟩, Ringbuffer.configAssert_of enough]
  simp only [Option.bind_eq_bind, Option.bind_some, Option.pure_def, if_pos long]
  rfl

theorem passWritten_item {fuel : Nat} (size : Nat) (positive : 0 < fuel) (header : ItemHeader.read memory ring.pucWrite = ⟨size, 8⟩)
    (inside : ring.pucWrite + (alignSize size + headerSize) ≤ ring.pucHead + ring.xSize)
    (caught : around ring (ring.pucWrite + (alignSize size + headerSize)) = ring.pucAcquire) :
    passWritten fuel ring memory = some ({ ring with pucWrite := ring.pucAcquire }, memory) := by
  obtain ⟨fuel, rfl⟩ := Nat.exists_eq_add_one_of_ne_zero (Nat.ne_of_gt positive)
  have written : ItemHeader.has ⟨size, 8⟩ itemWrittenFlag = true := ItemHeader.has_of (by decide)
  have real : ItemHeader.has ⟨size, 8⟩ itemDummyDataFlag = false := ItemHeader.has_of (by decide)
  unfold passWritten
  simp only [header, written, real, true_or, if_true, Bool.false_eq_true, if_false]
  rw [Ringbuffer.configAssert_of inside]
  exact (if_pos caught).trans (congrArg (fun place => some ({ ring with pucWrite := place }, memory)) caught)

theorem passWritten_dummy {fuel : Nat} (positive : 0 < fuel) (header : ItemHeader.read memory ring.pucWrite = ⟨0, itemDummyDataFlag⟩)
    (headed : ring.pucHead + headerSize ≤ ring.pucTail) (onward : ring.pucHead ≠ ring.pucAcquire) :
    passWritten fuel ring memory = passWritten (fuel - 1) { ring with pucWrite := ring.pucHead }
      (ItemHeader.write ⟨0, 10⟩ memory ring.pucWrite) := by
  obtain ⟨fuel, rfl⟩ := Nat.exists_eq_add_one_of_ne_zero (Nat.ne_of_gt positive)
  have dummy : ItemHeader.has ⟨0, itemDummyDataFlag⟩ itemDummyDataFlag = true := ItemHeader.has_of (by decide)
  have marked : ItemHeader.mark ⟨0, itemDummyDataFlag⟩ itemWrittenFlag = ⟨0, 10⟩ :=
    ItemHeader.mark_of (by decide)
  have there : around { ring with pucWrite := ring.pucHead } ring.pucHead = ring.pucHead := if_neg (by simp only; omega)
  rw [passWritten, Nat.add_sub_cancel]
  simp only [header, dummy, marked, or_true, if_true, Option.bind_eq_bind, Option.bind_some, there, if_neg onward]

/-- A written item is there for the reader once `pucWrite` has moved. -/
theorem sendItemDone {place size : Nat} (header : ItemHeader.read memory place = ⟨size, 0⟩)
    (aligned : place % 4 = 0) (above : ring.pucHead ≤ place) (below : place + headerSize ≤ ring.pucTail)
    (short : size ≤ xMaxItemSize ring) :
    prvSendItemDoneNoSplit ring memory (place + headerSize) =
      passWritten ring.xSize { ring with xItemsWaiting := ring.xItemsWaiting + 1 }
        (ItemHeader.write ⟨size, 8⟩ memory place) := by
  have even : (place + headerSize) % 4 = 0 := by
    unfold headerSize
    omega
  have later : place + headerSize ≥ ring.pucHead := Nat.le_trans above (Nat.le_add_right _ _)
  have back : place + headerSize - headerSize = place := Nat.add_sub_cancel _ _
  have real : ItemHeader.has ⟨size, 0⟩ itemDummyDataFlag = false := ItemHeader.has_of (by decide)
  have fresh : ItemHeader.has ⟨size, 0⟩ itemWrittenFlag = false := ItemHeader.has_of (by decide)
  have marked : (ItemHeader.clear ⟨size, 0⟩ itemSplitFlag).mark itemWrittenFlag = ⟨size, 8⟩ :=
    ItemHeader.relabel_of (by decide)
  unfold prvSendItemDoneNoSplit
  rw [back, header, Ringbuffer.configAssert_of even, Ringbuffer.configAssert_of later, Ringbuffer.configAssert_of below]
  dsimp only
  rw [Ringbuffer.configAssert_of short, Ringbuffer.configAssert_of real, Ringbuffer.configAssert_of fresh, marked]
  rfl

theorem slotFor_item (ring : Ringbuffer) (item : List UInt8) :
    (slotFor ring item).item = item ∧ (slotFor ring item).returned = false := by
  unfold slotFor
  dsimp only
  repeat' split
  all_goals exact ⟨rfl, rfl⟩

theorem markFull_eq (ring : Ringbuffer) :
    ring.markFull = { ring with bufferFull := ring.bufferFull || decide (ring.pucAcquire = ring.pucFree) } := by
  unfold Ringbuffer.markFull
  split
  · rename_i met
    rw [decide_eq_true met, Bool.or_true]
  · rename_i apart
    rw [decide_eq_false apart, Bool.or_false]

def extend (ring : Ringbuffer) (next : Nat) : Ringbuffer :=
  { ring with
    xItemsWaiting := ring.xItemsWaiting + 1
    pucAcquire := next
    pucWrite := next
    bufferFull := ring.bufferFull || decide (next = ring.pucFree) }

section
variable {item : List UInt8} (tail : ring.pucTail = ring.pucHead + ring.xSize) (acquire : Spot ring.circle ring.pucAcquire)
  (write : ring.pucWrite = ring.pucAcquire) (limited : ring.xSize < 0x100000000)
  (short : item.length ≤ xMaxItemSize ring) (bounded : item.length ≤ ring.xSize)
include tail acquire write limited short bounded

theorem copy_straight (straight : ring.pucAcquire + (headerSize + alignSize item.length) ≤ ring.pucTail) :
    prvCopyItemNoSplit ring memory item = some
      (extend ring (around ring (ring.pucAcquire + (headerSize + alignSize item.length))), putItem memory ring.pucAcquire item) := by
  obtain ⟨⟨above, below⟩, aligned, headed⟩ := acquire
  have size : item.length < 0x100000000 := Nat.lt_of_le_of_lt bounded limited
  have positive : 0 < ring.xSize := by
    simp only [Ringbuffer.circle] at above below
    omega
  unfold prvCopyItemNoSplit
  rw [acquire_straight item.length aligned above straight, markFull_eq]
  simp only [Option.bind_eq_bind, Option.bind_some]
  refine Eq.trans (sendItemDone (read_acquired _ size) aligned above ?_ short) (Eq.trans (passWritten_item item.length positive ?_ ?_ ?_) rfl)
  · exact tail ▸ headed
  · change ItemHeader.read _ ring.pucWrite = _
    rw [write]
    exact read_putItem memory size
  · change ring.pucWrite + _ ≤ ring.pucHead + ring.xSize
    rw [write, ← tail]
    omega
  · change around ring _ = around ring _
    rw [← write, Nat.add_comm headerSize]

theorem copy_around (regular : Regular ring.circle) (wraps : ring.pucTail < ring.pucAcquire + (headerSize + alignSize item.length))
    (there : ring.pucHead + (headerSize + alignSize item.length) ≤ ring.pucAcquire) :
    prvCopyItemNoSplit ring memory item = some (extend ring (ring.pucHead + (headerSize + alignSize item.length)),
      ItemHeader.write ⟨0, 10⟩ (putItem (ItemHeader.write ⟨0, itemDummyDataFlag⟩ memory ring.pucAcquire) ring.pucHead item)
        ring.pucAcquire) := by
  obtain ⟨⟨above, below⟩, aligned, headed⟩ := acquire
  have size : item.length < 0x100000000 := Nat.lt_of_le_of_lt bounded limited
  have long := length_le_alignSize item.length
  have end_reached : ring.pucAcquire + headerSize ≤ ring.pucTail := tail ▸ headed
  have onward : around ring (ring.pucHead + (headerSize + alignSize item.length)) =
      ring.pucHead + (headerSize + alignSize item.length) := if_neg (by omega)
  have marked : ItemHeader.read (ItemHeader.write ⟨0, itemDummyDataFlag⟩ memory ring.pucAcquire) ring.pucAcquire =
      ⟨0, itemDummyDataFlag⟩ := ItemHeader.read_write (by decide) memory ring.pucAcquire
  unfold prvCopyItemNoSplit
  rw [acquire_around item.length aligned above end_reached wraps, markFull_eq, onward]
  generalize ItemHeader.write ⟨0, itemDummyDataFlag⟩ memory ring.pucAcquire = before at marked ⊢
  have dummy : ItemHeader.read (putItem before ring.pucHead item) ring.pucAcquire = ⟨0, itemDummyDataFlag⟩ := by
    refine Eq.trans (ItemHeader.read_congr ?_) marked
    intro i inside
    apply putItem_outside
    omega
  have apart : ring.pucHead + headerSize + item.length ≤ ring.pucAcquire := by omega
  have written := (read_item_before before size apart ⟨0, 10⟩).1
  have start : ring.pucHead % 4 = 0 := regular.head
  have room : 12 ≤ ring.xSize := regular.least
  simp only [Option.bind_eq_bind, Option.bind_some]
  refine Eq.trans (sendItemDone (read_acquired _ size) start (Nat.le_refl _) ?_ short)
    (Eq.trans (passWritten_dummy ?_ ?_ ?_ ?_) (Eq.trans (passWritten_item item.length ?_ ?_ ?_ ?_) ?_))
  · change ring.pucHead + headerSize ≤ ring.pucTail
    omega
  · change 0 < ring.xSize
    omega
  · change ItemHeader.read (putItem before ring.pucHead item) ring.pucWrite = _
    rw [write]
    exact dummy
  · change ring.pucHead + headerSize ≤ ring.pucTail
    omega
  · change ring.pucHead ≠ ring.pucHead + _
    unfold headerSize
    omega
  · change 0 < ring.xSize - 1
    omega
  · change ItemHeader.read (ItemHeader.write ⟨0, 10⟩ (putItem before ring.pucHead item) ring.pucWrite) ring.pucHead = _
    rw [write]
    exact written
  · change ring.pucHead + _ ≤ ring.pucHead + ring.xSize
    omega
  · change around ring _ = _
    rw [Nat.add_comm (alignSize _), onward]
  · rw [← write]
    rfl

end

theorem initial {xBufferSize storage : Nat} (aligned : storage % 4 = 0) (whole : xBufferSize % 4 = 0)
    (least : 12 ≤ xBufferSize) (limited : xBufferSize < 0x100000000) (memory : Memory) :
    Holds (prvInitializeNewRingbuffer xBufferSize storage) memory [] [] := by
  have positive : 0 < xBufferSize := Nat.lt_of_lt_of_le (by decide) least
  have has : (prvInitializeNewRingbuffer xBufferSize storage).circle.Has storage :=
    ⟨Nat.le_refl _, Nat.lt_add_of_pos_right positive⟩
  have here := Storage.after_zero has
  have headed : storage + headerSize ≤ storage + xBufferSize := by
    unfold headerSize
    omega
  refine ⟨rfl, ⟨aligned, whole, least⟩, limited, ⟨has, aligned, headed⟩, here.symm, here.symm, rfl, rfl, Nat.zero_le _,
    ?_, trivial, nofun, nofun⟩
  have part : total [] + total [] ≠ xBufferSize := by
    rw [total_nil]
    omega
  exact iff_of_false Bool.false_ne_true part

def Lands (ring : Ringbuffer) (memory : Memory) (item : List UInt8) : Prop :=
  ∃ later, prvCopyItemNoSplit ring memory item =
      some (extend ring (ring.circle.after ring.pucAcquire (slotFor ring item).span), later) ∧
    Lies ring.circle later (xMaxItemSize ring) ring.pucAcquire (slotFor ring item) ∧
    ∀ place, (∀ offset < (slotFor ring item).span, place ≠ ring.circle.after ring.pucAcquire offset) →
      later place = memory place

namespace Holds
variable (holds : Holds ring memory lent waiting)
include holds

theorem parts : Laid ring.circle memory (xMaxItemSize ring) ring.pucFree lent ∧
    Laid ring.circle memory (xMaxItemSize ring) ring.pucRead waiting := by
  rw [holds.read]
  exact holds.laid.split holds.free.has holds.fits

theorem spot_read : Spot ring.circle ring.pucRead := by
  rw [holds.read]
  exact holds.parts.1.spot holds.regular holds.free (Nat.le_trans (Nat.le_add_right _ _) holds.fits)

theorem spot_acquire : Spot ring.circle ring.pucAcquire := by
  have spot := holds.laid.spot holds.regular holds.free (by rw [total_append]; exact holds.fits)
  rw [total_append] at spot
  rw [holds.acquire]
  exact spot

/-- `pucAcquire` is back at `pucFree` when the buffer is empty and when it is full. -/
theorem acquire_eq_free : ring.pucAcquire = ring.pucFree ↔
    total lent + total waiting = 0 ∨ total lent + total waiting = ring.xSize := by
  rw [holds.acquire]
  exact Storage.after_eq_start holds.free.has holds.fits

theorem check_fits (xItemSize : Nat) :
    prvCheckItemFitsDefault ring xItemSize = some (decide (Fits ring xItemSize)) := by
  have acquire := holds.spot_acquire
  have aligned : ring.pucAcquire % 4 = 0 := acquire.aligned
  have bounds : ring.pucHead ≤ ring.pucAcquire ∧ ring.pucAcquire < ring.pucTail := holds.tail ▸ acquire.has
  have free : ring.pucHead ≤ ring.pucFree := holds.free.has.1
  have met := holds.acquire_eq_free
  unfold prvCheckItemFitsDefault
  rw [Ringbuffer.configAssert_of aligned, Ringbuffer.configAssert_of bounds]
  simp only [Option.bind_eq_bind, Option.bind_some, Option.pure_def]
  by_cases same : ring.pucAcquire = ring.pucFree
  · rw [if_pos same]
    congr 1
    cases full : ring.bufferFull <;> simp [Fits, same, full]
  · have part : ring.bufferFull = false := by
      rw [Bool.eq_false_iff]
      intro marked
      exact same (met.mpr (.inr (holds.full.mp marked)))
    rw [if_neg same]
    simp only [Fits, part, same, true_and, false_or]
    split
    · congr 2
      apply propext
      omega
    · split
      · congr 1
        apply Eq.symm
        apply decide_eq_true
        omega
      · congr 2
        apply propext
        omega

theorem fits_of_empty (nothing : lent = [] ∧ waiting = []) (xItemSize : Nat) : Fits ring xItemSize := by
  obtain ⟨rfl, rfl⟩ := nothing
  have least := holds.regular.least
  have met := holds.acquire_eq_free.mpr (.inl rfl)
  refine ⟨?_, .inl met⟩
  rw [Bool.eq_false_iff]
  intro marked
  have whole := holds.full.mp marked
  rw [total_nil] at whole
  change 12 ≤ ring.xSize at least
  omega

/-- Where there is room, the next item has its place between `pucAcquire` and `pucFree`. -/
theorem room {item : List UInt8} (short : item.length ≤ xMaxItemSize ring) (room : Fits ring item.length) :
    total lent + total waiting + (slotFor ring item).span ≤ ring.xSize := by
  obtain ⟨part, room⟩ := room
  have met := holds.acquire_eq_free
  have used := holds.fits
  have tail := holds.tail
  have open_end : total lent + total waiting ≠ ring.xSize := by
    intro whole
    rw [holds.full.mpr whole] at part
    cases part
  obtain ⟨⟨above, below⟩, aligned, headed⟩ := holds.spot_acquire
  obtain ⟨⟨low, high⟩, even, behind⟩ := holds.free
  obtain ⟨start, whole, least⟩ := holds.regular
  have placed := ring.circle.after_cases ring.pucFree (total lent + total waiting)
  rw [← holds.acquire] at placed
  unfold xMaxItemSize alignSize headerSize at short
  unfold slotFor alignSize headerSize Slot.span
  unfold alignSize headerSize at room
  unfold headerSize at headed behind
  simp only [Ringbuffer.circle] at *
  split
  · dsimp only
    omega
  · split <;> dsimp only <;> omega

/-- An item that has bytes fits exactly when it is no longer than the free size. -/
theorem fits_iff {xItemSize : Nat} (positive : 0 < xItemSize) :
    xItemSize ≤ xMaxItemSize ring ∧ Fits ring xItemSize ↔ xItemSize ≤ prvGetCurMaxSizeNoSplit ring := by
  have tail := holds.tail
  have met := holds.acquire_eq_free
  obtain ⟨⟨above, below⟩, aligned, headed⟩ := holds.spot_acquire
  obtain ⟨⟨low, high⟩, even, behind⟩ := holds.free
  obtain ⟨start, whole, least⟩ := holds.regular
  have full := holds.full
  unfold Fits prvGetCurMaxSizeNoSplit
  cases marked : ring.bufferFull with
  | true =>
    simp only [Bool.true_eq_false, false_and, and_false, if_true, false_iff]
    omega
  | false =>
    have part : total lent + total waiting ≠ ring.xSize := by
      intro all
      rw [full.mpr all] at marked
      cases marked
    simp only [true_and, Bool.false_eq_true, if_false]
    unfold xMaxItemSize alignSize headerSize at *
    simp only [Ringbuffer.circle] at *
    split <;> omega

/-- An item that does not fit in front of the end: dummy data up to there, and the item at the start. -/
theorem lands_around {item : List UInt8} (short : item.length ≤ xMaxItemSize ring) (fits : Fits ring item.length)
    (wraps : ring.pucTail < ring.pucAcquire + (headerSize + alignSize item.length)) : Lands ring memory item := by
  have room := holds.room short fits
  have acquire := holds.spot_acquire
  have tail := holds.tail
  have long := length_le_alignSize item.length
  have least := holds.regular.least
  have below : ring.pucAcquire < ring.pucTail := tail ▸ acquire.has.2
  have headed : ring.pucAcquire + headerSize ≤ ring.pucTail := tail ▸ acquire.headed
  have finish : ring.circle.head + ring.circle.size = ring.pucTail := tail.symm
  have slot : slotFor ring item = ⟨ring.pucTail - ring.pucAcquire, headerSize + alignSize item.length, item, false⟩ :=
    if_pos wraps
  unfold Lands
  rw [slot] at room ⊢
  simp only [Slot.span] at room ⊢
  have there : ring.pucHead + (headerSize + alignSize item.length) ≤ ring.pucAcquire := by omega
  have reached : ring.pucAcquire + (ring.pucTail - ring.pucAcquire) = ring.circle.head + ring.circle.size := by omega
  have start := Storage.after_end reached
  have onward : ∀ i ≤ headerSize + alignSize item.length,
      ring.circle.after ring.pucAcquire (ring.pucTail - ring.pucAcquire + i) = ring.pucHead + i := by
    intro i inside
    rw [← Storage.after_add acquire.has (by change _ ≤ ring.xSize; omega), start]
    exact Storage.after_inside (by change ring.pucHead + i < _; omega)
  have bounded : item.length ≤ ring.xSize := by omega
  have size : item.length < 0x100000000 := Nat.lt_of_le_of_lt bounded holds.limited
  have behind : ring.pucHead + headerSize + item.length ≤ ring.pucAcquire := by omega
  rw [onward _ (Nat.le_refl _)]
  refine ⟨_, copy_around tail acquire holds.write holds.limited short bounded holds.regular wraps there, ?_, ?_⟩
  · obtain ⟨header, bytes⟩ := read_item_before (ItemHeader.write ⟨0, itemDummyDataFlag⟩ memory ring.pucAcquire) size
      behind ⟨0, 10⟩
    have edge : Slot.edge ⟨ring.pucTail - ring.pucAcquire, headerSize + alignSize item.length, item, false⟩
        ring.circle ring.pucAcquire = ring.pucHead + (headerSize + alignSize item.length) :=
      congrArg (fun place => place + (headerSize + alignSize item.length)) start
    refine ⟨.inr ⟨Nat.le_sub_of_add_le' headed, reached, ItemHeader.read_write (by decide) _ _⟩, ?_, ?_, short, ?_,
      .inr ⟨?_, rfl⟩⟩
    · rw [Slot.start, start]
      exact header
    · rw [Slot.start, start]
      exact bytes
    · rw [edge, finish]
      omega
    · rw [edge, finish]
      omega
  · intro place apart
    have dummy : place < ring.pucAcquire ∨ ring.pucAcquire + headerSize ≤ place :=
      Storage.outside_straight (by omega) (by omega) apart
    have data : place < ring.pucHead ∨ ring.pucHead + (headerSize + item.length) ≤ place :=
      Storage.outside_row (fun i inside => onward i (by omega)) (by omega) apart
    rw [ItemHeader.write_outside _ _ dummy, putItem_outside (by omega), ItemHeader.write_outside _ _ dummy]

/-- An item that fits in front of the end. It takes what remains there with it where that
is less than a header. -/
theorem lands_straight {item : List UInt8} (short : item.length ≤ xMaxItemSize ring)
    (straight : ring.pucAcquire + (headerSize + alignSize item.length) ≤ ring.pucTail) : Lands ring memory item := by
  have acquire := holds.spot_acquire
  have tail := holds.tail
  have long := length_le_alignSize item.length
  have above : ring.pucHead ≤ ring.pucAcquire := acquire.has.1
  have bounded : item.length ≤ ring.xSize := by omega
  have size : item.length < 0x100000000 := Nat.lt_of_le_of_lt bounded holds.limited
  have finish : ring.circle.head + ring.circle.size = ring.pucTail := tail.symm
  have here := Storage.after_zero acquire.has
  have stays : ¬ ring.pucTail < ring.pucAcquire + (headerSize + alignSize item.length) := Nat.not_lt.mpr straight
  obtain ⟨occupied, slot, next, ended⟩ : ∃ occupied, slotFor ring item = ⟨0, occupied, item, false⟩ ∧
      around ring (ring.pucAcquire + (headerSize + alignSize item.length)) =
        ring.circle.after ring.pucAcquire occupied ∧
      ((ring.pucTail < ring.pucAcquire + (headerSize + alignSize item.length) + headerSize ∧
          ring.pucAcquire + occupied = ring.pucTail) ∨
        (ring.pucAcquire + (headerSize + alignSize item.length) + headerSize ≤ ring.pucTail ∧
          occupied = headerSize + alignSize item.length)) := by
    unfold slotFor around
    by_cases close : ring.pucTail - (ring.pucAcquire + (headerSize + alignSize item.length)) < headerSize
    · have reached : ring.pucAcquire + (ring.pucTail - ring.pucAcquire) = ring.circle.head + ring.circle.size := by omega
      simp only [if_neg stays, if_pos close]
      exact ⟨_, rfl, (Storage.after_end reached).symm, .inl ⟨by omega, by omega⟩⟩
    · have positive : 0 < headerSize := by decide
      have inside : ring.pucAcquire + (headerSize + alignSize item.length) < ring.circle.head + ring.circle.size := by
        omega
      simp only [if_neg stays, if_neg close]
      exact ⟨_, rfl, (Storage.after_inside inside).symm, .inr ⟨by omega, rfl⟩⟩
  unfold Lands
  rw [slot]
  simp only [Slot.span, Nat.zero_add]
  rw [← next]
  refine ⟨_, copy_straight tail acquire holds.write holds.limited short bounded straight, ⟨.inl rfl, ?_, ?_, short, ?_, ?_⟩, ?_⟩
  · rw [Slot.start, here]
    exact read_putItem memory size
  · rw [Slot.start, here]
    exact load_putItem memory
  · rw [Slot.edge, Slot.start, here, finish]
    exact straight
  · rw [Slot.edge, Slot.start, here, finish]
    exact ended
  · intro place apart
    have data : place < ring.pucAcquire ∨ ring.pucAcquire + (headerSize + item.length) ≤ place :=
      Storage.outside_straight (by omega) (by omega) apart
    exact putItem_outside (by omega)

theorem copy {item : List UInt8} (short : item.length ≤ xMaxItemSize ring) (fits : Fits ring item.length) :
    Lands ring memory item := by
  by_cases wraps : ring.pucTail < ring.pucAcquire + (headerSize + alignSize item.length)
  · exact holds.lands_around short fits wraps
  · exact holds.lands_straight short (Nat.le_of_not_lt wraps)

theorem keeps {later : Memory} {slot : Slot} (room : total lent + total waiting + slot.span ≤ ring.xSize)
    (unchanged : ∀ place, (∀ offset < slot.span, place ≠ ring.circle.after ring.pucAcquire offset) →
      later place = memory place) :
    Laid ring.circle later (xMaxItemSize ring) ring.pucFree (lent ++ waiting) := by
  apply holds.laid.frame holds.free.has
  · rw [total_append]
    exact holds.fits
  · intro offset inside
    apply unchanged
    intro more within
    rw [total_append] at inside
    have bounded : total lent + total waiting + more < ring.circle.size := by
      change _ < ring.xSize
      omega
    rw [holds.acquire, Storage.after_add holds.free.has (Nat.le_of_lt bounded)]
    exact Storage.after_ne holds.free.has (by omega) bounded

theorem extended {later : Memory} {slot : Slot}
    (lies : Lies ring.circle later (xMaxItemSize ring) ring.pucAcquire slot) (fresh : slot.returned = false)
    (room : total lent + total waiting + slot.span ≤ ring.xSize)
    (laid : Laid ring.circle later (xMaxItemSize ring) ring.pucFree (lent ++ waiting)) :
    Holds (extend ring (ring.circle.after ring.pucAcquire slot.span)) later lent (waiting ++ [slot]) := by
  have positive : 0 < slot.span := by
    have headed := lies.headed
    unfold Slot.span
    unfold headerSize at headed
    omega
  have used : total lent + total (waiting ++ [slot]) = total lent + total waiting + slot.span := by
    simp only [total_append, total_cons, total_nil]
    omega
  have stepped : ring.circle.after ring.pucAcquire slot.span =
      ring.circle.after ring.pucFree (total lent + total (waiting ++ [slot])) := by
    rw [used, holds.acquire, Storage.after_add holds.free.has room]
  have met : ring.circle.after ring.pucAcquire slot.span = ring.pucFree ↔
      total lent + total (waiting ++ [slot]) = ring.xSize := by
    rw [stepped, Storage.after_eq_start holds.free.has (used ▸ room), or_iff_right (by omega)]
    rfl
  have part : ring.bufferFull = false := by
    rw [Bool.eq_false_iff]
    intro marked
    have whole := holds.full.mp marked
    omega
  refine ⟨holds.tail, holds.regular, holds.limited, holds.free, holds.read, stepped, rfl, ?_, ?_, ?_, ?_, ?_, holds.first⟩
  · change ring.xItemsWaiting + 1 = _
    rw [holds.counted, List.length_append, List.length_singleton]
    rfl
  · exact used ▸ room
  · change (ring.bufferFull || decide _) = true ↔ _
    rw [part, Bool.false_or, decide_eq_true_iff]
    exact met
  · change Laid ring.circle later (xMaxItemSize ring) ring.pucFree (lent ++ (waiting ++ [slot]))
    rw [← List.append_assoc]
    have last : Laid ring.circle later (xMaxItemSize ring) ring.pucAcquire [slot] := ⟨lies, trivial⟩
    rw [holds.acquire, ← total_append] at last
    refine laid.append holds.free.has ?_ last
    simp only [total_append, total_cons, total_nil]
    exact room
  · intro other member
    obtain old | new := List.mem_append.mp member
    · exact holds.unread other old
    · rw [List.mem_singleton.mp new]
      exact fresh

/-- An item is accepted exactly when it is not too long and there is room for it. -/
theorem send (item : List UInt8) :
    ((item.length ≤ xMaxItemSize ring ∧ Fits ring item.length) ∧
      ∃ after later, xRingbufferSend ring memory item = some (true, after, later) ∧
        Holds after later lent (waiting ++ [slotFor ring item]) ∧ ring.Within after memory later ∧
        after.pucFree = ring.pucFree) ∨
    (¬ (item.length ≤ xMaxItemSize ring ∧ Fits ring item.length) ∧
      xRingbufferSend ring memory item = some (false, ring, memory)) := by
  unfold xRingbufferSend
  by_cases long : item.length > xMaxItemSize ring
  · rw [if_pos long]
    exact .inr ⟨fun accepted => Nat.not_le_of_gt long accepted.1, rfl⟩
  have short := Nat.le_of_not_lt long
  rw [if_neg long, holds.check_fits]
  simp only [Option.bind_eq_bind, Option.bind_some, decide_eq_true_eq]
  by_cases fits : Fits ring item.length
  · have room := holds.room short fits
    obtain ⟨later, copied, lies, unchanged⟩ := holds.copy short fits
    have fresh := (slotFor_item ring item).2
    rw [if_pos fits, copied]
    refine .inl ⟨⟨short, fits⟩, _, later, rfl, holds.extended lies fresh room (holds.keeps room unchanged), ⟨rfl, rfl, ?_⟩, rfl⟩
    intro place outside
    apply unchanged
    intro offset inside same
    have bounded : offset ≤ ring.circle.size := by
      change offset ≤ ring.xSize
      omega
    exact outside (same ▸ holds.spot_acquire.has.after bounded)
  · rw [if_neg fits]
    exact .inr ⟨fun accepted => fits accepted.2, rfl⟩

theorem receive_nothing (empty : waiting = []) : xRingbufferReceive ring memory = some (none, ring) := by
  have unavailable : prvCheckItemAvail ring memory = false := by
    unfold prvCheckItemAvail
    apply if_neg
    rw [holds.counted, empty]
    intro waits
    exact absurd waits.1 (by simp)
  rw [xRingbufferReceive, unavailable]
  rfl

end Holds

theorem around_edge (tail : ring.pucTail = ring.pucHead + ring.xSize) {limit place : Nat} {slot : Slot}
    (lies : Lies ring.circle memory limit place slot) (has : ring.circle.Has place) (bounded : slot.span ≤ ring.xSize) :
    around ring (slot.edge ring.circle place) = ring.circle.after place slot.span := by
  have finish : ring.circle.head + ring.circle.size = ring.pucTail := tail.symm
  have next : ring.circle.after (slot.start ring.circle place) slot.room = ring.circle.after place slot.span :=
    Storage.after_add has bounded
  have positive : 0 < headerSize := by decide
  rw [← next]
  obtain ⟨close, filled⟩ | ⟨behind, needed⟩ := lies.ended
  · rw [Storage.after_end filled]
    exact if_pos (by omega)
  · have edge : slot.edge ring.circle place = slot.start ring.circle place + slot.room := by rw [needed, Slot.edge]
    rw [Storage.after_inside (by omega), ← edge]
    exact if_neg (by omega)

def advance (ring : Ringbuffer) (next : Nat) : Ringbuffer :=
  { ring with xItemsWaiting := ring.xItemsWaiting - 1, pucRead := next }

namespace Holds
variable {slot : Slot} {rest : List Slot} (holds : Holds ring memory lent (slot :: rest))
include holds

theorem next_lies : Lies ring.circle memory (xMaxItemSize ring) ring.pucRead slot := holds.parts.2.1

theorem next_bounded : total lent + slot.span ≤ ring.xSize := by
  have fits := holds.fits
  rw [total_cons] at fits
  omega

theorem next_there : ring.xItemsWaiting > 0 ∧ (ring.pucRead ≠ ring.pucWrite ∨ ring.bufferFull = true) := by
  have headed := holds.next_lies.headed
  have fits := holds.fits
  have positive : 0 < total (slot :: rest) := by
    rw [total_cons]
    unfold Slot.span
    unfold headerSize at headed
    omega
  refine ⟨by rw [holds.counted, List.length_cons]; omega, ?_⟩
  by_cases whole : total lent + total (slot :: rest) = ring.xSize
  · exact .inr (holds.full.mpr whole)
  · left
    rw [holds.write, holds.acquire, holds.read]
    exact Storage.after_ne holds.free.has (Nat.lt_add_of_pos_right positive) (Nat.lt_of_le_of_ne fits whole)

theorem next_flags : slot.flags = 8 := by
  rw [Slot.flags, holds.unread slot List.mem_cons_self]
  rfl

theorem next_edge : around ring (slot.edge ring.circle ring.pucRead) = ring.circle.after ring.pucRead slot.span := by
  have bounded := holds.next_bounded
  exact around_edge holds.tail holds.next_lies holds.spot_read.has (by omega)

/-- The address that is returned passes the last checks. -/
theorem next_within : (ring.pucHead ≤ slot.start ring.circle ring.pucRead + headerSize ∧
      slot.start ring.circle ring.pucRead + headerSize ≤ ring.pucTail) ∧
    (slot.item.length ≠ 0 → ring.pucHead ≤ slot.start ring.circle ring.pucRead + headerSize ∧
      slot.start ring.circle ring.pucRead + headerSize < ring.pucTail) := by
  have lies := holds.next_lies
  have spot := holds.spot_read
  have above : ring.pucHead ≤ slot.start ring.circle ring.pucRead := by
    obtain ⟨-, start⟩ | ⟨-, -, start⟩ := lies.start_cases spot.has
    · rw [start]
      exact spot.has.1
    · rw [start]
      exact Nat.le_refl _
  have finish : ring.circle.head + ring.circle.size = ring.pucTail := holds.tail.symm
  have inside := lies.inside
  have long := length_le_alignSize slot.item.length
  unfold Slot.edge at inside
  constructor
  · omega
  · omega

theorem next_low : ring.pucHead ≤ ring.pucRead ∧ ring.pucRead < ring.pucTail := holds.tail ▸ holds.spot_read.has

theorem next_header : ItemHeader.read memory (slot.start ring.circle ring.pucRead) = ⟨slot.item.length, 8⟩ := by
  rw [holds.next_lies.header, holds.next_flags]

theorem get_straight (start : slot.start ring.circle ring.pucRead = ring.pucRead) :
    prvGetItemDefault ring memory = some (slot.start ring.circle ring.pucRead + headerSize, slot.item.length,
      advance ring (ring.circle.after ring.pucRead slot.span)) := by
  obtain ⟨within, below⟩ := holds.next_within
  have header := holds.next_header
  have next := holds.next_edge
  have real : ItemHeader.has ⟨slot.item.length, 8⟩ itemDummyDataFlag = false := ItemHeader.has_of (by decide)
  have short : slot.item.length ≤ xMaxItemSize ring ∨ ItemHeader.has ⟨slot.item.length, 8⟩ itemDummyDataFlag = true :=
    .inl holds.next_lies.short
  rw [start] at header within below ⊢
  rw [Slot.edge, start] at next
  unfold prvGetItemDefault
  rw [header]
  dsimp only
  rw [Ringbuffer.configAssert_of holds.next_there, Ringbuffer.configAssert_of holds.spot_read.aligned,
    Ringbuffer.configAssert_of holds.next_low, Ringbuffer.configAssert_of short]
  simp only [Option.bind_eq_bind, Option.bind_some, real, Bool.false_eq_true, if_false]
  rw [next]
  split
  · rw [Ringbuffer.configAssert_of within]
    rfl
  · rename_i some_bytes
    rw [Ringbuffer.configAssert_of (below some_bytes)]
    rfl

/-- Dummy data sends the reader to the start of the storage. -/
theorem get_dummy (marked : ItemHeader.read memory ring.pucRead = ⟨0, 10⟩)
    (start : slot.start ring.circle ring.pucRead = ring.pucHead) :
    prvGetItemDefault ring memory = some (slot.start ring.circle ring.pucRead + headerSize, slot.item.length,
      advance ring (ring.circle.after ring.pucRead slot.span)) := by
  obtain ⟨within, below⟩ := holds.next_within
  have header := holds.next_header
  have dummy : ItemHeader.has ⟨0, 10⟩ itemDummyDataFlag = true := ItemHeader.has_of (by decide)
  have short : 0 ≤ xMaxItemSize ring ∨ ItemHeader.has ⟨0, 10⟩ itemDummyDataFlag = true := .inr dummy
  have bounded_item : slot.item.length ≤ xMaxItemSize ring := holds.next_lies.short
  have around_next : around ring (ring.pucHead + (headerSize + alignSize slot.item.length)) =
      ring.circle.after ring.pucRead slot.span := by
    rw [← holds.next_edge, Slot.edge, start]
  rw [start] at header within below ⊢
  unfold prvGetItemDefault
  rw [marked]
  dsimp only
  rw [Ringbuffer.configAssert_of holds.next_there, Ringbuffer.configAssert_of holds.spot_read.aligned,
    Ringbuffer.configAssert_of holds.next_low, Ringbuffer.configAssert_of short]
  simp only [Option.bind_eq_bind, Option.bind_some, dummy, if_true, header]
  change (configAssert (slot.item.length ≤ xMaxItemSize ring)).bind _ = _
  rw [Ringbuffer.configAssert_of bounded_item, ← around_next]
  simp only [Option.pure_def, Option.bind_some]
  split
  · rw [Ringbuffer.configAssert_of within]
    rfl
  · rename_i some_bytes
    rw [Ringbuffer.configAssert_of (below some_bytes)]
    rfl

theorem get_item : prvGetItemDefault ring memory = some (slot.start ring.circle ring.pucRead + headerSize,
    slot.item.length, advance ring (ring.circle.after ring.pucRead slot.span)) := by
  have lies := holds.next_lies
  obtain ⟨-, start⟩ | ⟨skipped, -, start⟩ := lies.start_cases holds.spot_read.has
  · exact holds.get_straight start
  · obtain none_skipped | ⟨-, -, marked⟩ := lies.dummy
    · rw [none_skipped] at skipped
      exact absurd skipped (by decide)
    · exact holds.get_dummy marked start

theorem receive : ∃ after, xRingbufferReceive ring memory =
      some (some (slot.start ring.circle ring.pucRead + headerSize, slot.item.length), after) ∧
    Holds after memory (lent ++ [slot]) rest ∧ ring.Within after memory memory ∧ after.pucFree = ring.pucFree := by
  have lies := holds.next_lies
  have available : prvCheckItemAvail ring memory = true := by
    rw [prvCheckItemAvail, if_pos holds.next_there]
    obtain ⟨-, start⟩ | ⟨skipped, -, -⟩ := lies.start_cases holds.spot_read.has
    · have header := lies.header
      rw [start, holds.next_flags] at header
      rw [header]
      exact ItemHeader.has_of (by decide)
    · obtain none_skipped | ⟨-, -, marked⟩ := lies.dummy
      · rw [none_skipped] at skipped
        exact absurd skipped (by decide)
      · rw [marked]
        exact ItemHeader.has_of (by decide)
  have moved : total (lent ++ [slot]) = total lent + slot.span := by
    rw [total_append, total_cons, total_nil, Nat.add_zero]
  have same : total (lent ++ [slot]) + total rest = total lent + total (slot :: rest) := by
    rw [moved, total_cons, Nat.add_assoc]
  refine ⟨advance ring (ring.circle.after ring.pucRead slot.span), ?_, ?_, ⟨rfl, rfl, fun _ _ => rfl⟩, rfl⟩
  · rw [xRingbufferReceive, available, if_pos rfl, holds.get_item]
    rfl
  · refine ⟨holds.tail, holds.regular, holds.limited, holds.free, ?_, same ▸ holds.acquire, holds.write, ?_,
      same ▸ holds.fits, same ▸ holds.full, ?_, ?_, ?_⟩
    · change ring.circle.after ring.pucRead slot.span = ring.circle.after ring.pucFree (total (lent ++ [slot]))
      rw [moved, holds.read, Storage.after_add holds.free.has holds.next_bounded]
    · change ring.xItemsWaiting - 1 = _
      rw [holds.counted, List.length_cons]
      omega
    · rw [List.append_assoc]
      exact holds.laid
    · intro other member
      exact holds.unread other (List.mem_cons_of_mem _ member)
    · cases lent with
      | nil =>
        intro other found
        cases found
        exact holds.unread slot List.mem_cons_self
      | cons other others => exact holds.first

end Holds
end LaserDriver.Rtos.Nosplit
