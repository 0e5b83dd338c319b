import LaserDriver.Lib.Circular
import LaserDriver.Lib.Run

/-! The byte buffers of `ringbuf.c`. A call runs in a critical section of the buffer's
spinlock, so it is one step; an assertion that fails stops the system. -/

namespace LaserDriver.Rtos
open Effects

abbrev Memory := Nat → UInt8

/-- `bufferFull` is `rbBUFFER_FULL_FLAG`, the one flag of a byte buffer that changes.
Its `xMaxItemSize` is `xSize`. -/
structure Ringbuffer where
  xSize : Nat
  bufferFull : Bool
  pucAcquire : Nat
  pucWrite : Nat
  pucRead : Nat
  pucFree : Nat
  pucHead : Nat
  pucTail : Nat
  xItemsWaiting : Int
  deriving Repr, DecidableEq

def configAssert (condition : Prop) [Decidable condition] : Option Unit :=
  if condition then some () else none

def prvInitializeNewRingbuffer (xBufferSize pucRingbufferStorage : Nat) : Ringbuffer where
  xSize := xBufferSize
  bufferFull := false
  pucAcquire := pucRingbufferStorage
  pucWrite := pucRingbufferStorage
  pucRead := pucRingbufferStorage
  pucFree := pucRingbufferStorage
  pucHead := pucRingbufferStorage
  pucTail := pucRingbufferStorage + xBufferSize
  xItemsWaiting := 0

namespace Ringbuffer
variable (ring : Ringbuffer)

def prvCheckItemFitsByteBuffer (xItemSize : Nat) : Option Bool := do
  configAssert (ring.pucHead ≤ ring.pucAcquire ∧ ring.pucAcquire < ring.pucTail)
  if ring.pucAcquire = ring.pucFree then return !ring.bufferFull
  if ring.pucAcquire < ring.pucFree then return decide (xItemSize ≤ ring.pucFree - ring.pucAcquire)
  return decide (xItemSize ≤ ring.xSize - (ring.pucAcquire - ring.pucFree))

def copy (memory : Memory) (piece : List UInt8) : Ringbuffer × Memory :=
  ({ ring with xItemsWaiting := ring.xItemsWaiting + piece.length, pucAcquire := ring.pucAcquire + piece.length },
    store memory ring.pucAcquire piece)

def wrapAcquire : Ringbuffer :=
  if ring.pucAcquire = ring.pucTail then { ring with pucAcquire := ring.pucHead } else ring

/-- Mark the buffer as full to avoid confusion with an empty buffer. -/
def markFull : Ringbuffer :=
  if ring.pucAcquire = ring.pucFree then { ring with bufferFull := true } else ring

def prvCopyItemByteBuf (memory : Memory) (item : List UInt8) : Option (Ringbuffer × Memory) := do
  configAssert (ring.pucHead ≤ ring.pucAcquire ∧ ring.pucAcquire < ring.pucTail)
  let xRemLen := ring.pucTail - ring.pucAcquire
  let (ring, memory, item) :=
    if xRemLen < item.length then
      let (ring, memory) := ring.copy memory (item.take xRemLen)
      ({ ring with pucAcquire := ring.pucHead }, memory, item.drop xRemLen)
    else (ring, memory, item)
  let (ring, memory) := ring.copy memory item
  let ring := ring.wrapAcquire.markFull
  return ({ ring with pucWrite := ring.pucAcquire }, memory)

/-- Of a byte buffer, which lends one piece at a time. -/
def prvCheckItemAvail : Bool :=
  if ring.pucRead ≠ ring.pucFree then false
  else decide (ring.xItemsWaiting > 0 ∧ (ring.pucRead ≠ ring.pucWrite ∨ ring.bufferFull))

def lend (size pucRead : Nat) : Nat × Nat × Ringbuffer :=
  (ring.pucRead, size, { ring with xItemsWaiting := ring.xItemsWaiting - size, pucRead })

def prvGetItemByteBuf (xMaxSize : Nat) : Option (Nat × Nat × Ringbuffer) := do
  configAssert (ring.xItemsWaiting > 0 ∧ (ring.pucRead ≠ ring.pucWrite ∨ ring.bufferFull))
  configAssert (ring.pucHead ≤ ring.pucRead ∧ ring.pucRead < ring.pucTail)
  configAssert (ring.pucRead = ring.pucFree)
  if ring.pucRead > ring.pucWrite ∨ ring.bufferFull then
    if xMaxSize = 0 ∨ ring.pucTail - ring.pucRead ≤ xMaxSize then
      return ring.lend (ring.pucTail - ring.pucRead) ring.pucHead
    else return ring.lend xMaxSize (ring.pucRead + xMaxSize)
  else
    if xMaxSize = 0 ∨ ring.pucWrite - ring.pucRead ≤ xMaxSize then
      return ring.lend (ring.pucWrite - ring.pucRead) ring.pucWrite
    else return ring.lend xMaxSize (ring.pucRead + xMaxSize)

def prvReturnItemByteBuf (pucItem : Nat) : Option Ringbuffer := do
  configAssert (ring.pucHead ≤ pucItem)
  configAssert (pucItem < ring.pucTail)
  let ring := { ring with pucFree := ring.pucRead }
  return if ring.bufferFull then { ring with bufferFull := false } else ring

def prvGetCurMaxSizeByteBuf : Nat :=
  if ring.bufferFull then 0
  else if ring.pucFree ≤ ring.pucAcquire then ring.xSize - (ring.pucAcquire - ring.pucFree)
  else ring.pucFree - ring.pucAcquire

/-- Whether the item was accepted; `xRingbufferSend` that does not wait does the same. -/
def xRingbufferSendFromISR (memory : Memory) (item : List UInt8) : Option (Bool × Ringbuffer × Memory) := do
  if item.length > ring.xSize then return (false, ring, memory)
  if item.length = 0 then return (true, ring, memory)
  if ← ring.prvCheckItemFitsByteBuffer item.length then
    let (ring, memory) ← ring.prvCopyItemByteBuf memory item
    return (true, ring, memory)
  else return (false, ring, memory)

def prvReceiveGeneric (xMaxSize : Nat) : Option (Option (Nat × Nat) × Ringbuffer) := do
  if ring.prvCheckItemAvail then
    let (address, size, ring) ← ring.prvGetItemByteBuf xMaxSize
    return (some (address, size), ring)
  else return (none, ring)

def xRingbufferReceive : Option (Option (Nat × Nat) × Ringbuffer) := ring.prvReceiveGeneric 0

def xRingbufferReceiveUpTo (xMaxSize : Nat) : Option (Option (Nat × Nat) × Ringbuffer) :=
  if xMaxSize = 0 then some (none, ring) else ring.prvReceiveGeneric xMaxSize

def vRingbufferReturnItem (pvItem : Nat) : Option Ringbuffer := ring.prvReturnItemByteBuf pvItem

def circle : Storage := ⟨ring.pucHead, ring.xSize⟩

/-- What a buffer stands for: the bytes it has lent and the bytes that wait, one
behind the other round the storage. -/
structure Holds (ring : Ringbuffer) (memory : Memory) (lent waiting : List UInt8) : Prop where
  tail : ring.pucTail = ring.pucHead + ring.xSize
  free : ring.circle.Has ring.pucFree
  read : ring.pucRead = ring.circle.after ring.pucFree lent.length
  acquire : ring.pucAcquire = ring.circle.after ring.pucFree (lent.length + waiting.length)
  write : ring.pucWrite = ring.pucAcquire
  counted : ring.xItemsWaiting = waiting.length
  fits : lent.length + waiting.length ≤ ring.xSize
  full : ring.bufferFull = true ↔ lent.length + waiting.length = ring.xSize
  straight : ring.pucFree + lent.length ≤ ring.pucTail
  stored : ring.circle.contents memory ring.pucFree (lent.length + waiting.length) = lent ++ waiting

variable {ring : Ringbuffer} {memory : Memory} {lent waiting : List UInt8}

theorem configAssert_of {condition : Prop} [Decidable condition] (holds : condition) :
    configAssert condition = some () := if_pos holds

theorem wrapAcquire_of_eq (reached : ring.pucAcquire = ring.pucTail) :
    ring.wrapAcquire = { ring with pucAcquire := ring.pucHead } := if_pos reached

theorem wrapAcquire_of_ne (inside : ring.pucAcquire ≠ ring.pucTail) : ring.wrapAcquire = ring := if_neg inside

theorem wrapAcquire_copy (tail : ring.pucTail = ring.pucHead + ring.xSize) {piece : List UInt8}
    (straight : ring.pucAcquire + piece.length ≤ ring.pucTail) :
    (ring.copy memory piece).1.wrapAcquire = { ring with
      xItemsWaiting := ring.xItemsWaiting + piece.length
      pucAcquire := ring.circle.after ring.pucAcquire piece.length } := by
  by_cases reached : ring.pucAcquire + piece.length = ring.pucTail
  · have around : ring.circle.after ring.pucAcquire piece.length = ring.pucHead := Storage.after_end (reached.trans tail)
    have copied : (ring.copy memory piece).1.pucAcquire = (ring.copy memory piece).1.pucTail := reached
    rw [wrapAcquire_of_eq copied, around]
    rfl
  · have onward : ring.circle.after ring.pucAcquire piece.length = ring.pucAcquire + piece.length :=
      Storage.after_inside (tail ▸ Nat.lt_of_le_of_ne straight reached)
    have copied : (ring.copy memory piece).1.pucAcquire ≠ (ring.copy memory piece).1.pucTail := reached
    rw [wrapAcquire_of_ne copied, onward]
    rfl

/-- The item goes round the storage from `pucAcquire`. -/
theorem prvCopyItemByteBuf_eq (tail : ring.pucTail = ring.pucHead + ring.xSize) (inside : ring.circle.Has ring.pucAcquire)
    {item : List UInt8} (short : item.length ≤ ring.xSize) :
    ring.prvCopyItemByteBuf memory item =
      let after := { ring with
        xItemsWaiting := ring.xItemsWaiting + item.length
        pucAcquire := ring.circle.after ring.pucAcquire item.length }.markFull
      some ({ after with pucWrite := after.pucAcquire }, ring.circle.put memory ring.pucAcquire item) := by
  have bounds : ring.pucHead ≤ ring.pucAcquire ∧ ring.pucAcquire < ring.pucTail := tail ▸ inside
  have remaining : ring.pucTail - ring.pucAcquire = ring.circle.head + ring.circle.size - ring.pucAcquire := by
    rw [tail]
    rfl
  unfold prvCopyItemByteBuf
  rw [configAssert_of bounds, Storage.put, ← remaining]
  by_cases wraps : ring.pucTail - ring.pucAcquire < item.length
  · have taken : (item.take (ring.pucTail - ring.pucAcquire)).length = ring.pucTail - ring.pucAcquire := by
      rw [List.length_take]
      omega
    have dropped : (item.drop (ring.pucTail - ring.pucAcquire)).length = item.length - (ring.pucTail - ring.pucAcquire) :=
      List.length_drop
    simp only [Option.bind_eq_bind, Option.bind_some, if_pos wraps]
    generalize item.take (ring.pucTail - ring.pucAcquire) = front at taken ⊢
    generalize item.drop (ring.pucTail - ring.pucAcquire) = back at dropped ⊢
    have reached : ring.circle.after ring.pucAcquire front.length = ring.pucHead := by
      apply Storage.after_end
      rw [taken, remaining]
      have := inside.2
      omega
    have around : ring.circle.after ring.pucHead back.length = ring.circle.after ring.pucAcquire item.length := by
      rw [← reached, Storage.after_add inside, taken, dropped]
      · congr 1
        omega
      · have := inside.2
        simp only [Ringbuffer.circle]
        omega
    let middle : Ringbuffer := { ring with xItemsWaiting := ring.xItemsWaiting + front.length, pucAcquire := ring.pucHead }
    have copied : (middle.copy (store memory ring.pucAcquire front) back).1.wrapAcquire = { ring with
        xItemsWaiting := ring.xItemsWaiting + item.length
        pucAcquire := ring.circle.after ring.pucAcquire item.length } := by
      have total : ring.xItemsWaiting + front.length + back.length = ring.xItemsWaiting + item.length := by omega
      have same : middle.pucTail = middle.pucHead + middle.xSize := tail
      have straight : middle.pucAcquire + back.length ≤ middle.pucTail := by
        simp only [middle]
        omega
      rw [wrapAcquire_copy same straight, ← total, ← around]
      rfl
    exact congrArg (fun after : Ringbuffer => some ({ after.markFull with pucWrite := after.markFull.pucAcquire },
      store (store memory ring.pucAcquire front) ring.pucHead back)) copied
  · simp only [Option.bind_eq_bind, Option.bind_some, if_neg wraps]
    rw [wrapAcquire_copy tail (by omega)]
    rfl

def contiguous (ring : Ringbuffer) (waiting : List UInt8) : Nat := min waiting.length (ring.pucTail - ring.pucRead)

/-- How much one call of `xRingbufferReceiveUpTo` gets; zero stands for no limit. -/
def portion (ring : Ringbuffer) (waiting : List UInt8) (xMaxSize : Nat) : Nat :=
  if xMaxSize = 0 then ring.contiguous waiting else min (ring.contiguous waiting) xMaxSize

namespace Holds

theorem initial {xBufferSize : Nat} (positive : 0 < xBufferSize) (storage : Nat) (memory : Memory) :
    Holds (prvInitializeNewRingbuffer xBufferSize storage) memory [] [] := by
  have has : (prvInitializeNewRingbuffer xBufferSize storage).circle.Has storage :=
    ⟨Nat.le_refl _, Nat.lt_add_of_pos_right positive⟩
  have here := Storage.after_zero has
  refine ⟨rfl, has, here.symm, here.symm, rfl, rfl, Nat.zero_le _, ?_, Nat.le_add_right _ _, rfl⟩
  exact iff_of_false Bool.false_ne_true (Nat.ne_of_lt positive)

variable (holds : Holds ring memory lent waiting)
include holds

theorem has_acquire : ring.circle.Has ring.pucAcquire := holds.acquire ▸ holds.free.after holds.fits

theorem has_read : ring.circle.Has ring.pucRead :=
  holds.read ▸ holds.free.after (Nat.le_trans (Nat.le_add_right _ _) holds.fits)

/-- `pucAcquire` is back at `pucFree` when the buffer is empty and when it is full. -/
theorem acquire_eq_free : ring.pucAcquire = ring.pucFree ↔
    lent.length + waiting.length = 0 ∨ lent.length + waiting.length = ring.xSize := by
  rw [holds.acquire]
  exact Storage.after_eq_start holds.free holds.fits

theorem check_fits {xItemSize : Nat} (short : xItemSize ≤ ring.xSize) (positive : 0 < xItemSize) :
    ring.prvCheckItemFitsByteBuffer xItemSize =
      some (decide (lent.length + waiting.length + xItemSize ≤ ring.xSize)) := by
  have bounds : ring.pucHead ≤ ring.pucAcquire ∧ ring.pucAcquire < ring.pucTail := holds.tail ▸ holds.has_acquire
  have same := holds.acquire_eq_free
  have fits := holds.fits
  obtain ⟨above, below⟩ := holds.free
  have placed := ring.circle.after_cases ring.pucFree (lent.length + waiting.length)
  rw [← holds.acquire] at placed
  simp only [Ringbuffer.circle] at placed above below
  unfold prvCheckItemFitsByteBuffer
  rw [configAssert_of bounds]
  simp only [Option.bind_eq_bind, Option.bind_some, Option.pure_def]
  by_cases met : ring.pucAcquire = ring.pucFree
  · rw [if_pos met]
    cases full : ring.bufferFull with
    | true =>
      have whole := holds.full.mp full
      exact congrArg some (decide_eq_false (by omega)).symm
    | false =>
      have part : lent.length + waiting.length ≠ ring.xSize := by
        intro whole
        rw [holds.full.mpr whole] at full
        cases full
      have empty := (same.mp met).resolve_right part
      exact congrArg some (decide_eq_true (by omega)).symm
  · rw [if_neg met]
    split
    · congr 2
      apply propext
      omega
    · congr 2
      apply propext
      omega

theorem free_size : ring.prvGetCurMaxSizeByteBuf = ring.xSize - (lent.length + waiting.length) := by
  have fits := holds.fits
  have full := holds.full
  have met := holds.acquire_eq_free
  obtain ⟨above, below⟩ := holds.free
  have placed := ring.circle.after_cases ring.pucFree (lent.length + waiting.length)
  rw [← holds.acquire] at placed
  simp only [Ringbuffer.circle] at placed above below
  unfold prvGetCurMaxSizeByteBuf
  split
  · rename_i marked
    have whole := full.mp marked
    omega
  · rename_i unmarked
    have part : lent.length + waiting.length ≠ ring.xSize := fun whole => unmarked (full.mpr whole)
    split <;> omega

theorem contents_waiting :
    ring.circle.contents memory ring.pucRead ring.xItemsWaiting.toNat = waiting := by
  have stored := holds.stored
  rw [Storage.contents_add holds.free holds.fits, ← holds.read] at stored
  rw [holds.counted, Int.toNat_natCast]
  exact (List.append_inj stored Storage.length_contents).2

theorem load_lent : load memory ring.pucFree lent.length = lent := by
  have straight : ring.pucFree + lent.length ≤ ring.circle.head + ring.circle.size := holds.tail ▸ holds.straight
  have stored := holds.stored
  rw [Storage.contents_add holds.free holds.fits] at stored
  rw [Storage.load_eq_contents straight]
  exact (List.append_inj stored Storage.length_contents).1

theorem copied {item : List UInt8} (room : lent.length + waiting.length + item.length ≤ ring.xSize)
    (positive : 0 < item.length) :
    ∃ after, ring.prvCopyItemByteBuf memory item = some (after, ring.circle.put memory ring.pucAcquire item) ∧
      Holds after (ring.circle.put memory ring.pucAcquire item) lent (waiting ++ item) ∧
      after.pucHead = ring.pucHead ∧ after.xSize = ring.xSize ∧ after.pucFree = ring.pucFree := by
  have short : item.length ≤ ring.xSize := by omega
  have stepped : ring.circle.after ring.pucAcquire item.length =
      ring.circle.after ring.pucFree (lent.length + (waiting ++ item).length) := by
    rw [holds.acquire, Storage.after_add holds.free room, List.length_append, Nat.add_assoc]
  have written : ring.circle.contents (ring.circle.put memory ring.pucAcquire item) ring.pucFree
      (lent.length + (waiting ++ item).length) = lent ++ (waiting ++ item) := by
    rw [holds.acquire, List.length_append, ← Nat.add_assoc, Storage.contents_put holds.free room, holds.stored,
      List.append_assoc]
  have fits : lent.length + (waiting ++ item).length ≤ ring.xSize := by
    rw [List.length_append, ← Nat.add_assoc]
    exact room
  have counted : ring.xItemsWaiting + item.length = ((waiting ++ item).length : Nat) := by
    rw [holds.counted, List.length_append]
    rfl
  have some_bytes : lent.length + (waiting ++ item).length ≠ 0 := by
    rw [List.length_append]
    omega
  have met : ring.circle.after ring.pucAcquire item.length = ring.pucFree ↔
      lent.length + (waiting ++ item).length = ring.xSize := by
    rw [stepped, Storage.after_eq_start holds.free fits, or_iff_right some_bytes]
    rfl
  rw [prvCopyItemByteBuf_eq holds.tail holds.has_acquire short]
  refine ⟨_, rfl, ?_⟩
  by_cases full : ring.circle.after ring.pucAcquire item.length = ring.pucFree
  · simp only [Ringbuffer.markFull, if_pos full]
    exact ⟨⟨holds.tail, holds.free, holds.read, stepped, rfl, counted, fits, iff_of_true rfl (met.mp full),
      holds.straight, written⟩, trivial, trivial, trivial⟩
  · simp only [Ringbuffer.markFull, if_neg full]
    have part : ring.bufferFull ≠ true := by
      intro marked
      have := holds.full.mp marked
      omega
    exact ⟨⟨holds.tail, holds.free, holds.read, stepped, rfl, counted, fits, iff_of_false part (fun whole => full (met.mpr whole)),
      holds.straight, written⟩, trivial, trivial, trivial⟩

end Holds

/-- The same storage, and a memory in which nothing outside it has changed. -/
structure Within (ring after : Ringbuffer) (memory later : Memory) : Prop where
  head : after.pucHead = ring.pucHead
  size : after.xSize = ring.xSize
  outside : ∀ place, ¬ ring.circle.Has place → later place = memory place

theorem Within.refl (ring : Ringbuffer) (memory : Memory) : Within ring ring memory memory := ⟨rfl, rfl, fun _ _ => rfl⟩

theorem Within.circle {after : Ringbuffer} {later : Memory} (within : Within ring after memory later) :
    after.circle = ring.circle := by
  simp only [Ringbuffer.circle, within.head, within.size]

theorem Within.beyond {after : Ringbuffer} {later : Memory} (within : Within ring after memory later) {place : Nat}
    (apart : place < ring.pucHead ∨ ring.pucHead + ring.xSize ≤ place) : later place = memory place := by
  apply within.outside
  simp only [Ringbuffer.circle, Storage.Has]
  omega

namespace Holds
variable (holds : Holds ring memory lent waiting)
include holds

/-- An item is accepted exactly when it fits behind what is lent and what waits. -/
theorem send (item : List UInt8) :
    (lent.length + waiting.length + item.length ≤ ring.xSize ∧
      ∃ after later, ring.xRingbufferSendFromISR memory item = some (true, after, later) ∧
        Holds after later lent (waiting ++ item) ∧ Within ring after memory later ∧ after.pucFree = ring.pucFree) ∨
    (ring.xSize < lent.length + waiting.length + item.length ∧
      ring.xRingbufferSendFromISR memory item = some (false, ring, memory)) := by
  have fits := holds.fits
  unfold xRingbufferSendFromISR
  by_cases long : item.length > ring.xSize
  · rw [if_pos long]
    exact .inr ⟨by omega, rfl⟩
  rw [if_neg long]
  by_cases empty : item.length = 0
  · obtain rfl := List.length_eq_zero_iff.mp empty
    refine .inl ⟨fits, ring, memory, rfl, ?_, .refl ring memory, rfl⟩
    rw [List.append_nil]
    exact holds
  rw [if_neg empty, holds.check_fits (Nat.le_of_not_lt long) (Nat.pos_of_ne_zero empty)]
  by_cases room : lent.length + waiting.length + item.length ≤ ring.xSize
  · obtain ⟨after, copied, held, head, size, free⟩ := holds.copied room (Nat.pos_of_ne_zero empty)
    refine .inl ⟨room, after, _, ?_, held, ⟨head, size, ?_⟩, free⟩
    · simp [decide_eq_true room, copied]
    · intro place outside
      exact Storage.put_outside memory holds.has_acquire (Nat.le_of_not_lt long) outside
  · refine .inr ⟨Nat.lt_of_not_le room, ?_⟩
    simp [decide_eq_false room]

theorem receive_lent (borrowed : lent ≠ []) (xMaxSize : Nat) : ring.prvReceiveGeneric xMaxSize = some (none, ring) := by
  have positive := List.length_pos_iff.mpr borrowed
  have fits := holds.fits
  have unavailable : ring.prvCheckItemAvail = false := by
    unfold prvCheckItemAvail
    by_cases met : ring.pucRead = ring.pucFree
    · have whole : lent.length = ring.xSize := by
        rw [holds.read, Storage.after_eq_start holds.free (Nat.le_trans (Nat.le_add_right _ _) fits)] at met
        exact met.resolve_left (Nat.ne_of_gt positive)
      rw [if_neg (not_not.mpr met), holds.counted]
      exact decide_eq_false (fun waits => absurd waits.1 (by omega))
    · exact if_pos met
  rw [prvReceiveGeneric, unavailable]
  rfl

theorem receive_nothing (empty : waiting = []) (xMaxSize : Nat) : ring.prvReceiveGeneric xMaxSize = some (none, ring) := by
  have unavailable : ring.prvCheckItemAvail = false := by
    unfold prvCheckItemAvail
    split
    · rfl
    · rw [holds.counted, empty]
      exact decide_eq_false (fun waits => absurd waits.1 (by simp))
  rw [prvReceiveGeneric, unavailable]
  rfl

end Holds

theorem Holds.lend (holds : Holds ring memory [] waiting) {size pucRead : Nat} (enough : size ≤ waiting.length)
    (straight : ring.pucRead + size ≤ ring.pucTail) (reached : pucRead = ring.circle.after ring.pucRead size) :
    Holds (ring.lend size pucRead).2.2 memory (waiting.take size) (waiting.drop size) := by
  have read : ring.pucRead = ring.pucFree := holds.read.trans (Storage.after_zero holds.free)
  have taken : (waiting.take size).length = size := by
    rw [List.length_take]
    omega
  have total : (waiting.take size).length + (waiting.drop size).length = ([] : List UInt8).length + waiting.length := by
    rw [taken, List.length_drop, List.length_nil]
    omega
  have counted : ring.xItemsWaiting - size = ((waiting.drop size).length : Nat) := by
    rw [holds.counted, List.length_drop]
    omega
  rw [read] at straight reached
  refine ⟨holds.tail, holds.free, ?_, ?_, holds.write, counted, ?_, ?_, ?_, ?_⟩
  · rw [taken]
    exact reached
  · rw [total]
    exact holds.acquire
  · rw [total]
    exact holds.fits
  · rw [total]
    exact holds.full
  · rw [taken]
    exact straight
  · rw [total, List.take_append_drop]
    exact holds.stored

theorem portion_le (ring : Ringbuffer) (waiting : List UInt8) (xMaxSize : Nat) :
    ring.portion waiting xMaxSize ≤ waiting.length := by
  unfold portion contiguous
  split <;> omega

theorem portion_le_max (ring : Ringbuffer) (waiting : List UInt8) {xMaxSize : Nat} (limited : xMaxSize ≠ 0) :
    ring.portion waiting xMaxSize ≤ xMaxSize := by
  unfold portion
  rw [if_neg limited]
  exact Nat.min_le_right _ _

theorem Holds.portion_pos (holds : Holds ring memory lent waiting) (some_bytes : waiting ≠ []) (xMaxSize : Nat) :
    0 < ring.portion waiting xMaxSize := by
  have positive := List.length_pos_iff.mpr some_bytes
  have below : ring.pucRead < ring.pucTail := holds.tail ▸ holds.has_read.2
  unfold portion contiguous
  split <;> omega

theorem portion_straight {ring : Ringbuffer} (waiting : List UInt8) (xMaxSize : Nat) (below : ring.pucRead < ring.pucTail) :
    ring.pucRead + ring.portion waiting xMaxSize ≤ ring.pucTail := by
  unfold portion contiguous
  split <;> omega

/-- What the checks of a receive find when bytes wait and none are lent: they go on past the end
of the storage, or come to an end in front of it. -/
structure Waits (ring : Ringbuffer) (waiting : List UInt8) : Prop where
  read : ring.pucRead = ring.pucFree
  bounds : ring.pucHead ≤ ring.pucRead ∧ ring.pucRead < ring.pucTail
  there : ring.xItemsWaiting > 0 ∧ (ring.pucRead ≠ ring.pucWrite ∨ ring.bufferFull = true)
  around : ring.pucRead > ring.pucWrite ∨ ring.bufferFull = true → ring.pucTail ≤ ring.pucRead + waiting.length
  onward : ¬(ring.pucRead > ring.pucWrite ∨ ring.bufferFull = true) →
    ring.pucWrite = ring.pucRead + waiting.length ∧ ring.pucWrite < ring.pucTail

theorem Holds.waits (holds : Holds ring memory [] waiting) (some_bytes : waiting ≠ []) : Waits ring waiting := by
  have positive := List.length_pos_iff.mpr some_bytes
  have tail := holds.tail
  have read : ring.pucRead = ring.pucFree := holds.read.trans (Storage.after_zero holds.free)
  have bounds : ring.pucHead ≤ ring.pucRead ∧ ring.pucRead < ring.pucTail := holds.tail ▸ holds.has_read
  have bounded : waiting.length ≤ ring.circle.size := by
    have fits := holds.fits
    rw [List.length_nil, Nat.zero_add] at fits
    exact fits
  have write : ring.pucWrite = ring.circle.after ring.pucFree waiting.length := by
    rw [holds.write, holds.acquire, List.length_nil, Nat.zero_add]
  have full : ring.bufferFull = true ↔ waiting.length = ring.xSize := by
    have marked := holds.full
    rw [List.length_nil, Nat.zero_add] at marked
    exact marked
  have met := Storage.after_eq_start holds.free bounded
  have placed := ring.circle.after_cases ring.pucFree waiting.length
  rw [← write] at placed met
  simp only [Ringbuffer.circle] at placed met bounded
  refine ⟨read, bounds, ⟨by rw [holds.counted]; omega, ?_⟩, ?_, ?_⟩
  · by_cases same : ring.pucRead = ring.pucWrite
    · exact .inr (full.mpr ((met.mp (same.symm.trans read)).resolve_left (Nat.ne_of_gt positive)))
    · exact .inl same
  · rintro (past | marked)
    · omega
    · have whole := full.mp marked
      omega
  · intro around
    have part : waiting.length ≠ ring.xSize := fun whole => around (.inr (full.mpr whole))
    have behind : ring.pucRead ≤ ring.pucWrite := Nat.le_of_not_lt (fun past => around (.inl past))
    omega

section Waiting
variable (waits : Waits ring waiting)
include waits

/-- A row that ends with the storage is lent up to there, and the next one begins at its start. -/
theorem Waits.get_around (tail : ring.pucTail = ring.circle.head + ring.circle.size)
    (around : ring.pucRead > ring.pucWrite ∨ ring.bufferFull = true) (xMaxSize : Nat) :
    (if xMaxSize = 0 ∨ ring.pucTail - ring.pucRead ≤ xMaxSize then ring.lend (ring.pucTail - ring.pucRead) ring.pucHead
      else ring.lend xMaxSize (ring.pucRead + xMaxSize)) =
      ring.lend (ring.portion waiting xMaxSize) (ring.circle.after ring.pucRead (ring.portion waiting xMaxSize)) := by
  have bounds := waits.bounds
  have contiguous : ring.contiguous waiting = ring.pucTail - ring.pucRead :=
    Nat.min_eq_right (Nat.sub_le_iff_le_add'.mpr (waits.around around))
  by_cases all : xMaxSize = 0 ∨ ring.pucTail - ring.pucRead ≤ xMaxSize
  · have portion : ring.portion waiting xMaxSize = ring.pucTail - ring.pucRead := by
      rw [Ringbuffer.portion, contiguous]
      split <;> omega
    have finish : ring.pucRead + (ring.pucTail - ring.pucRead) = ring.circle.head + ring.circle.size := by
      rw [Nat.add_sub_cancel' (Nat.le_of_lt bounds.2)]
      exact tail
    rw [if_pos all, portion, Storage.after_end finish]
    rfl
  · have portion : ring.portion waiting xMaxSize = xMaxSize := by
      rw [Ringbuffer.portion, contiguous]
      split <;> omega
    have inside : ring.pucRead + xMaxSize < ring.circle.head + ring.circle.size := by omega
    rw [if_neg all, portion, Storage.after_inside inside]

theorem Waits.get_onward (tail : ring.pucTail = ring.circle.head + ring.circle.size)
    (onward : ¬(ring.pucRead > ring.pucWrite ∨ ring.bufferFull = true)) (xMaxSize : Nat) :
    (if xMaxSize = 0 ∨ ring.pucWrite - ring.pucRead ≤ xMaxSize then ring.lend (ring.pucWrite - ring.pucRead) ring.pucWrite
      else ring.lend xMaxSize (ring.pucRead + xMaxSize)) =
      ring.lend (ring.portion waiting xMaxSize) (ring.circle.after ring.pucRead (ring.portion waiting xMaxSize)) := by
  obtain ⟨write, below⟩ := waits.onward onward
  have contiguous : ring.contiguous waiting = ring.pucWrite - ring.pucRead := by
    rw [Ringbuffer.contiguous]
    omega
  by_cases all : xMaxSize = 0 ∨ ring.pucWrite - ring.pucRead ≤ xMaxSize
  · have portion : ring.portion waiting xMaxSize = ring.pucWrite - ring.pucRead := by
      rw [Ringbuffer.portion, contiguous]
      split <;> omega
    have inside : ring.pucRead + (ring.pucWrite - ring.pucRead) < ring.circle.head + ring.circle.size := by omega
    have reached : ring.pucRead + (ring.pucWrite - ring.pucRead) = ring.pucWrite := by omega
    rw [if_pos all, portion, Storage.after_inside inside, reached]
  · have portion : ring.portion waiting xMaxSize = xMaxSize := by
      rw [Ringbuffer.portion, contiguous]
      split <;> omega
    have inside : ring.pucRead + xMaxSize < ring.circle.head + ring.circle.size := by omega
    rw [if_neg all, portion, Storage.after_inside inside]

theorem Waits.getItem (tail : ring.pucTail = ring.circle.head + ring.circle.size) (xMaxSize : Nat) :
    ring.prvGetItemByteBuf xMaxSize = some (ring.lend (ring.portion waiting xMaxSize)
      (ring.circle.after ring.pucRead (ring.portion waiting xMaxSize))) := by
  rw [prvGetItemByteBuf, configAssert_of waits.there, configAssert_of waits.bounds, configAssert_of waits.read]
  simp only [Option.bind_eq_bind, Option.bind_some, Option.pure_def, ← apply_ite some]
  by_cases around : ring.pucRead > ring.pucWrite ∨ ring.bufferFull = true
  · rw [if_pos around, waits.get_around tail around]
  · rw [if_neg around, waits.get_onward tail around]

end Waiting

/-- With nothing lent a call lends the bytes in a row, up to its limit. -/
theorem Holds.receive (holds : Holds ring memory [] waiting) (some_bytes : waiting ≠ []) (xMaxSize : Nat) :
    ∃ after, ring.prvReceiveGeneric xMaxSize = some (some (after.pucFree, ring.portion waiting xMaxSize), after) ∧
      Holds after memory (waiting.take (ring.portion waiting xMaxSize)) (waiting.drop (ring.portion waiting xMaxSize)) ∧
      Within ring after memory memory := by
  have waits := holds.waits some_bytes
  have available : ring.prvCheckItemAvail = true := by
    rw [prvCheckItemAvail, if_neg (not_not.mpr waits.read)]
    exact decide_eq_true waits.there
  have straight := portion_straight waiting xMaxSize waits.bounds.2
  refine ⟨_, ?_, holds.lend (portion_le ring waiting xMaxSize) straight rfl, rfl, rfl, fun _ _ => rfl⟩
  rw [prvReceiveGeneric, available, if_pos rfl, waits.getItem holds.tail]
  simp only [Option.bind_eq_bind, Option.bind_some, Option.pure_def, Ringbuffer.lend, waits.read]

theorem Holds.give_back (holds : Holds ring memory lent waiting) (borrowed : lent ≠ []) {pvItem : Nat}
    (inside : ring.circle.Has pvItem) :
    ∃ after, ring.vRingbufferReturnItem pvItem = some after ∧ Holds after memory [] waiting ∧
      Within ring after memory memory := by
  have positive := List.length_pos_iff.mpr borrowed
  have above : ring.pucHead ≤ pvItem := inside.1
  have below : pvItem < ring.pucTail := holds.tail ▸ inside.2
  have fits := holds.fits
  have waits := holds.contents_waiting
  rw [holds.counted, Int.toNat_natCast] at waits
  have read := Storage.after_zero holds.has_read
  have acquire : ring.pucAcquire = ring.circle.after ring.pucRead (([] : List UInt8).length + waiting.length) := by
    rw [List.length_nil, Nat.zero_add, holds.acquire, ← Storage.after_add holds.free fits, ← holds.read]
  have contents : ring.circle.contents memory ring.pucRead (([] : List UInt8).length + waiting.length) = [] ++ waiting := by
    rw [List.length_nil, Nat.zero_add]
    exact waits
  have part : ([] : List UInt8).length + waiting.length ≠ ring.xSize := by
    rw [List.length_nil]
    omega
  have bounded : ([] : List UInt8).length + waiting.length ≤ ring.xSize := by
    rw [List.length_nil]
    omega
  have straight : ring.pucRead + ([] : List UInt8).length ≤ ring.pucTail := by
    have := holds.has_read.2
    have := holds.tail
    simp only [Ringbuffer.circle, List.length_nil] at *
    omega
  unfold vRingbufferReturnItem prvReturnItemByteBuf
  rw [configAssert_of above, configAssert_of below]
  simp only [Option.bind_eq_bind, Option.bind_some, Option.pure_def]
  split
  · exact ⟨_, rfl, ⟨holds.tail, holds.has_read, read.symm, acquire, holds.write, holds.counted, bounded,
      iff_of_false Bool.false_ne_true part, straight, contents⟩, rfl, rfl, fun _ _ => rfl⟩
  · rename_i unmarked
    exact ⟨_, rfl, ⟨holds.tail, holds.has_read, read.symm, acquire, holds.write, holds.counted, bounded,
      iff_of_false unmarked part, straight, contents⟩, rfl, rfl, fun _ _ => rfl⟩

end Ringbuffer
end LaserDriver.Rtos
