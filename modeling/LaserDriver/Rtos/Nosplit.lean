import LaserDriver.Lib.Words
import LaserDriver.Rtos.Ringbuf

/-! The no-split buffers of `ringbuf.c`. An item lies in a row behind its header. Where
it does not fit in front of the end of the storage, what remains there is marked as
dummy data and the item lies at the start. -/

namespace LaserDriver.Rtos
open Effects

def headerSize : Nat := 8

def alignSize (xSize : Nat) : Nat := (xSize + 3) / 4 * 4

structure ItemHeader where
  xItemLen : Nat
  uxItemFlags : UInt32
  deriving Repr, DecidableEq

def itemFreeFlag : UInt32 := 1
def itemDummyDataFlag : UInt32 := 2
def itemSplitFlag : UInt32 := 4
def itemWrittenFlag : UInt32 := 8

namespace ItemHeader

def read (memory : Memory) (address : Nat) : ItemHeader where
  xItemLen := unword (load memory address 4)
  uxItemFlags := UInt32.ofNat (unword (load memory (address + 4) 4))

def write (header : ItemHeader) (memory : Memory) (address : Nat) : Memory :=
  store memory address (word 4 header.xItemLen ++ word 4 header.uxItemFlags.toNat)

def has (header : ItemHeader) (flag : UInt32) : Bool := header.uxItemFlags &&& flag != 0

def mark (header : ItemHeader) (flag : UInt32) : ItemHeader :=
  { header with uxItemFlags := header.uxItemFlags ||| flag }

def clear (header : ItemHeader) (flag : UInt32) : ItemHeader :=
  { header with uxItemFlags := header.uxItemFlags &&& ~~~flag }

theorem has_of {size : Nat} {flags flag : UInt32} {answer : Bool} (tested : (flags &&& flag != 0) = answer) :
    has ⟨size, flags⟩ flag = answer := tested

theorem mark_of {size : Nat} {flags flag result : UInt32} (marked : flags ||| flag = result) :
    mark ⟨size, flags⟩ flag = ⟨size, result⟩ := by
  rw [← marked, mark]

theorem relabel_of {size : Nat} {flags old flag result : UInt32} (marked : flags &&& ~~~old ||| flag = result) :
    (clear ⟨size, flags⟩ old).mark flag = ⟨size, result⟩ := by
  rw [← marked, clear, mark]

theorem write_outside (header : ItemHeader) (memory : Memory) {address place : Nat}
    (outside : place < address ∨ address + headerSize ≤ place) : header.write memory address place = memory place := by
  apply store_outside
  rw [List.length_append, length_word, length_word]
  exact outside

theorem read_congr {memory later : Memory} {address : Nat}
    (same : ∀ i < headerSize, memory (address + i) = later (address + i)) : read memory address = read later address := by
  have first : load memory address 4 = load later address 4 :=
    load_congr fun i inside => same i (Nat.lt_trans inside (by decide))
  have second : load memory (address + 4) 4 = load later (address + 4) 4 := by
    apply load_congr
    intro i inside
    rw [Nat.add_assoc]
    exact same (4 + i) (Nat.add_lt_add_left inside 4)
  rw [read, read, first, second]

theorem read_write {header : ItemHeader} (fits : header.xItemLen < 0x100000000) (memory : Memory) (address : Nat) :
    read (header.write memory address) address = header := by
  have stored : load (header.write memory address) address (4 + 4) =
      word 4 header.xItemLen ++ word 4 header.uxItemFlags.toNat := load_store memory address _
  rw [load_add] at stored
  obtain ⟨first, second⟩ := List.append_inj stored (by simp)
  rw [read, first, second, unword_word 4 fits, unword_word 4 (UInt32.toNat_lt _), UInt32.ofNat_toNat]

end ItemHeader

namespace Nosplit
variable (ring : Ringbuffer)

def xMaxItemSize : Nat := alignSize (ring.xSize / 2) - headerSize

def prvCheckItemFitsDefault (xItemSize : Nat) : Option Bool := do
  configAssert (ring.pucAcquire % 4 = 0)
  configAssert (ring.pucHead ≤ ring.pucAcquire ∧ ring.pucAcquire < ring.pucTail)
  let xTotalItemSize := alignSize xItemSize + headerSize
  if ring.pucAcquire = ring.pucFree then return !ring.bufferFull
  if ring.pucFree > ring.pucAcquire then return decide (xTotalItemSize ≤ ring.pucFree - ring.pucAcquire)
  if xTotalItemSize ≤ ring.pucTail - ring.pucAcquire then return true
  return decide (xTotalItemSize ≤ ring.pucFree - ring.pucHead)

/-- A pointer moves to the start when no header fits behind it. -/
def around (pointer : Nat) : Nat := if ring.pucTail - pointer < headerSize then ring.pucHead else pointer

def prvAcquireItemNoSplit (memory : Memory) (xItemSize : Nat) : Option (Nat × Ringbuffer × Memory) := do
  let xAlignedItemSize := alignSize xItemSize
  let xRemLen := ring.pucTail - ring.pucAcquire
  configAssert (ring.pucAcquire % 4 = 0)
  configAssert (ring.pucHead ≤ ring.pucAcquire ∧ ring.pucAcquire < ring.pucTail)
  configAssert (xRemLen ≥ headerSize)
  let (ring, memory) :=
    if xRemLen < xAlignedItemSize + headerSize then
      ({ ring with pucAcquire := ring.pucHead }, ItemHeader.write ⟨0, itemDummyDataFlag⟩ memory ring.pucAcquire)
    else (ring, memory)
  let memory := ItemHeader.write ⟨xItemSize, 0⟩ memory ring.pucAcquire
  let item_address := ring.pucAcquire + headerSize
  let ring := { ring with pucAcquire := around ring (ring.pucAcquire + (headerSize + xAlignedItemSize)) }
  return (item_address, ring.markFull, memory)

/-- Move `pucWrite` past the items that have been written. -/
def passWritten : Nat → Ringbuffer → Memory → Option (Ringbuffer × Memory)
  | 0, _, _ => none
  | fuel + 1, ring, memory =>
    let header := ItemHeader.read memory ring.pucWrite
    if header.has itemWrittenFlag ∨ header.has itemDummyDataFlag then do
      let (ring, memory) ←
        if header.has itemDummyDataFlag then
          some ({ ring with pucWrite := ring.pucHead }, (header.mark itemWrittenFlag).write memory ring.pucWrite)
        else do
          let ring := { ring with pucWrite := ring.pucWrite + (alignSize header.xItemLen + headerSize) }
          configAssert (ring.pucWrite ≤ ring.pucHead + ring.xSize)
          pure (ring, memory)
      let ring := { ring with pucWrite := around ring ring.pucWrite }
      if ring.pucWrite = ring.pucAcquire then return (ring, memory)
      passWritten fuel ring memory
    else return (ring, memory)

def prvSendItemDoneNoSplit (memory : Memory) (pucItem : Nat) : Option (Ringbuffer × Memory) := do
  configAssert (pucItem % 4 = 0)
  configAssert (pucItem ≥ ring.pucHead)
  configAssert (pucItem ≤ ring.pucTail)
  let header := ItemHeader.read memory (pucItem - headerSize)
  configAssert (header.xItemLen ≤ xMaxItemSize ring)
  configAssert (header.has itemDummyDataFlag = false)
  configAssert (header.has itemWrittenFlag = false)
  let memory := ((header.clear itemSplitFlag).mark itemWrittenFlag).write memory (pucItem - headerSize)
  passWritten ring.xSize { ring with xItemsWaiting := ring.xItemsWaiting + 1 } memory

def prvCopyItemNoSplit (memory : Memory) (item : List UInt8) : Option (Ringbuffer × Memory) := do
  let (item_addr, ring, memory) ← prvAcquireItemNoSplit ring memory item.length
  prvSendItemDoneNoSplit ring (store memory item_addr item) item_addr

/-- Of a no-split buffer, in which the item must have been written. -/
def prvCheckItemAvail (memory : Memory) : Bool :=
  if ring.xItemsWaiting > 0 ∧ (ring.pucRead ≠ ring.pucWrite ∨ ring.bufferFull) then
    (ItemHeader.read memory ring.pucRead).has itemWrittenFlag
  else false

def prvGetItemDefault (memory : Memory) : Option (Nat × Nat × Ringbuffer) := do
  let header := ItemHeader.read memory ring.pucRead
  configAssert (ring.xItemsWaiting > 0 ∧ (ring.pucRead ≠ ring.pucWrite ∨ ring.bufferFull))
  configAssert (ring.pucRead % 4 = 0)
  configAssert (ring.pucHead ≤ ring.pucRead ∧ ring.pucRead < ring.pucTail)
  configAssert (header.xItemLen ≤ xMaxItemSize ring ∨ header.has itemDummyDataFlag)
  let (ring, header) ←
    if header.has itemDummyDataFlag then do
      let ring := { ring with pucRead := ring.pucHead }
      let header := ItemHeader.read memory ring.pucRead
      configAssert (header.xItemLen ≤ xMaxItemSize ring)
      pure (ring, header)
    else some (ring, header)
  let pcReturn := ring.pucRead + headerSize
  if header.xItemLen = 0 then configAssert (ring.pucHead ≤ pcReturn ∧ pcReturn ≤ ring.pucTail)
  else configAssert (ring.pucHead ≤ pcReturn ∧ pcReturn < ring.pucTail)
  let ring := { ring with
    xItemsWaiting := ring.xItemsWaiting - 1
    pucRead := around ring (ring.pucRead + (headerSize + alignSize header.xItemLen)) }
  return (pcReturn, header.xItemLen, ring)

/-- Move `pucFree` past the items that have been returned. -/
def passFreed : Nat → Ringbuffer → Memory → Option (Ringbuffer × Memory)
  | 0, _, _ => none
  | fuel + 1, ring, memory =>
    let header := ItemHeader.read memory ring.pucFree
    if (header.has itemFreeFlag ∨ header.has itemDummyDataFlag) ∧ ring.pucFree ≠ ring.pucRead then do
      let (ring, memory) ←
        if header.has itemDummyDataFlag then
          some ({ ring with pucFree := ring.pucHead }, (header.mark itemFreeFlag).write memory ring.pucFree)
        else do
          let ring := { ring with pucFree := ring.pucFree + (alignSize header.xItemLen + headerSize) }
          configAssert (ring.pucFree ≤ ring.pucHead + ring.xSize)
          pure (ring, memory)
      passFreed fuel { ring with pucFree := around ring ring.pucFree } memory
    else return (ring, memory)

def prvReturnItemDefault (memory : Memory) (pucItem : Nat) : Option (Ringbuffer × Memory) := do
  configAssert (pucItem % 4 = 0)
  configAssert (pucItem ≥ ring.pucHead)
  configAssert (pucItem ≤ ring.pucTail)
  let header := ItemHeader.read memory (pucItem - headerSize)
  configAssert (header.xItemLen ≤ xMaxItemSize ring)
  configAssert (header.has itemDummyDataFlag = false)
  configAssert (header.has itemFreeFlag = false)
  let memory := ((header.clear itemSplitFlag).mark itemFreeFlag).write memory (pucItem - headerSize)
  let (ring, memory) ← passFreed ring.xSize ring memory
  if ring.bufferFull then
    if ring.pucFree ≠ ring.pucAcquire then return ({ ring with bufferFull := false }, memory)
    else if ring.pucFree = ring.pucAcquire ∧ ring.pucFree = ring.pucRead then
      return ({ ring with bufferFull := false }, memory)
  return (ring, memory)

/-- What falls short of a header counts as nothing, so the subtraction that stops at zero is the code's. -/
def prvGetCurMaxSizeNoSplit : Nat :=
  if ring.bufferFull then 0
  else
    let xFreeSize :=
      if ring.pucAcquire < ring.pucFree then ring.pucFree - ring.pucAcquire
      else max (ring.pucTail - ring.pucAcquire) (ring.pucFree - ring.pucHead)
    min (xFreeSize - headerSize) (xMaxItemSize ring)

/-- Whether the item was accepted; a task that waits tries again. -/
def xRingbufferSend (memory : Memory) (item : List UInt8) : Option (Bool × Ringbuffer × Memory) := do
  if item.length > xMaxItemSize ring then return (false, ring, memory)
  if ← prvCheckItemFitsDefault ring item.length then
    let (ring, memory) ← prvCopyItemNoSplit ring memory item
    return (true, ring, memory)
  else return (false, ring, memory)

def xRingbufferReceive (memory : Memory) : Option (Option (Nat × Nat) × Ringbuffer) := do
  if prvCheckItemAvail ring memory then
    let (address, size, ring) ← prvGetItemDefault ring memory
    return (some (address, size), ring)
  else return (none, ring)

def vRingbufferReturnItem (memory : Memory) (pvItem : Nat) : Option (Ringbuffer × Memory) :=
  prvReturnItemDefault ring memory pvItem

end Nosplit
end LaserDriver.Rtos
