import Mathlib.Tactic.SplitIfs
import LaserDriver.Lib.Fifo
import LaserDriver.Rtos.Ringbuf

/-! The queues of `queue.c`. A call looks at the queue in a critical section; where it cannot
go on it leaves, or blocks and looks again, and either way the queue stays as it is. So a run
is a sequence of such looks, by whatever tasks and interrupts. -/

namespace LaserDriver.Rtos
open Effects

def sizeMax : Nat := 0xFFFFFFFF

/-- The members that say where the messages are. -/
structure Queue where
  pcHead : Nat
  pcTail : Nat
  pcWriteTo : Nat
  pcReadFrom : Nat
  uxMessagesWaiting : Nat
  uxLength : Nat
  uxItemSize : Nat
  deriving Repr, DecidableEq

inductive CopyPosition where
  | sendToBack | sendToFront | overwrite
  deriving Repr, DecidableEq

namespace Queue
variable (queue : Queue)

/-- The rest of the members is about the tasks that wait. -/
def xQueueGenericReset : Option Queue := do
  configAssert (queue.uxLength ≥ 1 ∧ sizeMax / queue.uxLength ≥ queue.uxItemSize)
  return { queue with
    pcTail := queue.pcHead + queue.uxLength * queue.uxItemSize
    uxMessagesWaiting := 0
    pcWriteTo := queue.pcHead
    pcReadFrom := queue.pcHead + (queue.uxLength - 1) * queue.uxItemSize }

def prvCopyDataToQueue (memory : Memory) (item : List UInt8) (xPosition : CopyPosition) : Queue × Memory :=
  if queue.uxItemSize = 0 then ({ queue with uxMessagesWaiting := queue.uxMessagesWaiting + 1 }, memory)
  else if xPosition = .sendToBack then
    let pcWriteTo := queue.pcWriteTo + queue.uxItemSize
    ({ queue with
        pcWriteTo := if pcWriteTo ≥ queue.pcTail then queue.pcHead else pcWriteTo
        uxMessagesWaiting := queue.uxMessagesWaiting + 1 },
      store memory queue.pcWriteTo item)
  else
    let pcReadFrom := queue.pcReadFrom - queue.uxItemSize
    let uxMessagesWaiting :=
      if xPosition = .overwrite ∧ queue.uxMessagesWaiting > 0 then queue.uxMessagesWaiting - 1 else queue.uxMessagesWaiting
    ({ queue with
        pcReadFrom := if pcReadFrom < queue.pcHead then queue.pcTail - queue.uxItemSize else pcReadFrom
        uxMessagesWaiting := uxMessagesWaiting + 1 },
      store memory queue.pcReadFrom item)

def prvCopyDataFromQueue (memory : Memory) : List UInt8 × Queue :=
  if queue.uxItemSize ≠ 0 then
    let next := queue.pcReadFrom + queue.uxItemSize
    let pcReadFrom := if next ≥ queue.pcTail then queue.pcHead else next
    (load memory pcReadFrom queue.uxItemSize, { queue with pcReadFrom })
  else ([], queue)

end Queue

/-- A look at a queue: `xQueueGenericSend`, `xQueueReceive`, `xQueuePeek`, those of them for
interrupts, and the functions that do not wait. -/
inductive Look where
  | send (pvItemToQueue : Memory) (xCopyPosition : CopyPosition)
  | receive
  | peek
  | reset
  | messagesWaiting
  | spacesAvailable

/-- A call that has to leave or to wait finds the queue `full` or `empty`. -/
inductive Answer where
  | pass
  | full
  | empty
  | item (item : List UInt8)
  | count (count : Nat)
  deriving Repr, DecidableEq

/-- `none` is an assertion that fails. -/
def Look.perform (look : Look) : Queue × Memory → Option Answer × (Queue × Memory)
  | (queue, memory) =>
    match look with
    | .send pvItemToQueue xCopyPosition =>
      if xCopyPosition = .overwrite ∧ queue.uxLength ≠ 1 then (none, queue, memory)
      else if queue.uxMessagesWaiting < queue.uxLength ∨ xCopyPosition = .overwrite then
        (some .pass, queue.prvCopyDataToQueue memory (load pvItemToQueue 0 queue.uxItemSize) xCopyPosition)
      else (some .full, queue, memory)
    | .receive =>
      if queue.uxMessagesWaiting > 0 then
        let (item, read) := queue.prvCopyDataFromQueue memory
        (some (.item item), { read with uxMessagesWaiting := queue.uxMessagesWaiting - 1 }, memory)
      else (some .empty, queue, memory)
    | .peek =>
      if queue.uxMessagesWaiting > 0 then
        let (item, read) := queue.prvCopyDataFromQueue memory
        (some (.item item), { read with pcReadFrom := queue.pcReadFrom }, memory)
      else (some .empty, queue, memory)
    | .reset =>
      match queue.xQueueGenericReset with
      | none => (none, queue, memory)
      | some after => (some .pass, after, memory)
    | .messagesWaiting => (some (.count queue.uxMessagesWaiting), queue, memory)
    | .spacesAvailable => (some (.count (queue.uxLength - queue.uxMessagesWaiting)), queue, memory)

/-- What a queue of that length is for: a list of messages of that size, oldest first. -/
def Look.answer (uxLength uxItemSize : Nat) (look : Look) (items : List (List UInt8)) :
    Option Answer × List (List UInt8) :=
  match look with
  | .send pvItemToQueue xCopyPosition =>
    let item := load pvItemToQueue 0 uxItemSize
    match xCopyPosition with
    | .sendToBack => if items.length < uxLength then (some .pass, items ++ [item]) else (some .full, items)
    | .sendToFront => if items.length < uxLength then (some .pass, item :: items) else (some .full, items)
    | .overwrite => if uxLength = 1 then (some .pass, [item]) else (none, items)
  | .receive =>
    match items with
    | [] => (some .empty, [])
    | item :: rest => (some (.item item), rest)
  | .peek =>
    match items with
    | [] => (some .empty, [])
    | item :: _ => (some (.item item), items)
  | .reset => (some .pass, [])
  | .messagesWaiting => (some (.count items.length), items)
  | .spacesAvailable => (some (.count (uxLength - items.length)), items)

namespace Queue
variable {queue : Queue} {memory : Memory} {items : List (List UInt8)}

def slot (queue : Queue) (memory : Memory) (index : Nat) : List UInt8 :=
  load memory (queue.pcHead + index * queue.uxItemSize) queue.uxItemSize

def slots (queue : Queue) : Storage := ⟨0, queue.uxLength⟩

/-- The messages lie in the slots from the one after `last` on. -/
structure Placed (queue : Queue) (memory : Memory) (items : List (List UInt8)) (last : Nat) : Prop where
  inside : last < queue.uxLength
  readFrom : queue.pcReadFrom = queue.pcHead + last * queue.uxItemSize
  writeTo : queue.pcWriteTo =
    queue.pcHead + queue.slots.after (queue.slots.after last 1) items.length * queue.uxItemSize
  found : queue.slots.contents (queue.slot memory) (queue.slots.after last 1) items.length = items

structure Stored (uxLength uxItemSize : Nat) (queue : Queue) (memory : Memory) (items : List (List UInt8)) : Prop where
  length : queue.uxLength = uxLength
  itemSize : queue.uxItemSize = uxItemSize
  positive : 0 < uxLength
  counted : queue.uxMessagesWaiting = items.length
  bounded : items.length ≤ uxLength
  sized : ∀ item ∈ items, item.length = uxItemSize
  tail : queue.pcTail = queue.pcHead + uxLength * uxItemSize
  fits : sizeMax / uxLength ≥ uxItemSize
  -- so that `pcReadFrom` can go one item below `pcHead`
  room : uxItemSize ≤ queue.pcHead
  placed : 0 < uxItemSize → ∃ last, queue.Placed memory items last

theorem has_iff {index : Nat} : queue.slots.Has index ↔ index < queue.uxLength := by
  simp [Storage.Has, slots]

theorem Placed.first {last : Nat} (placed : queue.Placed memory items last) :
    queue.slots.Has (queue.slots.after last 1) := by
  have inside := placed.inside
  apply Storage.Has.after
  · exact has_iff.mpr inside
  · exact Nat.succ_le_of_lt (Nat.zero_lt_of_lt inside)

section Places
variable {last : Nat} (inside : last < queue.uxLength)
include inside

theorem next_place (sized : 0 < queue.uxItemSize) :
    (if queue.pcHead + last * queue.uxItemSize + queue.uxItemSize ≥ queue.pcHead + queue.uxLength * queue.uxItemSize
      then queue.pcHead else queue.pcHead + last * queue.uxItemSize + queue.uxItemSize) =
      queue.pcHead + queue.slots.after last 1 * queue.uxItemSize := by
  have step : (last + 1) * queue.uxItemSize = last * queue.uxItemSize + queue.uxItemSize := Nat.succ_mul _ _
  obtain ⟨further, stepped⟩ | ⟨around, stepped⟩ := queue.slots.after_cases last 1
  · rw [stepped, step]
    have below : (last + 1) * queue.uxItemSize < queue.uxLength * queue.uxItemSize := by
      apply Nat.mul_lt_mul_of_pos_right _ sized
      simpa [slots] using further
    rw [if_neg (by omega), Nat.add_assoc]
  · have ends : last + 1 = queue.uxLength := by
      simp only [slots] at around
      omega
    have zero : last + 1 - queue.slots.size = 0 := by
      simp only [slots]
      omega
    rw [stepped, zero, Nat.zero_mul, Nat.add_zero, if_pos]
    rw [← ends, step]
    omega

theorem previous_place (sized : 0 < queue.uxItemSize) (room : queue.uxItemSize ≤ queue.pcHead) :
    (if queue.pcHead + last * queue.uxItemSize - queue.uxItemSize < queue.pcHead
      then queue.pcHead + queue.uxLength * queue.uxItemSize - queue.uxItemSize
      else queue.pcHead + last * queue.uxItemSize - queue.uxItemSize) =
      queue.pcHead + queue.slots.before last * queue.uxItemSize := by
  cases last with
  | zero =>
    obtain ⟨most, length⟩ : ∃ most, queue.uxLength = most + 1 := ⟨queue.uxLength - 1, by omega⟩
    have step : (most + 1) * queue.uxItemSize = most * queue.uxItemSize + queue.uxItemSize := Nat.succ_mul _ _
    have ends : queue.slots.before 0 = most := by simp [Storage.before, slots, length]
    rw [if_pos (by omega), length, step, ends]
    omega
  | succ before =>
    have step : (before + 1) * queue.uxItemSize = before * queue.uxItemSize + queue.uxItemSize := Nat.succ_mul _ _
    have back : queue.slots.before (before + 1) = before := by simp [Storage.before, slots]
    rw [step, if_neg (by omega), back]
    omega

end Places

theorem slot_store (memory : Memory) {item : List UInt8} (index : Nat) (sized : item.length = queue.uxItemSize) :
    queue.slot (store memory (queue.pcHead + index * queue.uxItemSize) item) = store (queue.slot memory) index [item] := by
  funext other
  by_cases same : other = index
  · subst same
    have written : store (queue.slot memory) other [item] other = item :=
      store_apply _ (Nat.le_refl other) (by simp)
    rw [written]
    apply List.ext_getElem?
    intro i
    by_cases inside : i < item.length
    · have found : item[queue.pcHead + other * queue.uxItemSize + i - (queue.pcHead + other * queue.uxItemSize)]? =
          some item[i] := by
        rw [Nat.add_sub_cancel_left, List.getElem?_eq_getElem inside]
      rw [slot, load, List.getElem?_map, List.getElem?_range (sized ▸ inside), Option.map_some,
        store_apply memory (Nat.le_add_right _ _) found, List.getElem?_eq_getElem inside]
    · rw [List.getElem?_eq_none (by simpa [slot, load, ← sized] using inside), List.getElem?_eq_none (Nat.le_of_not_lt inside)]
  · have kept : store (queue.slot memory) index [item] other = queue.slot memory other := by
      apply store_outside
      rw [List.length_singleton]
      omega
    rw [kept]
    apply List.map_congr_left
    intro i inside
    have inside := List.mem_range.mp inside
    apply store_outside
    rw [sized]
    rcases Nat.lt_or_gt_of_ne same with less | more
    · have below : (other + 1) * queue.uxItemSize ≤ index * queue.uxItemSize := Nat.mul_le_mul_right _ less
      rw [Nat.succ_mul] at below
      omega
    · have above : (index + 1) * queue.uxItemSize ≤ other * queue.uxItemSize := Nat.mul_le_mul_right _ more
      rw [Nat.succ_mul] at above
      omega

section Looks
variable {uxLength uxItemSize last : Nat} {item : List UInt8}

theorem copy_back (positive : 0 < queue.uxItemSize) : queue.prvCopyDataToQueue memory item .sendToBack =
    ({ queue with
        pcWriteTo := if queue.pcWriteTo + queue.uxItemSize ≥ queue.pcTail then queue.pcHead
          else queue.pcWriteTo + queue.uxItemSize
        uxMessagesWaiting := queue.uxMessagesWaiting + 1 }, store memory queue.pcWriteTo item) := by
  rw [prvCopyDataToQueue, if_neg (Nat.ne_of_gt positive), if_pos rfl]

theorem Placed.back (placed : queue.Placed memory items last) (sized : item.length = queue.uxItemSize)
    (positive : 0 < queue.uxItemSize) (room : items.length < queue.uxLength)
    (tail : queue.pcTail = queue.pcHead + queue.uxLength * queue.uxItemSize) :
    (queue.prvCopyDataToQueue memory item .sendToBack).1.Placed (queue.prvCopyDataToQueue memory item .sendToBack).2
      (items ++ [item]) last := by
  have first := placed.first
  obtain ⟨inside, readFrom, writeTo, found⟩ := placed
  have slot : queue.slots.Has (queue.slots.after (queue.slots.after last 1) items.length) := first.after (Nat.le_of_lt room)
  rw [copy_back positive, writeTo, tail, next_place (has_iff.mp slot) positive, Storage.after_add first room]
  refine ⟨inside, readFrom, ?_, ?_⟩
  · rw [List.length_append]
    rfl
  · have stored := @Storage.contents_store _ queue.slots (queue.slot memory) _ _ first [item] room slot.2
    rw [← slot_store memory _ sized, found] at stored
    rw [List.length_append]
    exact stored

theorem copy_front {xPosition : CopyPosition} (positive : 0 < queue.uxItemSize) (front : xPosition ≠ .sendToBack) :
    queue.prvCopyDataToQueue memory item xPosition =
      ({ queue with
          pcReadFrom := if queue.pcReadFrom - queue.uxItemSize < queue.pcHead then queue.pcTail - queue.uxItemSize
            else queue.pcReadFrom - queue.uxItemSize
          uxMessagesWaiting := (if xPosition = .overwrite ∧ queue.uxMessagesWaiting > 0 then queue.uxMessagesWaiting - 1
            else queue.uxMessagesWaiting) + 1 }, store memory queue.pcReadFrom item) := by
  rw [prvCopyDataToQueue, if_neg (Nat.ne_of_gt positive), if_neg front]

theorem Placed.front {xPosition : CopyPosition} (placed : queue.Placed memory items last)
    (front : xPosition ≠ .sendToBack) (sized : item.length = queue.uxItemSize) (positive : 0 < queue.uxItemSize)
    (room : items.length < queue.uxLength) (below : queue.uxItemSize ≤ queue.pcHead)
    (tail : queue.pcTail = queue.pcHead + queue.uxLength * queue.uxItemSize) :
    (queue.prvCopyDataToQueue memory item xPosition).1.Placed (queue.prvCopyDataToQueue memory item xPosition).2
      (item :: items) (queue.slots.before last) := by
  obtain ⟨inside, readFrom, writeTo, found⟩ := placed
  have slot : queue.slots.Has last := has_iff.mpr inside
  have same := Storage.after_before slot
  rw [copy_front positive front, readFrom, tail, previous_place inside positive below]
  refine ⟨has_iff.mp slot.before, rfl, ?_, ?_⟩
  · have onwards : queue.slots.after (queue.slots.after (queue.slots.before last) 1) (items.length + 1) =
        queue.slots.after (queue.slots.after last 1) items.length := by
      rw [same, Nat.add_comm, ← Storage.after_add slot (Nat.add_comm 1 _ ▸ room)]
    rw [← onwards] at writeTo
    exact writeTo
  · have stored := @Storage.contents_front _ queue.slots (queue.slot memory) _ _ slot room item
    rw [← slot_store memory _ sized, found] at stored
    exact (congrArg (queue.slots.contents _ · (items.length + 1)) same).trans stored

/-- With one slot there is only one place. -/
theorem Placed.forget (placed : queue.Placed memory items last) (single : queue.uxLength = 1)
    (bounded : items.length ≤ queue.uxLength) : queue.Placed memory [] last := by
  obtain ⟨inside, readFrom, writeTo, found⟩ := placed
  obtain rfl : last = 0 := by omega
  have only : ∀ count ≤ 1, queue.slots.after 0 count = 0 := by
    intro count most
    unfold Storage.after slots
    split <;> dsimp only at * <;> omega
  refine ⟨inside, readFrom, ?_, rfl⟩
  rw [only 1 (Nat.le_refl 1), only _ (single ▸ bounded)] at writeTo
  rw [writeTo, only 1 (Nat.le_refl 1), List.length_nil, only 0 (Nat.zero_le 1)]

theorem copy_read (inside : last < queue.uxLength) (positive : 0 < queue.uxItemSize)
    (readFrom : queue.pcReadFrom = queue.pcHead + last * queue.uxItemSize)
    (tail : queue.pcTail = queue.pcHead + queue.uxLength * queue.uxItemSize) :
    queue.prvCopyDataFromQueue memory = (queue.slot memory (queue.slots.after last 1),
      { queue with pcReadFrom := queue.pcHead + queue.slots.after last 1 * queue.uxItemSize }) := by
  have next := next_place inside positive
  rw [← readFrom, ← tail] at next
  simp only [prvCopyDataFromQueue, if_pos (Nat.ne_of_gt positive), next, slot]

theorem Placed.read (placed : queue.Placed memory (item :: items) last) (positive : 0 < queue.uxItemSize)
    (bounded : items.length < queue.uxLength) (tail : queue.pcTail = queue.pcHead + queue.uxLength * queue.uxItemSize)
    (uxMessagesWaiting : Nat) :
    (queue.prvCopyDataFromQueue memory).1 = item ∧
      ({ (queue.prvCopyDataFromQueue memory).2 with uxMessagesWaiting := uxMessagesWaiting } : Queue).Placed memory items
        (queue.slots.after last 1) := by
  have first := placed.first
  obtain ⟨inside, readFrom, writeTo, found⟩ := placed
  rw [List.length_cons, Storage.contents_succ first bounded] at found
  obtain ⟨head, rest⟩ := List.cons.inj found
  have onwards : queue.slots.after (queue.slots.after last 1) (items.length + 1) =
      queue.slots.after (queue.slots.after (queue.slots.after last 1) 1) items.length := by
    rw [Storage.after_add first (Nat.add_comm 1 _ ▸ Nat.succ_le_of_lt bounded), Nat.add_comm]
  rw [copy_read inside positive readFrom tail]
  refine ⟨head, has_iff.mp first, rfl, ?_, rest⟩
  rw [List.length_cons, onwards] at writeTo
  exact writeTo

theorem copy_keeps (memory : Memory) (item : List UInt8) (xPosition : CopyPosition) :
    (queue.prvCopyDataToQueue memory item xPosition).1.pcHead = queue.pcHead ∧
      (queue.prvCopyDataToQueue memory item xPosition).1.pcTail = queue.pcTail ∧
      (queue.prvCopyDataToQueue memory item xPosition).1.uxLength = queue.uxLength ∧
      (queue.prvCopyDataToQueue memory item xPosition).1.uxItemSize = queue.uxItemSize := by
  unfold prvCopyDataToQueue
  split_ifs <;> exact ⟨rfl, rfl, rfl, rfl⟩

theorem copy_counts (memory : Memory) (item : List UInt8) {xPosition : CopyPosition} (adds : xPosition ≠ .overwrite) :
    (queue.prvCopyDataToQueue memory item xPosition).1.uxMessagesWaiting = queue.uxMessagesWaiting + 1 := by
  unfold prvCopyDataToQueue
  simp only [adds, false_and, if_false]
  split_ifs <;> rfl

end Looks

section Stored
variable {uxLength uxItemSize : Nat} {item : List UInt8}

theorem stored_reset (memory : Memory) (positive : 0 < queue.uxLength)
    (fits : sizeMax / queue.uxLength ≥ queue.uxItemSize) (room : queue.uxItemSize ≤ queue.pcHead) :
    ∃ after, queue.xQueueGenericReset = some after ∧ after.pcHead = queue.pcHead ∧
      Stored queue.uxLength queue.uxItemSize after memory [] := by
  refine ⟨{ queue with
    pcTail := queue.pcHead + queue.uxLength * queue.uxItemSize
    uxMessagesWaiting := 0
    pcWriteTo := queue.pcHead
    pcReadFrom := queue.pcHead + (queue.uxLength - 1) * queue.uxItemSize }, ?_, rfl, ?_⟩
  · rw [xQueueGenericReset, configAssert, if_pos ⟨positive, fits⟩]
    rfl
  · refine ⟨rfl, rfl, positive, rfl, Nat.zero_le _, nofun, rfl, fits, room, ?_⟩
    intro sized
    refine ⟨queue.uxLength - 1, Nat.sub_lt positive Nat.zero_lt_one, rfl, ?_, rfl⟩
    have around : queue.slots.after (queue.slots.after (queue.uxLength - 1) 1) 0 * queue.uxItemSize = 0 := by
      simp [Storage.after, slots, Nat.sub_add_cancel positive, positive]
    exact (congrArg (queue.pcHead + ·) around).symm

theorem Stored.reset (stored : Stored uxLength uxItemSize queue memory items) :
    ∃ after, queue.xQueueGenericReset = some after ∧ after.pcHead = queue.pcHead ∧
      Stored uxLength uxItemSize after memory [] := by
  obtain ⟨rfl, rfl, positive, -, -, -, -, fits, room, -⟩ := stored
  exact stored_reset memory positive fits room

/-- What a copy to the queue comes to, when the message finds its place. -/
theorem Stored.copied {xPosition : CopyPosition} {items' : List (List UInt8)}
    (stored : Stored uxLength uxItemSize queue memory items) (sized : ∀ item ∈ items', item.length = uxItemSize)
    (counted : (queue.prvCopyDataToQueue memory item xPosition).1.uxMessagesWaiting = items'.length)
    (bounded : items'.length ≤ uxLength)
    (placed : 0 < uxItemSize → ∃ last, (queue.prvCopyDataToQueue memory item xPosition).1.Placed
      (queue.prvCopyDataToQueue memory item xPosition).2 items' last) :
    Stored uxLength uxItemSize (queue.prvCopyDataToQueue memory item xPosition).1
      (queue.prvCopyDataToQueue memory item xPosition).2 items' := by
  obtain ⟨head, tail, length, itemSize⟩ := @copy_keeps queue memory item xPosition
  refine ⟨length.trans stored.length, itemSize.trans stored.itemSize, stored.positive, counted, bounded, sized, ?_,
    stored.fits, head.symm ▸ stored.room, placed⟩
  rw [tail, head]
  exact stored.tail

theorem Stored.sendToBack (stored : Stored uxLength uxItemSize queue memory items) (sized : item.length = uxItemSize)
    (room : items.length < uxLength) : Stored uxLength uxItemSize (queue.prvCopyDataToQueue memory item .sendToBack).1
      (queue.prvCopyDataToQueue memory item .sendToBack).2 (items ++ [item]) := by
  apply stored.copied
  · intro other member
    rcases List.mem_append.mp member with before | new
    · exact stored.sized other before
    · exact List.mem_singleton.mp new ▸ sized
  · have adds : CopyPosition.sendToBack ≠ .overwrite := nofun
    rw [copy_counts memory item adds, stored.counted, List.length_append, List.length_singleton]
  · rw [List.length_append]
    exact room
  · intro positive
    obtain ⟨rfl, rfl, -, -, -, -, tail, -, -, placed⟩ := stored
    obtain ⟨last, placed⟩ := placed positive
    exact ⟨last, placed.back sized positive room tail⟩

theorem Stored.sendToFront (stored : Stored uxLength uxItemSize queue memory items) (sized : item.length = uxItemSize)
    (room : items.length < uxLength) : Stored uxLength uxItemSize (queue.prvCopyDataToQueue memory item .sendToFront).1
      (queue.prvCopyDataToQueue memory item .sendToFront).2 (item :: items) := by
  apply stored.copied
  · exact List.forall_mem_cons.mpr ⟨sized, stored.sized⟩
  · have adds : CopyPosition.sendToFront ≠ .overwrite := nofun
    rw [copy_counts memory item adds, stored.counted, List.length_cons]
  · exact room
  · intro positive
    obtain ⟨rfl, rfl, -, -, -, -, tail, -, below, placed⟩ := stored
    obtain ⟨last, placed⟩ := placed positive
    exact ⟨_, placed.front nofun sized positive room below tail⟩

theorem Stored.overwrite (stored : Stored uxLength uxItemSize queue memory items) (sized : item.length = uxItemSize)
    (single : uxLength = 1) (positive : 0 < uxItemSize) :
    Stored uxLength uxItemSize (queue.prvCopyDataToQueue memory item .overwrite).1
      (queue.prvCopyDataToQueue memory item .overwrite).2 [item] := by
  have bounded := stored.bounded
  have counted := stored.counted
  apply stored.copied
  · exact List.forall_mem_singleton.mpr sized
  · have front : CopyPosition.overwrite ≠ .sendToBack := nofun
    rw [copy_front (stored.itemSize ▸ positive) front]
    simp only [true_and, List.length_singleton]
    split <;> omega
  · rw [List.length_singleton]
    exact stored.positive
  · intro _
    obtain ⟨rfl, rfl, most, -, -, -, tail, -, below, placed⟩ := stored
    obtain ⟨last, placed⟩ := placed positive
    exact ⟨_, (placed.forget single bounded).front nofun sized positive most below tail⟩

theorem Stored.read (stored : Stored uxLength uxItemSize queue memory (item :: items)) :
    (queue.prvCopyDataFromQueue memory).1 = item ∧
      Stored uxLength uxItemSize { (queue.prvCopyDataFromQueue memory).2 with
        uxMessagesWaiting := queue.uxMessagesWaiting - 1 } memory items := by
  obtain ⟨rfl, rfl, positive, counted, bounded, sized, tail, fits, below, placed⟩ := stored
  have fewer : queue.uxMessagesWaiting - 1 = items.length := by
    rw [counted, List.length_cons, Nat.add_sub_cancel]
  obtain ⟨first, rest⟩ := List.forall_mem_cons.mp sized
  by_cases semaphore : queue.uxItemSize = 0
  · have nothing : item = [] := List.eq_nil_of_length_eq_zero (first.trans semaphore)
    have read : queue.prvCopyDataFromQueue memory = ([], queue) := by
      rw [prvCopyDataFromQueue, if_neg (not_not_intro semaphore)]
    rw [read, nothing]
    refine ⟨rfl, rfl, rfl, positive, fewer, Nat.le_of_succ_le bounded, rest, tail, fits, below, ?_⟩
    intro sized
    exact absurd semaphore (Nat.ne_of_gt sized)
  · have wide : 0 < queue.uxItemSize := Nat.pos_of_ne_zero semaphore
    obtain ⟨last, placed⟩ := placed wide
    obtain ⟨same, moved⟩ := placed.read wide bounded tail (queue.uxMessagesWaiting - 1)
    have copied := @copy_read queue memory last placed.inside wide placed.readFrom tail
    rw [copied] at same moved ⊢
    exact ⟨same, rfl, rfl, positive, fewer, Nat.le_of_succ_le bounded, rest, tail, fits, below, fun _ => ⟨_, moved⟩⟩

theorem Stored.outside (stored : Stored uxLength uxItemSize queue memory items) (sized : item.length = uxItemSize)
    (xPosition : CopyPosition) {place : Nat}
    (outside : place < queue.pcHead ∨ queue.pcHead + uxLength * uxItemSize ≤ place) :
    (queue.prvCopyDataToQueue memory item xPosition).2 place = memory place := by
  obtain ⟨rfl, rfl, -, -, bounded, -, -, -, -, placed⟩ := stored
  by_cases semaphore : queue.uxItemSize = 0
  · rw [prvCopyDataToQueue, if_pos semaphore]
  · have positive : 0 < queue.uxItemSize := Nat.pos_of_ne_zero semaphore
    obtain ⟨last, placed⟩ := placed positive
    have slot : queue.slots.Has (queue.slots.after (queue.slots.after last 1) items.length) := placed.first.after bounded
    have elsewhere : ∀ index < queue.uxLength,
        store memory (queue.pcHead + index * queue.uxItemSize) item place = memory place := by
      intro index inside
      have below : (index + 1) * queue.uxItemSize ≤ queue.uxLength * queue.uxItemSize := Nat.mul_le_mul_right _ inside
      rw [Nat.succ_mul] at below
      apply store_outside
      omega
    by_cases back : xPosition = .sendToBack
    · rw [back, copy_back positive, placed.writeTo]
      exact elsewhere _ (has_iff.mp slot)
    · rw [copy_front positive back, placed.readFrom]
      exact elsewhere _ placed.inside

end Stored

/-- The queue holds the messages in the storage it was given, and nothing else of the memory has changed. -/
structure Refines (uxLength uxItemSize pcHead : Nat) (initial : Memory) (state : Queue × Memory)
    (items : List (List UInt8)) : Prop where
  stored : Stored uxLength uxItemSize state.1 state.2 items
  head : state.1.pcHead = pcHead
  outside : ∀ place, place < pcHead ∨ pcHead + uxLength * uxItemSize ≤ place → state.2 place = initial place

section Refinement
variable {uxLength uxItemSize pcHead : Nat} {initial : Memory}

theorem Refines.copy {item : List UInt8} {items' : List (List UInt8)} {xPosition : CopyPosition}
    (refines : Refines uxLength uxItemSize pcHead initial (queue, memory) items) (sized : item.length = uxItemSize)
    (stored : Stored uxLength uxItemSize (queue.prvCopyDataToQueue memory item xPosition).1
      (queue.prvCopyDataToQueue memory item xPosition).2 items') :
    Refines uxLength uxItemSize pcHead initial (queue.prvCopyDataToQueue memory item xPosition) items' := by
  obtain ⟨before, rfl, outside⟩ := refines
  refine ⟨stored, (copy_keeps memory item xPosition).1, ?_⟩
  intro place apart
  rw [before.outside sized xPosition apart]
  exact outside place apart

end Refinement
end Queue

section Simulation
variable {uxLength uxItemSize pcHead : Nat} {initial : Memory} {queue : Queue} {memory : Memory}
  {items : List (List UInt8)}
open Queue

end Simulation

section Fifo
variable {α : Type} {capacity size : Nat} (encode : α → List UInt8)

/-- A queue to which messages are only sent to the back is first-in first-out. -/
theorem answer_send_fifo (queue : Fifo α capacity) {item : α} {pvItemToQueue : Memory}
    (encoded : load pvItemToQueue 0 size = encode item) :
    (Look.send pvItemToQueue .sendToBack).answer capacity size (queue.items.map encode) =
      match queue.send item with
      | some after => (some .pass, after.items.map encode)
      | none => (some .full, queue.items.map encode) := by
  simp only [Look.answer, List.length_map, encoded]
  by_cases room : queue.items.length < capacity
  · rw [if_pos room, Fifo.send, dif_pos room]
    simp only [List.map_append, List.map_cons, List.map_nil]
  · rw [if_neg room, Fifo.send, dif_neg room]

theorem answer_receive_fifo (queue : Fifo α capacity) :
    Look.receive.answer capacity size (queue.items.map encode) =
      match queue.receive with
      | some (item, after) => (some (.item (encode item)), after.items.map encode)
      | none => (some .empty, queue.items.map encode) := by
  obtain ⟨items, bounded⟩ := queue
  cases items <;> rfl

end Fifo

end LaserDriver.Rtos
