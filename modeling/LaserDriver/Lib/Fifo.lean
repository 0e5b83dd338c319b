import Mathlib.Logic.Basic

/-! First-in first-out queues of a fixed capacity. -/

namespace Effects

structure Fifo (α : Type) (capacity : Nat) where
  items : List α
  bounded : items.length ≤ capacity

namespace Fifo
variable {α : Type} {capacity : Nat}

def empty : Fifo α capacity := ⟨[], Nat.zero_le capacity⟩

def send (queue : Fifo α capacity) (item : α) : Option (Fifo α capacity) :=
  if room : queue.items.length < capacity then some ⟨queue.items ++ [item], List.length_append ▸ room⟩ else none

def receive (queue : Fifo α capacity) : Option (α × Fifo α capacity) :=
  match queue with
  | ⟨[], _⟩ => none
  | ⟨item :: rest, bounded⟩ => some (item, ⟨rest, Nat.le_of_succ_le bounded⟩)

theorem items_of_send {queue after : Fifo α capacity} {item : α} (sent : queue.send item = some after) :
    after.items = queue.items ++ [item] := by
  unfold send at sent
  split at sent
  · exact congrArg items (Option.some.inj sent).symm
  · cases sent

theorem items_of_receive {queue after : Fifo α capacity} {item : α} (received : queue.receive = some (item, after)) :
    queue.items = item :: after.items := by
  obtain ⟨items, bounded⟩ := queue
  cases items with
  | nil => cases received
  | cons first rest =>
    obtain ⟨rfl, rfl⟩ := Prod.mk.inj (Option.some.inj received)
    rfl

end Fifo
end Effects
