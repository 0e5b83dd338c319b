import Mathlib.Logic.Basic

/-! Items laid out around a circle of places in a memory. -/

namespace Effects

variable {α : Type}

/-- `memcpy` to an address. -/
def store (memory : Nat → α) (address : Nat) (items : List α) : Nat → α :=
  fun place => if address ≤ place then items[place - address]?.getD (memory place) else memory place

/-- `memcpy` from an address. -/
def load (memory : Nat → α) (address length : Nat) : List α :=
  (List.range length).map fun i => memory (address + i)

theorem store_apply (memory : Nat → α) {address place : Nat} {items : List α} {item : α}
    (inside : address ≤ place) (found : items[place - address]? = some item) :
    store memory address items place = item := by
  rw [store, if_pos inside, found, Option.getD_some]

theorem store_outside (memory : Nat → α) {address place : Nat} {items : List α}
    (outside : place < address ∨ address + items.length ≤ place) : store memory address items place = memory place := by
  unfold store
  split
  · have past : items.length ≤ place - address := by omega
    rw [List.getElem?_eq_none past, Option.getD_none]
  · rfl

@[simp] theorem length_load (memory : Nat → α) (address length : Nat) : (load memory address length).length = length := by
  simp [load]

theorem load_congr {memory other : Nat → α} {address length : Nat}
    (same : ∀ i < length, memory (address + i) = other (address + i)) :
    load memory address length = load other address length :=
  List.map_congr_left fun i inside => same i (List.mem_range.mp inside)

theorem load_add (memory : Nat → α) (address length more : Nat) :
    load memory address (length + more) = load memory address length ++ load memory (address + length) more := by
  unfold load
  rw [List.range_add, List.map_append, List.map_map]
  congr 1
  apply List.map_congr_left
  intro i _
  rw [Function.comp, Nat.add_assoc]

theorem load_store (memory : Nat → α) (address : Nat) (items : List α) :
    load (store memory address items) address items.length = items := by
  apply List.ext_getElem?
  intro i
  by_cases inside : i < items.length
  · have found : items[address + i - address]? = some items[i] := by
      rw [Nat.add_sub_cancel_left, List.getElem?_eq_getElem inside]
    rw [List.getElem?_eq_getElem inside, load, List.getElem?_map, List.getElem?_range inside, Option.map_some,
      store_apply memory (Nat.le_add_right _ _) found]
  · rw [List.getElem?_eq_none (by simpa using inside), List.getElem?_eq_none (by simpa using inside)]

/-- The places from `head` on, of which the last one is followed by the first. -/
structure Storage where
  head : Nat
  size : Nat

namespace Storage
variable (circle : Storage)

def Has (place : Nat) : Prop := circle.head ≤ place ∧ place < circle.head + circle.size

/-- The place `offset` steps further round. -/
def after (start offset : Nat) : Nat :=
  if start + offset < circle.head + circle.size then start + offset else start + offset - circle.size

def contents (memory : Nat → α) (start length : Nat) : List α :=
  (List.range length).map fun i => memory (circle.after start i)

variable {circle} {memory : Nat → α} {start offset length : Nat}

theorem after_inside (inside : start + offset < circle.head + circle.size) : circle.after start offset = start + offset :=
  if_pos inside

theorem after_end (reached : start + offset = circle.head + circle.size) : circle.after start offset = circle.head := by
  rw [after, if_neg (by omega)]
  omega

theorem after_cases (circle : Storage) (start offset : Nat) :
    (start + offset < circle.head + circle.size ∧ circle.after start offset = start + offset) ∨
    (circle.head + circle.size ≤ start + offset ∧ circle.after start offset = start + offset - circle.size) := by
  unfold Storage.after
  split
  · rename_i inside
    exact .inl ⟨inside, rfl⟩
  · rename_i past
    exact .inr ⟨Nat.le_of_not_lt past, rfl⟩

theorem after_zero (has : circle.Has start) : circle.after start 0 = start := if_pos has.2

theorem Has.after (has : circle.Has start) (bounded : offset ≤ circle.size) : circle.Has (circle.after start offset) := by
  obtain ⟨above, below⟩ := has
  unfold Storage.after Has
  split <;> omega

theorem after_add (has : circle.Has start) {more : Nat} (bounded : offset + more ≤ circle.size) :
    circle.after (circle.after start offset) more = circle.after start (offset + more) := by
  obtain ⟨above, below⟩ := has
  unfold Storage.after
  repeat' split
  all_goals omega

theorem after_eq_start (has : circle.Has start) (bounded : offset ≤ circle.size) :
    circle.after start offset = start ↔ offset = 0 ∨ offset = circle.size := by
  obtain ⟨above, below⟩ := has
  obtain ⟨inside, stepped⟩ | ⟨past, stepped⟩ := circle.after_cases start offset <;> omega

/-- Less than once round, different steps lead to different places. -/
theorem after_ne (has : circle.Has start) {first second : Nat} (less : first < second) (bounded : second < circle.size) :
    circle.after start first ≠ circle.after start second := by
  obtain ⟨above, below⟩ := has
  unfold Storage.after
  split <;> split <;> omega

theorem after_apart (has : circle.Has start) {piece other : Nat} (bounded : offset + piece ≤ circle.size)
    (apart : other < offset ∨ offset + piece ≤ other) (inside : other < circle.size) :
    circle.after start other < circle.after start offset ∨ circle.after start offset + piece ≤ circle.after start other := by
  obtain ⟨above, below⟩ := has
  obtain ⟨short, stepped⟩ | ⟨far, stepped⟩ := circle.after_cases start offset <;>
    obtain ⟨near, reached⟩ | ⟨past, reached⟩ := circle.after_cases start other <;> omega

theorem outside_row {place row piece bound : Nat} (along : ∀ i < piece, circle.after start (offset + i) = row + i)
    (bounded : offset + piece ≤ bound) (apart : ∀ other < bound, place ≠ circle.after start other) :
    place < row ∨ row + piece ≤ place := by
  apply Classical.byContradiction
  intro within
  obtain ⟨i, rfl⟩ : ∃ i, place = row + i := ⟨place - row, by omega⟩
  exact apart (offset + i) (by omega) (along i (by omega)).symm

theorem outside_straight {place piece bound : Nat} (straight : start + piece ≤ circle.head + circle.size)
    (bounded : piece ≤ bound) (apart : ∀ other < bound, place ≠ circle.after start other) :
    place < start ∨ start + piece ≤ place := by
  have along : ∀ i < piece, circle.after start (0 + i) = start + i := by
    intro i inside
    rw [Nat.zero_add]
    exact after_inside (by omega)
  exact outside_row along (by omega) apart

@[simp] theorem length_contents : (circle.contents memory start length).length = length := by
  simp [contents]

theorem load_eq_contents (straight : start + length ≤ circle.head + circle.size) :
    load memory start length = circle.contents memory start length := by
  apply List.map_congr_left
  intro i inside
  have before : start + i < circle.head + circle.size := by
    have := List.mem_range.mp inside
    omega
  rw [Storage.after, if_pos before]

theorem contents_add (has : circle.Has start) {more : Nat} (bounded : length + more ≤ circle.size) :
    circle.contents memory start (length + more) =
      circle.contents memory start length ++ circle.contents memory (circle.after start length) more := by
  unfold contents
  rw [List.range_add, List.map_append, List.map_map]
  congr 1
  apply List.map_congr_left
  intro i inside
  have inside := List.mem_range.mp inside
  rw [Function.comp, after_add has (by omega)]

theorem contents_congr {other : Nat → α} (same : ∀ i < length, memory (circle.after start i) = other (circle.after start i)) :
    circle.contents memory start length = circle.contents other start length :=
  List.map_congr_left fun i inside => same i (List.mem_range.mp inside)

/-- Items written in a row behind the contents are the contents that follow. -/
theorem contents_store (has : circle.Has start) {items : List α} (bounded : length + items.length ≤ circle.size)
    (straight : circle.after start length + items.length ≤ circle.head + circle.size) :
    circle.contents (store memory (circle.after start length) items) start (length + items.length) =
      circle.contents memory start length ++ items := by
  rw [contents_add has bounded]
  congr 1
  · apply contents_congr
    intro i inside
    apply store_outside
    exact after_apart has bounded (.inl inside) (by omega)
  · rw [← load_eq_contents straight]
    exact load_store memory _ items

theorem contents_store_around (has : circle.Has start) {first rest : List α}
    (bounded : length + first.length + rest.length ≤ circle.size)
    (reached : circle.after start length + first.length = circle.head + circle.size) :
    circle.contents (store (store memory (circle.after start length) first) circle.head rest) start
      (length + first.length + rest.length) = circle.contents memory start length ++ first ++ rest := by
  have back : circle.after start (length + first.length) = circle.head := by
    rw [← after_add has (by omega)]
    exact after_end reached
  have written : circle.contents (store memory (circle.after start length) first) start (length + first.length) =
      circle.contents memory start length ++ first := contents_store has (by omega) (by omega)
  rw [← written, ← back]
  refine contents_store has bounded ?_
  rw [back]
  omega

theorem contents_succ (has : circle.Has start) (bounded : length + 1 ≤ circle.size) :
    circle.contents memory start (length + 1) = memory start :: circle.contents memory (circle.after start 1) length := by
  have first : circle.contents memory start 1 = [memory start] := by
    simp [contents, after_zero has]
  rw [Nat.add_comm length 1, contents_add has (by omega), first, List.singleton_append]

def before (circle : Storage) (start : Nat) : Nat :=
  if start = circle.head then circle.head + circle.size - 1 else start - 1

theorem Has.before (has : circle.Has start) : circle.Has (circle.before start) := by
  obtain ⟨above, below⟩ := has
  unfold Storage.before Has
  split <;> omega

theorem after_before (has : circle.Has start) : circle.after (circle.before start) 1 = start := by
  obtain ⟨above, below⟩ := has
  unfold Storage.before Storage.after
  split <;> split <;> omega

theorem contents_front (has : circle.Has start) (bounded : length + 1 ≤ circle.size) (item : α) :
    circle.contents (store memory start [item]) start (length + 1) =
      item :: circle.contents memory (circle.after start 1) length := by
  have written : store memory start [item] start = item := store_apply memory (Nat.le_refl start) (by simp)
  rw [contents_succ has bounded, written]
  congr 1
  apply contents_congr
  intro i inside
  rw [after_add has (by omega)]
  have other : circle.after start 0 ≠ circle.after start (1 + i) := after_ne has (by omega) (by omega)
  rw [after_zero has] at other
  apply store_outside
  rw [List.length_singleton]
  omega

/-- Items written from a place on, and on from the first place behind the last one. -/
def put (circle : Storage) (memory : Nat → α) (start : Nat) (items : List α) : Nat → α :=
  let remaining := circle.head + circle.size - start
  if remaining < items.length then store (store memory start (items.take remaining)) circle.head (items.drop remaining)
  else store memory start items

theorem contents_put (has : circle.Has start) {items : List α} (bounded : length + items.length ≤ circle.size) :
    circle.contents (circle.put memory (circle.after start length) items) start (length + items.length) =
      circle.contents memory start length ++ items := by
  have place : circle.Has (circle.after start length) := has.after (by omega)
  obtain ⟨above, below⟩ := place
  by_cases wraps : circle.head + circle.size - circle.after start length < items.length
  · rw [put, if_pos wraps]
    generalize first : items.take (circle.head + circle.size - circle.after start length) = front
    generalize second : items.drop (circle.head + circle.size - circle.after start length) = back
    have whole : front ++ back = items := by rw [← first, ← second, List.take_append_drop]
    have taken : front.length = circle.head + circle.size - circle.after start length := by
      rw [← first, List.length_take]
      omega
    rw [← whole, List.length_append, ← List.append_assoc, ← Nat.add_assoc]
    rw [← whole, List.length_append] at bounded
    exact contents_store_around has (by omega) (by omega)
  · rw [put, if_neg wraps]
    exact contents_store has bounded (by omega)

theorem put_outside (memory : Nat → α) (has : circle.Has start) {items : List α} (bounded : items.length ≤ circle.size)
    {place : Nat} (outside : ¬ circle.Has place) : circle.put memory start items place = memory place := by
  unfold Has at has outside
  unfold put
  split
  · rw [store_outside _ (by rw [List.length_drop]; omega), store_outside _ (by rw [List.length_take]; omega)]
  · exact store_outside memory (by omega)

end Storage
end Effects
