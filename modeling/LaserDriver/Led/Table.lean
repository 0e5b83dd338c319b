import LaserDriver.Lib.Pool
import LaserDriver.Led.System
import LaserDriver.Led.Locking

/-! What the scans and the additions do to the table. The capacity is at most 255:
the counter of the scans has to get past the last slot. -/

namespace LaserDriver.Led
open Effects Program

variable {capacity : Nat} {chance : Nat → Chance} {world after : World capacity}

/-- The first inactive slot, or the capacity when every slot is active. -/
structure FirstInactive (table : Vector LedInfo capacity) (index : Nat) : Prop where
  bounded : index ≤ capacity
  active : ∀ (slot : Nat) (inside : slot < capacity), slot < index → table[slot].activeFlag = true
  inactive : ∀ inside : index < capacity, table[index].activeFlag = false

theorem toNat_index {index : Nat} (small : capacity ≤ 255) (bounded : index ≤ capacity) :
    (UInt8.ofNat index).toNat = index := by
  rw [UInt8.toNat_ofNat']
  omega

section Loop
variable {stops : Fin capacity → Program (Op capacity) Bool} {rounds index : Nat}

theorem run_forEachLed_past (small : capacity ≤ 255) (past : index = capacity) :
    (forEachLed stops (rounds + 1) (UInt8.ofNat index)).run (serve chance) world = (some (UInt8.ofNat index), world) := by
  have counter := toNat_index small (Nat.le_of_eq past)
  rw [forEachLed, dif_neg (by omega), run_pure]

theorem run_forEachLed_inside {stopped : Bool} (small : capacity ≤ 255) (inside : index < capacity)
    (ran : (stops ⟨index, inside⟩).run (serve chance) world = (some stopped, after)) :
    (forEachLed stops (rounds + 1) (UInt8.ofNat index)).run (serve chance) world =
      if stopped then (some (UInt8.ofNat index), after)
      else (forEachLed stops rounds (UInt8.ofNat (index + 1))).run (serve chance) after := by
  have counter := toNat_index small (Nat.le_of_lt inside)
  have same : (⟨(UInt8.ofNat index).toNat, counter.symm ▸ inside⟩ : Fin capacity) = ⟨index, inside⟩ := Fin.ext counter
  rw [forEachLed, dif_pos (counter.symm ▸ inside), run_bind, same, ran, proceed_some, UInt8.ofNat_add]
  cases stopped <;> rfl

end Loop

theorem run_findInactive {free : Nat} (small : capacity ≤ 255) (first : FirstInactive world.table free) :
    findInactive.run (serve chance) world = (some (UInt8.ofNat free), world) := by
  -- the counter stands at a slot up to the first inactive one, with rounds enough to get there
  suffices scan : ∀ rounds index, index ≤ free → free < index + rounds →
      (forEachLed (fun index => do
        let info ← .send (.loadLed index)
        return info.activeFlag = false) rounds (UInt8.ofNat index)).run (serve chance) world =
        (some (UInt8.ofNat free), world) by
    have bounded := first.bounded
    exact scan 256 0 (Nat.zero_le _) (by omega)
  intro rounds
  induction rounds with
  | zero =>
    intro index behind enough
    omega
  | succ rounds ih =>
    intro index behind enough
    by_cases past : index = capacity
    · obtain rfl : index = free := Nat.le_antisymm behind (past ▸ first.bounded)
      exact run_forEachLed_past small past
    · have inside : index < capacity := Nat.lt_of_le_of_ne (Nat.le_trans behind first.bounded) past
      rw [run_forEachLed_inside small inside rfl]
      by_cases reached : index = free
      · subst reached
        simp [first.inactive inside]
      · have active := first.active index inside (by omega)
        simpa [active] using ih (index + 1) (by omega) (by omega)

theorem run_isTableFull {free : Nat} (small : capacity ≤ 255) (first : FirstInactive world.table free) :
    isTableFull.run (serve chance) world = (some (decide (free = capacity)), world) := by
  have bounded := first.bounded
  have full : free ≥ capacity ↔ free = capacity := by omega
  rw [isTableFull, run_bind, run_findInactive small first]
  simp [toNat_index small bounded, full]

theorem run_getFirstAvailableIndex {free : Nat} (small : capacity ≤ 255) (first : FirstInactive world.table free)
    (room : free < capacity) : getFirstAvailableIndex.run (serve chance) world = (some (UInt8.ofNat free), world) := by
  rw [getFirstAvailableIndex, run_bind, run_findInactive small first]
  simp [toNat_index small first.bounded, Nat.not_le.mpr room]

theorem available_index {free : Nat} (small : capacity ≤ 255) (room : free < capacity) :
    UInt8.ofNat free ≠ noAvailableIndex := by
  intro same
  have counter := toNat_index small (Nat.le_of_lt room)
  rw [same] at counter
  have last : noAvailableIndex.toNat = 255 := rfl
  omega

theorem run_clearTable (small : capacity ≤ 255) :
    ∃ index after, clearTable.run (serve chance) world = (some index, after) ∧ after.mutex = world.mutex ∧
      ∀ (slot : Nat) (inside : slot < capacity), after.table[slot].activeFlag = false := by
  suffices clear : ∀ rounds index (world : World capacity), index ≤ capacity → capacity < index + rounds →
      (∀ (slot : Nat) (inside : slot < capacity), slot < index → world.table[slot].activeFlag = false) →
      ∃ last after, (forEachLed (fun index => do
        let info ← .send (.loadLed index)
        .send (.storeLed index { info with activeFlag := false })
        return false) rounds (UInt8.ofNat index)).run (serve chance) world = (some last, after) ∧
        after.mutex = world.mutex ∧ ∀ (slot : Nat) (inside : slot < capacity), after.table[slot].activeFlag = false by
    exact clear 256 0 world (Nat.zero_le _) (by omega) nofun
  intro rounds
  induction rounds with
  | zero =>
    intro index world bounded enough
    omega
  | succ rounds ih =>
    intro index world bounded enough cleared
    by_cases past : index = capacity
    · refine ⟨_, world, run_forEachLed_past small past, rfl, ?_⟩
      intro slot inside
      exact cleared slot inside (by omega)
    · have inside : index < capacity := Nat.lt_of_le_of_ne bounded past
      rw [run_forEachLed_inside small inside rfl]
      apply ih (index + 1) _ (by omega) (by omega)
      intro slot within below
      by_cases same : slot = index
      · subst same
        simp
      · simpa [Vector.getElem_set, Ne.symm same] using cleared slot within (by omega)

theorem Initialised.cleared (small : capacity ≤ 255) (initialised : Initialised chance world) :
    world.mutex = .free ∧ ∀ (slot : Nat) (inside : slot < capacity), world.table[slot].activeFlag = false := by
  obtain ⟨before, ran⟩ := initialised
  by_cases memory : (chance before.clock).memory = true
  · obtain ⟨index, after, cleared, kept, inactive⟩ :=
      @run_clearTable capacity chance { before with mutex := .held, clock := before.clock + 1 } small
    simp [perform, Call.body, initDriver, Cfg.initDriver, run_bind, serve, memory, cleared, kept] at ran
    subst ran
    exact ⟨rfl, inactive⟩
  · simp [perform, Call.body, initDriver, Cfg.initDriver, run_bind, serve, memory] at ran

/-- The setup goes through whatever the peripherals answer. -/
def Settles (chance : Nat → Chance) (setup : Program (Op capacity) CfgRet) : Prop :=
  ∀ world, ∃ after, setup.run (serve chance) world = (some .ok, after) ∧
    after.table = world.table ∧ after.mutex = world.mutex

section Add
variable {setup : Program (Op capacity) CfgRet} {next : Ret × Option UInt8 → Program (Op capacity) Reply}

theorem serve_take (unlocked : world.mutex = .free) :
    serve chance .takeMutex world = (some (), { world with mutex := .held }) := by
  simp [serve, unlocked]

theorem serve_give (held : world.mutex = .held) :
    serve chance .giveMutex world = (some (), { world with mutex := .free }) := by
  simp [serve, held]

theorem toGive_leave {value : Ret × Option UInt8} (held : world.mutex = .held) :
    (leave value >>= next).toGive Op.role (serve chance) world = (some (next value), { world with mutex := .free }) :=
  toGive_give rfl (serve_give held)

theorem run_storeInfo {index : Nat} (small : capacity ≤ 255) (inside : index < capacity) (info : LedInfo) :
    (storeInfo (UInt8.ofNat index) info).run (serve chance) world =
      (some (), { world with table := world.table.set index info }) := by
  have counter := toNat_index small (Nat.le_of_lt inside)
  rw [storeInfo, dif_pos (counter.symm ▸ inside), run_send]
  simp only [serve, counter]

theorem turn_addLed_full (small : capacity ≤ 255) (first : FirstInactive world.table capacity)
    (unlocked : world.mutex = .free) (ledType : LedType) (config : LedConfig) :
    (addLed ledType config setup >>= next).turn Op.role (serve chance) world = (some (next (.error, none)), world) := by
  have scanned : isTableFull.run (serve chance) { world with mutex := .held } =
      (some true, { world with mutex := .held }) := by
    simpa using @run_isTableFull capacity chance { world with mutex := .held } capacity small first
  rw [addLed, Program.bind_assoc, turn_take rfl (serve_take unlocked)]
  rw [Program.bind_assoc, toGive_bind neutral_isTableFull scanned, if_pos rfl]
  rw [toGive_leave rfl, ← unlocked]

theorem turn_addLed_room {free : Nat} (small : capacity ≤ 255) (first : FirstInactive world.table free)
    (room : free < capacity) (unlocked : world.mutex = .free) (detached : Detached setup) (settles : Settles chance setup)
    (ledType : LedType) (config : LedConfig) :
    ∃ after, (addLed ledType config setup >>= next).turn Op.role (serve chance) world =
      (some (next (.ok, some (UInt8.ofNat free))), after) ∧ after.mutex = .free ∧
        after.table = world.table.set free ⟨ledType, true, config⟩ := by
  have scanned : isTableFull.run (serve chance) { world with mutex := .held } =
      (some false, { world with mutex := .held }) := by
    simpa [Nat.ne_of_lt room] using @run_isTableFull capacity chance { world with mutex := .held } free small first
  have found : getFirstAvailableIndex.run (serve chance) { world with mutex := .held } =
      (some (UInt8.ofNat free), { world with mutex := .held }) :=
    @run_getFirstAvailableIndex capacity chance { world with mutex := .held } free small first room
  obtain ⟨ready, set, table, mutex⟩ := settles { world with mutex := .held }
  -- one line for each statement of the addition, up to the give
  rw [addLed, Program.bind_assoc, turn_take rfl (serve_take unlocked)]
  rw [Program.bind_assoc, toGive_bind neutral_isTableFull scanned, if_neg nofun]
  rw [Program.bind_assoc, toGive_bind neutral_getFirstAvailableIndex found, if_neg (available_index small room)]
  rw [Program.bind_assoc, toGive_bind (neutral_of_detached detached) set, if_neg (by simp)]
  rw [Program.bind_assoc, toGive_bind (neutral_storeInfo _ _) (run_storeInfo small room _)]
  refine ⟨_, toGive_leave mutex, rfl, ?_⟩
  simp only [table]

end Add

theorem settles_setup (call : Call) : Settles chance (call.setup : Program (Op capacity) CfgRet) := by
  intro world
  cases call <;> exact ⟨_, rfl, rfl, rfl⟩

/-- An addition is one step: refused when every slot is active, and otherwise given the
first inactive slot. -/
theorem turn_addition {call : Call} {ledType : LedType} {config : LedConfig} {free : Nat} (small : capacity ≤ 255)
    (adds : call.addition? = some (ledType, config)) (first : FirstInactive world.table free)
    (unlocked : world.mutex = .free) :
    (free = capacity ∧
      call.body.turn Op.role (serve chance) world = (some (.pure (.added .error none)), world)) ∨
    ∃ (room : free < capacity) (after : World capacity),
      call.body.turn Op.role (serve chance) world = (some (.pure (.added .ok (some (UInt8.ofNat free)))), after) ∧
        after.mutex = .free ∧ after.table = world.table.set free ⟨ledType, true, config⟩ := by
  rw [addition_body adds]
  by_cases full : free = capacity
  · subst full
    exact .inl ⟨rfl, turn_addLed_full small first unlocked ledType config⟩
  · have room : free < capacity := Nat.lt_of_le_of_ne first.bounded full
    have added := @turn_addLed_room capacity chance world call.setup
      (fun result => Pure.pure (.added result.1 result.2)) free small first room unlocked
      (detached_setup call) (settles_setup call) ledType config
    exact .inr ⟨room, added⟩

/-- What neither the mutex nor the table notices. -/
def Same (world after : World capacity) : Prop := after.table = world.table ∧ after.mutex = world.mutex

theorem serve_detached {op : Op capacity β} (detached : Op.Detached β op) :
    ∃ reply after, serve chance op world = (some reply, after) ∧ Same world after := by
  cases op with
  | driver request => exact ⟨_, _, rfl, rfl, rfl⟩
  | ledcGetFreq timerNum => exact ⟨_, _, rfl, rfl, rfl⟩
  | reinterpret member => exact ⟨_, _, rfl, rfl, rfl⟩
  | _ => exact detached.elim

/-- The next step leaves the mutex and the table as they are, and what follows does not reach them. -/
def Passes (chance : Nat → Chance) (world : World capacity) (program : Program (Op capacity) α) : Prop :=
  ∃ rest after, program.turn Op.role (serve chance) world = (some rest, after) ∧ Detached rest ∧ Same world after

theorem Passes.turned {program rest : Program (Op capacity) α} (passes : Passes chance world program)
    (turned : program.turn Op.role (serve chance) world = (some rest, after)) : Detached rest ∧ Same world after := by
  obtain ⟨remaining, reached, moved, detached, same⟩ := passes
  obtain ⟨rfl, rfl⟩ : remaining = rest ∧ reached = after := by simpa using moved.symm.trans turned
  exact ⟨detached, same⟩

theorem passes_detached {program : Program (Op capacity) α} (detached : Detached program) :
    Passes chance world program := by
  cases program with
  | pure value => exact ⟨_, world, rfl, trivial, rfl, rfl⟩
  | request op next =>
    obtain ⟨reply, after, served, same⟩ := @serve_detached capacity chance world _ op detached.1
    exact ⟨next reply, after, turn_operate (neutral_of_detached detached).1 served, detached.2 reply, same⟩

theorem passes_operation {call : Call} {ledHandle : UInt8} (operates : call.ledHandle? = some ledHandle)
    (unlocked : world.mutex = .free) : Passes chance world call.body := by
  obtain ⟨operate, shape, detached⟩ : Opens ledHandle call.refusal (call.body : Program (Op capacity) Reply) :=
    opens_body operates
  rw [shape]
  by_cases inside : ledHandle.toNat < capacity
  · rw [Passes, withLed, dif_pos inside, turn_take rfl (serve_take unlocked)]
    rw [toGive_bind (Only.send rfl) (run_send _ _), toGive_give rfl (serve_give rfl)]
    refine ⟨_, _, rfl, ?_, rfl, unlocked.symm⟩
    split
    · trivial
    · exact detached _
  · rw [withLed, dif_neg inside]
    exact ⟨_, world, rfl, trivial, rfl, rfl⟩

end LaserDriver.Led
