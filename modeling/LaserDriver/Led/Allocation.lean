import Mathlib.Data.List.Nodup
import LaserDriver.Led.Table

/-! Handles of the LED driver over every interleaving of the calls of any tasks, from
a successful initialisation on. -/

namespace LaserDriver.Led
open Effects Program

variable {capacity : Nat} {chance : Nat → Chance}

/-- The table, the calls in progress and the calls that have returned. -/
abbrev Calls (capacity : Nat) := Pool (Op capacity) (World capacity) Call Reply

/-- Any number of steps of any tasks. Nobody initialises the driver a second time. -/
abbrev Leads (chance : Nat → Chance) : Calls capacity → Calls capacity → Prop :=
  Relation.ReflTransGen (Pool.Step Op.role (serve chance) Call.body (· ≠ .initDriver))

/-- What a call that returned put into the table, and the handle it returned. -/
def grant : Call × Reply → Option (Option UInt8 × LedInfo)
  | (call, .added .ok ledHandle) => call.addition?.map fun (ledType, config) => (ledHandle, ⟨ledType, true, config⟩)
  | _ => none

def granted (returned : List (Call × Reply)) : List (Option UInt8 × LedInfo) := returned.filterMap grant

/-- The table holds the granted LEDs, each in the slot its handle names, and nothing else. -/
structure Allotted (grants : List (Option UInt8 × LedInfo)) (world : World capacity) : Prop where
  unlocked : world.mutex = .free
  fits : grants.length ≤ capacity
  slots : ∀ (slot : Nat) (inside : slot < capacity) (entry : Option UInt8 × LedInfo), grants[slot]? = some entry →
    entry.1 = some (UInt8.ofNat slot) ∧ entry.2.activeFlag = true ∧ world.table[slot] = entry.2
  rest : ∀ (slot : Nat) (inside : slot < capacity), grants.length ≤ slot → world.table[slot].activeFlag = false

namespace Allotted
variable {grants : List (Option UInt8 × LedInfo)} {world after : World capacity}

theorem initial (small : capacity ≤ 255) (initialised : Initialised chance world) : Allotted [] world := by
  obtain ⟨unlocked, inactive⟩ := initialised.cleared small
  exact ⟨unlocked, Nat.zero_le _, nofun, fun slot inside _ => inactive slot inside⟩

theorem same (allotted : Allotted grants world) (same : Same world after) : Allotted grants after := by
  obtain ⟨table, mutex⟩ := same
  refine ⟨mutex.trans allotted.unlocked, allotted.fits, ?_, ?_⟩
  · intro slot inside entry listed
    rw [table]
    exact allotted.slots slot inside entry listed
  · intro slot inside past
    rw [table]
    exact allotted.rest slot inside past

theorem listed {slot : Nat} (allotted : Allotted grants world) (below : slot < grants.length) :
    ∃ (inside : slot < capacity) (entry : Option UInt8 × LedInfo), grants[slot]? = some entry ∧
      entry.1 = some (UInt8.ofNat slot) ∧ entry.2.activeFlag = true ∧ world.table[slot] = entry.2 := by
  have inside : slot < capacity := Nat.lt_of_lt_of_le below allotted.fits
  obtain ⟨entry, found⟩ : ∃ entry, grants[slot]? = some entry := ⟨_, List.getElem?_eq_getElem below⟩
  exact ⟨inside, entry, found, allotted.slots slot inside entry found⟩

theorem active_iff (allotted : Allotted grants world) (slot : Nat) (inside : slot < capacity) :
    world.table[slot].activeFlag = true ↔ slot < grants.length := by
  constructor
  · intro active
    apply Nat.lt_of_not_le
    intro past
    rw [allotted.rest slot inside past] at active
    cases active
  · intro below
    obtain ⟨_, entry, -, -, active, stored⟩ := allotted.listed below
    rw [stored]
    exact active

theorem firstInactive (allotted : Allotted grants world) : FirstInactive world.table grants.length := by
  refine ⟨allotted.fits, ?_, ?_⟩
  · intro slot inside below
    exact (allotted.active_iff slot inside).mpr below
  · intro inside
    exact allotted.rest _ inside (Nat.le_refl _)

theorem push {info : LedInfo} (allotted : Allotted grants world) (room : grants.length < capacity)
    (active : info.activeFlag = true) (unlocked : after.mutex = .free)
    (stored : after.table = world.table.set grants.length info) :
    Allotted (grants ++ [(some (UInt8.ofNat grants.length), info)]) after := by
  refine ⟨unlocked, by simpa using Nat.succ_le_of_lt room, ?_, ?_⟩
  · intro slot inside entry found
    simp only [stored, Vector.getElem_set]
    by_cases last : grants.length = slot
    · subst last
      obtain rfl : (some (UInt8.ofNat grants.length), info) = entry := by simpa using found
      exact ⟨rfl, active, if_pos rfl⟩
    · have below : slot < grants.length := by
        have := (List.getElem?_eq_some_iff.mp found).1
        simp only [List.length_append, List.length_singleton] at this
        omega
      rw [List.getElem?_append_left below] at found
      rw [if_neg last]
      exact allotted.slots slot inside entry found
  · intro slot inside past
    simp only [List.length_append, List.length_singleton] at past
    simp only [stored, Vector.getElem_set]
    rw [if_neg (by omega)]
    exact allotted.rest slot inside (by omega)

theorem handles_nodup (small : capacity ≤ 255) (allotted : Allotted grants world) : (grants.map Prod.fst).Nodup := by
  rw [List.nodup_iff_getElem?_ne_getElem?]
  intro i j before below
  rw [List.length_map] at below
  obtain ⟨_, first, found, named, -⟩ := allotted.listed (Nat.lt_trans before below)
  obtain ⟨inside, second, found', named', -⟩ := allotted.listed below
  rw [List.getElem?_map, List.getElem?_map, found, found', Option.map_some, Option.map_some, named, named']
  intro equal
  have same := congrArg UInt8.toNat (Option.some.inj (Option.some.inj equal))
  rw [toNat_index small (by omega), toNat_index small (by omega)] at same
  omega

theorem holds_entry {entry : Option UInt8 × LedInfo} (small : capacity ≤ 255) (allotted : Allotted grants world)
    (member : entry ∈ grants) :
    ∃ (ledHandle : UInt8) (inside : ledHandle.toNat < capacity),
      entry.1 = some ledHandle ∧ world.table[ledHandle.toNat] = entry.2 := by
  obtain ⟨slot, found⟩ := List.mem_iff_getElem?.mp member
  have below := (List.getElem?_eq_some_iff.mp found).1
  have inside : slot < capacity := Nat.lt_of_lt_of_le below allotted.fits
  obtain ⟨named, -, stored⟩ := allotted.slots slot inside entry found
  have counter := toNat_index small (Nat.le_of_lt inside)
  refine ⟨UInt8.ofNat slot, counter.symm ▸ inside, named, ?_⟩
  simp only [counter, stored]

end Allotted

section Run
variable {world after : World capacity} {returned : List (Call × Reply)} {call : Call} {start : World capacity}
variable {calls later : Calls capacity}

/-- A call in progress has not begun, or it is past the table. -/
def Inside (call : Call) (program : Program (Op capacity) Reply) : Prop :=
  call ≠ .initDriver ∧ (program = call.body ∨ call.addition? = none ∧ Detached program)

theorem granted_append (reply : Reply) :
    granted (returned ++ [(call, reply)]) = granted returned ++ (grant (call, reply)).toList := by
  cases found : grant (call, reply) <;> simp [granted, found]

theorem grant_none (reply : Reply) (operates : call.addition? = none) : grant (call, reply) = none := by
  unfold grant
  split
  · rename_i same
    cases same
    simp [operates]
  · rfl

theorem keeps_passing {program rest : Program (Op capacity) Reply} (allotted : Allotted (granted returned) world)
    (created : call ≠ .initDriver) (operates : call.addition? = none) (passes : Passes chance world program)
    (turned : program.turn Op.role (serve chance) world = (some rest, after)) :
    Pool.Keeps (fun world returned => Allotted (granted returned) world) Inside returned call after rest := by
  obtain ⟨detached, same⟩ := passes.turned turned
  have kept := allotted.same same
  cases rest with
  | pure reply =>
    show Allotted (granted (returned ++ [(call, reply)])) after
    rw [granted_append, grant_none reply operates]
    simpa using kept
  | request operation next => exact ⟨kept, created, .inr ⟨operates, detached⟩⟩

theorem addition_of_handle {ledHandle : UInt8} (operates : call.ledHandle? = some ledHandle) : call.addition? = none := by
  cases call <;> first | rfl | cases operates

theorem keeps_addition {rest : Program (Op capacity) Reply} {ledType : LedType} {config : LedConfig}
    (small : capacity ≤ 255) (allotted : Allotted (granted returned) world)
    (adds : call.addition? = some (ledType, config))
    (turned : call.body.turn Op.role (serve chance) world = (some rest, after)) :
    Pool.Keeps (fun world returned => Allotted (granted returned) world) Inside returned call after rest := by
  obtain ⟨-, refused⟩ | ⟨room, reached, added, unlocked, stored⟩ :=
    @turn_addition capacity chance world call ledType config _ small adds allotted.firstInactive allotted.unlocked
  · obtain ⟨rfl, rfl⟩ : Program.pure (.added .error none) = rest ∧ world = after := by
      simpa using refused.symm.trans turned
    show Allotted (granted (returned ++ [(call, .added .error none)])) world
    simpa [granted_append, grant] using allotted
  · obtain ⟨rfl, rfl⟩ : Program.pure (.added .ok (some (UInt8.ofNat (granted returned).length))) = rest ∧
        reached = after := by
      simpa using added.symm.trans turned
    show Allotted (granted (returned ++ [(call, .added .ok (some (UInt8.ofNat (granted returned).length)))])) reached
    simpa [granted_append, grant, adds] using allotted.push room rfl unlocked stored

theorem keeps_turn {program rest : Program (Op capacity) Reply} (small : capacity ≤ 255)
    (allotted : Allotted (granted returned) world) (inside : Inside call program)
    (turned : program.turn Op.role (serve chance) world = (some rest, after)) :
    Pool.Keeps (fun world returned => Allotted (granted returned) world) Inside returned call after rest := by
  obtain ⟨created, rfl | ⟨operates, detached⟩⟩ := inside
  · rcases call.sorts with rfl | rfl | ⟨⟨ledType, config⟩, adds⟩ | ⟨ledHandle, operates⟩
    · exact absurd rfl created
    · have detached : Detached (Call.startFadeService.body : Program (Op capacity) Reply) :=
        detached_startFadeService.bind fun _ => trivial
      exact keeps_passing allotted created rfl (passes_detached detached) turned
    · exact keeps_addition small allotted adds turned
    · have passes := @passes_operation capacity chance world call ledHandle operates allotted.unlocked
      exact keeps_passing allotted created (addition_of_handle operates) passes turned
  · exact keeps_passing allotted created operates (passes_detached detached) turned

theorem allotted_of_leads (small : capacity ≤ 255) (initialised : Initialised chance start)
    (led : Leads chance (.idle start) calls) :
    Allotted (granted calls.returned) calls.world ∧
      ∀ task call program, calls.running task = some (call, program) → Inside call program := by
  have initial : Allotted (granted []) start := .initial small initialised
  apply Pool.invariant (fun world returned => Allotted (granted returned) world) Inside initial ?_ ?_ led
  · intro call created
    exact ⟨created, .inl rfl⟩
  · intro world returned call program rest after allotted inside turned
    exact keeps_turn small allotted inside turned

def Full (table : Vector LedInfo capacity) : Prop :=
  ∀ (slot : Nat) (inside : slot < capacity), table[slot].activeFlag = true

theorem granted_grows (led : Leads chance calls later) : granted calls.returned <+: granted later.returned :=
  (Pool.returned_grows led).filterMap grant

theorem full_iff {grants : List (Option UInt8 × LedInfo)} (allotted : Allotted grants world) :
    Full world.table ↔ grants.length = capacity := by
  constructor
  · intro full
    apply Nat.le_antisymm allotted.fits
    apply Nat.le_of_not_lt
    intro room
    exact absurd ((allotted.active_iff _ room).mp (full _ room)) (Nat.lt_irrefl _)
  · intro same slot inside
    exact (allotted.active_iff slot inside).mpr (same.symm ▸ inside)

/-- The handles that the additions return are distinct slots, and each of these slots
keeps what its addition put there. An addition fails only on a full table. -/
theorem handles_unique_and_stable (small : capacity ≤ 255) (initialised : Initialised chance start)
    (led : Leads chance (.idle start) calls) :
    (∃ count, ∀ (slot : Nat) (inside : slot < capacity), calls.world.table[slot].activeFlag = true ↔ slot < count) ∧
    ((granted calls.returned).map Prod.fst).Nodup ∧
    (∀ entry ∈ granted calls.returned, ∃ (ledHandle : UInt8) (inside : ledHandle.toNat < capacity),
      entry.1 = some ledHandle ∧
        ∀ later : Calls capacity, Leads chance calls later → later.world.table[ledHandle.toNat] = entry.2) ∧
    ∀ task call program info, calls.running task = some (call, program) → call.addition? = some info →
      ∃ reply after, program.turn Op.role (serve chance) calls.world = (some (.pure reply), after) ∧
        (Full calls.world.table → reply = .added .error none ∧ after.table = calls.world.table) ∧
        (¬ Full calls.world.table → ∃ ledHandle, reply = .added .ok (some ledHandle)) := by
  obtain ⟨allotted, inside⟩ := allotted_of_leads small initialised led
  refine ⟨⟨_, allotted.active_iff⟩, allotted.handles_nodup small, ?_, ?_⟩
  · intro entry member
    obtain ⟨ledHandle, bounded, named, -⟩ := allotted.holds_entry small member
    refine ⟨ledHandle, bounded, named, ?_⟩
    intro later onwards
    have allotted := (allotted_of_leads small initialised (led.trans onwards)).1
    obtain ⟨same, _, renamed, stored⟩ := allotted.holds_entry small ((granted_grows onwards).subset member)
    obtain rfl : ledHandle = same := Option.some.inj (named.symm.trans renamed)
    exact stored
  · intro task call program ⟨ledType, config⟩ running adds
    obtain ⟨-, rfl | ⟨operates, -⟩⟩ := inside task call program running
    · obtain ⟨full, refused⟩ | ⟨room, after, added, -, -⟩ :=
        @turn_addition capacity chance calls.world call ledType config _ small adds allotted.firstInactive allotted.unlocked
      · refine ⟨_, _, refused, fun _ => ⟨rfl, rfl⟩, ?_⟩
        intro vacant
        exact absurd ((full_iff allotted).mpr full) vacant
      · refine ⟨_, _, added, ?_, fun _ => ⟨_, rfl⟩⟩
        intro full
        exact absurd ((full_iff allotted).mp full) (Nat.ne_of_lt room)
    · rw [operates] at adds
      cases adds

end Run

theorem handles_unique_and_stable_one_led :
    ∃ (start : World maxNbLed) (calls : Calls maxNbLed), Initialised quiet start ∧ Leads quiet (.idle start) calls ∧
      granted calls.returned = [(some 0, ⟨.single, true, .single ⟨4, .high⟩⟩)] ∧
      ∀ later : Calls maxNbLed, Leads quiet calls later → later.world.table[0] = ⟨.single, true, .single ⟨4, .high⟩⟩ := by
  let start : World maxNbLed := (perform quiet .initDriver .boot).2
  let call : Call := .addLedSingle ⟨4, .high⟩
  have initialised : Initialised quiet start := ⟨.boot, rfl⟩
  have empty : Allotted [] start := .initial (by decide) initialised
  obtain ⟨full, -⟩ | ⟨-, after, turned, -⟩ :=
    @turn_addition maxNbLed quiet start call _ _ _ (by decide) rfl empty.firstInactive empty.unlocked
  · cases full
  let begun : Calls maxNbLed := ⟨start, Function.update (fun _ => none) 0 (some (call, call.body)), []⟩
  let added : Calls maxNbLed := begun.settle 0 call (.pure (.added .ok (some 0))) after
  have started : Leads quiet (.idle start) begun := .single (.start rfl nofun)
  have running : begun.running 0 = some (call, call.body) := rfl
  have led : Leads quiet (.idle start) added := started.tail (.turn running turned)
  have grants : granted added.returned = [(some 0, ⟨.single, true, .single ⟨4, .high⟩⟩)] := rfl
  refine ⟨start, added, initialised, led, grants, ?_⟩
  obtain ⟨ledHandle, inside, named, stays⟩ :=
    (handles_unique_and_stable (by decide) initialised led).2.2.1 _ (grants ▸ List.mem_singleton.mpr rfl)
  cases named
  exact stays

end LaserDriver.Led
