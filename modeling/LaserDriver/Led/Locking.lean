import LaserDriver.Lib.Mutex
import LaserDriver.Led.Operations

/-! Every exit of the LED driver gives back the mutex its call took. -/

namespace LaserDriver.Led
open Effects Program

variable {capacity : Nat}

def Op.role : (β : Type) → Op capacity β → Role
  | _, .createMutex => .create
  | _, .takeMutex => .take
  | _, .giveMutex => .give
  | _, _ => .other

theorem neutral_of_detached {program : Program (Op capacity) α} (detached : Detached program) :
    Neutral Op.role program := by
  induction program with
  | pure value => trivial
  | request operation next ih =>
    refine ⟨?_, fun reply => ih reply (detached.2 reply)⟩
    have apart := detached.1
    cases operation <;> first | rfl | exact apart.elim

theorem neutral_forEachLed {stops : Fin capacity → Program (Op capacity) Bool}
    (neutral : ∀ index, Neutral Op.role (stops index)) (rounds : Nat) (index : UInt8) :
    Neutral Op.role (forEachLed stops rounds index) := by
  induction rounds generalizing index with
  | zero => exact ⟨rfl, nofun⟩
  | succ rounds ih =>
    unfold forEachLed
    split
    · apply (neutral _).bind
      intro stopped
      cases stopped with
      | true => trivial
      | false => exact ih _
    · trivial

theorem neutral_findInactive : Neutral Op.role (findInactive : Program (Op capacity) UInt8) := by
  apply neutral_forEachLed
  intro index
  exact ⟨rfl, fun _ => trivial⟩

theorem neutral_isTableFull : Neutral Op.role (isTableFull : Program (Op capacity) Bool) :=
  neutral_findInactive.bind fun _ => trivial

theorem neutral_getFirstAvailableIndex : Neutral Op.role (getFirstAvailableIndex : Program (Op capacity) UInt8) := by
  apply neutral_findInactive.bind
  intro index
  split <;> trivial

theorem neutral_storeInfo (index : UInt8) (info : LedInfo) :
    Neutral Op.role (storeInfo index info : Program (Op capacity) Unit) := by
  unfold storeInfo
  split
  · exact Only.send rfl
  · exact ⟨rfl, nofun⟩

theorem holding_leave (value : α) : Balanced Op.role False (leave value : Program (Op capacity) α) .holding :=
  Balanced.give rfl fun _ => trivial

theorem balanced_addLed {setup : Program (Op capacity) CfgRet} (ledType : LedType) (config : LedConfig)
    (detached : Detached setup) : Balanced Op.role False (addLed ledType config setup) .before := by
  apply Balanced.take rfl
  intro _
  apply Balanced.bind_neutral neutral_isTableFull
  intro full
  cases full with
  | true => exact holding_leave _
  | false =>
    apply Balanced.bind_neutral neutral_getFirstAvailableIndex
    intro index
    split
    · exact holding_leave _
    · apply Balanced.bind_neutral (neutral_of_detached detached)
      intro ret
      split
      · exact holding_leave _
      · apply Balanced.bind_neutral (neutral_storeInfo _ _)
        intro _
        exact holding_leave _

theorem balanced_withLed {operate : LedInfo → Program (Op capacity) α} {ledHandle : UInt8} {refused : α}
    (inside : ledHandle.toNat < capacity) (detached : ∀ ledInfo, Detached (operate ledInfo)) :
    Balanced Op.role False (withLed ledHandle refused operate) .before := by
  rw [withLed, dif_pos inside]
  apply Balanced.take rfl
  intro _
  apply Balanced.operate rfl
  intro ledInfo
  apply Balanced.give rfl
  intro _
  split
  · trivial
  · exact (neutral_of_detached (detached ledInfo)).balanced trivial

theorem neutral_clearTable : Neutral Op.role (clearTable : Program (Op capacity) UInt8) := by
  apply neutral_forEachLed
  intro index
  exact ⟨rfl, fun _ => ⟨rfl, fun _ => trivial⟩⟩

theorem balanced_initDriver : Balanced Op.role True (initDriver : Program (Op capacity) Ret) .before := by
  apply Balanced.create rfl
  intro created
  cases created with
  | false => trivial
  | true =>
    apply Balanced.take rfl
    intro _
    apply Balanced.bind_neutral neutral_clearTable
    intro _
    exact Balanced.give rfl fun _ => trivial

def Call.locks : Call → Bool
  | .startFadeService => false
  | _ => true

/-- The exits in front of the take: a handle outside the table, and no mutex to take. -/
def Call.skips (capacity : Nat) (call : Call) (reply : Reply) : Bool :=
  match call.ledHandle? with
  | some ledHandle => capacity ≤ ledHandle.toNat
  | none => call = .initDriver ∧ reply = .status .error

theorem skips_of_addition {call : Call} {info : LedType × LedConfig} {reply : Reply}
    (adds : call.addition? = some info) : call.skips capacity reply = false := by
  cases call <;> cases adds <;> simp [Call.skips, Call.ledHandle?]

theorem path_initDriver {events : List Role} {ret : Ret}
    (path : Path Op.role (initDriver : Program (Op capacity) Ret) events ret) :
    events = if ret = .error then [] else [.take, .give] := by
  obtain ⟨created, events, made, rfl⟩ := path.of_request
  cases created with
  | false =>
    obtain ⟨rfl, rfl⟩ := made.of_pure
    rfl
  | true =>
    obtain ⟨_, events, taken, rfl⟩ := made.of_request
    have clearing : Path Op.role (clearTable >>= fun _ => .send .giveMutex >>= fun _ => Pure.pure Ret.ok) events ret :=
      taken
    obtain ⟨_, events, rest, cleared, giving, rfl⟩ := clearing.of_bind
    obtain ⟨_, rest, given, rfl⟩ := giving.of_request
    obtain ⟨rfl, rfl⟩ := given.of_pure
    rw [neutral_clearTable.path cleared]
    rfl

theorem path_withLed {operate : LedInfo → Program (Op capacity) α} {ledHandle : UInt8} {refused value : α}
    {events : List Role} (detached : ∀ ledInfo, Detached (operate ledInfo))
    (path : Path Op.role (withLed ledHandle refused operate) events value) :
    events = if capacity ≤ ledHandle.toNat then [] else [.take, .give] := by
  by_cases inside : ledHandle.toNat < capacity
  · obtain touched | ⟨refused, -⟩ := (balanced_withLed inside detached).path path
    · rw [touched, if_neg (Nat.not_le.mpr inside)]
      rfl
    · exact refused.elim
  · rw [withLed, dif_neg inside] at path
    obtain ⟨rfl, -⟩ := path.of_pure
    rw [if_pos (Nat.not_lt.mp inside)]

theorem path_body {call : Call} {events : List Role} {reply : Reply} (locks : call.locks = true)
    (path : Path Op.role (call.body : Program (Op capacity) Reply) events reply) :
    events = if call.skips capacity reply then [] else [.take, .give] := by
  rcases call.sorts with rfl | rfl | ⟨⟨ledType, config⟩, adds⟩ | ⟨ledHandle, operates⟩
  · obtain ⟨ret, initialised, rfl⟩ := path.of_map
    simpa [Call.skips, Call.ledHandle?] using path_initDriver initialised
  · cases locks
  · rw [addition_body adds] at path
    obtain touched | ⟨refused, -⟩ := ((balanced_addLed _ _ (detached_setup call)).map _).path path
    · rw [touched, skips_of_addition adds]
      rfl
    · exact refused.elim
  · obtain ⟨operate, shape, detached⟩ : Opens ledHandle call.refusal (call.body : Program (Op capacity) Reply) :=
      opens_body operates
    rw [shape] at path
    simpa [Call.skips, operates] using path_withLed detached path

theorem balanced_call (call : Call) : Balanced Op.role True (call.body : Program (Op capacity) Reply) .before := by
  rcases call.sorts with rfl | rfl | ⟨⟨ledType, config⟩, adds⟩ | ⟨ledHandle, operates⟩
  · exact balanced_initDriver.map _
  · have balanced : Balanced Op.role True (startFadeService : Program (Op capacity) Ret) .before :=
      (neutral_of_detached detached_startFadeService).balanced trivial
    exact balanced.map _
  · rw [addition_body adds]
    exact ((balanced_addLed _ _ (detached_setup call)).map _).weaken
  · obtain ⟨operate, shape, detached⟩ : Opens ledHandle call.refusal (call.body : Program (Op capacity) Reply) :=
      opens_body operates
    rw [shape]
    by_cases inside : ledHandle.toNat < capacity
    · exact (balanced_withLed inside detached).weaken
    · rw [withLed, dif_neg inside]
      trivial

end LaserDriver.Led
