import LaserDriver.Lib.Exchange
import LaserDriver.Adc.Cases

/-! What the calls of the interface exchange with the drivers, and what they store
through the pointers of their callers. -/

namespace LaserDriver.Adc
open Effects Program

variable {chance : Nat → Chance} {world after : World} {trace : List (Exchange Op)}

def reading : Exchange Op → Option (Esp (Fin 4096))
  | ⟨.driver (.oneshotRead _ _), answer⟩ => some answer
  | _ => none

def stored : Exchange Op → List (Nat × UInt16)
  | ⟨.writeResult address value, _⟩ => [(address, value)]
  | _ => []

def readings (exchanges : List (Exchange Op)) : List (Esp (Fin 4096)) := exchanges.filterMap reading

def succeeded (exchanges : List (Exchange Op)) : List Nat :=
  (readings exchanges).filterMap (fun answer => answer.toOption.map Fin.val)

/-- Neither a reading nor a store through the caller's pointer. -/
def Silent : (β : Type) → Op β → Prop
  | _, .writeResult _ _ => False
  | _, .driver (.oneshotRead _ _) => False
  | _, _ => True

theorem silent_modify (change : Statics → Statics) : Only Silent (modify change) :=
  ⟨trivial, fun _ => Only.send trivial⟩

theorem silent_newUnit : Only Silent newUnit := by
  refine ⟨trivial, ?_⟩
  intro answer
  cases answer with
  | ok handle => exact (silent_modify _).bind fun _ => trivial
  | error => trivial

theorem silent_configChannel (ctrlChannel ctrlAtten : Nat) : Only Silent (configChannel ctrlChannel ctrlAtten) :=
  ⟨trivial, fun _ => ⟨trivial, fun _ => trivial⟩⟩

theorem silent_delUnit : Only Silent delUnit := ⟨trivial, fun _ => ⟨trivial, fun _ => trivial⟩⟩

theorem silent_leave (ret : Ret) : Only Silent (leave ret) := ⟨trivial, fun _ => trivial⟩

theorem silent_abandon : Only Silent abandon := (silent_modify _).bind fun _ => silent_leave _

theorem readings_silent {exchanges : List (Exchange Op)} (silent : ∀ exchange ∈ exchanges, Silent _ exchange.operation) :
    readings exchanges = [] ∧ exchanges.flatMap stored = [] := by
  induction exchanges with
  | nil => exact ⟨rfl, rfl⟩
  | cons exchange rest ih =>
    obtain ⟨first, later⟩ := List.forall_mem_cons.mp silent
    obtain ⟨unread, unstored⟩ := ih later
    obtain ⟨operation, reply⟩ := exchange
    cases operation with
    | writeResult => exact first.elim
    | driver request =>
      cases request with
      | oneshotRead => exact first.elim
      | _ => exact ⟨unread, unstored⟩
    | _ => exact ⟨unread, unstored⟩

@[simp] theorem readings_append (first last : List (Exchange Op)) :
    readings (first ++ last) = readings first ++ readings last := List.filterMap_append

@[simp] theorem succeeded_append (first last : List (Exchange Op)) :
    succeeded (first ++ last) = succeeded first ++ succeeded last := by
  simp [succeeded]

theorem succeeded_length_le (exchanges : List (Exchange Op)) :
    (succeeded exchanges).length ≤ (readings exchanges).length := List.length_filterMap_le _ _

theorem succeeded_length {exchanges : List (Exchange Op)} (clean : ∀ answer ∈ readings exchanges, answer.isOk = true) :
    (succeeded exchanges).length = (readings exchanges).length := by
  unfold succeeded
  generalize readings exchanges = answers at clean
  induction answers with
  | nil => rfl
  | cons answer rest ih =>
    obtain ⟨first, later⟩ := List.forall_mem_cons.mp clean
    cases answer with
    | ok raw => exact congrArg Nat.succ (ih later)
    | error => cases first

theorem leave_returns {ret result : Ret} (returned : (leave ret).Returns trace result) : ret = result := by
  obtain ⟨_, rest, _, _, same⟩ := returned
  exact same

theorem abandon_returns {result : Ret} (returned : abandon.Returns trace result) : result = .fail := by
  obtain ⟨_, _, _, _, _, left⟩ := returns_bind.mp returned
  exact (leave_returns left).symm

theorem status_returns {program : Program Op Ret} {ret : Ret}
    (returned : (do return Reply.status (← program) : Program Op Reply).Returns trace (.status ret)) : program.Returns trace ret := by
  obtain ⟨first, other, _, rfl, returns, rfl, same⟩ := returns_bind.mp returned
  cases same
  rw [List.append_nil]
  exact returns

def exchanged (chance : Nat → Chance) (call : Call) (world : World) : List (Exchange Op) :=
  call.body.exchanges (serve chance) world

theorem perform_results {call : Call} {reply : Reply} (returned : perform chance call world = (some reply, after)) :
    after.results = world.results ++ (exchanged chance call world).flatMap stored := by
  refine log_of_run World.results stored ?_ returned
  intro β op state reply after served
  cases op with
  | createMutex =>
    cases fault : (chance state.clock).fault
    all_goals
      rw [serve, fault] at served
      obtain ⟨-, rfl⟩ := Prod.mk.inj served
      exact (List.append_nil _).symm
  | takeMutex =>
    cases mutex : state.mutex
    all_goals
      rw [serve, mutex] at served
      obtain ⟨⟨⟩, rfl⟩ := Prod.mk.inj served
    exact (List.append_nil _).symm
  | giveMutex =>
    cases mutex : state.mutex
    all_goals
      rw [serve, mutex] at served
      obtain ⟨⟨⟩, rfl⟩ := Prod.mk.inj served
    all_goals exact (List.append_nil _).symm
  | load =>
    obtain ⟨-, rfl⟩ := Prod.mk.inj served
    exact (List.append_nil _).symm
  | store statics =>
    obtain ⟨-, rfl⟩ := Prod.mk.inj served
    exact (List.append_nil _).symm
  | writeResult address value =>
    obtain ⟨-, rfl⟩ := Prod.mk.inj served
    rfl
  | divideByZero => cases served
  | driver request =>
    obtain ⟨-, rfl⟩ := Prod.mk.inj served
    exact (List.append_nil _).symm

theorem succeeded_le (exchanges : List (Exchange Op)) : ∀ sample ∈ succeeded exchanges, sample ≤ 4095 := by
  intro sample member
  obtain ⟨answer, -, found⟩ := List.mem_filterMap.mp member
  obtain ⟨raw, -, rfl⟩ := Option.map_eq_some_iff.mp found
  exact Nat.le_of_lt_succ raw.isLt

end LaserDriver.Adc
