import LaserDriver.Led.Commands

/-! What an operation on a handle reads and addresses, after any calls of any tasks since
the start of the program, initialisations among them. -/

namespace LaserDriver.Led
open Effects Program

variable {capacity : Nat} {chance : Nat → Chance} {world : World capacity}

section Addresses
variable {config : LedConfig}

def Issued.Addresses (config : LedConfig) : Issued → Prop
  | .call asked _ => asked.Addresses config
  | .getFreq timerNum _ => timerNum ∈ config.timers
  | .reinterpreted => False

theorem run_addressing {program : Program (Op capacity) α} (only : Only (Op.Addresses config) program) (world : World capacity) :
    ∃ value issued, program.run (serve chance) world = (some value, world.extend issued) ∧
      ∀ each ∈ issued, each.Addresses config := by
  induction program generalizing world with
  | pure value => exact ⟨value, [], by simp [run], nofun⟩
  | @request β operation next ih =>
    have goes : ∃ reply answer, serve chance operation world = (some reply, world.extend [answer]) ∧
        answer.Addresses config := by
      have addresses := only.1
      cases operation with
      | driver asked => exact ⟨_, _, rfl, addresses⟩
      | ledcGetFreq timerNum => exact ⟨_, _, rfl, addresses⟩
      | _ => exact addresses.elim
    obtain ⟨reply, answer, served, addresses⟩ := goes
    obtain ⟨value, issued, ran, rest⟩ := ih reply (only.2 reply) (world.extend [answer])
    refine ⟨value, answer :: issued, ?_, List.forall_mem_cons.mpr ⟨addresses, rest⟩⟩
    rw [run_request, served, proceed_some, ran, World.extend_extend, List.singleton_append]

end Addresses

section Turn
variable {call : Call} {ledHandle : UInt8}

theorem turn_suited {config : LedConfig} (unlocked : world.mutex = .free) (operates : call.ledHandle? = some ledHandle)
    (led : world.led? ledHandle = some config.info) (suited : call.suits config.ledType = true) :
    ∃ rest, call.body.turn Op.role (serve chance) world = (some rest, world) ∧ Only (Op.Addresses config) rest := by
  obtain ⟨operate, shape, -, addresses⟩ :
      Obeys call.suits ledHandle call.refusal (call.body : Program (Op capacity) Reply) := obeys_body operates
  refine ⟨operate config.info, ?_, addresses config suited⟩
  rw [shape, turn_withLed unlocked, led, Option.elim_some]

theorem same_of_detached {program : Program (Op capacity) α} (detached : Detached program) :
    Same world (program.run (serve chance) world).2 := by
  induction program generalizing world with
  | pure value => exact ⟨rfl, rfl⟩
  | request operation next ih =>
    obtain ⟨reply, after, served, table, mutex⟩ := @serve_detached capacity chance world _ operation detached.1
    obtain ⟨later, given⟩ := @ih reply after (detached.2 reply)
    rw [run_request, served, proceed_some]
    exact ⟨later.trans table, given.trans mutex⟩

theorem perform_operation_table (unlocked : world.mutex = .free) (operates : call.ledHandle? = some ledHandle) :
    (perform chance call world).2.table = world.table := by
  obtain ⟨rest, after, turned, detached, table, -⟩ :=
    @passes_operation capacity chance world call ledHandle operates unlocked
  rw [perform, run_turn turned]
  exact (same_of_detached detached).1.trans table

end Turn

/-- Any number of steps of any tasks, which may initialise the driver again. -/
abbrev Evolves (chance : Nat → Chance) : Calls capacity → Calls capacity → Prop :=
  Relation.ReflTransGen (Pool.Step Op.role (serve chance) Call.body fun _ => True)

/-- What the addition that last returned the handle put into the table. -/
def lastGranted (returned : List (Call × Reply)) (ledHandle : UInt8) : Option LedInfo :=
  ((granted returned).filter fun entry => entry.1 = some ledHandle).getLast?.map Prod.snd

/-- An active slot is as the addition that last returned its handle wrote it. -/
structure Written (world : World capacity) (returned : List (Call × Reply)) : Prop where
  unheld : world.mutex ≠ .held
  granted : ∀ ledHandle info, world.led? ledHandle = some info → lastGranted returned ledHandle = some info

section Record
variable {returned : List (Call × Reply)} {call : Call} {reply : Reply} {ledHandle : UInt8} {info : LedInfo}

theorem lastGranted_passing (nothing : grant (call, reply) = none) :
    lastGranted (returned ++ [(call, reply)]) ledHandle = lastGranted returned ledHandle := by
  rw [lastGranted, granted_append, nothing, Option.toList_none, List.append_nil, lastGranted]

theorem lastGranted_grant {other : UInt8} (grants : grant (call, reply) = some (some other, info)) :
    lastGranted (returned ++ [(call, reply)]) ledHandle =
      if ledHandle = other then some info else lastGranted returned ledHandle := by
  rw [lastGranted, granted_append, grants, Option.toList_some, List.filter_append]
  by_cases same : ledHandle = other
  · simp [same]
  · simp [same, Ne.symm same, lastGranted]

theorem lastGranted_info (last : lastGranted returned ledHandle = some info) : ∃ config : LedConfig, info = config.info := by
  obtain ⟨entry, found, rfl⟩ := Option.map_eq_some_iff.mp last
  have listed : entry ∈ granted returned := (List.mem_filter.mp (List.mem_of_getLast? found)).1
  obtain ⟨⟨call, reply⟩, -, grants⟩ := List.mem_filterMap.mp listed
  cases reply with
  | added ret ledHandle =>
    cases ret with
    | ok =>
      obtain ⟨⟨ledType, config⟩, adds, rfl⟩ := Option.map_eq_some_iff.mp grants
      exact ⟨config, addition_info adds⟩
    | error => cases grants
  | status => cases grants
  | frequency => cases grants

end Record

section Step
variable {after : World capacity} {returned : List (Call × Reply)} {call : Call} {program rest : Program (Op capacity) Reply}

/-- What is left of an initialisation that has its mutex. -/
def clearing : Program (Op capacity) Reply := do
  .send .takeMutex
  let _ ← clearTable
  .send .giveMutex
  return .status .ok

/-- A call in progress has not begun, or it is past the table, or it is to clear the table. -/
def Underway (call : Call) (program : Program (Op capacity) Reply) : Prop :=
  program = call.body ∨ call.addition? = none ∧ (Detached program ∨ program = clearing)

theorem Written.same (written : Written world returned) (same : Same world after) : Written after returned := by
  obtain ⟨table, mutex⟩ := same
  refine ⟨mutex ▸ written.unheld, ?_⟩
  intro ledHandle info led
  apply written.granted ledHandle info
  simpa only [World.led?, table] using led

theorem keeps_written (written : Written after returned) (operates : call.addition? = none)
    (past : Detached rest ∨ rest = clearing) : Pool.Keeps Written Underway returned call after rest := by
  cases rest with
  | pure reply =>
    refine ⟨written.unheld, ?_⟩
    intro ledHandle info led
    rw [lastGranted_passing (grant_none reply operates)]
    exact written.granted ledHandle info led
  | request operation next => exact ⟨written, .inr ⟨operates, past⟩⟩

theorem free_of_take {next : Unit → Program (Op capacity) α} {rest : Program (Op capacity) α}
    (turned : (Program.send .takeMutex >>= next).turn Op.role (serve chance) world = (some rest, after)) :
    world.mutex = .free := by
  cases mutex : world.mutex with
  | free => rfl
  | absent => simp [turn, serve, mutex] at turned
  | held => simp [turn, serve, mutex] at turned

theorem keeps_passes (written : Written world returned) (operates : call.addition? = none)
    (passes : Passes chance world program) (turned : program.turn Op.role (serve chance) world = (some rest, after)) :
    Pool.Keeps Written Underway returned call after rest := by
  obtain ⟨detached, same⟩ := passes.turned turned
  exact keeps_written (written.same same) operates (.inl detached)

theorem passes_of_turn {ledHandle : UInt8} (operates : call.ledHandle? = some ledHandle)
    (turned : call.body.turn Op.role (serve chance) world = (some rest, after)) : Passes chance world call.body := by
  obtain ⟨operate, shape, -⟩ : Opens ledHandle call.refusal (call.body : Program (Op capacity) Reply) :=
    opens_body operates
  by_cases inside : ledHandle.toNat < capacity
  · apply passes_operation operates
    rw [shape, withLed, dif_pos inside] at turned
    exact free_of_take turned
  · rw [shape, withLed, dif_neg inside]
    exact passes_detached trivial

theorem keeps_written_addition {ledType : LedType} {config : LedConfig} (small : capacity ≤ 255)
    (written : Written world returned) (adds : call.addition? = some (ledType, config))
    (turned : call.body.turn Op.role (serve chance) world = (some rest, after)) :
    Pool.Keeps Written Underway returned call after rest := by
  have unlocked : world.mutex = .free := by
    rw [addition_body adds] at turned
    exact free_of_take turned
  obtain ⟨free, first⟩ := exists_firstInactive world.table
  obtain ⟨-, refused⟩ | ⟨room, reached, added, given, stored⟩ :=
    @turn_addition capacity chance world call ledType config free small adds first unlocked
  · obtain ⟨rfl, rfl⟩ : Program.pure (.added .error none) = rest ∧ world = after := by
      simpa using refused.symm.trans turned
    refine ⟨written.unheld, ?_⟩
    intro ledHandle info led
    rw [lastGranted_passing rfl]
    exact written.granted ledHandle info led
  · obtain ⟨rfl, rfl⟩ : Program.pure (.added .ok (some (UInt8.ofNat free))) = rest ∧ reached = after := by
      simpa using added.symm.trans turned
    refine ⟨by simp [given], ?_⟩
    intro ledHandle info led
    have grants : grant (call, .added .ok (some (UInt8.ofNat free))) =
        some (some (UInt8.ofNat free), ⟨ledType, true, config⟩) := by
      simp [grant, adds]
    rw [lastGranted_grant grants]
    rw [led?_set small room rfl stored] at led
    by_cases new : ledHandle = UInt8.ofNat free
    · rw [if_pos new] at led ⊢
      exact led
    · rw [if_neg new] at led ⊢
      exact written.granted ledHandle info led

theorem initDriver_body : (Call.initDriver.body : Program (Op capacity) Reply) =
    .request .createMutex fun created => if created then clearing else Pure.pure (.status .error) := by
  show Program.request _ _ = Program.request _ _
  congr 1
  funext created
  cases created with
  | false => rfl
  | true =>
    show Program.request _ _ = Program.request _ _
    congr 1
    funext _
    have clears : ((clearTable >>= fun _ => Program.send .giveMutex >>= fun _ => Pure.pure Ret.ok) >>= fun ret =>
        Pure.pure (Reply.status ret) : Program (Op capacity) Reply) =
          clearTable >>= fun _ => Program.send .giveMutex >>= fun _ => Pure.pure (Reply.status .ok) := by
      rw [Program.bind_assoc]
      rfl
    exact clears

theorem keeps_initDriver (written : Written world returned)
    (turned : Call.initDriver.body.turn Op.role (serve chance) world = (some rest, after)) :
    Pool.Keeps Written Underway returned .initDriver after rest := by
  rw [initDriver_body] at turned
  by_cases memory : (chance world.clock).memory = true
  · simp [turn, serve, memory, Op.role] at turned
    obtain ⟨rfl, rfl⟩ := turned
    exact keeps_written ⟨by simp, written.granted⟩ rfl (.inr rfl)
  · simp [turn, serve, memory, Op.role] at turned
    obtain ⟨rfl, rfl⟩ := turned
    exact keeps_written ⟨by simp, written.granted⟩ rfl (.inl trivial)

theorem keeps_clearing (small : capacity ≤ 255) (operates : call.addition? = none)
    (turned : clearing.turn Op.role (serve chance) world = (some rest, after)) :
    Pool.Keeps Written Underway returned call after rest := by
  have unlocked : world.mutex = .free := free_of_take turned
  obtain ⟨index, cleared, ran, held, inactive⟩ := @run_clearTable capacity chance { world with mutex := .held } small
  rw [clearing, turn_take rfl (serve_take unlocked), toGive_bind neutral_clearTable ran,
    toGive_give rfl (serve_give held)] at turned
  cases turned
  have past : Detached (Pure.pure (.status .ok) : Program (Op capacity) Reply) := trivial
  apply keeps_written ⟨by simp, ?_⟩ operates (.inl past)
  intro ledHandle info led
  obtain ⟨inside, stored, active⟩ := World.led?_eq_some.mp led
  rw [← stored, inactive _ inside] at active
  cases active

theorem keeps_underway (small : capacity ≤ 255) (written : Written world returned) (underway : Underway call program)
    (turned : program.turn Op.role (serve chance) world = (some rest, after)) :
    Pool.Keeps Written Underway returned call after rest := by
  obtain rfl | ⟨operates, detached | rfl⟩ := underway
  · rcases call.sorts with rfl | rfl | ⟨⟨ledType, config⟩, adds⟩ | ⟨ledHandle, operates⟩
    · exact keeps_initDriver written turned
    · have detached : Detached (Call.startFadeService.body : Program (Op capacity) Reply) :=
        detached_startFadeService.bind fun _ => trivial
      exact keeps_passes written rfl (passes_detached detached) turned
    · exact keeps_written_addition small written adds turned
    · exact keeps_passes written (addition_of_handle operates) (passes_of_turn operates turned) turned
  · exact keeps_passes written operates (passes_detached detached) turned
  · exact keeps_clearing small operates turned

end Step

section Run
variable {calls : Calls capacity} {call : Call} {ledHandle : UInt8}

theorem written_of_evolves (small : capacity ≤ 255) (evolved : Evolves chance (.idle .boot) calls) :
    Written calls.world calls.returned := by
  have initial : Written (World.boot : World capacity) [] := by
    refine ⟨nofun, ?_⟩
    intro ledHandle info led
    obtain ⟨inside, stored, active⟩ := World.led?_eq_some.mp led
    simp [← stored, World.boot] at active
  refine (Pool.invariant Written Underway initial (fun _ _ => .inl rfl) ?_ evolved).1
  intro world returned call program rest after written underway turned
  exact keeps_underway small written underway turned

theorem free_of_evolves (small : capacity ≤ 255) (evolved : Evolves chance (.idle .boot) calls)
    (created : calls.world.mutex ≠ .absent) : calls.world.mutex = .free := by
  have written := written_of_evolves small evolved
  cases mutex : calls.world.mutex with
  | free => rfl
  | absent => exact absurd mutex created
  | held => exact absurd mutex written.unheld

/-- An operation leaves the table as it is. It refuses a handle without an active LED of a type
that suits it, and asks nothing of the peripherals then. On every other handle it reads what the
addition of the LED wrote, and reaches the pin, the channels and the timer of this LED only,
whatever the peripherals answer and the other tasks do meanwhile. -/
theorem operations_keep_to_their_led (small : capacity ≤ 255) (evolved : Evolves chance (.idle .boot) calls)
    (created : calls.world.mutex ≠ .absent) (operates : call.ledHandle? = some ledHandle) (outcome : Nat → Chance) :
    (perform outcome call calls.world).2.table = calls.world.table ∧
    ((∀ info, calls.world.led? ledHandle = some info → call.suits info.ledType = false) →
      perform outcome call calls.world = (some call.refusal, calls.world)) ∧
    ∀ info, calls.world.led? ledHandle = some info → call.suits info.ledType = true →
      ∃ config : LedConfig, info = config.info ∧ lastGranted calls.returned ledHandle = some config.info ∧
        (∃ rest, call.body.turn Op.role (serve outcome) calls.world = (some rest, calls.world) ∧
          Only (Op.Addresses config) rest) ∧
        ∃ reply issued, perform outcome call calls.world = (some reply, calls.world.extend issued) ∧
          ∀ each ∈ issued, each.Addresses config := by
  have unlocked := free_of_evolves small evolved created
  refine ⟨perform_operation_table unlocked operates, perform_unsuited unlocked operates, ?_⟩
  intro info led suited
  have last := (written_of_evolves small evolved).granted ledHandle info led
  obtain ⟨config, rfl⟩ := lastGranted_info last
  obtain ⟨rest, turned, only⟩ :=
    @turn_suited capacity outcome calls.world call ledHandle config unlocked operates led suited
  refine ⟨config, rfl, last, ⟨rest, turned, only⟩, ?_⟩
  rw [perform, run_turn turned]
  exact run_addressing only calls.world

end Run

def initialisedOnce : Calls maxNbLed :=
  Pool.follow Op.role (serve quiet)
    ⟨.boot, Function.update (fun _ => none) 0 (some (.initDriver, Call.initDriver.body)), []⟩ [0, 0]

def addedOnce : Calls maxNbLed :=
  Pool.follow Op.role (serve quiet) { initialisedOnce with
    running := Function.update initialisedOnce.running 0
      (some (.addLedSingle ⟨4, .high⟩, (Call.addLedSingle ⟨4, .high⟩).body)) } [0]

theorem evolves_addedOnce : Evolves quiet (.idle .boot) addedOnce := by
  have initialised : Evolves quiet (.idle .boot) initialisedOnce := by
    refine Relation.ReflTransGen.trans (.single (.start ?_ trivial)) (Pool.reaches_follow _ _)
    rfl
  have idle : (initialisedOnce.running 0).isNone = true := by decide +kernel
  refine Relation.ReflTransGen.trans (initialised.tail (.start ?_ trivial)) (Pool.reaches_follow _ _)
  exact Option.isNone_iff_eq_none.mp idle

theorem operations_keep_to_their_led_single :
    addedOnce.world.led? 0 = some ⟨.single, true, .single ⟨4, .high⟩⟩ ∧
      (∀ outcome, perform outcome (.setLedPwmFreq 500 0) addedOnce.world = (some (.status .error), addedOnce.world)) ∧
      ∀ outcome, ∃ reply issued, perform outcome (.setLedSingleState 1 0) addedOnce.world =
        (some reply, addedOnce.world.extend issued) ∧ ∀ each ∈ issued, each.Addresses (.single ⟨4, .high⟩) := by
  have led : addedOnce.world.led? 0 = some ⟨.single, true, .single ⟨4, .high⟩⟩ := by decide +kernel
  have created : addedOnce.world.mutex ≠ .absent := by decide +kernel
  refine ⟨led, ?_, ?_⟩
  · intro outcome
    apply (operations_keep_to_their_led (by decide) evolves_addedOnce created rfl outcome).2.1
    intro info found
    cases led.symm.trans found
    rfl
  · intro outcome
    have operates : (Call.setLedSingleState 1 0).ledHandle? = some 0 := rfl
    obtain ⟨config, same, -, -, works⟩ :=
      (operations_keep_to_their_led (by decide) evolves_addedOnce created operates outcome).2.2 _ led rfl
    cases config <;> cases same
    exact works

end LaserDriver.Led
