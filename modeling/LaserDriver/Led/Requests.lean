import LaserDriver.Led.Table

/-! What the functions ask of the peripherals, as lists of requests. A function goes
through its list whatever the answers are, or it stops at the first request that fails. -/

namespace LaserDriver.Led
open Effects Program

variable {capacity : Nat} {chance : Nat → Chance} {world : World capacity}

def World.extend (world : World capacity) (issued : List Issued) : World capacity :=
  { world with clock := world.clock + issued.length, log := world.log ++ issued }

namespace World

@[simp] theorem extend_nil (world : World capacity) : world.extend [] = world := by simp [extend]

@[simp] theorem extend_extend (world : World capacity) (first second : List Issued) :
    (world.extend first).extend second = world.extend (first ++ second) := by
  simp [extend, Nat.add_assoc]

@[simp] theorem extend_table (world : World capacity) (issued : List Issued) : (world.extend issued).table = world.table := rfl

@[simp] theorem extend_mutex (world : World capacity) (issued : List Issued) : (world.extend issued).mutex = world.mutex := rfl

@[simp] theorem extend_clock (world : World capacity) (issued : List Issued) :
    (world.extend issued).clock = world.clock + issued.length := rfl

@[simp] theorem extend_log (world : World capacity) (issued : List Issued) :
    (world.extend issued).log = world.log ++ issued := rfl

end World

def answered (chance : Nat → Chance) : Nat → List Request → List Issued
  | _, [] => []
  | clock, asked :: rest => .call asked ((chance clock).accepts asked) :: answered chance (clock + 1) rest

/-- The requests up to the first one that is refused. -/
def attempted (chance : Nat → Chance) : Nat → List Request → List Issued
  | _, [] => []
  | clock, asked :: rest =>
    if (chance clock).accepts asked then .call asked true :: attempted chance (clock + 1) rest else [.call asked false]

def accepted (chance : Nat → Chance) : Nat → List Request → Bool
  | _, [] => true
  | clock, asked :: rest => (chance clock).accepts asked && accepted chance (clock + 1) rest

@[simp] theorem length_answered (clock : Nat) (requests : List Request) :
    (answered chance clock requests).length = requests.length := by
  induction requests generalizing clock with
  | nil => rfl
  | cons request rest ih => simp [answered, ih]

def accepting (requests : List Request) : List Issued := requests.map (.call · true)

theorem answered_of_accepted {clock : Nat} {requests : List Request} (all : accepted chance clock requests = true) :
    answered chance clock requests = accepting requests := by
  induction requests generalizing clock with
  | nil => rfl
  | cons asked rest ih =>
    rw [accepted, Bool.and_eq_true] at all
    rw [answered, all.1, ih all.2]
    rfl

theorem attempted_of_accepted {clock : Nat} {requests : List Request} (all : accepted chance clock requests = true) :
    attempted chance clock requests = accepting requests := by
  induction requests generalizing clock with
  | nil => rfl
  | cons asked rest ih =>
    rw [accepted, Bool.and_eq_true] at all
    rw [attempted, if_pos all.1, ih all.2]
    rfl

theorem foldl_extend (requests : List Request) (world : World capacity) :
    requests.foldl (fun world asked => world.extend [.call asked true]) world = world.extend (accepting requests) := by
  induction requests generalizing world with
  | nil => simp [accepting]
  | cons asked rest ih => rw [List.foldl_cons, ih, World.extend_extend, accepting, accepting, List.map_cons, List.singleton_append]

/-- The program makes all requests and reports success. -/
def Ignores (program : Program (Op capacity) CfgRet) (requests : List Request) : Prop :=
  ∀ chance world, program.run (serve chance) world = (some .ok, world.extend (answered chance world.clock requests))

/-- The program makes the requests as long as they are accepted, and reports whether all were. -/
def Attempts (program : Program (Op capacity) CfgRet) (requests : List Request) : Prop :=
  ∀ chance world, program.run (serve chance) world =
    (some (if accepted chance world.clock requests then .ok else .error),
      world.extend (attempted chance world.clock requests))

def channelRequest (channel ledTimer : Nat) (gpioNum : UInt8) (activeLevel : ActiveLevel) : Request :=
  .ledcChannelConfig ⟨channel, ledTimer, gpioNum, if activeLevel = .low then maxPwmDuty else minPwmDuty, 0⟩

def Call.setupRequests : Call → List Request
  | .addLedSingle config =>
    [.gpioConfig (2 ^ config.gpioNum.toNat % 2 ^ 64), .gpioSetLevel config.gpioNum !(config.activeLevel = .high)]
  | .addLedSinglePwm config =>
    [.ledcTimerConfig ⟨defaultDutyRes, config.ledTimer, defaultFreqHz⟩,
      channelRequest config.ledChannel config.ledTimer config.gpioNum config.activeLevel]
  | .addLedRgb config =>
    [.ledcTimerConfig ⟨defaultDutyRes, config.ledTimer, defaultFreqHz⟩,
      channelRequest config.redChannel config.ledTimer config.redGpioNum config.activeLevel,
      channelRequest config.greenChannel config.ledTimer config.greenGpioNum config.activeLevel,
      channelRequest config.blueChannel config.ledTimer config.blueGpioNum config.activeLevel]
  | _ => []

theorem ignores_done : Ignores (return .ok : Program (Op capacity) CfgRet) [] := by
  intro chance world
  simp [answered]

theorem ignores_request {request : Request} {rest : Program (Op capacity) CfgRet} {requests : List Request}
    (ignores : Ignores rest requests) :
    Ignores (Program.send (.driver request) >>= fun _ => rest) (request :: requests) := by
  intro chance world
  rw [run_bind, run_send]
  simp only [serve, proceed_some, ignores chance]
  simp [answered, World.record, World.extend, Nat.add_comm 1, Nat.add_assoc]

theorem ignores_setup (call : Call) : Ignores (call.setup : Program (Op capacity) CfgRet) call.setupRequests := by
  cases call
  case addLedSingle => exact ignores_request (ignores_request ignores_done)
  case addLedSinglePwm => exact ignores_request (ignores_request ignores_done)
  case addLedRgb => exact ignores_request (ignores_request (ignores_request (ignores_request ignores_done)))
  all_goals exact ignores_done

/-- The level that `LDRV_CFG_SetLedSingleState` puts on the pin. -/
def levelFor (state : UInt8) (config : SingleConfig) : Bool :=
  if (state ≥ 1 ∧ config.activeLevel = .high) ∨ (state = 0 ∧ config.activeLevel = .low) then config.activeLevel = .high
  else !(config.activeLevel = .high)

theorem ignores_setLedSingleState (state : UInt8) (config : SingleConfig) :
    Ignores (Cfg.setLedSingleState state config : Program (Op capacity) CfgRet)
      [.gpioSetLevel config.gpioNum (levelFor state config)] := by
  unfold Cfg.setLedSingleState levelFor
  split
  · exact ignores_request ignores_done
  · exact ignores_request ignores_done

theorem attempts_done : Attempts (return .ok : Program (Op capacity) CfgRet) [] := by
  intro chance world
  simp [accepted, attempted]

theorem attempts_request {request : Request} {rest : Program (Op capacity) CfgRet} {requests : List Request}
    (attempts : Attempts rest requests) :
    Attempts (Program.send (.driver request) >>= fun done => if done then rest else return .error)
      (request :: requests) := by
  intro chance world
  rw [run_bind, run_send]
  by_cases done : (chance world.clock).accepts request = true
  · simp only [serve, done, proceed_some, if_true, attempts chance]
    simp [accepted, attempted, done, World.record, World.extend, Nat.add_comm 1, Nat.add_assoc]
    rfl
  · simp [serve, done, accepted, attempted, World.record, World.extend]

def writeRequests (channel : Nat) (duty : UInt32) : List Request := [.ledcSetDuty channel duty, .ledcUpdateDuty channel]

theorem attempts_writeDuty {rest : Program (Op capacity) CfgRet} {requests : List Request} (channel : Nat) (duty : UInt32)
    (attempts : Attempts rest requests) :
    Attempts (Cfg.writeDuty channel duty rest) (writeRequests channel duty ++ requests) :=
  attempts_request (attempts_request attempts)

theorem attempts_startFade {rest : Program (Op capacity) CfgRet} {requests : List Request} (channel : Nat)
    (targetDuty fadeTimeMs : UInt32) (attempts : Attempts rest requests) :
    Attempts (Cfg.startFade channel targetDuty fadeTimeMs rest)
      (.ledcSetFadeTimeAndStart channel targetDuty fadeTimeMs :: requests) :=
  attempts_request attempts

theorem attempts_setFreq (ledTimer : Nat) (freqHz : UInt32) :
    Attempts (Cfg.setFreq ledTimer freqHz : Program (Op capacity) CfgRet) [.ledcSetFreq ledTimer freqHz] :=
  attempts_request attempts_done

end LaserDriver.Led
