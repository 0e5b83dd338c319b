import LaserDriver.Lib.Run
import LaserDriver.Lib.Mutex
import LaserDriver.Led.Driver

/-! The LED driver on its table and its peripherals. What the peripherals do is
kept as the sequence of calls they were given and how they answered. -/

namespace LaserDriver.Led
open Effects

/-- What one request takes from outside the model: whether there is memory for a
mutex, the result of a driver call, a frequency, and the bytes of a union read
through a member that was not written. -/
structure Chance where
  memory : Bool
  accepts : Request → Bool
  freqHz : Nat → UInt32
  bytes : (β : Type) → Member β → β

inductive Issued where
  | call (request : Request) (accepted : Bool)
  | getFreq (timerNum : Nat) (freqHz : UInt32)
  | reinterpreted
  deriving Repr, DecidableEq

structure World (capacity : Nat) where
  table : Vector LedInfo capacity
  mutex : Mutex
  clock : Nat
  log : List Issued
  deriving Repr, DecidableEq

variable {capacity : Nat}

namespace World

def boot : World capacity := ⟨.replicate capacity ⟨.single, false, .single ⟨0, .low⟩⟩, .absent, 0, []⟩

def record (world : World capacity) (issued : Issued) : World capacity :=
  { world with clock := world.clock + 1, log := world.log ++ [issued] }

end World

/-- Taking a mutex that is not free waits for as long as it stays so, and a mutex
that was never created stops the caller in an assertion. -/
def serve (chance : Nat → Chance) (op : Op capacity β) (world : World capacity) : Option β × World capacity :=
  match op with
  | .createMutex =>
    if (chance world.clock).memory then (some true, { world with mutex := .free, clock := world.clock + 1 })
    else (some false, { world with mutex := .absent, clock := world.clock + 1 })
  | .takeMutex =>
    match world.mutex with
    | .free => (some (), { world with mutex := .held })
    | .absent | .held => (none, world)
  | .giveMutex =>
    match world.mutex with
    | .absent => (none, world)
    | .free | .held => (some (), { world with mutex := .free })
  | .loadLed index => (some world.table[index], world)
  | .storeLed index info => (some (), { world with table := world.table.set index info })
  | .outOfBounds | .loopForever => (none, world)
  | .reinterpret member => (some ((chance world.clock).bytes _ member), world.record .reinterpreted)
  | .driver request =>
    let accepted := (chance world.clock).accepts request
    (some accepted, world.record (.call request accepted))
  | .ledcGetFreq timerNum =>
    let freqHz := (chance world.clock).freqHz timerNum
    (some freqHz, world.record (.getFreq timerNum freqHz))

def perform (chance : Nat → Chance) (call : Call) (world : World capacity) : Option Reply × World capacity :=
  call.body.run (serve chance) world

/-- The states `LDRV_InitDriver` leaves when it succeeds, whatever was there before. -/
def Initialised (chance : Nat → Chance) (world : World capacity) : Prop :=
  ∃ before, perform chance .initDriver before = (some (.status .ok), world)

def quiet : Nat → Chance :=
  fun _ => ⟨true, fun _ => true, fun _ => defaultFreqHz, fun _ member => match member with
    | .single => ⟨0, .low⟩
    | .singlePwm => ⟨0, .low, 0, 0⟩
    | .rgb => ⟨0, 0, 0, .low, 0, 0, 0, 0⟩⟩

def readied : World maxNbLed := (perform quiet .initDriver .boot).2

end LaserDriver.Led
