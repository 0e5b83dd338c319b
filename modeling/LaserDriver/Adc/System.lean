import LaserDriver.Lib.Run
import LaserDriver.Lib.Mutex
import LaserDriver.Adc.Controller

/-! The controller on its drivers. A run is fixed by the calls made and by what
the outside decides at each driver call, numbered from boot. -/

namespace LaserDriver.Adc
open Effects

/-- A driver call as it was issued: the handle it was given and whether the
driver still held that handle at that moment. -/
structure Issued where
  target : Option Handle
  live : Bool
  deriving Repr, DecidableEq

structure World where
  statics : Statics
  mutex : Mutex
  driver : Driver
  clock : Nat
  log : List Issued
  results : List (Nat × UInt16)

def World.boot : World := ⟨⟨none, none, 0, none⟩, .absent, .initial, 0, [], []⟩

def Request.issued (request : Request β) (driver : Driver) : Issued :=
  ⟨request.target, request.target.any (driver.live · request)⟩

/-- Taking a mutex that is not free waits for as long as it stays so, and a
mutex that was never created stops the caller in an assertion. -/
def serve (chance : Nat → Chance) (op : Op β) (world : World) : Option β × World :=
  match op with
  | .createMutex =>
    match (chance world.clock).fault with
    | some _ => (some false, { world with mutex := .absent, clock := world.clock + 1 })
    | none => (some true, { world with mutex := .free, clock := world.clock + 1 })
  | .takeMutex =>
    match world.mutex with
    | .free => (some (), { world with mutex := .held })
    | .absent | .held => (none, world)
  | .giveMutex =>
    match world.mutex with
    | .absent => (none, world)
    | .free | .held => (some (), { world with mutex := .free })
  | .load => (some world.statics, world)
  | .store statics => (some (), { world with statics })
  | .writeResult address value => (some (), { world with results := world.results ++ [(address, value)] })
  | .divideByZero => (none, world)
  | .driver request =>
    let answer := world.driver.serve (chance world.clock) request
    (answer.1, { world with
      driver := answer.2
      clock := world.clock + 1
      log := world.log ++ [request.issued world.driver] })

def perform (chance : Nat → Chance) (call : Call) (world : World) : Option Reply × World :=
  call.body.run (serve chance) world

/-- An outside in which no driver call fails. -/
def quiet : Nat → Chance := fun _ => ⟨none, 0, 0⟩

/-- The states after `ADC_InitController` has succeeded at boot. -/
def Initialised (chance : Nat → Chance) (world : World) : Prop :=
  perform chance .initController .boot = (some (.status .success), world)

/-- The states between calls, whichever tasks made them: bodies under the mutex are atomic, so a
run is the order in which the bodies of all tasks execute. `ADC_StartTimeCriticalSampling` takes
no mutex, but nothing is lost by making it one step too: on a channel that does not own the ADC
it makes a single access, the test of the owner, and the owner's own call changes nothing that
is shared. -/
def Reachable (chance : Nat → Chance) (world : World) : Prop :=
  ∃ start, Initialised chance start ∧ Reaches (perform chance) (fun _ _ _ => True) start world

def afterCalls (calls : List Call) : World := trail (perform quiet) (.initController :: calls) .boot

end LaserDriver.Adc
