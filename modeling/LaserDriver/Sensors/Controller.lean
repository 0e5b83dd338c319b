import Mathlib.Tactic.SplitIfs
import LaserDriver.Lib.Run

/-! The sensor task of `sensorController.c`. A binary semaphore lets it make one step at a
time, and it gives the semaphore back itself after every step but the one that starts the ADC. -/

namespace LaserDriver.Sensors
open Effects

/-- `SENSOR_Step_t`. -/
inductive Step where
  | idle | enSensor | startAdc | processTemp | processPwr | invalid
  deriving Repr, DecidableEq

inductive Ret where
  | error | ok
  deriving Repr, DecidableEq

/-- The task has not run yet, waits for the semaphore, or sleeps before it gives it back. -/
inductive Place where
  | start | wait | delay
  deriving Repr, DecidableEq

structure Controller where
  sensorStep : Step
  given : Bool
  place : Place
  enabled : Bool
  visited : List Step
  deriving Repr, DecidableEq

namespace Controller

/-- What `SENSOR_InitController` leaves when it succeeds; a binary semaphore is created empty. -/
def created : Controller := ⟨.idle, false, .start, false, []⟩

/-- `SENSOR_InitController`, with whether the pin, the semaphore and the task could be had. -/
def initController (gpio semphr task : Bool) : Ret × Option Controller :=
  if gpio = false then (.error, none)
  else if semphr = false then (.error, none)
  else if task = false then (.error, none)
  else (.ok, some created)

def process (controller : Controller) : Controller :=
  let taken := { controller with given := false, visited := controller.visited ++ [controller.sensorStep] }
  match controller.sensorStep with
  | .idle => { taken with sensorStep := .enSensor, place := .delay }
  | .enSensor => { taken with enabled := true, sensorStep := .startAdc, place := .delay }
  -- the sampling is asynchronous, and nothing is given here
  | .startAdc => { taken with sensorStep := .processPwr }
  | .processPwr => { taken with enabled := false, sensorStep := .processTemp, place := .delay }
  | .processTemp | .invalid => { taken with sensorStep := .idle, place := .delay }

theorem initController_ok_iff {gpio semphr task : Bool} :
    (initController gpio semphr task).1 = .ok ↔ (initController gpio semphr task).2 = some created := by
  unfold initController
  split_ifs <;> simp

end Controller

/-- The moves of the task, a time that runs out for it, and a give by somebody else. -/
inductive Action where
  | start
  | take
  | timeout
  | wake
  | give
  deriving Repr, DecidableEq

/-- The task moves of its own: it starts, takes the semaphore for a round, or wakes and gives it. -/
def Action.own : Action → Bool
  | .start | .take | .wake => true
  | .timeout | .give => false

def Controller.next (controller : Controller) : Action → Option Controller
  | .start => if controller.place = .start then some { controller with given := true, place := .wait } else none
  | .take => if controller.place = .wait ∧ controller.given = true then some controller.process else none
  | .timeout => if controller.place = .wait ∧ controller.given = false then some controller else none
  | .wake => if controller.place = .delay then some { controller with given := true, place := .wait } else none
  | .give => some { controller with given := true }

def perform (action : Action) (controller : Controller) : Option Unit × Controller :=
  let next := controller.next action
  (next.map fun _ => (), next.getD controller)

/-- The step that a round makes, counted from the first one. -/
def cycle (round : Nat) : Step :=
  match round % 5 with
  | 0 => .idle
  | 1 => .enSensor
  | 2 => .startAdc
  | 3 => .processPwr
  | _ => .processTemp

/-- The task can make no move of its own. -/
def Controller.Blocked (controller : Controller) : Prop := ∀ action, action.own = true → controller.next action = none

/-- How many moves of its own the task makes while it is driven by these actions: not the rounds
of the `switch`, which `visited` records, but its start, the takes and the wakes. -/
def ownSteps : List Action → Controller → Nat
  | [], _ => 0
  | action :: rest, controller =>
    (if action.own = true ∧ (controller.next action).isSome = true then 1 else 0) + ownSteps rest (perform action controller).2

/-- What holds after any number of gives from outside. -/
structure Paced (gives : Nat) (controller : Controller) : Prop where
  ordered : controller.visited = (List.range controller.visited.length).map cycle
  step : controller.sensorStep = cycle controller.visited.length
  powered : controller.enabled = true ↔ controller.visited.length % 5 = 2 ∨ controller.visited.length % 5 = 3
  -- a give is on its way, or the conversion is
  carried : controller.place = .wait → controller.given = false → controller.visited.length % 5 = 3
  -- what has been given and is being given, against the rounds that gave nothing back
  paid : (controller.visited.length + 2) / 5 + controller.given.toNat + (if controller.place = .wait then 0 else 1) ≤
    gives + 1

section Step
variable {gives : Nat} {controller : Controller}

theorem cycle_cases (round : Nat) :
    (round % 5 = 0 ∧ cycle round = .idle ∧ cycle (round + 1) = .enSensor) ∨
    (round % 5 = 1 ∧ cycle round = .enSensor ∧ cycle (round + 1) = .startAdc) ∨
    (round % 5 = 2 ∧ cycle round = .startAdc ∧ cycle (round + 1) = .processPwr) ∨
    (round % 5 = 3 ∧ cycle round = .processPwr ∧ cycle (round + 1) = .processTemp) ∨
    (round % 5 = 4 ∧ cycle round = .processTemp ∧ cycle (round + 1) = .idle) := by
  have residue : round % 5 = 0 ∨ round % 5 = 1 ∨ round % 5 = 2 ∨ round % 5 = 3 ∨ round % 5 = 4 := by omega
  rcases residue with same | same | same | same | same
  all_goals
    simp [cycle, Nat.add_mod, same]

theorem paced_created : Paced 0 .created := by
  refine ⟨rfl, rfl, ?_, nofun, ?_⟩
  · simp [Controller.created]
  · simp [Controller.created]

theorem Paced.start (paced : Paced gives controller) (fresh : controller.place = .start) :
    Paced gives { controller with given := true, place := .wait } := by
  obtain ⟨ordered, step, powered, -, paid⟩ := paced
  refine ⟨ordered, step, powered, nofun, ?_⟩
  rw [fresh] at paid
  simp only [reduceCtorEq, if_false, if_true, Bool.toNat_true] at paid ⊢
  omega

theorem Paced.wake (paced : Paced gives controller) (asleep : controller.place = .delay) :
    Paced gives { controller with given := true, place := .wait } := by
  obtain ⟨ordered, step, powered, -, paid⟩ := paced
  refine ⟨ordered, step, powered, nofun, ?_⟩
  rw [asleep] at paid
  simp only [reduceCtorEq, if_false, if_true, Bool.toNat_true] at paid ⊢
  omega

theorem Paced.give (paced : Paced gives controller) : Paced (gives + 1) { controller with given := true } := by
  obtain ⟨ordered, step, powered, -, paid⟩ := paced
  refine ⟨ordered, step, powered, nofun, ?_⟩
  simp only [Bool.toNat_true] at paid ⊢
  omega

theorem visited_process : controller.process.visited = controller.visited ++ [controller.sensorStep] := by
  unfold Controller.process
  cases controller.sensorStep <;> rfl

theorem process_paced (step : controller.sensorStep = cycle controller.visited.length) :
    controller.process.sensorStep = cycle controller.process.visited.length ∧
    controller.process.given = false ∧
    (controller.process.place = if controller.visited.length % 5 = 2 then controller.place else .delay) ∧
    controller.process.enabled = if controller.visited.length % 5 = 1 then true
      else if controller.visited.length % 5 = 3 then false else controller.enabled := by
  have grown : controller.process.visited.length = controller.visited.length + 1 := by
    simp [visited_process]
  rw [grown]
  generalize controller.visited.length = round at step ⊢
  rcases cycle_cases round with ⟨same, now, next⟩ | ⟨same, now, next⟩ | ⟨same, now, next⟩ | ⟨same, now, next⟩ | ⟨same, now, next⟩
  all_goals
    rw [now] at step
    simp [Controller.process, step, same, next]

theorem Paced.take (paced : Paced gives controller) (waits : controller.place = .wait) (given : controller.given = true) :
    Paced gives controller.process := by
  obtain ⟨ordered, step, powered, -, paid⟩ := paced
  obtain ⟨next, taken, place, enabled⟩ := process_paced step
  have grown : controller.process.visited.length = controller.visited.length + 1 := by
    simp [visited_process]
  rw [waits] at place paid
  simp only [given, if_true, Bool.toNat_true] at paid
  refine ⟨?_, next, ?_, ?_, ?_⟩
  · rw [grown, List.range_succ, List.map_append, ← ordered, visited_process, step]
    rfl
  · rw [enabled, grown]
    split
    · simp only [true_iff]
      omega
    · split
      · simp only [Bool.false_eq_true, false_iff]
        omega
      · rw [powered]
        omega
  · intro still _
    rw [grown]
    rw [place] at still
    split at still
    · omega
    · cases still
  · rw [grown, taken, place]
    split
    · simp only [if_true, Bool.toNat_false]
      omega
    · simp only [reduceCtorEq, if_false, Bool.toNat_false]
      omega

theorem Paced.step_of (paced : Paced gives controller) (action : Action) :
    Paced (gives + [action].count .give) (perform action controller).2 := by
  cases action with
  | give => exact paced.give
  | start =>
    unfold perform Controller.next
    dsimp only
    split
    · rename_i fresh
      exact paced.start fresh
    · exact paced
  | take =>
    unfold perform Controller.next
    dsimp only
    split
    · rename_i ready
      exact paced.take ready.1 ready.2
    · exact paced
  | timeout =>
    unfold perform Controller.next
    dsimp only
    split
    · exact paced
    · exact paced
  | wake =>
    unfold perform Controller.next
    dsimp only
    split
    · rename_i asleep
      exact paced.wake asleep
    · exact paced

theorem Paced.trail (paced : Paced gives controller) (actions : List Action) :
    Paced (gives + actions.count .give) (trail perform actions controller) := by
  induction actions generalizing gives controller with
  | nil => exact paced
  | cons action rest ih =>
    have first := ih (paced.step_of action)
    rw [Nat.add_assoc, ← List.count_append] at first
    exact first

theorem Paced.rounds (paced : Paced gives controller) : controller.visited.length ≤ 5 * gives + 3 := by
  obtain ⟨-, -, -, carried, paid⟩ := paced
  cases given : controller.given with
  | true =>
    simp only [given, Bool.toNat_true] at paid
    omega
  | false =>
    by_cases waits : controller.place = .wait
    · have ready := carried waits given
      simp only [given, waits, if_true, Bool.toNat_false] at paid
      omega
    · simp only [given, if_neg waits, Bool.toNat_false] at paid
      omega

theorem blocked_iff :
    controller.Blocked ↔ controller.place = .wait ∧ controller.given = false := by
  constructor
  · intro blocked
    have start := blocked .start rfl
    have take := blocked .take rfl
    have wake := blocked .wake rfl
    cases place : controller.place with
    | start => simp [Controller.next, place] at start
    | delay => simp [Controller.next, place] at wake
    | wait => simpa [Controller.next, place] using take
  · rintro ⟨waits, empty⟩ action own
    cases action <;> cases own
    all_goals simp [Controller.next, waits, empty]

theorem Paced.blocked_step (paced : Paced gives controller) (blocked : controller.Blocked) :
    controller.visited.length % 5 = 3 ∧ controller.sensorStep = .processPwr := by
  obtain ⟨waits, empty⟩ := blocked_iff.mp blocked
  have third := paced.carried waits empty
  refine ⟨third, ?_⟩
  rw [paced.step]
  simp [cycle, third]

/-- Two moves for each round, a take and a wake, but for the rounds that start the ADC; one
more when the task waits again. -/
def Controller.worked (controller : Controller) : Nat :=
  2 * controller.visited.length - (controller.visited.length + 2) / 5 + if controller.place = .wait then 1 else 0

theorem Paced.worked_take (paced : Paced gives controller) (waits : controller.place = .wait) :
    controller.process.worked = controller.worked + 1 := by
  obtain ⟨-, -, place, -⟩ := process_paced paced.step
  have grown : controller.process.visited.length = controller.visited.length + 1 := by
    simp [visited_process]
  unfold Controller.worked
  rw [place, grown, waits]
  by_cases third : controller.visited.length % 5 = 2
  · simp only [third, if_true]
    omega
  · simp only [third, if_false, if_true, reduceCtorEq]
    omega

theorem Paced.worked_step (paced : Paced gives controller) (action : Action) : (perform action controller).2.worked =
    (if action.own = true ∧ (controller.next action).isSome = true then 1 else 0) + controller.worked := by
  cases action with
  | give => exact (Nat.zero_add controller.worked).symm
  | timeout =>
    unfold perform Controller.next
    dsimp only
    split <;> simp [Action.own]
  | start =>
    unfold perform Controller.next
    dsimp only
    split
    · rename_i fresh
      simp [Action.own, Controller.worked, fresh]
      omega
    · simp [Action.own]
  | take =>
    unfold perform Controller.next
    dsimp only
    split
    · rename_i ready
      have worked := paced.worked_take ready.1
      simp [Action.own, worked]
      omega
    · simp [Action.own]
  | wake =>
    unfold perform Controller.next
    dsimp only
    split
    · rename_i asleep
      simp [Action.own, Controller.worked, asleep]
      omega
    · simp [Action.own]

theorem Paced.worked_trail (paced : Paced gives controller) (actions : List Action) :
    (Effects.trail perform actions controller).worked = ownSteps actions controller + controller.worked := by
  induction actions generalizing gives controller with
  | nil => simp [ownSteps, Effects.trail]
  | cons action rest ih =>
    have later := ih (paced.step_of action)
    rw [paced.worked_step action] at later
    rw [ownSteps, Effects.trail, List.foldl_cons]
    rw [Effects.trail] at later
    omega

end Step

/-- Whatever the order of wakes, timeouts and gives from outside: the rounds follow the cycle,
the sensors are on from their round to the one that processes the power, a give from outside is
worth at most one turn of the cycle, and the task can only come to wait for one between the
start of the conversion and the processing of the power. -/
theorem sensor_steps (actions : List Action) :
    let controller := trail perform actions .created
    controller.visited = (List.range controller.visited.length).map cycle ∧
      (controller.enabled = true ↔ controller.visited.length % 5 = 2 ∨ controller.visited.length % 5 = 3) ∧
      controller.visited.length ≤ 5 * actions.count .give + 3 ∧
      (controller.Blocked → controller.sensorStep = .processPwr) := by
  have paced : Paced (0 + actions.count .give) (trail perform actions .created) := paced_created.trail actions
  rw [Nat.zero_add] at paced
  exact ⟨paced.ordered, paced.powered, paced.rounds, fun blocked => (paced.blocked_step blocked).2⟩

/-- In the program as it is nobody else gives the semaphore. The task makes six moves, three of
them rounds, and then waits for ever with the sensors on, and never gets to process anything. -/
theorem sensors_stay_on (actions : List Action) (alone : .give ∉ actions) :
    let controller := trail perform actions .created
    ownSteps actions .created ≤ 6 ∧
      (ownSteps actions .created = 6 ↔ controller.Blocked) ∧
      (controller.Blocked → controller.enabled = true ∧ controller.visited = [.idle, .enSensor, .startAdc]) := by
  have paced : Paced (0 + actions.count .give) (trail perform actions .created) := paced_created.trail actions
  have steps := paced_created.worked_trail actions
  rw [List.count_eq_zero_of_not_mem alone] at paced
  have rounds := paced.rounds
  have paid := paced.paid
  have fresh : Controller.created.worked = 0 := rfl
  rw [fresh, Nat.add_zero, Controller.worked] at steps
  have whole : ownSteps actions .created = 6 ↔ (trail perform actions .created).Blocked := by
    rw [blocked_iff]
    constructor
    · intro six
      by_cases waits : (trail perform actions .created).place = .wait
      · cases given : (trail perform actions .created).given with
        | false => exact ⟨waits, rfl⟩
        | true =>
          simp only [waits, given, if_true, Bool.toNat_true] at paid steps
          omega
      · simp only [if_neg waits] at steps
        omega
    · rintro ⟨waits, empty⟩
      have third := paced.carried waits empty
      simp only [waits, if_true] at steps
      omega
  refine ⟨?_, whole, ?_⟩
  · split at steps <;> omega
  · intro blocked
    have third := (paced.blocked_step blocked).1
    have three : (trail perform actions .created).visited.length = 3 := by omega
    refine ⟨paced.powered.mpr (.inr third), ?_⟩
    rw [paced.ordered, three]
    rfl

/-- The three rounds, with the time running out twice. -/
def threeSteps : List Action := [.start, .take, .timeout, .wake, .take, .wake, .take, .timeout]

theorem sensors_stay_on_timeouts : ownSteps threeSteps .created ≤ 6 ∧
    (ownSteps threeSteps .created = 6 ↔ (trail perform threeSteps .created).Blocked) ∧
    ((trail perform threeSteps .created).Blocked → (trail perform threeSteps .created).enabled = true ∧
      (trail perform threeSteps .created).visited = [.idle, .enSensor, .startAdc]) :=
  sensors_stay_on threeSteps (by decide)

end LaserDriver.Sensors
