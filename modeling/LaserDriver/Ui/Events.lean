import LaserDriver.Lib.Fifo
import LaserDriver.Lib.Run

/-! The event queue of `userInterface.c`. FreeRTOS answers `pdTRUE`, which is one,
when it takes an event; the code compares that answer with `ESP_OK`, which is zero. -/

namespace LaserDriver.Ui
open Effects

inductive Event where
  | boot | reset | overTemp | normalTemp | lowVoltage | normalVoltage | invalid
  deriving Repr, DecidableEq

inductive Ret where
  | error | ok
  deriving Repr, DecidableEq

def eventQueueSize : Nat := 8
def espOk : Int := 0
def pdTrue : Int := 1
def errQueueFull : Int := 0
def portTickPeriodMs : UInt32 := 1
def portMaxDelay : UInt32 := 0xFFFFFFFF

abbrev Queue := Fifo Event eventQueueSize

/-- A send that finds the queue full gives up after its time, unless it may wait
for ever: then it has no answer yet. -/
def xQueueSend (queue : Queue) (event : Event) (ticksToWait : UInt32) : Option (Int × Queue) :=
  match queue.send event with
  | some after => some (pdTrue, after)
  | none => if ticksToWait = portMaxDelay then none else some (errQueueFull, queue)

/-- What each side has seen: the events whose post was answered with `ok`, those
answered with `error`, and those that `tUiTask` has received. -/
structure State where
  eventQueueHandle : Option Queue
  acknowledged : List Event
  refused : List Event
  received : List Event

def State.boot : State := ⟨none, [], [], []⟩

/-- `queueCreated` and `taskCreated` are the answers of the kernel. -/
def init (queueCreated taskCreated : Bool) (state : State) : Ret × State :=
  if queueCreated then
    let state := { state with eventQueueHandle := some .empty }
    if taskCreated then (.ok, state) else (.error, state)
  else (.error, { state with eventQueueHandle := none })

/-- The return value, the queue it leaves, or no answer yet. -/
def postEvent (handle : Option Queue) (event : Event) (timeoutMs : UInt32) : Option (Ret × Option Queue) :=
  if event = .invalid then some (.error, handle)
  else match handle with
    | none => some (.error, none)
    | some queue => do
      let (answer, after) ← xQueueSend queue event (timeoutMs / portTickPeriodMs)
      return (if espOk ≠ answer then .error else .ok, some after)

/-- What the tasks do: some task's post comes to its answer, or `tUiTask` polls. -/
inductive Action where
  | post (task : Nat) (event : Event) (timeoutMs : UInt32)
  | poll

def State.answered (state : State) (event : Event) (handle : Option Queue) : Ret → State
  | .ok => { state with eventQueueHandle := handle, acknowledged := state.acknowledged ++ [event] }
  | .error => { state with eventQueueHandle := handle, refused := state.refused ++ [event] }

/-- One atomic action. A post that still waits leaves the state as it is. -/
def perform (action : Action) (state : State) : Option Ret × State :=
  match action with
  | .post _ event timeoutMs =>
    match postEvent state.eventQueueHandle event timeoutMs with
    | some (ret, handle) => (some ret, state.answered event handle ret)
    | none => (none, state)
  | .poll =>
    match state.eventQueueHandle.bind Fifo.receive with
    | some (event, after) => (none, { state with eventQueueHandle := some after, received := state.received ++ [event] })
    | none => (none, state)

/-- What has been taken from the queue, then what waits in it. -/
def State.delivered (state : State) : List Event :=
  state.received ++ (state.eventQueueHandle.map Fifo.items).getD []

def Event.valid (event : Event) : Bool := event != .invalid

/-- Everything acknowledged has been or will be delivered, in order, and nothing else. -/
def Faithful (state : State) : Prop := state.acknowledged = state.delivered

instance (state : State) : Decidable (Faithful state) := inferInstanceAs (Decidable (_ = _))

def Action.PostsValid : Action → Prop
  | .post _ event _ => event ≠ .invalid
  | .poll => False

variable {state start : State} {queue : Queue} {action : Action}

theorem init_eq {queueCreated taskCreated : Bool} (initialised : init queueCreated taskCreated .boot = (.ok, start)) :
    start = { State.boot with eventQueueHandle := some .empty } := by
  cases queueCreated <;> cases taskCreated <;> cases initialised
  rfl

theorem perform_post (created : state.eventQueueHandle = some queue) {event : Event} (valid : event ≠ .invalid)
    (task : Nat) (timeoutMs : UInt32) :
    (∃ after, queue.send event = some after ∧
      perform (.post task event timeoutMs) state = (some .error, state.answered event (some after) .error)) ∨
    (queue.send event = none ∧
      (perform (.post task event timeoutMs) state = (some .ok, state.answered event (some queue) .ok) ∨
        perform (.post task event timeoutMs) state = (none, state))) := by
  cases sent : queue.send event with
  | some after =>
    refine .inl ⟨after, rfl, ?_⟩
    simp [perform, postEvent, created, valid, xQueueSend, sent, espOk, pdTrue]
  | none =>
    refine .inr ⟨rfl, ?_⟩
    by_cases forever : timeoutMs / portTickPeriodMs = portMaxDelay
    · exact .inr (by simp [perform, postEvent, created, valid, xQueueSend, sent, forever])
    · exact .inl (by simp [perform, postEvent, created, valid, xQueueSend, sent, forever, espOk, errQueueFull])

theorem perform_invalid (task : Nat) (timeoutMs : UInt32) :
    perform (.post task .invalid timeoutMs) state =
      (some .error, state.answered .invalid state.eventQueueHandle .error) := by
  simp [perform, postEvent]

theorem perform_poll (created : state.eventQueueHandle = some queue) :
    (queue.receive = none ∧ perform .poll state = (none, state)) ∨
    (∃ event after, queue.receive = some (event, after) ∧
      perform .poll state =
        (none, { state with eventQueueHandle := some after, received := state.received ++ [event] })) := by
  cases received : queue.receive with
  | none => exact .inl ⟨rfl, by simp [perform, created, received]⟩
  | some taken => exact .inr ⟨taken.1, taken.2, rfl, by simp [perform, created, received]⟩

/-- The queue exists, and what was refused is what it was given. -/
structure Inverted (state : State) : Prop where
  created : state.eventQueueHandle ≠ none
  delivered : state.refused.filter Event.valid = state.delivered

theorem Inverted.step (inverted : Inverted state) (action : Action) : Inverted (perform action state).2 := by
  obtain ⟨queue, created⟩ := Option.ne_none_iff_exists'.mp inverted.created
  have before : state.refused.filter Event.valid = state.received ++ queue.items := by
    simpa [State.delivered, created] using inverted.delivered
  cases action with
  | post task event timeoutMs =>
    by_cases valid : event = .invalid
    · subst valid
      rw [perform_invalid]
      exact ⟨inverted.created, by simpa [State.answered, State.delivered, Event.valid, created] using before⟩
    · have kept : event.valid = true := bne_iff_ne.mpr valid
      obtain ⟨after, sent, performed⟩ | ⟨-, performed | performed⟩ := perform_post created valid task timeoutMs
      · rw [performed]
        refine ⟨nofun, ?_⟩
        simp [State.answered, State.delivered, kept, Fifo.items_of_send sent, before]
      · rw [performed]
        exact ⟨nofun, by simpa [State.answered, State.delivered] using before⟩
      · rw [performed]
        exact inverted
  | poll =>
    obtain ⟨-, performed⟩ | ⟨event, after, taken, performed⟩ := perform_poll created
    · rw [performed]
      exact inverted
    · rw [performed]
      refine ⟨nofun, ?_⟩
      simpa [State.delivered, Fifo.items_of_receive taken] using before

/-- In every run the valid events reported as failed are the delivered ones. -/
theorem refused_delivered {queueCreated taskCreated : Bool}
    (initialised : init queueCreated taskCreated .boot = (.ok, start)) (actions : List Action) :
    (trail perform actions start).refused.filter Event.valid = (trail perform actions start).delivered := by
  have inverted : Inverted start := by
    rw [init_eq initialised]
    exact ⟨nofun, rfl⟩
  have kept : ∀ state, Inverted state → Inverted (trail perform actions state) := by
    induction actions with
    | nil => exact fun _ inverted => inverted
    | cons action rest ih => exact fun state inverted => ih _ (inverted.step action)
  exact (kept start inverted).delivered

structure Untouched (state : State) : Prop where
  empty : state.eventQueueHandle = some .empty
  acknowledged : state.acknowledged = []
  received : state.received = []

theorem Untouched.faithful (untouched : Untouched state) : Faithful state := by
  simp [Faithful, State.delivered, untouched.acknowledged, untouched.received, untouched.empty, Fifo.empty]

theorem Untouched.step (untouched : Untouched state) (idle : ¬ action.PostsValid) :
    Untouched (perform action state).2 := by
  cases action with
  | post task event timeoutMs =>
    obtain rfl := not_not.mp idle
    rw [perform_invalid]
    exact ⟨untouched.empty, untouched.acknowledged, untouched.received⟩
  | poll =>
    obtain ⟨-, performed⟩ | ⟨event, after, taken, -⟩ := perform_poll untouched.empty
    · rw [performed]
      exact untouched
    · cases taken

theorem Untouched.post (untouched : Untouched state) (posts : action.PostsValid) :
    ¬ Faithful (perform action state).2 := by
  cases action with
  | poll => exact posts.elim
  | post task event timeoutMs =>
    obtain ⟨after, sent, performed⟩ | ⟨full, -⟩ := perform_post untouched.empty posts task timeoutMs
    · rw [performed]
      simp [Faithful, State.answered, State.delivered, untouched.acknowledged, untouched.received,
        Fifo.items_of_send sent]
    · cases full

/-- What is acknowledged is what is delivered, in every state of a run, exactly
when no task posts a valid event in it. -/
theorem always_faithful_iff {queueCreated taskCreated : Bool}
    (initialised : init queueCreated taskCreated .boot = (.ok, start)) (actions : List Action) :
    Always perform Faithful actions start ↔ ∀ action ∈ actions, ¬ action.PostsValid := by
  have runs : ∀ state, Untouched state →
      (Always perform Faithful actions state ↔ ∀ action ∈ actions, ¬ action.PostsValid) := by
    induction actions with
    | nil => exact fun _ untouched => iff_of_true untouched.faithful nofun
    | cons action rest ih =>
      intro state untouched
      rw [Always, List.forall_mem_cons, and_iff_right untouched.faithful]
      by_cases posts : action.PostsValid
      · exact iff_of_false (fun always => untouched.post posts always.start) (fun idle => idle.1 posts)
      · rw [ih _ (untouched.step posts), and_iff_right posts]
  rw [init_eq initialised]
  exact runs _ ⟨rfl, rfl, rfl⟩

theorem always_faithful_invalid :
    Always perform Faithful [.post 0 .invalid 10, .poll] (init true true .boot).2 ↔
      ∀ action ∈ [Action.post 0 .invalid 10, .poll], ¬ action.PostsValid :=
  @always_faithful_iff _ true true rfl _

/-- The first event posted is enqueued and reported as failed. -/
theorem posted_event_unacknowledged :
    ¬ Always perform Faithful [.post 0 .overTemp 10] (init true true .boot).2 := by
  rintro ⟨-, last⟩
  exact absurd last.start (by decide)

end LaserDriver.Ui
