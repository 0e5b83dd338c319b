import LaserDriver.Uart.Reception

/-! When bytes are lost. As long as every byte finds room in the FIFO and the ring
buffer takes what the handler sends, no event makes the task flush, and nothing goes. -/

namespace LaserDriver.Uart
open Effects Rtos Shell

def alarming (type : EventType) : Bool := decide (Call.uartFlushInput ∈ type.handle)

/-- The handler is not about to report a loss. -/
def Handler.calm : Handler → Bool
  | .markFull | .disable true | .resetFifo | .clearOvf => false
  | .post type => !alarming type
  | _ => true

def Reader.calm : Reader → Bool
  | .flush false _ => false
  | _ => true

structure Calm (system : System) : Prop where
  lost : system.history.lost = 0
  ovf : system.rxOvf = false
  handler : system.handler.calm = true
  queue : ∀ type ∈ system.eventQueue.items, alarming type = false
  reader : system.reader.calm = true

/-- Nothing is lost without a cause. -/
def Spared (system : System) : Prop :=
  system.history.overrun = false → system.history.refused = false → Calm system

variable {system after : System}

theorem Spared.handle (spared : Spared system) {stale : UInt8} (stepped : system.handle stale = some after) :
    Spared after := by
  intro overrun refused
  cases entered : system.handler with
  | idle =>
    simp only [System.handle, entered] at stepped
    cases stepped
  | reading remaining got =>
    cases remaining with
    | zero =>
      simp only [System.handle, entered] at stepped
      cases stepped
      exact { spared overrun refused with handler := rfl }
    | succ remaining =>
      simp only [System.handle, entered] at stepped
      split at stepped
      all_goals
        cases stepped
        exact { spared overrun refused with handler := rfl }
  | send =>
    simp only [System.handle, entered] at stepped
    split at stepped
    · cases stepped
    · cases stepped
      exact { spared overrun refused with handler := rfl }
    · cases stepped
      cases refused
  | disable full =>
    simp only [System.handle, entered] at stepped
    cases stepped
    have calm := spared overrun refused
    have quiet := calm.handler
    rw [entered] at quiet
    cases full with
    | true => cases quiet
    | false => exact { calm with handler := rfl }
  | markFull | resetFifo | clearOvf =>
    simp only [System.handle, entered] at stepped
    cases stepped
    have quiet := (spared overrun refused).handler
    rw [entered] at quiet
    cases quiet
  | post type =>
    simp only [System.handle, entered] at stepped
    split at stepped
    · rename_i eventQueue posted
      cases stepped
      have calm := spared overrun refused
      have quiet := calm.handler
      rw [entered] at quiet
      refine { calm with handler := rfl, queue := ?_ }
      rw [Fifo.items_of_send posted]
      intro other member
      obtain waits | same := List.mem_append.mp member
      · exact calm.queue other waits
      · rw [List.mem_singleton.mp same]
        exact Bool.not_eq_true' _ ▸ quiet
    · cases stepped
      exact { spared overrun refused with handler := rfl }
  | checkFlag | measure | readFifo | sent =>
    simp only [System.handle, entered] at stepped
    repeat' split at stepped
    all_goals
      cases stepped
      exact { spared overrun refused with handler := rfl }

structure Framed (before after : System) : Prop where
  overrun : after.history.overrun = before.history.overrun
  refused : after.history.refused = before.history.refused
  ovf : after.rxOvf = before.rxOvf
  handler : after.handler = before.handler

theorem throwAway_framed (system : System) (initial : Bool) (count : Nat) :
    (system.throwAway initial count).overrun = system.history.overrun ∧
      (system.throwAway initial count).refused = system.history.refused := by
  cases initial <;> exact ⟨rfl, rfl⟩

theorem flush_framed {initial : Bool} {stage : Flush} (stepped : system.flush initial stage = some after) :
    Framed system after ∧ after.eventQueue = system.eventQueue ∧
      (initial = true → after.history.lost = system.history.lost ∧ after.reader.calm = true) := by
  cases stage with
  | receive =>
    simp only [System.flush] at stepped
    repeat' split at stepped
    · cases stepped
    · cases stepped
      exact ⟨⟨rfl, rfl, rfl, rfl⟩, rfl, by rintro rfl; exact ⟨rfl, rfl⟩⟩
    · cases stepped
      obtain ⟨overrun, refused⟩ := throwAway_framed system initial _
      exact ⟨⟨overrun, refused, rfl, rfl⟩, rfl, by rintro rfl; exact ⟨rfl, rfl⟩⟩
  | empty | reset =>
    simp only [System.flush] at stepped
    cases stepped
    obtain ⟨overrun, refused⟩ := throwAway_framed system initial _
    exact ⟨⟨overrun, refused, rfl, rfl⟩, rfl, by rintro rfl; exact ⟨rfl, rfl⟩⟩
  | take | giveBack | send =>
    simp only [System.flush] at stepped
    split at stepped
    all_goals cases stepped <;> exact ⟨⟨rfl, rfl, rfl, rfl⟩, rfl, by rintro rfl; exact ⟨rfl, rfl⟩⟩
  | disable | update | check | sent | reenable | give =>
    simp only [System.flush] at stepped
    cases stepped
    exact ⟨⟨rfl, rfl, rfl, rfl⟩, rfl, by rintro rfl; exact ⟨rfl, rfl⟩⟩

theorem readBytes_framed {timedOut : Bool} {stage : Reading} (stepped : system.readBytes timedOut stage = some after) :
    after.history = system.history ∧ after.rxOvf = system.rxOvf ∧ after.handler = system.handler ∧
      after.eventQueue = system.eventQueue ∧ after.reader.calm = true := by
  cases stage with
  | take =>
    simp only [System.readBytes] at stepped
    repeat' split at stepped
    all_goals cases stepped <;> exact ⟨rfl, rfl, rfl, rfl, rfl⟩
  | receive length copied =>
    cases length with
    | zero =>
      cases stepped
      exact ⟨rfl, rfl, rfl, rfl, rfl⟩
    | succ length =>
      simp only [System.readBytes] at stepped
      repeat' split at stepped
      all_goals cases stepped <;> exact ⟨rfl, rfl, rfl, rfl, rfl⟩
  | check | send | giveBack =>
    simp only [System.readBytes] at stepped
    repeat' split at stepped
    all_goals cases stepped <;> exact ⟨rfl, rfl, rfl, rfl, rfl⟩
  | copy | update | sent | reenable | give =>
    cases stepped
    exact ⟨rfl, rfl, rfl, rfl, rfl⟩

theorem Spared.advance (spared : Spared system) {timedOut : Bool} (stepped : system.advance timedOut = some after) :
    Spared after := by
  intro overrun refused
  cases reading : system.reader with
  | flush initial stage =>
    simp only [System.advance, reading] at stepped
    obtain ⟨framed, queue, free⟩ := flush_framed stepped
    have calm := spared (framed.overrun ▸ overrun) (framed.refused ▸ refused)
    have first : initial = true := by
      have quiet := calm.reader
      rw [reading] at quiet
      cases initial with
      | true => rfl
      | false => cases quiet
    obtain ⟨lost, reader⟩ := free first
    exact ⟨lost.trans calm.lost, framed.ovf.trans calm.ovf, framed.handler ▸ calm.handler, queue ▸ calm.queue, reader⟩
  | read stage =>
    simp only [System.advance, reading] at stepped
    obtain ⟨history, ovf, handler, queue, reader⟩ := readBytes_framed stepped
    have calm := spared (history ▸ overrun) (history ▸ refused)
    exact ⟨history ▸ calm.lost, ovf.trans calm.ovf, handler ▸ calm.handler, queue ▸ calm.queue, reader⟩
  | drain =>
    simp only [System.advance, reading] at stepped
    split at stepped
    · cases stepped
      exact { spared overrun refused with reader := rfl }
    · rename_i type eventQueue received
      cases stepped
      have calm := spared overrun refused
      have items := Fifo.items_of_receive received
      have quiet : Call.uartFlushInput ∉ type.handle := by
        have first := calm.queue type (items ▸ List.mem_cons_self)
        exact of_decide_eq_false first
      rw [if_neg quiet]
      refine { calm with queue := ?_, reader := rfl }
      intro other member
      exact calm.queue other (items ▸ List.mem_cons_of_mem _ member)
  | deliver outcome =>
    simp only [System.advance, reading] at stepped
    cases stepped
    exact { spared overrun refused with reader := rfl }

theorem Spared.interrupt (spared : Spared system) {cause : Cause} (entered : system.interrupt cause = some after) :
    Spared after := by
  intro overrun refused
  unfold System.interrupt at entered
  split at entered
  · cases entered
  · cases cause with
    | rxFifo =>
      simp only at entered
      split at entered
      · cases entered
        exact { spared overrun refused with handler := rfl }
      · cases entered
    | rxFifoOvf =>
      simp only at entered
      split at entered
      · rename_i raised
        cases entered
        exact absurd ((spared overrun refused).ovf.symm.trans raised) Bool.false_ne_true
      · cases entered
    | brkDet | framErr | parityErr | wakeup =>
      cases entered
      exact { spared overrun refused with handler := rfl }

theorem Spared.arrive (spared : Spared system) (byte : UInt8) : Spared (system.arrive byte) := by
  unfold System.arrive
  split
  · intro overrun refused
    exact { spared overrun refused with }
  · intro overrun
    cases overrun

theorem Spared.step (spared : Spared system) (action : Action) : Spared (perform action system).2 := by
  have stepped : ∀ next : Option System, (∀ after, next = some after → Spared after) → Spared (next.getD system) := by
    intro next kept
    cases next with
    | none => exact spared
    | some after => exact kept after rfl
  cases action with
  | arrive byte => exact spared.arrive byte
  | interrupt cause => exact stepped _ fun _ entered => spared.interrupt entered
  | handler stale => exact stepped _ fun _ moved => spared.handle moved
  | reader timedOut => exact stepped _ fun _ moved => spared.advance moved

theorem Spared.trail (spared : Spared system) (actions : List Action) : Spared (trail perform actions system) := by
  induction actions generalizing system with
  | nil => exact spared
  | cons action rest ih => exact ih (spared.step action)

/-- In every run, whatever the order of the accesses, what the shell has got and what is
on its way to it are bytes of the line in their order, none of them twice. The others are
counted, and none is missing as long as the FIFO has room and the ring buffer refuses
nothing. The handler must not have read a FIFO that was reset under it. -/
theorem bytes_accounted (storage : Nat) (memory : Memory) (readLen incomingByte : UInt8) (actions : List Action) :
    let system := Effects.trail perform actions (.installed storage memory readLen incomingByte)
    system.history.torn = false →
      system.transit.Sublist system.history.line ∧
      system.transit.length + system.history.discarded + system.history.lost = system.history.line.length ∧
      (system.history.overrun = false → system.history.refused = false → system.history.lost = 0) := by
  intro system whole
  have accounted : Accounted system := (accounted_installed storage memory readLen incomingByte).trail actions
  have quiet : Spared (.installed storage memory readLen incomingByte) := fun _ _ => ⟨rfl, rfl, rfl, nofun, rfl⟩
  have spared : Spared system := quiet.trail actions
  obtain ⟨sublist, total⟩ := accounted.bytes whole
  exact ⟨sublist, total, fun overrun refused => (spared overrun refused).lost⟩

/-- One byte before the first flush, two that are read, and one that is still in the FIFO. -/
def fourBytes : List Action :=
  .arrive 0x61 :: List.replicate 7 (.reader true) ++ [.arrive 0x62, .arrive 0x63, .interrupt .rxFifo] ++
    List.replicate 9 (.handler 0) ++ .arrive 0x64 :: List.replicate 21 (.reader true)

theorem bytes_accounted_four :
    let system := Effects.trail perform fourBytes (.installed 0 (fun _ => 0) 0 0)
    system.task.received = [0x62, 0x63] ∧ system.transit = [0x62, 0x63, 0x64] ∧ system.history.discarded = 1 ∧
      system.transit.Sublist system.history.line ∧
      system.transit.length + system.history.discarded + system.history.lost = system.history.line.length ∧
      (system.history.overrun = false → system.history.refused = false → system.history.lost = 0) := by
  have account := bytes_accounted 0 (fun _ => 0) 0 0 fourBytes (by decide +kernel)
  exact ⟨by decide +kernel, by decide +kernel, by decide +kernel, account⟩

end LaserDriver.Uart
