import LaserDriver.Uart.Reception

/-! The task of the shell as the driver runs it. Nobody else reads from the port, so its
reads find the mutex free, and it goes through its loop as if every read succeeded. -/

namespace LaserDriver.Uart
open Effects Rtos Shell

variable {system after : System}

def Followed (readLen incomingByte : UInt8) (system : System) : Prop :=
  ∃ inputs, system.task = trail tUartListenerTask inputs (.entered readLen incomingByte) ∧
    ∀ input ∈ inputs, ¬ input.failed

variable {readLen incomingByte : UInt8}

theorem Followed.input (followed : Followed readLen incomingByte system) {input : Input} (succeeded : ¬ input.failed)
    (task : after.task = (tUartListenerTask input system.task).2) : Followed readLen incomingByte after := by
  obtain ⟨inputs, ran, none_failed⟩ := followed
  refine ⟨inputs ++ [input], ?_, ?_⟩
  · rw [task, ran, trail, trail, List.foldl_append]
    rfl
  · intro other member
    obtain earlier | last := List.mem_append.mp member
    · exact none_failed other earlier
    · rw [List.mem_singleton.mp last]
      exact succeeded

theorem Followed.same (followed : Followed readLen incomingByte system) (task : after.task = system.task) :
    Followed readLen incomingByte after := by
  obtain ⟨inputs, ran, none_failed⟩ := followed
  exact ⟨inputs, task.trans ran, none_failed⟩

theorem handle_task {stale : UInt8} (stepped : system.handle stale = some after) : after.task = system.task := by
  unfold System.handle at stepped
  repeat' split at stepped
  all_goals cases stepped <;> rfl

theorem interrupt_task {cause : Cause} (entered : system.interrupt cause = some after) : after.task = system.task := by
  unfold System.interrupt at entered
  repeat' split at entered
  all_goals cases entered <;> rfl

theorem flush_task {initial : Bool} {stage : Flush} (stepped : system.flush initial stage = some after) :
    after.task = system.task := by
  unfold System.flush at stepped
  repeat' split at stepped
  all_goals cases stepped <;> rfl

theorem readBytes_task {timedOut : Bool} {stage : Reading} (stepped : system.readBytes timedOut stage = some after) :
    after.task = system.task := by
  unfold System.readBytes at stepped
  repeat' split at stepped
  all_goals cases stepped <;> rfl

theorem Followed.advance (followed : Followed readLen incomingByte system) (sound : Sound system) {timedOut : Bool}
    (stepped : system.advance timedOut = some after) : Followed readLen incomingByte after := by
  cases reading : system.reader with
  | flush initial stage =>
    simp only [System.advance, reading] at stepped
    exact followed.same (flush_task stepped)
  | read stage =>
    simp only [System.advance, reading] at stepped
    exact followed.same (readBytes_task stepped)
  | drain =>
    simp only [System.advance, reading] at stepped
    split at stepped
    · cases stepped
      exact followed.same rfl
    · rename_i type eventQueue received
      cases stepped
      have succeeded : ¬ (Input.event type).failed := fun failed => by cases failed
      exact followed.input succeeded rfl
  | deliver outcome =>
    simp only [System.advance, reading] at stepped
    cases stepped
    have succeeded : outcome ≠ .error := by
      have asks := sound.asks
      rw [reading] at asks
      exact asks
    have unfailed : ¬ (Input.read outcome).failed := fun failed => succeeded (Input.read.inj failed)
    exact followed.input unfailed rfl

theorem Followed.step (followed : Followed readLen incomingByte system) (sound : Sound system) (action : Action) :
    Followed readLen incomingByte (perform action system).2 := by
  have stepped : ∀ next : Option System, (∀ after, next = some after → Followed readLen incomingByte after) →
      Followed readLen incomingByte (next.getD system) := by
    intro next kept
    cases next with
    | none => exact followed
    | some after => exact kept after rfl
  cases action with
  | arrive byte =>
    refine followed.same ?_
    unfold perform System.arrive
    simp only [Option.getD_some]
    split <;> rfl
  | interrupt cause => exact stepped _ fun _ entered => followed.same (interrupt_task entered)
  | handler stale => exact stepped _ fun _ moved => followed.same (handle_task moved)
  | reader timedOut => exact stepped _ fun _ moved => followed.advance sound moved

theorem Followed.trail (followed : Followed readLen incomingByte system) (accounted : Accounted system)
    (actions : List Action) : Followed readLen incomingByte (trail perform actions system) := by
  induction actions generalizing system with
  | nil => exact followed
  | cons action rest ih => exact ih (followed.step accounted.sound action) (accounted.step action)

end LaserDriver.Uart
