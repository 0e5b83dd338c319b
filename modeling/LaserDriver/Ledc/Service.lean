import Mathlib.Logic.Function.Basic
import LaserDriver.Ledc.Fade

/-! One channel of the LEDC, shared by the tasks that write its duty or start fades, the
interrupt handler and the hardware. It starts when the record of the channel has been
created. What the duty register shows is taken from outside wherever it is read. -/

namespace LaserDriver.Ledc

/-- `ledc_fade_fsm_t`. -/
inductive Fsm where
  | idle | hwFade | isrCal | killedPending
  deriving Repr, DecidableEq

inductive Call where
  | setDuty (duty : Nat)
  | updateDuty
  | setFadeTimeAndStart (targetDuty : Nat) (maxFadeTimeMs : UInt32)
  deriving Repr, DecidableEq

/-- What a task does next in `ledc_set_duty`, in `ledc_update_duty` and in
`ledc_set_fade_time_and_start` that does not wait. -/
inductive Task where
  | idle
  | setAcquire (duty : Nat)
  | setMask (duty : Nat)
  | setConfig (duty : Nat)
  | setRelease
  | update
  | fadeLock (targetDuty : Nat) (maxFadeTimeMs : UInt32)
  | fadeAcquire (targetDuty : Nat) (maxFadeTimeMs : UInt32)
  | fadeMask (targetDuty : Nat) (maxFadeTimeMs : UInt32)
  | fadeMeasure (targetDuty : Nat) (maxFadeTimeMs : UInt32)
  | fadeRecord (targetDuty : Nat) (maxFadeTimeMs : UInt32) (dutyCur : Nat) (freq : UInt32)
  | fadeConfig (config : DutyConfig)
  | fadeClear
  | fadeEnable
  | fadeUpdate
  | fadeUnlock
  deriving Repr, DecidableEq

/-- What `ledc_fade_isr` does next on this channel. -/
inductive Isr where
  | idle
  | clear
  | check
  | read
  | commit (next : Option DutyConfig)
  | give
  deriving Repr, DecidableEq

/-- `sem` and `mux` are there to be taken; `started` is the configuration that the hardware was
last started on, and `aborted` is set by an assertion that fails. -/
structure Channel where
  maxDuty : Nat
  sem : Bool
  mux : Bool
  fsm : Fsm
  fade : Fade
  registers : DutyConfig
  sigOutEn : Bool
  started : DutyConfig
  intrEnabled : Bool
  intrStatus : Bool
  isr : Isr
  tasks : Nat → Task
  aborted : Bool

/-- After `ledc_fade_channel_init_check` has created the record, with no call under way. -/
def Channel.created (maxDuty : Nat) (fade : Fade) (registers : DutyConfig) (sigOutEn : Bool) (started : DutyConfig)
    (intrEnabled intrStatus : Bool) : Channel where
  maxDuty := maxDuty
  sem := true
  mux := true
  fsm := .idle
  fade := fade
  registers := registers
  sigOutEn := sigOutEn
  started := started
  intrEnabled := intrEnabled
  intrStatus := intrStatus
  isr := .idle
  tasks := fun _ => .idle
  aborted := false

namespace Channel
variable (channel : Channel)

def goto (task : Nat) (next : Task) : Channel := { channel with tasks := Function.update channel.tasks task next }

/-- `ledc_update_duty` takes no lock: the hardware starts on whatever is configured. -/
def updateDuty : Channel := { channel with sigOutEn := true, started := channel.registers }

/-- What a task finds when it reads: the duty that is shown and the frequency of the timer. -/
structure Reading where
  duty : Nat
  freq : UInt32
  deriving Repr, DecidableEq

def begin (task : Nat) (call : Call) : Option Channel :=
  match channel.tasks task with
  | .idle => match call with
    | .setDuty duty => some (channel.goto task (.setAcquire duty))
    | .updateDuty => some (channel.goto task .update)
    | .setFadeTimeAndStart targetDuty maxFadeTimeMs =>
      -- `target_duty` is checked before any lock is taken
      if targetDuty ≤ channel.maxDuty then some (channel.goto task (.fadeLock targetDuty maxFadeTimeMs)) else some channel
  | _ => none

/-- The next step of a task; what stands between two critical sections is one step. -/
def advance (task : Nat) (reading : Reading) : Option Channel :=
  match channel.tasks task with
  | .idle => none
  | .setAcquire duty => if channel.sem then some { channel.goto task (.setMask duty) with sem := false } else none
  | .setMask duty => some { channel.goto task (.setConfig duty) with intrEnabled := false }
  | .setConfig duty => some { channel.goto task .setRelease with
      registers := ⟨duty, .increase, 1, 1, 0⟩ }
  | .setRelease => some { channel.goto task .idle with sem := true }
  | .update => some (channel.goto task .idle).updateDuty
  | .fadeLock targetDuty maxFadeTimeMs =>
    if channel.mux then some { channel.goto task (.fadeAcquire targetDuty maxFadeTimeMs) with mux := false } else none
  | .fadeAcquire targetDuty maxFadeTimeMs =>
    if channel.sem then some { channel.goto task (.fadeMask targetDuty maxFadeTimeMs) with sem := false } else none
  | .fadeMask targetDuty maxFadeTimeMs =>
    some { channel.goto task (.fadeMeasure targetDuty maxFadeTimeMs) with intrEnabled := false }
  | .fadeMeasure targetDuty maxFadeTimeMs =>
    some (channel.goto task (.fadeRecord targetDuty maxFadeTimeMs reading.duty reading.freq))
  | .fadeRecord targetDuty maxFadeTimeMs dutyCur freq =>
    let (fade, config) := channel.fade.setFadeWithTime channel.maxDuty freq dutyCur reading.duty targetDuty maxFadeTimeMs
    some { channel.goto task (.fadeConfig config) with fade }
  | .fadeConfig config => some { channel.goto task .fadeClear with registers := config }
  | .fadeClear => some { channel.goto task .fadeEnable with intrStatus := false }
  | .fadeEnable =>
    if channel.fsm = .idle then some { channel.goto task .fadeUpdate with intrEnabled := true, fsm := .hwFade }
    else some { channel with aborted := true }
  | .fadeUpdate => some (channel.goto task .fadeUnlock).updateDuty
  | .fadeUnlock => some { channel.goto task .idle with mux := true }

def interrupt : Option Channel :=
  if channel.isr = .idle ∧ channel.intrStatus = true ∧ channel.intrEnabled = true then some { channel with isr := .clear }
  else none

def handle (dutyCur : Nat) : Option Channel :=
  match channel.isr with
  | .idle => none
  | .clear => some { channel with intrStatus := false, isr := .check }
  | .check =>
    match channel.fsm with
    | .hwFade => some { channel with fsm := .isrCal, isr := .read }
    -- the fade has been over before the handler came to see it
    | .idle => some { channel with isr := .idle }
    | .isrCal | .killedPending => some { channel with aborted := true }
  | .read => some { channel with isr := .commit (channel.fade.next dutyCur) }
  | .commit next =>
    match channel.fsm with
    | .idle | .hwFade => some { channel with aborted := true }
    | .killedPending => some { channel with fsm := .idle, isr := .give }
    | .isrCal =>
      match next with
      | none => some { channel with fsm := .idle, isr := .give }
      | some config => some { channel with registers := config, fsm := .hwFade, started := config, isr := .idle }
  | .give => some { channel with sem := true, isr := .idle }

end Channel

inductive Action where
  | call (task : Nat) (call : Call)
  | task (task : Nat) (reading : Channel.Reading)
  | raise
  | interrupt
  | handler (dutyCur : Nat)
  deriving Repr, DecidableEq

/-- One step of one party; the hardware raises its interrupt at any moment. -/
def perform (action : Action) (channel : Channel) : Option Unit × Channel :=
  let next := match action with
    | .call task call => channel.begin task call
    | .task task reading => channel.advance task reading
    | .raise => some { channel with intrStatus := true }
    | .interrupt => channel.interrupt
    | .handler dutyCur => channel.handle dutyCur
  (next.map fun _ => (), next.getD channel)

end LaserDriver.Ledc
