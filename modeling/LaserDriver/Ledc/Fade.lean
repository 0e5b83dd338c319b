import Mathlib.Algebra.Order.Group.Unbundled.Int
import Mathlib.Algebra.BigOperators.Group.List.Basic
import Mathlib.Tactic.Linarith

/-! The fades of `ledc.c` on one channel. The driver hands the hardware a number of steps
of one size, and at their end its interrupt handler reads the duty and decides how to go on. -/

namespace LaserDriver.Ledc

/-- `LEDC_LL_DUTY_NUM_MAX`, `LEDC_LL_DUTY_CYCLE_MAX` and `LEDC_LL_DUTY_SCALE_MAX`. -/
def dutyNumMax : Nat := 0x3FF
def dutyCycleMax : Nat := 0x3FF
def dutyScaleMax : Nat := 0x3FF

inductive Direction where
  | decrease | increase
  deriving Repr, DecidableEq

/-- What `ledc_duty_config` writes to the registers of a channel. -/
structure DutyConfig where
  duty : Nat
  direction : Direction
  dutyNum : Nat
  dutyCycle : Nat
  dutyScale : Nat
  deriving Repr, DecidableEq

namespace DutyConfig
variable (config : DutyConfig)

/-- The duty after some of the steps: one step in `dutyCycle` periods. -/
def after (steps : Nat) : Int :=
  match config.direction with
  | .decrease => config.duty - steps * config.dutyScale
  | .increase => config.duty + steps * config.dutyScale

/-- The duty at which the hardware raises its interrupt. -/
def last : Int := config.after config.dutyNum

def duties : List Int := (List.range (config.dutyNum + 1)).map config.after

def periods : Nat := config.dutyNum * config.dutyCycle

structure Fits : Prop where
  dutyNum : config.dutyNum ≤ dutyNumMax
  dutyCycle : config.dutyCycle ≤ dutyCycleMax
  dutyScale : config.dutyScale ≤ dutyScaleMax

end DutyConfig

/-- What `ledc_fade_t` has of a fade. -/
structure Fade where
  targetDuty : Nat
  cycleNum : Nat
  scale : Nat
  direction : Direction
  deriving Repr, DecidableEq

namespace Fade
variable (fade : Fade)

/-- `_ledc_set_fade_with_step`. The direction stays as it was where there are no steps. -/
def setFadeWithStep (maxDuty dutyRead targetDuty scale cycleNum : Nat) : Fade × DutyConfig :=
  -- at its maximum the counter would overflow
  let dutyCur := if dutyRead = maxDuty then dutyRead - 1 else dutyRead
  let direction := if dutyCur > targetDuty then Direction.decrease else .increase
  let distance := if dutyCur > targetDuty then dutyCur - targetDuty else targetDuty - dutyCur
  let stepNum := if scale > 0 then min (distance / scale) dutyNumMax else 0
  ({ targetDuty, cycleNum, scale, direction := if scale > 0 then direction else fade.direction },
    if scale > 0 ∧ stepNum > 0 then ⟨dutyCur, direction, stepNum, cycleNum, scale⟩ else ⟨targetDuty, .increase, 1, 1, 0⟩)

/-- `_ledc_set_fade_with_time`. The duty is read here and once more in the function above. -/
def setFadeWithTime (maxDuty : Nat) (freq : UInt32) (dutyCur dutyRead targetDuty : Nat) (maxFadeTimeMs : UInt32) :
    Fade × DutyConfig :=
  let dutyDelta := if targetDuty > dutyCur then targetDuty - dutyCur else dutyCur - targetDuty
  let totalCycles := (maxFadeTimeMs * freq / 1000).toNat
  if dutyDelta = 0 then fade.setFadeWithStep maxDuty dutyRead targetDuty 0 0
  else if totalCycles = 0 then fade.setFadeWithStep maxDuty dutyRead targetDuty 0 0
  else if totalCycles > dutyDelta then
    fade.setFadeWithStep maxDuty dutyRead targetDuty 1 (min (totalCycles / dutyDelta) dutyCycleMax)
  else fade.setFadeWithStep maxDuty dutyRead targetDuty (min (dutyDelta / totalCycles) dutyScaleMax) 1

/-- The difference of two unsigned numbers, stored in an `int`. -/
def delta (dutyCur : Nat) : Int :=
  match fade.direction with
  | .decrease => Int.bmod ((dutyCur : Int) - fade.targetDuty) (2 ^ 32)
  | .increase => Int.bmod ((fade.targetDuty : Int) - dutyCur) (2 ^ 32)

/-- What `ledc_fade_isr` makes of the duty it reads; `none` when the fade is over. -/
def next (dutyCur : Nat) : Option DutyConfig :=
  if dutyCur = fade.targetDuty ∨ fade.scale = 0 then none
  else if fade.delta dutyCur > fade.scale then
    let step := (min (Int.tdiv (fade.delta dutyCur) fade.scale) dutyNumMax).toNat
    some ⟨dutyCur, fade.direction, step, fade.cycleNum, fade.scale⟩
  else some ⟨fade.targetDuty, fade.direction, 1, 1, 0⟩

/-- The configurations one after the other, from the first to the one at whose end the
handler finds the fade to be over. -/
def follow : Nat → DutyConfig → Option (List DutyConfig)
  | 0, _ => none
  | fuel + 1, config =>
    match fade.next config.last.toNat with
    | none => some [config]
    | some later => (follow fuel later).map (config :: ·)

/-- The duty from which it is so far to the target. -/
def duty (distance : Nat) : Int :=
  match fade.direction with
  | .decrease => fade.targetDuty + distance
  | .increase => fade.targetDuty - distance

end Fade
end LaserDriver.Ledc
