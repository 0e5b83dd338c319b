import LaserDriver.Lib.Rounded
import Mathlib.Tactic.IntervalCases
import LaserDriver.Led.System

/-! The frequency of the LEDC timers: what `ledc.c` writes into a timer for a requested
frequency, and what it reads back from it. All timers run from the crystal. -/

namespace LaserDriver.Ledc
open Effects Led

/-- The frequency of the crystal of the ESP32-S3. -/
def xtalFreqHz : Nat := 40000000

def timerDivNumMax : Nat := 0x3FFFF
/-- `LEDC_LL_FRACTIONAL_BITS` and `LEDC_LL_FRACTIONAL_MAX`. -/
def fractionalBits : Nat := 8
def fractionalMax : Nat := 2 ^ fractionalBits - 1

/-- `ledc_calculate_divisor`: the product has 32 bits, the sum 64, and the result 32. `none`
is a division by zero. -/
def calculateDivisor (srcClkFreq : Nat) (freqHz precision : UInt32) : Option UInt32 :=
  let period := freqHz * precision
  if period = 0 then none
  else some (UInt32.ofNat ((srcClkFreq * 2 ^ fractionalBits + (period / 2).toNat) / period.toNat))

def isDivInvalid (div : UInt32) : Prop := div.toNat ≤ fractionalMax ∨ div.toNat > timerDivNumMax

instance (div : UInt32) : Decidable (isDivInvalid div) := inferInstanceAs (Decidable (_ ∨ _))

structure Timer where
  clockDivider : UInt32
  dutyResolution : Nat
  deriving Repr, DecidableEq

/-- `ledc_set_timer_div` from the crystal: the timer is written when the divisor is valid. -/
def setTimerDiv (freqHz : UInt32) (dutyResolution : Nat) : Option Timer :=
  match calculateDivisor xtalFreqHz freqHz (1 <<< UInt32.ofNat dutyResolution) with
  | none => none
  | some div => if isDivInvalid div then none else some ⟨div, dutyResolution⟩

/-- `ledc_get_freq`; a timer that was never configured has no divider. -/
def Timer.getFreq (timer : Timer) : UInt32 :=
  let precision := 2 ^ timer.dutyResolution
  if timer.clockDivider = 0 then 0
  else UInt32.ofNat ((xtalFreqHz * 2 ^ fractionalBits + precision * timer.clockDivider.toNat / 2) /
    (precision * timer.clockDivider.toNat))

/-- What is left of a requested frequency in the 32 bits of the product. -/
def effective (freqHz : UInt32) (dutyResolution : Nat) : Nat := freqHz.toNat % 2 ^ (32 - dutyResolution)

section Divisor
variable {freqHz : UInt32} {dutyResolution : Nat} {timer : Timer}

theorem toNat_period (freqHz : UInt32) (small : dutyResolution < 32) :
    (freqHz * (1 <<< UInt32.ofNat dutyResolution)).toNat = effective freqHz dutyResolution * 2 ^ dutyResolution := by
  have shift : (1 <<< UInt32.ofNat dutyResolution : UInt32).toNat = 2 ^ dutyResolution := by
    have inside : 2 ^ dutyResolution < 2 ^ 32 := Nat.pow_lt_pow_right (by decide) small
    have reduced : dutyResolution % 4294967296 % 32 = dutyResolution := by omega
    rw [UInt32.toNat_shiftLeft, UInt32.toNat_ofNat', reduced, Nat.shiftLeft_eq]
    simpa using inside
  have split : 2 ^ 32 = 2 ^ (32 - dutyResolution) * 2 ^ dutyResolution := by
    rw [← Nat.pow_add, Nat.sub_add_cancel (Nat.le_of_lt small)]
  rw [UInt32.toNat_mul, shift, split, Nat.mul_mod_mul_right]
  rfl

/-- A divisor that came out valid has lost nothing to the 32 bits of the result. -/
theorem toNat_divisor {period : Nat} (positive : 0 < period)
    (valid : ¬ isDivInvalid (UInt32.ofNat (nearest (xtalFreqHz * 2 ^ fractionalBits) period))) :
    (UInt32.ofNat (nearest (xtalFreqHz * 2 ^ fractionalBits) period)).toNat =
      nearest (xtalFreqHz * 2 ^ fractionalBits) period := by
  rcases Nat.lt_or_ge period 3 with short | long
  · -- periods of one and two are refused, whatever is left of their divisors
    interval_cases period <;> exact absurd (by decide) valid
  · apply UInt32.toNat_ofNat_of_lt'
    exact Nat.lt_of_le_of_lt (nearest_le_of_le (by decide) long) (by decide)

structure SetFor (freqHz : UInt32) (dutyResolution : Nat) (timer : Timer) : Prop where
  asked : 0 < effective freqHz dutyResolution
  divided : nearest (xtalFreqHz * 2 ^ fractionalBits) (effective freqHz dutyResolution * 2 ^ dutyResolution) =
    timer.clockDivider.toNat
  least : 2 ^ fractionalBits ≤ timer.clockDivider.toNat
  resolution : timer.dutyResolution = dutyResolution

theorem setFor_of_setTimerDiv (small : dutyResolution < 32) (set : setTimerDiv freqHz dutyResolution = some timer) :
    SetFor freqHz dutyResolution timer := by
  have period := toNat_period freqHz small
  unfold setTimerDiv calculateDivisor at set
  generalize freqHz * (1 <<< UInt32.ofNat dutyResolution) = product at period set
  dsimp only at set
  split at set
  · cases set
  · rename_i div found
    split at found
    · cases found
    · rename_i nonzero
      split at set
      · cases set
      · rename_i valid
        cases set
        have positive : 0 < product.toNat := by
          apply Nat.pos_of_ne_zero
          intro zero
          exact nonzero (UInt32.toNat_inj.mp zero)
        have same : (xtalFreqHz * 2 ^ fractionalBits + (product / 2).toNat) / product.toNat =
            nearest (xtalFreqHz * 2 ^ fractionalBits) product.toNat := by
          rw [UInt32.toNat_div]
          rfl
        rw [same] at found
        obtain rfl := Option.some.inj found
        have exact := toNat_divisor positive valid
        refine ⟨?_, ?_, ?_, rfl⟩
        · rw [period] at positive
          exact Nat.pos_of_mul_pos_right positive
        · rw [exact, period]
        · exact Nat.lt_of_not_le fun tiny => valid (.inl tiny)

end Divisor

structure ReadsBack (asked dutyResolution read : Nat) : Prop where
  above : 512 * read ≤ 512 * asked + asked + 256
  below : 512 * asked ≤ 512 * read + asked + 256
  same : asked * (asked + 1) * 2 ^ dutyResolution ≤ xtalFreqHz * 2 ^ fractionalBits → read = asked

theorem toNat_getFreq {timer : Timer} (least : 2 ^ fractionalBits ≤ timer.clockDivider.toNat) :
    timer.getFreq.toNat =
      nearest (xtalFreqHz * 2 ^ fractionalBits) (2 ^ timer.dutyResolution * timer.clockDivider.toNat) := by
  have written : timer.clockDivider ≠ 0 := by
    rintro zero
    rw [zero] at least
    exact absurd least (by decide)
  have grows : 2 ^ fractionalBits ≤ 2 ^ timer.dutyResolution * timer.clockDivider.toNat :=
    Nat.le_trans least (Nat.le_mul_of_pos_left _ (Nat.two_pow_pos _))
  rw [Timer.getFreq, if_neg written]
  apply UInt32.toNat_ofNat_of_lt'
  exact Nat.lt_of_le_of_lt (nearest_le_of_le (by decide) grows) (by decide)

theorem SetFor.readsBack {freqHz : UInt32} {dutyResolution : Nat} {timer : Timer} (set : SetFor freqHz dutyResolution timer) :
    ReadsBack (effective freqHz dutyResolution) dutyResolution timer.getFreq.toNat := by
  obtain ⟨asked, divided, least, rfl⟩ := set
  rw [toNat_getFreq least]
  have units : 0 < 2 ^ timer.dutyResolution := Nat.two_pow_pos _
  obtain ⟨above, below⟩ := nearest_nearest_close units asked (by decide : 0 < 2 ^ fractionalBits) divided least
  generalize effective freqHz timer.dutyResolution = count at asked divided above below ⊢
  refine ⟨?_, ?_, ?_⟩
  · simp only [fractionalBits] at above ⊢
    omega
  · simp only [fractionalBits] at below ⊢
    omega
  · intro fits
    apply nearest_nearest_eq units asked divided
    have period : 0 < count * 2 ^ timer.dutyResolution := Nat.mul_pos asked units
    rw [← divided, nearest, Nat.lt_iff_add_one_le, Nat.le_div_iff_mul_le period]
    have product : (count + 1) * (count * 2 ^ timer.dutyResolution) = count * (count + 1) * 2 ^ timer.dutyResolution := by
      ring
    omega

/-- `LEDC_TIMER_BIT_MAX`. -/
def timerBitMax : Nat := 15

/-- `ledc_timer_config` with the crystal as its clock. -/
def timerConfig (config : TimerConfig) : Option Timer :=
  if config.freqHz = 0 ∨ config.dutyResolution = 0 ∨ config.dutyResolution ≥ timerBitMax then none
  else setTimerDiv config.freqHz config.dutyResolution

/-- `ledc_set_freq` on a timer that was configured. -/
def Timer.setFreq (timer : Timer) (freqHz : UInt32) : Option Timer := setTimerDiv freqHz timer.dutyResolution

/-- The timers that have been configured. The registers of the others are not followed. -/
abbrev Timers := Nat → Option Timer

namespace Timers

def unset : Timers := fun _ => none

/-- The timers after a call that was answered this way, if they answer it this way. -/
def answer (timers : Timers) : Issued → Option Timers
  | .call (.ledcTimerConfig config) true => do
    let timer ← timerConfig config
    return Function.update timers config.timerNum (some timer)
  | .call (.ledcSetFreq timerNum freqHz) true =>
    match timers timerNum with
    | none => some timers
    | some timer => do
      let tuned ← timer.setFreq freqHz
      return Function.update timers timerNum (some tuned)
  | .getFreq timerNum freqHz =>
    match timers timerNum with
    | none => some timers
    | some timer => if timer.getFreq = freqHz then some timers else none
  | _ => some timers

def follow (timers : Timers) (log : List Issued) : Option Timers := log.foldlM answer timers

end Timers

/-- The frequency and the resolution a timer was last set to with success. -/
def adopt (timerNum : Nat) (last : Option (UInt32 × Nat)) : Issued → Option (UInt32 × Nat)
  | .call (.ledcTimerConfig config) true =>
    if config.timerNum = timerNum then some (config.freqHz, config.dutyResolution) else last
  | .call (.ledcSetFreq other freqHz) true =>
    if other = timerNum then last.map fun setting => (freqHz, setting.2) else last
  | _ => last

def setting (timerNum : Nat) (log : List Issued) : Option (UInt32 × Nat) := log.foldl (adopt timerNum) none

@[simp] theorem setting_append (timerNum : Nat) (log issued : List Issued) :
    setting timerNum (log ++ issued) = issued.foldl (adopt timerNum) (setting timerNum log) := List.foldl_append

/-- A configured timer holds what was last asked of it with success. -/
def Holds (last : Option (UInt32 × Nat)) : Option Timer → Prop
  | none => last = none
  | some timer => ∃ freqHz, last = some (freqHz, timer.dutyResolution) ∧ timer.dutyResolution < 32 ∧
    SetFor freqHz timer.dutyResolution timer

theorem holds_timerConfig {config : TimerConfig} {timer : Timer} (configured : timerConfig config = some timer) :
    Holds (some (config.freqHz, config.dutyResolution)) (some timer) := by
  unfold timerConfig at configured
  split at configured
  · cases configured
  · rename_i checked
    have small : config.dutyResolution < 32 := by
      simp only [not_or, timerBitMax] at checked
      omega
    have set := setFor_of_setTimerDiv small configured
    have kept := set.resolution
    refine ⟨config.freqHz, ?_, ?_, ?_⟩
    · rw [kept]
    · rw [kept]
      exact small
    · rw [kept]
      exact set

theorem holds_setFreq {last : Option (UInt32 × Nat)} {timer tuned : Timer} {freqHz : UInt32}
    (held : Holds last (some timer)) (set : timer.setFreq freqHz = some tuned) :
    Holds (last.map fun setting => (freqHz, setting.2)) (some tuned) := by
  obtain ⟨former, rfl, small, -⟩ := held
  have written := setFor_of_setTimerDiv small set
  have kept := written.resolution
  refine ⟨freqHz, ?_, ?_, ?_⟩
  · rw [kept]
    rfl
  · rw [kept]
    exact small
  · rw [kept]
    exact written

theorem holds_answer {timers after : Timers} {issued : Issued} {timerNum : Nat} {last : Option (UInt32 × Nat)}
    (held : Holds last (timers timerNum)) (answered : timers.answer issued = some after) :
    Holds (adopt timerNum last issued) (after timerNum) := by
  unfold Timers.answer at answered
  split at answered
  case h_1 config =>
    obtain ⟨timer, configured, stored⟩ := Option.bind_eq_some_iff.mp answered
    obtain rfl := Option.some.inj stored
    by_cases same : config.timerNum = timerNum
    · subst same
      rw [Function.update_self, adopt, if_pos rfl]
      exact holds_timerConfig configured
    · rw [Function.update_of_ne (Ne.symm same), adopt, if_neg same]
      exact held
  case h_2 other freqHz =>
    split at answered
    · rename_i unknown
      obtain rfl := Option.some.inj answered
      by_cases same : other = timerNum
      · subst same
        rw [unknown] at held ⊢
        rw [adopt, if_pos rfl, Holds, held]
        rfl
      · rw [adopt, if_neg same]
        exact held
    · rename_i timer known
      obtain ⟨tuned, set, stored⟩ := Option.bind_eq_some_iff.mp answered
      obtain rfl := Option.some.inj stored
      by_cases same : other = timerNum
      · subst same
        rw [known] at held
        rw [Function.update_self, adopt, if_pos rfl]
        exact holds_setFreq held set
      · rw [Function.update_of_ne (Ne.symm same), adopt, if_neg same]
        exact held
  case h_3 other freqHz =>
    split at answered
    · obtain rfl := Option.some.inj answered
      exact held
    · split at answered
      · obtain rfl := Option.some.inj answered
        exact held
      · cases answered
  case h_4 notConfig notFreq _ =>
    obtain rfl := Option.some.inj answered
    have same : adopt timerNum last issued = last := by
      unfold adopt
      split
      · exact absurd rfl (notConfig _)
      · exact absurd rfl (notFreq _ _)
      · rfl
    rw [same]
    exact held

theorem holds_follow {log : List Issued} {timers after : Timers} {timerNum : Nat} {last : Option (UInt32 × Nat)}
    (held : Holds last (timers timerNum)) (followed : timers.follow log = some after) :
    Holds (log.foldl (adopt timerNum) last) (after timerNum) := by
  induction log generalizing timers last with
  | nil =>
    obtain rfl := Option.some.inj followed
    exact held
  | cons issued rest ih =>
    rw [Timers.follow, List.foldlM_cons] at followed
    obtain ⟨middle, answered, followed⟩ := Option.bind_eq_some_iff.mp followed
    exact ih (holds_answer held answered) followed

/-- What is read from a timer at the end of a log is what it was last set to, as far as the divider allows. -/
theorem readsBack_of_follow {log : List Issued} {timers : Timers} {timerNum dutyResolution : Nat} {freqHz read : UInt32}
    (last : setting timerNum log = some (freqHz, dutyResolution))
    (followed : Timers.unset.follow (log ++ [.getFreq timerNum read]) = some timers) :
    ReadsBack (effective freqHz dutyResolution) dutyResolution read.toNat := by
  rw [Timers.follow, List.foldlM_append] at followed
  obtain ⟨before, followed, answered⟩ := Option.bind_eq_some_iff.mp followed
  have initial : Holds none (Timers.unset timerNum) := rfl
  have held : Holds (setting timerNum log) (before timerNum) := holds_follow initial followed
  rw [last] at held
  rw [List.foldlM_cons] at answered
  obtain ⟨after, answered, -⟩ := Option.bind_eq_some_iff.mp answered
  unfold Timers.answer at answered
  cases known : before timerNum with
  | none =>
    rw [known] at held
    cases held
  | some timer =>
    rw [known] at held
    simp only [known] at answered
    split at answered
    · rename_i equal
      obtain ⟨former, same, small, set⟩ := held
      obtain ⟨rfl, rfl⟩ : freqHz = former ∧ dutyResolution = timer.dutyResolution := by simpa using same
      rw [← equal]
      exact set.readsBack
    · cases answered

end LaserDriver.Ledc
