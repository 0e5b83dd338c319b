import Mathlib.Tactic.SplitIfs
import LaserDriver.Led.Performed

/-! The duties that reach the LEDC. At eight bits a duty of 256 is a whole period. -/

namespace LaserDriver.Led
open Effects Program

variable {capacity : Nat} {chance : Nat → Chance} {world : World capacity} {activeLevel : ActiveLevel}

/-- What a set function writes for a duty it is given. -/
def dutyFor (activeLevel : ActiveLevel) (duty : UInt32) : UInt32 := inverse activeLevel (clip duty)

/-- How many 256ths of a period the LED is on. -/
def onTime (activeLevel : ActiveLevel) (duty : UInt32) : Nat :=
  if activeLevel = .low then 256 - duty.toNat else duty.toNat

theorem toNat_clip (duty : UInt32) : (clip duty).toNat = min duty.toNat 255 := by
  simp only [clip, maxPwmDuty, minPwmDuty, ge_iff_le, UInt32.le_iff_toNat_le]
  have top : (255 : UInt32).toNat = 255 := rfl
  have bottom : (0 : UInt32).toNat = 0 := rfl
  split <;> split <;> omega

/-- Over a duty up to 255 the inversion counts down from 256, or from 255 between the ends. -/
theorem toNat_inverse_low {duty : UInt32} (bounded : duty.toNat ≤ 255) : (inverse .low duty).toNat =
    if duty.toNat = 255 then 0 else if duty.toNat = 0 then 256 else 255 - duty.toNat := by
  have top : maxPwmDuty.toNat = 255 := rfl
  have bottom : minPwmDuty.toNat = 0 := rfl
  simp only [inverse, if_true, ← UInt32.toNat_inj, top, bottom]
  split
  · rfl
  · split
    · rfl
    · rw [UInt32.toNat_sub_of_le _ _ (UInt32.le_iff_toNat_le.mpr (top ▸ bounded)), top]

theorem inverse_other (other : activeLevel ≠ .low) (duty : UInt32) : inverse activeLevel duty = duty := if_neg other

theorem toNat_dutyFor_low (duty : UInt32) : (dutyFor .low duty).toNat =
    if 255 ≤ duty.toNat then 0 else if duty.toNat = 0 then 256 else 255 - duty.toNat := by
  have clipped := toNat_clip duty
  rw [dutyFor, toNat_inverse_low (by omega), clipped]
  split_ifs <;> omega

theorem toNat_dutyFor_other (other : activeLevel ≠ .low) (duty : UInt32) :
    (dutyFor activeLevel duty).toNat = min duty.toNat 255 := by
  rw [dutyFor, inverse_other other, toNat_clip]

theorem dutyFor_le (activeLevel : ActiveLevel) (duty : UInt32) : (dutyFor activeLevel duty).toNat ≤ 256 := by
  by_cases low : activeLevel = .low
  · subst low
    rw [toNat_dutyFor_low]
    split_ifs <;> omega
  · rw [toNat_dutyFor_other low]
    omega

theorem onTime_dutyFor (activeLevel : ActiveLevel) (duty : UInt32) : onTime activeLevel (dutyFor activeLevel duty) =
    if activeLevel = .low then (if 255 ≤ duty.toNat then 256 else if duty.toNat = 0 then 0 else duty.toNat + 1)
    else min duty.toNat 255 := by
  unfold onTime
  by_cases low : activeLevel = .low
  · subst low
    rw [if_pos rfl, if_pos rfl, toNat_dutyFor_low]
    split_ifs <;> omega
  · rw [if_neg low, if_neg low, toNat_dutyFor_other low]

/-- Without the clipping the inversion gives another duty above 255. -/
theorem inverse_eq_dutyFor_iff {duty : UInt32} : inverse activeLevel duty = dutyFor activeLevel duty ↔ duty ≤ 255 := by
  have top : (255 : UInt32).toNat = 255 := rfl
  rw [UInt32.le_iff_toNat_le, top]
  constructor
  · intro same
    by_contra large
    by_cases low : activeLevel = .low
    · subst low
      have written := congrArg UInt32.toNat same
      have word := duty.toNat_lt
      rw [toNat_dutyFor_low, if_pos (by omega), inverse, if_pos rfl, if_neg, if_neg, UInt32.toNat_sub] at written
      · have : maxPwmDuty.toNat = 255 := rfl
        omega
      · intro equal
        subst equal
        exact large (by decide)
      · intro equal
        subst equal
        exact large (by decide)
    · have written := congrArg UInt32.toNat same
      rw [toNat_dutyFor_other low, inverse_other low] at written
      omega
  · intro small
    rw [dutyFor]
    congr 1
    rw [← UInt32.toNat_inj, toNat_clip]
    omega

/-- How the duties written for two requests compare. -/
structure Ordered (activeLevel : ActiveLevel) (lower upper written written' : UInt32) : Prop where
  monotone : onTime activeLevel written ≤ onTime activeLevel written'
  strict : lower < upper → upper ≤ 255 → onTime activeLevel written < onTime activeLevel written'
  dark : lower = 0 → onTime activeLevel written = 0
  saturated : 255 ≤ lower → onTime activeLevel written = onTime activeLevel written'
  bounded : written ≤ 256 ∧ written' ≤ 256

theorem ordered_dutyFor (activeLevel : ActiveLevel) {lower upper : UInt32} (ordered : lower ≤ upper) :
    Ordered activeLevel lower upper (dutyFor activeLevel lower) (dutyFor activeLevel upper) := by
  have top : (255 : UInt32).toNat = 255 := rfl
  have order := UInt32.le_iff_toNat_le.mp ordered
  refine ⟨?_, ?_, ?_, ?_, ?_, ?_⟩
  · rw [onTime_dutyFor, onTime_dutyFor]
    split_ifs <;> omega
  · intro less small
    rw [UInt32.lt_iff_toNat_lt] at less
    rw [UInt32.le_iff_toNat_le, top] at small
    rw [onTime_dutyFor, onTime_dutyFor]
    split_ifs <;> omega
  · intro equal
    subst equal
    have zero : (0 : UInt32).toNat = 0 := rfl
    rw [onTime_dutyFor]
    split_ifs <;> omega
  · intro large
    rw [UInt32.le_iff_toNat_le, top] at large
    rw [onTime_dutyFor, onTime_dutyFor]
    split_ifs <;> omega
  · exact UInt32.le_iff_toNat_le.mpr (dutyFor_le activeLevel lower)
  · exact UInt32.le_iff_toNat_le.mpr (dutyFor_le activeLevel upper)

def issuedBy (chance : Nat → Chance) (call : Call) (world : World capacity) : List Issued :=
  (perform chance call world).2.log.drop world.log.length

def requested (issued : List Issued) : List Request :=
  issued.filterMap fun | .call asked _ => some asked | _ => none

def Request.setDuty? : Request → Option (Nat × UInt32)
  | .ledcSetDuty channel duty => some (channel, duty)
  | _ => none

def Request.fadeTarget? : Request → Option (Nat × UInt32)
  | .ledcSetFadeTimeAndStart channel targetDuty _ => some (channel, targetDuty)
  | _ => none

def setDuties (issued : List Issued) : List (Nat × UInt32) := (requested issued).filterMap Request.setDuty?

def fadeTargets (issued : List Issued) : List (Nat × UInt32) := (requested issued).filterMap Request.fadeTarget?

theorem issuedBy_served {call : Call} {ledHandle : UInt8} {info : LedInfo} {config : LedConfig}
    (unlocked : world.mutex = .free) (led : world.led? ledHandle = some info) (operates : call.ledHandle? = some ledHandle)
    (serves : call.serves info.ledType = true) (seen : info.seen chance world = (config, world)) :
    issuedBy chance call world = (call.exchange chance world.clock (call.asks config)).2 := by
  rw [issuedBy, perform_served unlocked led operates serves, seen]
  simp

theorem requested_of_attempted (clock : Nat) (requests : List Request) :
    requested (attempted chance clock requests) <+: requests := by
  induction requests generalizing clock with
  | nil => exact List.prefix_rfl
  | cons asked rest ih =>
    rw [attempted]
    split
    · exact (List.prefix_cons_inj asked).mpr (ih (clock + 1))
    · exact ⟨rest, rfl⟩

theorem requested_accepted {clock : Nat} {requests : List Request} (all : accepted chance clock requests = true) :
    requested (attempted chance clock requests) = requests := by
  induction requests generalizing clock with
  | nil => rfl
  | cons asked rest ih =>
    rw [accepted, Bool.and_eq_true] at all
    rw [attempted, if_pos all.1]
    exact congrArg (asked :: ·) (ih all.2)

theorem requested_head (clock : Nat) (asked : Request) (rest : List Request) :
    [asked] <+: requested (attempted chance clock (asked :: rest)) := by
  rw [attempted]
  split
  · exact ⟨_, rfl⟩
  · exact List.prefix_rfl

/-- Where only the first request counts it does not matter what becomes of it. -/
theorem picked_of_head {γ : Type} (pick : Request → Option γ) (clock : Nat) (asked : Request) {rest : List Request}
    (none : rest.filterMap pick = []) :
    (requested (attempted chance clock (asked :: rest))).filterMap pick = (asked :: rest).filterMap pick := by
  have made := (@requested_of_attempted chance clock (asked :: rest)).filterMap pick
  have first := (@requested_head chance clock asked rest).filterMap pick
  have whole : (asked :: rest).filterMap pick = [asked].filterMap pick := by
    rw [← List.singleton_append, List.filterMap_append, none, List.append_nil]
  exact made.eq_of_length_le (whole ▸ first.length_le)

def SinglePwmConfig.info (config : SinglePwmConfig) : LedInfo := ⟨.singlePwm, true, .singlePwm config⟩

def RgbConfig.info (config : RgbConfig) : LedInfo := ⟨.rgb, true, .rgb config⟩

def RgbConfig.duties (config : RgbConfig) (f : UInt32 → UInt32) (color : Color) : List (Nat × UInt32) :=
  [(config.redChannel, f color.redDuty), (config.greenChannel, f color.greenDuty), (config.blueChannel, f color.blueDuty)]

theorem map_duties (config : RgbConfig) (f : UInt32 → UInt32) (color : Color) :
    (config.duties f color).map Prod.fst = config.channels := rfl

def Request.InRange : Request → Prop
  | .ledcSetDuty _ duty | .ledcSetFadeTimeAndStart _ duty _ => duty ≤ 256
  | _ => True

/-- The peripherals refuse nothing but duties above 256. -/
def Obliging (chance : Nat → Chance) : Prop := ∀ time (asked : Request), asked.InRange → (chance time).accepts asked = true

theorem accepted_of_obliging {clock : Nat} {requests : List Request} (obliging : Obliging chance)
    (inRange : ∀ asked ∈ requests, asked.InRange) : accepted chance clock requests = true := by
  induction requests generalizing clock with
  | nil => rfl
  | cons asked rest ih =>
    rw [accepted, obliging clock asked (inRange asked List.mem_cons_self), Bool.true_and]
    exact ih fun other member => inRange other (List.mem_cons_of_mem _ member)

theorem inRange_writeRequests (activeLevel : ActiveLevel) (duty : UInt32) (channel : Nat) :
    ∀ asked ∈ writeRequests channel (dutyFor activeLevel duty), asked.InRange := by
  intro asked member
  simp only [writeRequests, List.mem_cons, List.not_mem_nil, or_false] at member
  rcases member with rfl | rfl
  · exact UInt32.le_iff_toNat_le.mpr (dutyFor_le activeLevel duty)
  · trivial

theorem inRange_setLedRgbColor (color : Color) (ledHandle : UInt8) (config : RgbConfig) :
    ∀ asked ∈ (Call.setLedRgbColor color ledHandle).asks (.rgb config), asked.InRange := by
  intro asked member
  rcases List.mem_append.mp member with red | others
  · exact inRange_writeRequests _ _ _ asked red
  · rcases List.mem_append.mp others with green | blue
    · exact inRange_writeRequests _ _ _ asked green
    · exact inRange_writeRequests _ _ _ asked blue

section Issued
variable {ledHandle : UInt8} (unlocked : world.mutex = .free)
include unlocked

theorem setDuties_singlePwm {config : SinglePwmConfig} (led : world.led? ledHandle = some config.info)
    (dutyCycle : UInt32) : setDuties (issuedBy chance (.setLedSinglePwmDuty dutyCycle ledHandle) world) =
      [(config.ledChannel, dutyFor config.activeLevel dutyCycle)] := by
  rw [issuedBy_served unlocked led rfl rfl rfl]
  exact picked_of_head Request.setDuty? _ _ rfl

theorem fadeTargets_singlePwm {config : SinglePwmConfig} (led : world.led? ledHandle = some config.info)
    (targetDuty fadeTimeMs : UInt32) :
    fadeTargets (issuedBy chance (.fadeLedSinglePwmDuty targetDuty fadeTimeMs ledHandle) world) =
      [(config.ledChannel, dutyFor config.activeLevel targetDuty)] := by
  rw [issuedBy_served unlocked led rfl rfl rfl]
  exact picked_of_head Request.fadeTarget? _ _ rfl

theorem setDuties_rgb_front {config : RgbConfig} (led : world.led? ledHandle = some config.info) (color : Color) :
    setDuties (issuedBy chance (.setLedRgbColor color ledHandle) world) <+:
      config.duties (dutyFor config.activeLevel) color := by
  rw [issuedBy_served unlocked led rfl rfl rfl]
  exact (@requested_of_attempted chance world.clock
    ((Call.setLedRgbColor color ledHandle).asks (.rgb config))).filterMap Request.setDuty?

theorem fadeTargets_rgb_front {config : RgbConfig} (led : world.led? ledHandle = some config.info) (color : Color)
    (fadeTimeMs : UInt32) : fadeTargets (issuedBy chance (.fadeLedRgbColor color fadeTimeMs ledHandle) world) <+:
      config.duties (inverse config.activeLevel) color := by
  rw [issuedBy_served unlocked led rfl rfl rfl]
  exact (@requested_of_attempted chance world.clock
    ((Call.fadeLedRgbColor color fadeTimeMs ledHandle).asks (.rgb config))).filterMap Request.fadeTarget?

theorem setDuties_rgb {config : RgbConfig} (led : world.led? ledHandle = some config.info) (obliging : Obliging chance)
    (color : Color) : setDuties (issuedBy chance (.setLedRgbColor color ledHandle) world) =
      config.duties (dutyFor config.activeLevel) color := by
  rw [issuedBy_served unlocked led rfl rfl rfl]
  have inRange := inRange_setLedRgbColor color ledHandle config
  exact congrArg (List.filterMap Request.setDuty?) (requested_accepted (accepted_of_obliging obliging inRange))

theorem fadeTargets_rgb {config : RgbConfig} (led : world.led? ledHandle = some config.info) (obliging : Obliging chance)
    {color : Color} (small : color.redDuty ≤ 255 ∧ color.greenDuty ≤ 255 ∧ color.blueDuty ≤ 255) (fadeTimeMs : UInt32) :
    fadeTargets (issuedBy chance (.fadeLedRgbColor color fadeTimeMs ledHandle) world) =
      config.duties (inverse config.activeLevel) color := by
  have inRange : ∀ asked ∈ (Call.fadeLedRgbColor color fadeTimeMs ledHandle).asks (.rgb config), asked.InRange := by
    have bounded : ∀ duty, duty ≤ 255 → inverse config.activeLevel duty ≤ 256 := by
      intro duty small
      rw [inverse_eq_dutyFor_iff.mpr small]
      exact UInt32.le_iff_toNat_le.mpr (dutyFor_le config.activeLevel duty)
    intro asked member
    simp only [Call.asks, List.mem_cons, List.not_mem_nil, or_false] at member
    rcases member with rfl | rfl | rfl
    · exact bounded _ small.1
    · exact bounded _ small.2.1
    · exact bounded _ small.2.2
  rw [issuedBy_served unlocked led rfl rfl rfl]
  exact congrArg (List.filterMap Request.fadeTarget?) (requested_accepted (accepted_of_obliging obliging inRange))

end Issued

/-- The targets of a fade are the duties of the set function, and a timer of eight bits takes them. -/
def Agree (fade set : List (Nat × UInt32)) : Prop :=
  fade = set ∧ (∀ target ∈ fade, target.2 ≤ 256) ∧ ∀ duty ∈ set, duty.2 ≤ 256

theorem duties_bounded (config : RgbConfig) (color : Color) :
    ∀ duty ∈ config.duties (dutyFor config.activeLevel) color, duty.2 ≤ 256 := by
  intro duty member
  simp only [RgbConfig.duties, List.mem_cons, List.not_mem_nil, or_false] at member
  rcases member with rfl | rfl | rfl
  all_goals exact UInt32.le_iff_toNat_le.mpr (dutyFor_le config.activeLevel _)

theorem duties_eq_iff (config : RgbConfig) (color : Color) :
    config.duties (inverse config.activeLevel) color = config.duties (dutyFor config.activeLevel) color ↔
      color.redDuty ≤ 255 ∧ color.greenDuty ≤ 255 ∧ color.blueDuty ≤ 255 := by
  simp [RgbConfig.duties, inverse_eq_dutyFor_iff]

/-- The single LED is set and faded to the same duty; the three-coloured one when its
components are at most 255, since its fade does not clip them. -/
theorem set_and_fade_agree_iff {ledHandle : UInt8} (unlocked : world.mutex = .free) (obliging : Obliging chance) :
    (∀ (config : SinglePwmConfig) (duty fadeTimeMs : UInt32), world.led? ledHandle = some config.info →
      Agree (fadeTargets (issuedBy chance (.fadeLedSinglePwmDuty duty fadeTimeMs ledHandle) world))
        (setDuties (issuedBy chance (.setLedSinglePwmDuty duty ledHandle) world))) ∧
    ∀ (config : RgbConfig) (color : Color) (fadeTimeMs : UInt32), world.led? ledHandle = some config.info →
      (Agree (fadeTargets (issuedBy chance (.fadeLedRgbColor color fadeTimeMs ledHandle) world))
        (setDuties (issuedBy chance (.setLedRgbColor color ledHandle) world)) ↔
          color.redDuty ≤ 255 ∧ color.greenDuty ≤ 255 ∧ color.blueDuty ≤ 255) := by
  constructor
  · intro config duty fadeTimeMs led
    have bounded : dutyFor config.activeLevel duty ≤ 256 :=
      UInt32.le_iff_toNat_le.mpr (dutyFor_le config.activeLevel duty)
    rw [fadeTargets_singlePwm unlocked led, setDuties_singlePwm unlocked led]
    refine ⟨rfl, ?_, ?_⟩
    all_goals
      intro target member
      rw [List.mem_singleton.mp member]
      exact bounded
  · intro config color fadeTimeMs led
    have set := setDuties_rgb unlocked led obliging color
    rw [set]
    constructor
    · intro ⟨same, _, _⟩
      have faded := @fadeTargets_rgb_front capacity chance world ledHandle unlocked config led color fadeTimeMs
      rw [same] at faded
      exact (duties_eq_iff config color).mp (faded.eq_of_length rfl).symm
    · intro small
      have same := (duties_eq_iff config color).mpr small
      rw [fadeTargets_rgb unlocked led obliging small, same]
      exact ⟨rfl, duties_bounded config color, duties_bounded config color⟩

/-- An outside with the range check of `ledc_set_fade_time_and_start`. -/
def eightBit : Nat → Chance :=
  fun time => { quiet time with accepts := fun
    | .ledcSetFadeTimeAndStart _ targetDuty _ => targetDuty ≤ 256
    | _ => true }

theorem obliging_eightBit : Obliging eightBit := by
  intro time asked inRange
  cases asked <;> first | rfl | exact decide_eq_true inRange

def threeColours : RgbConfig := ⟨4, 5, 6, .high, 0, 0, 1, 2⟩

/-- The table with one three-coloured LED on handle 0. -/
def coloured : World maxNbLed := (perform quiet (.addLedRgb threeColours) readied).2

theorem set_and_fade_agree_dimmed :
    Agree (fadeTargets (issuedBy eightBit (.fadeLedRgbColor ⟨10, 20, 255⟩ 500 0) coloured))
      (setDuties (issuedBy eightBit (.setLedRgbColor ⟨10, 20, 255⟩ 0) coloured)) := by
  apply ((set_and_fade_agree_iff rfl obliging_eightBit).2 threeColours ⟨10, 20, 255⟩ 500 rfl).mpr
  decide

/-- A red component of 256 is set to 255 and faded to 256, and one of 300 is not faded to at all. -/
theorem set_and_fade_disagree :
    coloured.led? 0 = some threeColours.info ∧
    setDuties (issuedBy eightBit (.setLedRgbColor ⟨256, 0, 0⟩ 0) coloured) = [(0, 255), (1, 0), (2, 0)] ∧
    fadeTargets (issuedBy eightBit (.fadeLedRgbColor ⟨256, 0, 0⟩ 500 0) coloured) = [(0, 256), (1, 0), (2, 0)] ∧
    fadeTargets (issuedBy eightBit (.fadeLedRgbColor ⟨300, 0, 0⟩ 500 0) coloured) = [(0, 300)] ∧
    ¬ Agree (fadeTargets (issuedBy eightBit (.fadeLedRgbColor ⟨256, 0, 0⟩ 500 0) coloured))
      (setDuties (issuedBy eightBit (.setLedRgbColor ⟨256, 0, 0⟩ 0) coloured)) := by
  have set : setDuties (issuedBy eightBit (.setLedRgbColor ⟨256, 0, 0⟩ 0) coloured) = [(0, 255), (1, 0), (2, 0)] := rfl
  have faded : fadeTargets (issuedBy eightBit (.fadeLedRgbColor ⟨256, 0, 0⟩ 500 0) coloured) =
      [(0, 256), (1, 0), (2, 0)] := rfl
  refine ⟨rfl, set, faded, rfl, ?_⟩
  intro ⟨same, _, _⟩
  rw [set, faded] at same
  cases same

end LaserDriver.Led
