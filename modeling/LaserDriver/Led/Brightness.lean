import LaserDriver.Led.Commands

/-! How bright the commands make a LED: the duties in effect after calls that succeeded. -/

namespace LaserDriver.Led
open Effects Program

variable {capacity : Nat} {chance chance' : Nat → Chance} {world world' : World capacity} {outputs outputs' : Outputs}
variable {ledHandle : UInt8} {duty : UInt32}

/-- A command succeeds on a LED of this configuration, and then this duty is in effect on the channel. -/
structure Leaves (chance : Nat → Chance) (world : World capacity) (outputs : Outputs) (call : Call) (config : LedConfig)
    (channel : Nat) (duty : UInt32) : Prop where
  unlocked : world.mutex = .free
  led : ∃ ledHandle, call.ledHandle? = some ledHandle ∧ world.led? ledHandle = some config.info
  succeeded : (perform chance call world).1 = some (.status .ok)
  effective : (outputs.after (issuedBy chance call world)).duty channel = duty

/-- A channel shows the component that is written to it last. -/
def RgbConfig.component? (config : RgbConfig) (channel : Nat) : Option (Color → UInt32) :=
  if channel = config.blueChannel then some Color.blueDuty
  else if channel = config.greenChannel then some Color.greenDuty
  else if channel = config.redChannel then some Color.redDuty
  else none

section Issued
variable {call : Call} {config : LedConfig} (unlocked : world.mutex = .free)
variable (led : world.led? ledHandle = some config.info) (operates : call.ledHandle? = some ledHandle)
variable (serves : call.serves config.ledType = true) (checks : call.checks = true)
include unlocked led operates serves checks

theorem perform_command : perform chance call world =
    (some (.status (if accepted chance world.clock (call.asks config) then .ok else .error)),
      world.extend (attempted chance world.clock (call.asks config))) := by
  have returned := @perform_served capacity chance world ledHandle config.info unlocked led call operates serves
  have seen : config.info.seen chance world = (config, world) := by
    cases config <;> rfl
  rw [seen, Call.exchange, if_pos checks] at returned
  exact returned

theorem issuedBy_command (succeeded : (perform chance call world).1 = some (.status .ok)) :
    issuedBy chance call world = accepting (call.asks config) := by
  have returned := @perform_command capacity chance world ledHandle call config unlocked led operates serves checks
  rw [returned] at succeeded
  by_cases all : accepted chance world.clock (call.asks config) = true
  · rw [issuedBy, returned, attempted_of_accepted all]
    simp
  · rw [if_neg all] at succeeded
    cases succeeded

theorem succeeds_of_obliging (obliging : Obliging chance) (inRange : ∀ asked ∈ call.asks config, asked.InRange) :
    (perform chance call world).1 = some (.status .ok) := by
  rw [perform_command unlocked led operates serves checks, accepted_of_obliging obliging inRange, if_pos rfl]

end Issued

theorem Leaves.singlePwm {config : SinglePwmConfig} {dutyCycle : UInt32}
    (leaves : Leaves chance world outputs (.setLedSinglePwmDuty dutyCycle ledHandle) (.singlePwm config) config.ledChannel duty) :
    duty = dutyFor config.activeLevel dutyCycle := by
  obtain ⟨unlocked, ⟨_, operates, led⟩, succeeded, effective⟩ := leaves
  rw [issuedBy_command unlocked led operates rfl rfl succeeded] at effective
  have asks : (Call.setLedSinglePwmDuty dutyCycle ledHandle).asks (.singlePwm config) =
      writesOf [(config.ledChannel, dutyFor config.activeLevel dutyCycle)] := rfl
  rw [asks, after_accepting_writes] at effective
  exact effective.symm.trans (Function.update_self _ _ _)

theorem Leaves.rgb {config : RgbConfig} {color : Color} {channel : Nat} {component : Color → UInt32}
    (shown : config.component? channel = some component)
    (leaves : Leaves chance world outputs (.setLedRgbColor color ledHandle) (.rgb config) channel duty) :
    duty = dutyFor config.activeLevel (component color) := by
  obtain ⟨unlocked, ⟨_, operates, led⟩, succeeded, effective⟩ := leaves
  rw [issuedBy_command unlocked led operates rfl rfl succeeded] at effective
  have asks : (Call.setLedRgbColor color ledHandle).asks (.rgb config) =
      writesOf (config.duties (dutyFor config.activeLevel) color) := rfl
  rw [asks, after_accepting_writes] at effective
  rw [← effective]
  simp only [wrote, RgbConfig.duties, List.foldl_cons, List.foldl_nil]
  unfold RgbConfig.component? at shown
  split_ifs at shown with blue green red
  all_goals obtain rfl := Option.some.inj shown
  · rw [blue, Function.update_self]
  · rw [Function.update_of_ne blue, green, Function.update_self]
  · rw [Function.update_of_ne blue, Function.update_of_ne green, red, Function.update_self]

/-- Whatever the peripherals return, no duty above a whole period is written; where they refuse
nothing the command succeeds. -/
structure Obeyed (chance : Nat → Chance) (world : World capacity) (outputs : Outputs) (call : Call) (config : LedConfig)
    (channel : Nat) : Prop where
  bounded : ∀ entry ∈ setDuties (issuedBy chance call world), entry.2 ≤ 256
  succeeds : Obliging chance → ∃ duty, Leaves chance world outputs call config channel duty

theorem obeyed_singlePwm (unlocked : world.mutex = .free) {config : SinglePwmConfig}
    (led : world.led? ledHandle = some config.info) (dutyCycle : UInt32) :
    Obeyed chance world outputs (.setLedSinglePwmDuty dutyCycle ledHandle) (.singlePwm config) config.ledChannel where
  bounded := by
    rw [setDuties_singlePwm unlocked led]
    intro entry member
    rw [List.mem_singleton.mp member]
    exact UInt32.le_iff_toNat_le.mpr (dutyFor_le config.activeLevel dutyCycle)
  succeeds := by
    intro obliging
    have succeeded := @succeeds_of_obliging capacity chance world ledHandle (.setLedSinglePwmDuty dutyCycle ledHandle)
      (.singlePwm config) unlocked led rfl rfl rfl obliging
      (inRange_writeRequests config.activeLevel dutyCycle config.ledChannel)
    exact ⟨_, unlocked, ⟨ledHandle, rfl, led⟩, succeeded, rfl⟩

theorem obeyed_rgb (unlocked : world.mutex = .free) {config : RgbConfig}
    (led : world.led? ledHandle = some config.info) (color : Color) (channel : Nat) :
    Obeyed chance world outputs (.setLedRgbColor color ledHandle) (.rgb config) channel where
  bounded := by
    intro entry member
    exact duties_bounded config color entry ((setDuties_rgb_front unlocked led color).subset member)
  succeeds := by
    intro obliging
    have succeeded := @succeeds_of_obliging capacity chance world ledHandle (.setLedRgbColor color ledHandle)
      (.rgb config) unlocked led rfl rfl rfl obliging (inRange_setLedRgbColor color ledHandle config)
    exact ⟨_, unlocked, ⟨ledHandle, rfl, led⟩, succeeded, rfl⟩

/-- Brighter requests give longer on-times, up to 255, for a single LED and for each channel of a
three-coloured one, and both kinds of request are obeyed. -/
theorem brightness_monotone :
    (∀ (config : SinglePwmConfig) (ledHandle : UInt8) (lower upper written written' : UInt32), lower ≤ upper →
      Leaves chance world outputs (.setLedSinglePwmDuty lower ledHandle) (.singlePwm config) config.ledChannel written →
      Leaves chance' world' outputs' (.setLedSinglePwmDuty upper ledHandle) (.singlePwm config) config.ledChannel written' →
      Ordered config.activeLevel lower upper written written') ∧
    (∀ (config : RgbConfig) (ledHandle : UInt8) (channel : Nat) (component : Color → UInt32) (color color' : Color)
        (written written' : UInt32), config.component? channel = some component → component color ≤ component color' →
      Leaves chance world outputs (.setLedRgbColor color ledHandle) (.rgb config) channel written →
      Leaves chance' world' outputs' (.setLedRgbColor color' ledHandle) (.rgb config) channel written' →
      Ordered config.activeLevel (component color) (component color') written written') ∧
    ∀ ledHandle, world.mutex = .free →
      (∀ (config : SinglePwmConfig) (dutyCycle : UInt32), world.led? ledHandle = some config.info →
        Obeyed chance world outputs (.setLedSinglePwmDuty dutyCycle ledHandle) (.singlePwm config) config.ledChannel) ∧
      ∀ (config : RgbConfig) (color : Color) (channel : Nat), world.led? ledHandle = some config.info →
        Obeyed chance world outputs (.setLedRgbColor color ledHandle) (.rgb config) channel := by
  refine ⟨?_, ?_, ?_⟩
  · intro config ledHandle lower upper written written' ordered first second
    rw [first.singlePwm, second.singlePwm]
    exact ordered_dutyFor config.activeLevel ordered
  · intro config ledHandle channel component color color' written written' shown ordered first second
    rw [first.rgb shown, second.rgb shown]
    exact ordered_dutyFor config.activeLevel ordered
  · intro ledHandle unlocked
    constructor
    · intro config dutyCycle led
      exact obeyed_singlePwm unlocked led dutyCycle
    · intro config color channel led
      exact obeyed_rgb unlocked led color channel

/-- The table with one active-low LED on handle 0. -/
def dimmable : World maxNbLed := (perform quiet (.addLedSinglePwm ⟨4, .low, 0, 0⟩) readied).2

theorem brightness_monotone_low : Ordered .low 10 300 245 0 := by
  have first : Leaves quiet dimmable Outputs.low (.setLedSinglePwmDuty 10 0) (.singlePwm ⟨4, .low, 0, 0⟩) 0 245 :=
    ⟨rfl, ⟨0, rfl, rfl⟩, rfl, rfl⟩
  have second : Leaves quiet (perform quiet (.setLedSinglePwmDuty 10 0) dimmable).2 Outputs.low (.setLedSinglePwmDuty 300 0)
      (.singlePwm ⟨4, .low, 0, 0⟩) 0 0 := ⟨rfl, ⟨0, rfl, rfl⟩, rfl, rfl⟩
  exact brightness_monotone.1 ⟨4, .low, 0, 0⟩ 0 10 300 245 0 (by decide) first second

end LaserDriver.Led
