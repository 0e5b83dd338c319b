import LaserDriver.Led.Commands

/-! When a LED is lit and when it is dark, over runs of additions and commands. -/

namespace LaserDriver.Led
open Effects Program

variable {capacity : Nat} {chance : Nat → Chance} {start world : World capacity}
variable {record : List (Call × Reply)} {outputs : Outputs}

def SingleConfig.info (config : SingleConfig) : LedInfo := ⟨.single, true, .single config⟩

def SingleConfig.Lit (config : SingleConfig) (outputs : Outputs) : Prop :=
  outputs.level config.gpioNum = decide (config.activeLevel = .high)

instance (config : SingleConfig) (outputs : Outputs) : Decidable (config.Lit outputs) :=
  inferInstanceAs (Decidable (outputs.level config.gpioNum = decide (config.activeLevel = .high)))

def Call.onOff : Call → Bool
  | .addLedSingle _ | .setLedSingleState _ _ => true
  | _ => false

abbrev OnOffRun (chance : Nat → Chance) : World capacity → List (Call × Reply) → World capacity → Prop :=
  Recorded (perform chance) fun world call => call.onOff = true ∧ Orderly chance world call

/-- A LED is lit when the last state commanded to it is not zero. -/
def LitAsCommanded (record : List (Call × Reply)) (world : World capacity) (outputs : Outputs) : Prop :=
  ∀ ledHandle (config : SingleConfig), world.led? ledHandle = some config.info → config.activeLevel ≠ .invalid →
    (config.Lit outputs ↔ ∃ state, lastCommanded Call.state? record ledHandle = some state ∧ 1 ≤ state)

theorem one_le_iff (state : UInt8) : 1 ≤ state ↔ ¬ state = 0 := by
  have one : (1 : UInt8).toNat = 1 := rfl
  rw [UInt8.le_iff_toNat_le, ← UInt8.toNat_inj, one]
  exact Nat.pos_iff_ne_zero

theorem levelFor_valid {config : SingleConfig} (valid : config.activeLevel ≠ .invalid) (state : UInt8) :
    levelFor state config = decide (1 ≤ state) := by
  unfold levelFor
  cases level : config.activeLevel with
  | high => simp
  | low => by_cases off : state = 0 <;> simp [off, one_le_iff]
  | invalid => exact absurd level valid

/-- A LED that is active low is lit by the state 0 and dark by any other. -/
theorem lit_iff {config : SingleConfig} {last : Option UInt8} (valid : config.activeLevel ≠ .invalid)
    (shown : outputs.level config.gpioNum = last.elim (!(config.activeLevel = .high)) (levelFor · config)) :
    (config.Lit outputs ↔ ∃ state, last = some state ∧ 1 ≤ state) ↔ (config.activeLevel = .low → last = none) := by
  rw [SingleConfig.Lit, shown]
  cases last with
  | none => cases level : config.activeLevel <;> simp
  | some state =>
    rw [Option.elim_some, levelFor_valid valid]
    cases level : config.activeLevel with
    | high => simp
    | low => simp [one_le_iff]
    | invalid => exact absurd level valid

/-- The LEDs are lit as commanded as long as no state was commanded to one that is active low. -/
theorem lit_as_commanded_iff (small : capacity ≤ 255) (initialised : Initialised chance start)
    (run : OnOffRun chance start record world) (outputs : Outputs) :
    LitAsCommanded record world (outputs.after world.log) ↔
      ∀ ledHandle (config : SingleConfig), world.led? ledHandle = some config.info → config.activeLevel = .low →
        lastCommanded Call.state? record ledHandle = none := by
  have showing := showing_of_recorded small initialised (run.weaken fun _ _ permitted => permitted.2) outputs
  constructor
  · intro follows ledHandle config led low
    have valid : config.activeLevel ≠ .invalid := by
      rw [low]
      nofun
    exact (lit_iff valid (showing.shown ledHandle _ led)).mp (follows ledHandle config led valid) low
  · intro dark ledHandle config led valid
    exact (lit_iff valid (showing.shown ledHandle _ led)).mpr (dark ledHandle config led)

def withSingle (config : SingleConfig) : World maxNbLed := (perform quiet (.addLedSingle config) readied).2

theorem run_of_single {config : SingleConfig} {state : UInt8} {after : World maxNbLed}
    (added : AllAccepted readied (withSingle config) ∧ perform quiet (.addLedSingle config) readied =
      (some (.added .ok (some 0)), withSingle config))
    (commanded : AllAccepted (withSingle config) after ∧ perform quiet (.setLedSingleState state 0) (withSingle config) =
      (some (.status .ok), after)) :
    OnOffRun quiet readied [(.addLedSingle config, .added .ok (some 0)), (.setLedSingleState state 0, .status .ok)] after := by
  have first : Orderly quiet readied (.addLedSingle config) :=
    .first (by decide) ⟨.boot, rfl⟩ rfl rfl List.nodup_nil added.1
  have second : Orderly quiet (withSingle config) (.setLedSingleState state 0) := by
    refine .command rfl rfl ?_
    rw [commanded.2]
    exact commanded.1
  have one : OnOffRun quiet readied [(.addLedSingle config, .added .ok (some 0))] (withSingle config) :=
    .single _ _ added.2 ⟨rfl, first⟩
  exact one.second _ _ commanded.2 ⟨rfl, second⟩

theorem lit_as_commanded_high :
    let on := (perform quiet (.setLedSingleState 3 0) (withSingle ⟨4, .high⟩)).2
    LitAsCommanded [(.addLedSingle ⟨4, .high⟩, .added .ok (some 0)), (.setLedSingleState 3 0, .status .ok)] on
      (Outputs.low.after on.log) := by
  intro on
  have run := @run_of_single ⟨4, .high⟩ 3 on ⟨by decide, rfl⟩ ⟨by decide, rfl⟩
  apply (lit_as_commanded_iff (by decide) ⟨.boot, rfl⟩ run Outputs.low).mpr
  intro ledHandle config led low
  have high : ∀ slot : Fin maxNbLed, on.table[slot].config = .single ⟨4, .high⟩ ∨ on.table[slot].activeFlag = false := by
    decide
  obtain ⟨inside, stored, active⟩ := World.led?_eq_some.mp led
  rcases high ⟨ledHandle.toNat, inside⟩ with same | inactive
  · rw [Fin.getElem_fin, stored] at same
    cases same
    cases low
  · rw [Fin.getElem_fin, stored] at inactive
    cases inactive

/-- An active-low LED is dark after it was switched on, and lit after it was switched off. -/
theorem active_low_inverted :
    let added := withSingle ⟨4, .low⟩
    let on := (perform quiet (.setLedSingleState 1 0) added).2
    let record := [(Call.addLedSingle ⟨4, .low⟩, Reply.added .ok (some 0)), (.setLedSingleState 1 0, .status .ok)]
    Initialised quiet readied ∧ OnOffRun quiet readied record on ∧
    on.led? 0 = some (SingleConfig.info ⟨4, .low⟩) ∧ lastCommanded Call.state? record 0 = some 1 ∧
    (Outputs.low.after on.log).level 4 = true ∧
    (Outputs.low.after (perform quiet (.setLedSingleState 0 0) added).2.log).level 4 = false ∧
    ¬ LitAsCommanded record on (Outputs.low.after on.log) := by
  intro added on record
  have run := @run_of_single ⟨4, .low⟩ 1 on ⟨by decide, rfl⟩ ⟨by decide, rfl⟩
  refine ⟨⟨.boot, rfl⟩, run, rfl, rfl, rfl, rfl, ?_⟩
  intro follows
  have lit := (follows 0 ⟨4, .low⟩ rfl nofun).mpr ⟨1, rfl, by decide⟩
  exact absurd lit (by decide)

def Call.dims : Call → Bool
  | .addLedSinglePwm _ | .addLedRgb _ | .setLedSinglePwmDuty _ _ | .setLedRgbColor _ _ => true
  | _ => false

abbrev DimmedRun (chance : Nat → Chance) : World capacity → List (Call × Reply) → World capacity → Prop :=
  Recorded (perform chance) fun world call => call.dims = true ∧ Orderly chance world call

/-- A channel is off when no duty but zero was last commanded to it. -/
structure DarkAsCommanded (record : List (Call × Reply)) (world : World capacity) (outputs : Outputs) : Prop where
  singlePwm : ∀ ledHandle (config : SinglePwmConfig), world.led? ledHandle = some config.info →
    (onTime config.activeLevel (outputs.duty config.ledChannel) = 0 ↔
      ∀ duty, lastCommanded Call.dutyCycle? record ledHandle = some duty → duty = 0)
  rgb : ∀ ledHandle (config : RgbConfig), world.led? ledHandle = some config.info → ∀ component ∈ config.components,
    (onTime config.activeLevel (outputs.duty component.1) = 0 ↔
      ∀ color, lastCommanded Call.color? record ledHandle = some color → component.2 color = 0)

/-- Every active-low LED has been given a duty since it was added. -/
structure LowCommanded (record : List (Call × Reply)) (world : World capacity) : Prop where
  singlePwm : ∀ ledHandle (config : SinglePwmConfig), world.led? ledHandle = some config.info →
    config.activeLevel = .low → lastCommanded Call.dutyCycle? record ledHandle ≠ none
  rgb : ∀ ledHandle (config : RgbConfig), world.led? ledHandle = some config.info →
    config.activeLevel = .low → lastCommanded Call.color? record ledHandle ≠ none

theorem onTime_dutyFor_eq_zero (activeLevel : ActiveLevel) (duty : UInt32) :
    onTime activeLevel (dutyFor activeLevel duty) = 0 ↔ duty = 0 := by
  have zero : (0 : UInt32).toNat = 0 := rfl
  rw [onTime_dutyFor, ← UInt32.toNat_inj, zero]
  constructor
  · intro dark
    split_ifs at dark <;> omega
  · intro off
    split_ifs <;> omega

/-- The setup leaves an active-low channel on for one 256th of a period. -/
theorem onTime_setupDuty (activeLevel : ActiveLevel) :
    onTime activeLevel (setupDuty activeLevel) = if activeLevel = .low then 1 else 0 := by
  cases activeLevel <;> rfl

theorem dark_iff {β : Type} {activeLevel : ActiveLevel} {value : UInt32} {last : Option β} {part : β → UInt32}
    (shown : value = last.elim (setupDuty activeLevel) fun given => dutyFor activeLevel (part given)) :
    (onTime activeLevel value = 0 ↔ ∀ given, last = some given → part given = 0) ↔ (activeLevel = .low → last ≠ none) := by
  subst shown
  cases last with
  | none => simp [onTime_setupDuty]
  | some given => simp [onTime_dutyFor_eq_zero]

/-- The channels are dark as commanded unless there is an active-low LED that has not been given a duty. -/
theorem dark_as_commanded_iff (small : capacity ≤ 255) (initialised : Initialised chance start)
    (run : DimmedRun chance start record world) (outputs : Outputs) :
    DarkAsCommanded record world (outputs.after world.log) ↔ LowCommanded record world := by
  have showing := showing_of_recorded small initialised (run.weaken fun _ _ permitted => permitted.2) outputs
  constructor
  · intro dark
    constructor
    · intro ledHandle config led
      exact (dark_iff (showing.shown ledHandle _ led)).mp (dark.singlePwm ledHandle config led)
    · intro ledHandle config led
      have red : (config.redChannel, Color.redDuty) ∈ config.components := List.mem_cons_self
      exact (dark_iff (showing.shown ledHandle _ led _ red)).mp (dark.rgb ledHandle config led _ red)
  · intro given
    constructor
    · intro ledHandle config led
      exact (dark_iff (showing.shown ledHandle _ led)).mpr (given.singlePwm ledHandle config led)
    · intro ledHandle config led component member
      exact (dark_iff (showing.shown ledHandle _ led component member)).mpr (given.rgb ledHandle config led)

def lowAdded : World maxNbLed := (perform quiet (.addLedSinglePwm ⟨4, .low, 0, 0⟩) readied).2

theorem lowAdded_run :
    DimmedRun quiet readied [(.addLedSinglePwm ⟨4, .low, 0, 0⟩, .added .ok (some 0))] lowAdded := by
  have first : Orderly quiet readied (.addLedSinglePwm ⟨4, .low, 0, 0⟩) :=
    .first (by decide) ⟨.boot, rfl⟩ rfl rfl (List.nodup_singleton _) (by decide)
  exact .single _ _ rfl ⟨rfl, first⟩

theorem dark_as_commanded_low :
    let dimmed := (perform quiet (.setLedSinglePwmDuty 0 0) lowAdded).2
    DarkAsCommanded [(.addLedSinglePwm ⟨4, .low, 0, 0⟩, .added .ok (some 0)), (.setLedSinglePwmDuty 0 0, .status .ok)]
      dimmed (Outputs.low.after dimmed.log) := by
  intro dimmed
  have second : Orderly quiet lowAdded (.setLedSinglePwmDuty 0 0) := .command rfl rfl (by decide)
  have run : DimmedRun quiet readied _ dimmed := Recorded.second lowAdded_run (.setLedSinglePwmDuty 0 0) (.status .ok) rfl ⟨rfl, second⟩
  apply (dark_as_commanded_iff (by decide) ⟨.boot, rfl⟩ run Outputs.low).mpr
  have only : ∀ slot : Fin maxNbLed, dimmed.table[slot].activeFlag = true →
      slot.val = 0 ∧ dimmed.table[slot].ledType = .singlePwm := by
    decide
  constructor
  · intro ledHandle config led _
    obtain ⟨inside, stored, active⟩ := World.led?_eq_some.mp led
    have zero := (only ⟨ledHandle.toNat, inside⟩ (by rw [Fin.getElem_fin, stored]; rfl)).1
    obtain rfl : ledHandle = 0 := UInt8.toNat_inj.mp zero
    nofun
  · intro ledHandle config led _
    obtain ⟨inside, stored, active⟩ := World.led?_eq_some.mp led
    have typed := (only ⟨ledHandle.toNat, inside⟩ (by rw [Fin.getElem_fin, stored]; rfl)).2
    rw [Fin.getElem_fin, stored] at typed
    cases typed

/-- An active-low LED that was only added is on for one 256th of each period. -/
theorem active_low_setup_glows :
    Initialised quiet readied ∧ DimmedRun quiet readied [(.addLedSinglePwm ⟨4, .low, 0, 0⟩, .added .ok (some 0))] lowAdded ∧
    lowAdded.led? 0 = some (SinglePwmConfig.info ⟨4, .low, 0, 0⟩) ∧ (Outputs.low.after lowAdded.log).duty 0 = 255 ∧
    onTime .low 255 = 1 ∧
    ¬ DarkAsCommanded [(.addLedSinglePwm ⟨4, .low, 0, 0⟩, .added .ok (some 0))] lowAdded
      (Outputs.low.after lowAdded.log) := by
  refine ⟨⟨.boot, rfl⟩, lowAdded_run, rfl, rfl, rfl, ?_⟩
  intro dark
  have off := (dark.singlePwm 0 ⟨4, .low, 0, 0⟩ rfl).mpr nofun
  exact absurd off (by decide)

end LaserDriver.Led
