import LaserDriver.Lib.Mutex
import LaserDriver.Adc.Cases

/-! Every exit of the ADC controller gives back the mutex its call took. -/

namespace LaserDriver.Adc
open Effects Program

def Op.role : (β : Type) → Op β → Role
  | _, .createMutex => .create
  | _, .takeMutex => .take
  | _, .giveMutex => .give
  | _, _ => .other

/-- The work between taking and giving. -/
abbrev Holding (program : Program Op α) : Prop := Balanced Op.role False program .holding

theorem neutral_modify (change : Statics → Statics) : Neutral Op.role (modify change) :=
  ⟨rfl, fun _ => Only.send rfl⟩

theorem neutral_divide (dividend divisor : UInt32) : Neutral Op.role (divide dividend divisor) := by
  unfold divide
  split
  · exact ⟨rfl, nofun⟩
  · trivial

theorem neutral_newUnit : Neutral Op.role newUnit := by
  refine ⟨rfl, ?_⟩
  intro answer
  cases answer with
  | ok handle => exact (neutral_modify _).bind fun _ => trivial
  | error => trivial

theorem neutral_configChannel (ctrlChannel ctrlAtten : Nat) : Neutral Op.role (configChannel ctrlChannel ctrlAtten) :=
  ⟨rfl, fun _ => ⟨rfl, fun _ => trivial⟩⟩

theorem neutral_delUnit : Neutral Op.role delUnit := ⟨rfl, fun _ => ⟨rfl, fun _ => trivial⟩⟩

theorem neutral_onContinuous (call : Option Handle → Request (Esp Unit)) : Neutral Op.role (onContinuous call) :=
  ⟨rfl, fun _ => ⟨rfl, fun _ => trivial⟩⟩

theorem neutral_readSamples (channel remaining : Nat) (sum : UInt32) :
    Neutral Op.role (readSamples channel remaining sum) := by
  induction remaining generalizing sum with
  | zero => trivial
  | succ remaining ih =>
    refine ⟨rfl, fun _ => ⟨rfl, ?_⟩⟩
    intro answer
    cases answer with
    | ok raw => exact ih _
    | error => trivial

theorem neutral_convertEach (calibHandle : Option Handle) (buffer : List UInt16) :
    Neutral Op.role (convertEach calibHandle buffer) := by
  induction buffer with
  | nil => trivial
  | cons raw rest ih => exact ⟨rfl, fun _ => ih.bind fun _ => trivial⟩

theorem holding_leave (ret : Ret) : Holding (leave ret) := Balanced.give rfl fun _ => trivial

theorem holding_abandon : Holding abandon := Balanced.bind_neutral (neutral_modify _) fun _ => holding_leave .fail

theorem holding_averageOneShot (config : OneShotConfig) (pResult : Nat) : Holding (averageOneShot config pResult) := by
  apply Balanced.bind_neutral (neutral_readSamples _ _ _)
  intro sum
  apply Balanced.bind_neutral (neutral_divide _ _)
  intro result
  apply Balanced.operate rfl
  intro _
  apply Balanced.bind_neutral neutral_delUnit
  intro deleted
  split
  · exact Balanced.bind_neutral (neutral_modify _) fun _ => holding_leave .success
  · exact holding_abandon

theorem holding_sampleOneShot (config : OneShotConfig) : Holding (sampleOneShot config) := by
  unfold sampleOneShot
  split
  · exact holding_abandon
  · apply Balanced.bind_neutral neutral_newUnit
    intro created
    split
    · apply Balanced.bind_neutral (neutral_configChannel _ _)
      intro accepted
      split
      · exact holding_averageOneShot config _
      · apply Balanced.bind_neutral (neutral_modify _)
        intro _
        exact Balanced.bind_neutral neutral_delUnit fun _ => holding_leave .fail
    · exact holding_abandon

theorem holding_startOneShot (config : OneShotConfig) : Holding (startOneShot config) := by
  unfold startOneShot
  split
  · exact holding_leave .fail
  · apply Balanced.operate rfl
    intro statics
    split
    · exact Balanced.operate rfl fun _ => holding_sampleOneShot config
    · split
      · exact holding_leave .fail
      · exact holding_sampleOneShot config

theorem holding_runContinuous (config : ContinuousConfig) (callback : Callback) :
    Holding (runContinuous config callback) := by
  apply Balanced.bind_neutral (neutral_onContinuous _)
  intro configured
  split
  · apply Balanced.bind_neutral (neutral_modify _)
    intro _
    apply Balanced.bind_neutral (neutral_onContinuous _)
    intro registered
    split
    · apply Balanced.bind_neutral (neutral_onContinuous _)
      intro started
      split
      · exact holding_leave .success
      · exact holding_abandon
    · exact holding_abandon
  · exact holding_abandon

theorem holding_openContinuous (config : ContinuousConfig) (callback : Callback) :
    Holding (openContinuous config callback) := by
  apply Balanced.operate rfl
  intro answer
  cases answer with
  | ok handle => exact Balanced.bind_neutral (neutral_modify _) fun _ => holding_runContinuous config callback
  | error => exact holding_abandon

theorem holding_ownContinuous (config : ContinuousConfig) (callback : Callback) :
    Holding (ownContinuous config callback) := by
  apply Balanced.operate rfl
  intro statics
  split
  · exact Balanced.operate rfl fun _ => holding_openContinuous config callback
  · split
    · exact holding_leave .fail
    · exact holding_openContinuous config callback

theorem holding_startContinuous (config : ContinuousConfig) : Holding (startContinuous config) := by
  unfold startContinuous
  split
  · exact holding_leave .fail
  · split
    · exact holding_leave .fail
    · split
      · exact holding_leave .fail
      · split
        · exact holding_leave .fail
        · split
          · exact holding_leave .fail
          · exact holding_ownContinuous config _

theorem holding_setupUnit (ctrlChannel ctrlAtten : Nat) : Holding (setupUnit ctrlChannel ctrlAtten) := by
  apply Balanced.bind_neutral neutral_newUnit
  intro _
  exact Balanced.bind_neutral (neutral_configChannel _ _) fun _ => holding_leave .success

theorem balanced_setupTimeCriticalSampling (ctrlChannel ctrlAtten : Nat) :
    Balanced Op.role False (setupTimeCriticalSampling ctrlChannel ctrlAtten) .before := by
  apply Balanced.take rfl
  intro _
  apply Balanced.operate rfl
  intro statics
  split
  · exact Balanced.operate rfl fun _ => holding_setupUnit _ _
  · split
    · exact holding_leave .fail
    · exact holding_setupUnit _ _

theorem balanced_startSampling (sampling : Sampling) : Balanced Op.role False (startSampling sampling) .before := by
  apply Balanced.take rfl
  intro _
  split
  · exact holding_leave .fail
  · exact holding_leave .fail
  · exact holding_leave .fail
  · exact holding_startOneShot _
  · exact holding_startContinuous _

theorem balanced_releaseAdcController (channelMask : UInt8) :
    Balanced Op.role False (releaseAdcController channelMask) .before := by
  apply Balanced.take rfl
  intro _
  split
  · exact holding_leave .fail
  · apply Balanced.operate rfl
    intro statics
    split
    · exact holding_leave .fail
    · apply Balanced.bind_neutral (neutral_modify _)
      intro _
      apply Balanced.bind_neutral (neutral_onContinuous _)
      intro _
      exact Balanced.bind_neutral (neutral_onContinuous _) fun _ => holding_leave .success

theorem balanced_releaseAdcFromCriticalSampling (ctrlChannel : Nat) :
    Balanced Op.role False (releaseAdcFromCriticalSampling ctrlChannel) .before := by
  apply Balanced.take rfl
  intro _
  split
  · exact holding_leave .fail
  · apply Balanced.operate rfl
    intro statics
    split
    · exact holding_leave .fail
    · apply Balanced.bind_neutral neutral_delUnit
      intro _
      exact Balanced.bind_neutral (neutral_modify _) fun _ => holding_leave .success

theorem balanced_applyCalibration (ctrlChannel ctrlAtten : Nat) (pResult : Option (List UInt16)) :
    Balanced Op.role False (applyCalibration ctrlChannel ctrlAtten pResult) .before := by
  unfold applyCalibration
  apply Balanced.take rfl
  intro _
  split
  · exact (holding_leave .fail).map _
  · split
    · exact (holding_leave .fail).map _
    · apply Balanced.operate rfl
      intro created
      apply Balanced.bind_neutral (neutral_convertEach _ _)
      intro converted
      apply Balanced.operate rfl
      intro _
      exact (holding_leave .success).map _

theorem balanced_isControllerAvailable : Balanced Op.role False isControllerAvailable .before := by
  apply Balanced.take rfl
  intro _
  apply Balanced.operate rfl
  intro statics
  exact Balanced.give rfl fun _ => trivial

theorem balanced_body {call : Call} (locks : call.locks = true) : Balanced Op.role False call.body .before := by
  cases call with
  | initController => cases locks
  | startTimeCriticalSampling => cases locks
  | setupTimeCriticalSampling => exact (balanced_setupTimeCriticalSampling _ _).map _
  | startSampling => exact (balanced_startSampling _).map _
  | applyCalibration => exact (balanced_applyCalibration _ _ _).map _
  | releaseAdcController => exact (balanced_releaseAdcController _).map _
  | releaseAdcFromCriticalSampling => exact (balanced_releaseAdcFromCriticalSampling _).map _
  | isControllerAvailable => exact balanced_isControllerAvailable.map _

theorem neutral_sumReadings (channel remaining : Nat) (sum : UInt32) :
    Neutral Op.role (sumReadings channel remaining sum) := by
  induction remaining generalizing sum with
  | zero => trivial
  | succ remaining ih =>
    refine ⟨rfl, fun _ => ⟨rfl, ?_⟩⟩
    intro answer
    cases answer with
    | ok raw => exact ih _
    | error => exact ih _

theorem neutral_startTimeCriticalSampling (ctrlChannel : Nat) (nbSamples : UInt32) (pResult : Option Nat) :
    Neutral Op.role (startTimeCriticalSampling ctrlChannel nbSamples pResult) := by
  apply Only.bind (Only.send rfl)
  intro statics
  split
  · trivial
  · apply (neutral_sumReadings _ _ _).bind
    intro sum
    apply (neutral_divide _ _).bind
    intro result
    cases pResult with
    | none => trivial
    | some address => exact ⟨rfl, fun _ => trivial⟩

theorem balanced_initController : Balanced Op.role True initController .before := by
  apply Balanced.bind_neutral (neutral_modify _)
  intro _
  apply Balanced.create rfl
  intro created
  cases created <;> trivial

theorem balanced_call (call : Call) : Balanced Op.role True call.body .before := by
  by_cases locks : call.locks = true
  · exact (balanced_body locks).weaken
  · cases call with
    | initController => exact balanced_initController.map _
    | startTimeCriticalSampling ctrlChannel nbSamples pResult =>
      have balanced : Balanced Op.role True (startTimeCriticalSampling ctrlChannel nbSamples pResult) .before :=
        (neutral_startTimeCriticalSampling _ _ _).balanced trivial
      exact balanced.map _
    | _ => exact absurd rfl locks

end LaserDriver.Adc
