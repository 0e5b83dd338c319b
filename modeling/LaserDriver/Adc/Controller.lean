import Mathlib.Algebra.Group.Nat.Defs
import LaserDriver.Lib.Program
import LaserDriver.Adc.Driver

/-! The ADC controller of `adcController.c`. Every entry point is a program over
its mutex, its static variables, the caller's result pointer and the drivers. -/

namespace LaserDriver.Adc
open Effects

inductive Ret where
  | fail | success
  deriving Repr, DecidableEq

/-- `ADC_CTRL_CHANNEL_INVALID`: one past `ADC_CTRL_CHANNEL_TEMP_LOAD`. -/
def ctrlChannelInvalid : Nat := 7

def ctrlMaxSamplingFreqHz : UInt32 := socAdcSampleFreqThresHigh

/-- The client's function, by identity. -/
abbrev Callback := Nat

structure OneShotConfig where
  ctrlChannel : Nat
  ctrlAtten : Nat
  nbSample : UInt32
  pResult : Option Nat
  deriving Repr, DecidableEq

structure ContinuousConfig where
  channelMask : UInt8
  ctrlAtten : Nat
  nbSample : UInt32
  sampleFreqHz : UInt32
  callback : Option Callback
  deriving Repr, DecidableEq

/-- The mode together with what `pConfig` points to in that mode. -/
inductive Sampling where
  | oneShot (pConfig : Option OneShotConfig)
  | continuous (pConfig : Option ContinuousConfig)
  | invalid
  deriving Repr, DecidableEq

/-- The static variables. `activeCtrlChannels` is 32 bits wide. -/
structure Statics where
  oneshotHandle : Option Handle
  continuousHandle : Option Handle
  activeCtrlChannels : Nat
  activeContinuousCallback : Option Callback
  deriving Repr, DecidableEq

inductive Op : Type → Type 1 where
  | createMutex : Op Bool
  | takeMutex : Op Unit
  | giveMutex : Op Unit
  | load : Op Statics
  | store (statics : Statics) : Op Unit
  | writeResult (address : Nat) (value : UInt16) : Op Unit
  | divideByZero : Op Empty
  | driver {β : Type} (request : Request β) : Op β

def shiftULL (bits : Nat) : Nat := 2 ^ bits % 2 ^ 64
def shiftUL (bits : Nat) : Nat := 2 ^ bits % 2 ^ 32

def modify (change : Statics → Statics) : Program Op Unit := do
  let statics ← .send .load
  .send (.store (change statics))

def leave (ret : Ret) : Program Op Ret := do
  .send .giveMutex
  return ret

/-- The exit of a request that fails after it took the ADC. -/
def abandon : Program Op Ret := do
  modify fun statics => { statics with activeCtrlChannels := 0 }
  leave .fail

/-- Unsigned division; by zero it traps and nothing follows. -/
def divide (dividend divisor : UInt32) : Program Op UInt32 :=
  if divisor = 0 then .request .divideByZero nofun else pure (dividend / divisor)

/-- `adc_oneshot_new_unit(&init_config, &oneshot_handle)`. -/
def newUnit : Program Op Bool := do
  match ← .send (.driver .oneshotNewUnit) with
  | .ok handle =>
    modify fun statics => { statics with oneshotHandle := some handle }
    return true
  | .error _ => return false

def configChannel (ctrlChannel ctrlAtten : Nat) : Program Op Bool := do
  let statics ← .send .load
  return (← .send (.driver (.oneshotConfigChannel statics.oneshotHandle ctrlChannel
    ⟨ctrlAtten, adcBitwidth12⟩))).isOk

def delUnit : Program Op Bool := do
  let statics ← .send .load
  return (← .send (.driver (.oneshotDelUnit statics.oneshotHandle))).isOk

def initController : Program Op Ret := do
  modify fun statics =>
    { statics with oneshotHandle := none, continuousHandle := none, activeCtrlChannels := 0 }
  if ← .send .createMutex then return .success else return .fail

def setupUnit (ctrlChannel ctrlAtten : Nat) : Program Op Ret := do
  let _ ← newUnit
  let _ ← configChannel ctrlChannel ctrlAtten
  leave .success

/-- The result codes of the unit and channel setup are not looked at. -/
def setupTimeCriticalSampling (ctrlChannel ctrlAtten : Nat) : Program Op Ret := do
  .send .takeMutex
  let statics ← .send .load
  if ctrlChannel ≠ ctrlChannelInvalid ∧ statics.activeCtrlChannels = 0 then
    .send (.store { statics with
      activeCtrlChannels := (statics.activeCtrlChannels ||| shiftULL ctrlChannel) % 2 ^ 32 })
    setupUnit ctrlChannel ctrlAtten
  else if statics.activeCtrlChannels ≠ shiftUL ctrlChannel then leave .fail
  else setupUnit ctrlChannel ctrlAtten

/-- The loop of the time-critical path: a failed read leaves `tmp_adc` at zero. -/
def sumReadings (ctrlChannel : Nat) : Nat → UInt32 → Program Op UInt32
  | 0, adcValue => pure adcValue
  | remaining + 1, adcValue => do
    let statics ← .send .load
    match ← .send (.driver (.oneshotRead statics.oneshotHandle ctrlChannel)) with
    | .ok raw => sumReadings ctrlChannel remaining (adcValue + .ofNat raw)
    | .error _ => sumReadings ctrlChannel remaining adcValue

/-- Takes no mutex: it is meant to run inside an interrupt routine. -/
def startTimeCriticalSampling (ctrlChannel : Nat) (nbSamples : UInt32) (pResult : Option Nat) :
    Program Op Ret := do
  let statics ← .send .load
  if ctrlChannel = ctrlChannelInvalid ∨ statics.activeCtrlChannels ≠ shiftULL ctrlChannel then
    return .fail
  else
    let adcValue ← sumReadings ctrlChannel nbSamples.toNat 0
    let adcValue ← divide adcValue nbSamples
    match pResult with
    | some address => .send (.writeResult address adcValue.toUInt16)
    | none => pure ()
    return .success

/-- The loop of the one-shot path: a failed read ends it. -/
def readSamples (channel : Nat) : Nat → UInt32 → Program Op UInt32
  | 0, result => pure result
  | remaining + 1, result => do
    let statics ← .send .load
    match ← .send (.driver (.oneshotRead statics.oneshotHandle channel)) with
    | .ok raw => readSamples channel remaining (result + .ofNat raw)
    | .error _ => pure result

def averageOneShot (config : OneShotConfig) (pResult : Nat) : Program Op Ret := do
  let result ← readSamples config.ctrlChannel config.nbSample.toNat 0
  let result ← divide result config.nbSample
  .send (.writeResult pResult result.toUInt16)
  if ← delUnit then
    modify fun statics => { statics with oneshotHandle := none, activeCtrlChannels := 0 }
    leave .success
  else abandon

/-- The one-shot path once the request owns the ADC. -/
def sampleOneShot (config : OneShotConfig) : Program Op Ret := do
  match config.pResult with
  | none => abandon
  | some pResult =>
    if ← newUnit then
      if ← configChannel config.ctrlChannel config.ctrlAtten then averageOneShot config pResult
      else
        modify fun statics => { statics with activeCtrlChannels := 0 }
        let _ ← delUnit
        leave .fail
    else abandon

def startOneShot (config : OneShotConfig) : Program Op Ret := do
  if config.ctrlChannel ≥ ctrlChannelInvalid then leave .fail
  else
    let statics ← .send .load
    if statics.activeCtrlChannels = 0 then
      .send (.store { statics with
        activeCtrlChannels := (statics.activeCtrlChannels ||| shiftULL config.ctrlChannel) % 2 ^ 32 })
      sampleOneShot config
    else if statics.activeCtrlChannels ≠ shiftULL config.ctrlChannel then leave .fail
    else sampleOneShot config

/-- `nb_channel_mask`: the bits of the mask, counted one channel at a time. -/
def nbChannelMask (channelMask : UInt8) : Nat :=
  (List.range 8).foldl (fun count i => if channelMask.toNat &&& (1 <<< i) ≠ 0 then count + 1 else count) 0

/-- One round of the loop that fills `pattern_config`; `j` is the next free entry. -/
def fillPattern (channelMask : UInt8) (ctrlAtten : Nat) (table : Nat × List (Option DigiPatternConfig)) (i : Nat) :
    Nat × List (Option DigiPatternConfig) :=
  if channelMask.toNat &&& (1 <<< i) = 1 <<< i then
    (table.1 + 1, table.2.set table.1 (some ⟨.ofNat ctrlAtten, .ofNat i, adcUnit1, adcBitwidth12⟩))
  else table

/-- `pattern_config[nb_channel_mask]` as the loop leaves it. -/
def patternConfig (config : ContinuousConfig) : List (Option DigiPatternConfig) :=
  ((List.range 8).foldl (fillPattern config.channelMask config.ctrlAtten)
    (0, List.replicate (nbChannelMask config.channelMask) none)).2

/-- `max_store_buf_size` and `conv_frame_size`, an unsigned 32-bit product. -/
def frameSize (config : ContinuousConfig) : UInt32 :=
  config.nbSample * socAdcDigiDataBytesPerConv * .ofNat (nbChannelMask config.channelMask)

/-- What `adc_continuous_config` is given for a request. -/
def ContinuousConfig.driverCfg (config : ContinuousConfig) : ContinuousCfg :=
  ⟨config.sampleFreqHz, patternConfig config, nbChannelMask config.channelMask⟩

def onContinuous (call : Option Handle → Request (Esp Unit)) : Program Op Bool := do
  let statics ← .send .load
  return (← .send (.driver (call statics.continuousHandle))).isOk

/-- The interrupt callback goes into the pool-overflow slot. -/
def eventCallbacks : EventCallbacks := ⟨none, some .continuousConvDoneCallback⟩

def runContinuous (config : ContinuousConfig) (callback : Callback) : Program Op Ret := do
  if ← onContinuous (.continuousConfig · config.driverCfg) then
    modify fun statics => { statics with activeContinuousCallback := some callback }
    if ← onContinuous (.continuousRegisterEventCallbacks · eventCallbacks) then
      if ← onContinuous .continuousStart then leave .success
      else abandon
    else abandon
  else abandon

/-- The continuous path once the request owns the ADC. -/
def openContinuous (config : ContinuousConfig) (callback : Callback) : Program Op Ret := do
  match ← .send (.driver (.continuousNewHandle ⟨frameSize config, frameSize config⟩)) with
  | .ok handle =>
    modify fun statics => { statics with continuousHandle := some handle }
    runContinuous config callback
  | .error _ => abandon

/-- The continuous path once its arguments are accepted. -/
def ownContinuous (config : ContinuousConfig) (callback : Callback) : Program Op Ret := do
  let statics ← .send .load
  if statics.activeCtrlChannels = 0 then
    .send (.store { statics with activeCtrlChannels := config.channelMask.toNat })
    openContinuous config callback
  else if statics.activeCtrlChannels ≠ config.channelMask.toNat then leave .fail
  else openContinuous config callback

def startContinuous (config : ContinuousConfig) : Program Op Ret := do
  if config.channelMask = 0 then leave .fail
  else if nbChannelMask config.channelMask = 0 then leave .fail
  else if config.nbSample ≤ 0 then leave .fail
  else match config.callback with
    | none => leave .fail
    | some callback =>
      if config.sampleFreqHz ≤ 0 ∨ config.sampleFreqHz > ctrlMaxSamplingFreqHz then leave .fail
      else ownContinuous config callback

def startSampling (sampling : Sampling) : Program Op Ret := do
  .send .takeMutex
  match sampling with
  | .invalid | .oneShot none | .continuous none => leave .fail
  | .oneShot (some config) => startOneShot config
  | .continuous (some config) => startContinuous config

/-- `result` after a conversion: it starts at zero, and a failed one leaves it there. -/
def conversionResult : Esp Int → Int
  | .ok voltage => voltage
  | .error _ => 0

/-- The in-place conversion loop: the converted buffer, in order. -/
def convertEach (calibHandle : Option Handle) : List UInt16 → Program Op (List UInt16)
  | [] => pure []
  | raw :: rest => do
    let answer ← .send (.driver (.caliRawToVoltage calibHandle raw))
    return .ofInt (conversionResult answer) :: (← convertEach calibHandle rest)

/-- The buffer is the caller's `size` elements; it comes back as it is left. -/
def applyCalibration (ctrlChannel ctrlAtten : Nat) (pResult : Option (List UInt16)) :
    Program Op (Ret × Option (List UInt16)) := do
  .send .takeMutex
  if ctrlChannel ≥ ctrlChannelInvalid then return (← leave .fail, pResult)
  else match pResult with
    | none => return (← leave .fail, none)
    | some buffer =>
      let created ← .send (.driver (.caliCreateSchemeCurveFitting ⟨ctrlChannel, ctrlAtten, adcBitwidth12⟩))
      let converted ← convertEach created.toOption buffer
      let _ ← .send (.driver (.caliDeleteSchemeCurveFitting created.toOption))
      return (← leave .success, some converted)

def releaseAdcController (channelMask : UInt8) : Program Op Ret := do
  .send .takeMutex
  if channelMask = 0 then leave .fail
  else
    let statics ← .send .load
    if statics.activeCtrlChannels ≠ channelMask.toNat then leave .fail
    else
      modify fun statics => { statics with activeCtrlChannels := 0, activeContinuousCallback := none }
      let _ ← onContinuous .continuousStop
      let _ ← onContinuous .continuousDeinit
      leave .success

def releaseAdcFromCriticalSampling (ctrlChannel : Nat) : Program Op Ret := do
  .send .takeMutex
  if ctrlChannel ≥ ctrlChannelInvalid then leave .fail
  else
    let statics ← .send .load
    if statics.activeCtrlChannels ≠ shiftULL ctrlChannel then leave .fail
    else
      let _ ← delUnit
      modify fun statics => { statics with activeCtrlChannels := 0 }
      leave .success

def isControllerAvailable : Program Op Bool := do
  .send .takeMutex
  let statics ← .send .load
  .send .giveMutex
  return statics.activeCtrlChannels = 0

inductive Call where
  | initController
  | setupTimeCriticalSampling (ctrlChannel ctrlAtten : Nat)
  | startTimeCriticalSampling (ctrlChannel : Nat) (nbSamples : UInt32) (pResult : Option Nat)
  | startSampling (sampling : Sampling)
  | applyCalibration (ctrlChannel ctrlAtten : Nat) (pResult : Option (List UInt16))
  | releaseAdcController (channelMask : UInt8)
  | releaseAdcFromCriticalSampling (ctrlChannel : Nat)
  | isControllerAvailable
  deriving Repr, DecidableEq

inductive Reply where
  | status (ret : Ret)
  | calibrated (ret : Ret) (pResult : Option (List UInt16))
  | available (flag : Bool)
  deriving Repr, DecidableEq

def Call.body : Call → Program Op Reply
  | .initController => return .status (← Adc.initController)
  | .setupTimeCriticalSampling ctrlChannel ctrlAtten =>
    return .status (← Adc.setupTimeCriticalSampling ctrlChannel ctrlAtten)
  | .startTimeCriticalSampling ctrlChannel nbSamples pResult =>
    return .status (← Adc.startTimeCriticalSampling ctrlChannel nbSamples pResult)
  | .startSampling sampling => return .status (← Adc.startSampling sampling)
  | .applyCalibration ctrlChannel ctrlAtten pResult => do
    let (ret, buffer) ← Adc.applyCalibration ctrlChannel ctrlAtten pResult
    return .calibrated ret buffer
  | .releaseAdcController channelMask => return .status (← Adc.releaseAdcController channelMask)
  | .releaseAdcFromCriticalSampling ctrlChannel =>
    return .status (← Adc.releaseAdcFromCriticalSampling ctrlChannel)
  | .isControllerAvailable => return .available (← Adc.isControllerAvailable)

end LaserDriver.Adc
