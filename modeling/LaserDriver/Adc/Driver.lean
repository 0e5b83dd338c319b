import Mathlib.Data.List.Basic

/-! The ESP-IDF ADC drivers as the controller sees them: `adc_oneshot.c`,
`adc_continuous.c` and `adc_cali*.c`, built for the ESP32-S3 with power
management off. Only ADC unit 1 is used, so its claim flag and its lock are the
only ones kept. Handles are identities and are never reused. -/

namespace LaserDriver.Adc

abbrev Handle := Nat

inductive EspError where
  | fail | noMem | invalidArg | invalidState | notFound | notSupported | timeout
  deriving Repr, DecidableEq

/-- An `esp_err_t` with what the call stores through its out-parameter:
`.ok` is `ESP_OK`, and a call that fails stores nothing. -/
abbrev Esp (α : Type) := Except EspError α

def socAdcChannelNum : Nat := 10
def socAdcAttenNum : Nat := 4
def socAdcPattLenMax : Nat := 24
def socAdcDigiDataBytesPerConv : UInt32 := 4
def socAdcSampleFreqThresHigh : UInt32 := 83333
def socAdcSampleFreqThresLow : UInt32 := 611
def adcBitwidth12 : UInt8 := 12
def adcUnit1 : UInt8 := 0

structure OneshotChanCfg where
  atten : Nat
  bitwidth : UInt8
  deriving Repr, DecidableEq

structure ContinuousHandleCfg where
  maxStoreBufSize : UInt32
  convFrameSize : UInt32
  deriving Repr, DecidableEq

structure DigiPatternConfig where
  atten : UInt8
  channel : UInt8
  unit : UInt8
  bitWidth : UInt8
  deriving Repr, DecidableEq

/-- The conversion table is the caller's array; an entry it never wrote is `none`. -/
structure ContinuousCfg where
  sampleFreqHz : UInt32
  adcPattern : List (Option DigiPatternConfig)
  patternNum : Nat
  deriving Repr, DecidableEq

inductive EventCallback where
  | continuousConvDoneCallback
  deriving Repr, DecidableEq

structure EventCallbacks where
  onConvDone : Option EventCallback
  onPoolOvf : Option EventCallback
  deriving Repr, DecidableEq

structure CaliConfig where
  chan : Nat
  atten : Nat
  bitwidth : UInt8
  deriving Repr, DecidableEq

inductive Request : Type → Type where
  | oneshotNewUnit : Request (Esp Handle)
  | oneshotConfigChannel (handle : Option Handle) (channel : Nat) (config : OneshotChanCfg) : Request (Esp Unit)
  | oneshotRead (handle : Option Handle) (channel : Nat) : Request (Esp (Fin 4096))
  | oneshotDelUnit (handle : Option Handle) : Request (Esp Unit)
  | continuousNewHandle (config : ContinuousHandleCfg) : Request (Esp Handle)
  | continuousConfig (handle : Option Handle) (config : ContinuousCfg) : Request (Esp Unit)
  | continuousRegisterEventCallbacks (handle : Option Handle) (cbs : EventCallbacks) : Request (Esp Unit)
  | continuousStart (handle : Option Handle) : Request (Esp Unit)
  | continuousStop (handle : Option Handle) : Request (Esp Unit)
  | continuousDeinit (handle : Option Handle) : Request (Esp Unit)
  | caliCreateSchemeCurveFitting (config : CaliConfig) : Request (Esp Handle)
  | caliRawToVoltage (handle : Option Handle) (raw : UInt16) : Request (Esp Int)
  | caliDeleteSchemeCurveFitting (handle : Option Handle) : Request (Esp Unit)

structure ContinuousCtx where
  handle : Handle
  started : Bool
  useAdc1 : Bool
  cbs : EventCallbacks
  deriving Repr, DecidableEq

/-- What the drivers hold. `unit` is the claim flag of ADC unit 1 together with
the handle of its owner, and `lock` is the lock a running session keeps. -/
structure Driver where
  nextHandle : Handle
  unit : Option Handle
  continuous : List ContinuousCtx
  lock : Bool
  schemes : List Handle
  deriving Repr, DecidableEq

def Driver.initial : Driver := ⟨0, none, [], false, []⟩

/-- What one call takes from outside the model: an error of its own (no memory,
no free DMA channel, unburnt eFuses), or the value it measures. -/
structure Chance where
  fault : Option EspError
  raw : Fin 4096
  voltage : Int

def Chance.answer (chance : Chance) (value : α) : Esp α :=
  match chance.fault with
  | some error => .error error
  | none => .ok value

namespace Driver

def context (driver : Driver) (handle : Handle) : Option ContinuousCtx :=
  driver.continuous.find? (fun ctx => ctx.handle == handle)

def updateContext (driver : Driver) (handle : Handle) (change : ContinuousCtx → ContinuousCtx) : Driver :=
  { driver with
    continuous := driver.continuous.replaceF (fun ctx => if ctx.handle == handle then some (change ctx) else none) }

/-- The checks `adc_continuous_config` makes on the table and the frequency. -/
def acceptsConfig (config : ContinuousCfg) : Bool :=
  decide (config.patternNum ≤ socAdcPattLenMax) &&
  config.adcPattern.all (fun entry => entry.any (fun pattern =>
    pattern.bitWidth == adcBitwidth12 && pattern.unit == adcUnit1)) &&
  config.adcPattern.all (fun entry => entry.map (·.atten) == (config.adcPattern.head?.join).map (·.atten)) &&
  decide (config.sampleFreqHz ≤ socAdcSampleFreqThresHigh) &&
  decide (socAdcSampleFreqThresLow ≤ config.sampleFreqHz)

end Driver

def Request.target : Request β → Option Handle
  | .oneshotNewUnit | .continuousNewHandle _ | .caliCreateSchemeCurveFitting _ => none
  | .oneshotConfigChannel handle _ _ | .oneshotRead handle _ | .oneshotDelUnit handle
  | .continuousConfig handle _ | .continuousRegisterEventCallbacks handle _ | .continuousStart handle
  | .continuousStop handle | .continuousDeinit handle
  | .caliRawToVoltage handle _ | .caliDeleteSchemeCurveFitting handle => handle

def Driver.live (driver : Driver) (handle : Handle) : Request β → Bool
  | .oneshotNewUnit | .oneshotConfigChannel .. | .oneshotRead .. | .oneshotDelUnit .. =>
    driver.unit == some handle
  | .continuousNewHandle _ | .continuousConfig .. | .continuousRegisterEventCallbacks .. | .continuousStart _
  | .continuousStop _ | .continuousDeinit _ => (driver.context handle).isSome
  | .caliCreateSchemeCurveFitting _ | .caliRawToVoltage .. | .caliDeleteSchemeCurveFitting _ =>
    driver.schemes.contains handle

namespace Driver

/-- `adc_oneshot_new_unit`: memory first, then the claim of the unit. -/
def newUnit (driver : Driver) (chance : Chance) : Esp Handle × Driver :=
  match chance.fault, driver.unit with
  | some error, _ => (.error error, driver)
  | none, some _ => (.error .notFound, driver)
  | none, none =>
    (.ok driver.nextHandle, { driver with unit := some driver.nextHandle, nextHandle := driver.nextHandle + 1 })

def configChannel (chance : Chance) (channel : Nat) (config : OneshotChanCfg) : Esp Unit :=
  if config.atten < socAdcAttenNum ∧ (config.bitwidth = adcBitwidth12 ∨ config.bitwidth = 0) ∧
      channel < socAdcChannelNum then
    chance.answer ()
  else .error .invalidArg

/-- A read fails at once while a continuous session holds the lock of the unit. -/
def read (driver : Driver) (chance : Chance) (channel : Nat) : Esp (Fin 4096) :=
  if channel < socAdcChannelNum then
    if driver.lock then .error .timeout else chance.answer chance.raw
  else .error .invalidArg

def newHandle (driver : Driver) (chance : Chance) (config : ContinuousHandleCfg) : Esp Handle × Driver :=
  if config.convFrameSize % socAdcDigiDataBytesPerConv ≠ 0 then (.error .invalidArg, driver)
  else match chance.fault with
    | some error => (.error error, driver)
    | none =>
      -- `heap_caps_calloc` gives no memory for a buffer of no bytes
      if config.maxStoreBufSize = 0 ∨ config.convFrameSize = 0 then (.error .noMem, driver)
      else (.ok driver.nextHandle,
        { driver with
          nextHandle := driver.nextHandle + 1
          continuous := ⟨driver.nextHandle, false, false, ⟨none, none⟩⟩ :: driver.continuous })

def configContinuous (driver : Driver) (chance : Chance) (ctx : ContinuousCtx) (config : ContinuousCfg) :
    Esp Unit × Driver :=
  if ctx.started then (.error .invalidState, driver)
  else if acceptsConfig config then
    match chance.fault with
    | some error => (.error error, driver)
    | none => (.ok (), driver.updateContext ctx.handle
        (fun ctx => { ctx with useAdc1 := config.adcPattern.any Option.isSome }))
  else (.error .invalidArg, driver)

def registerEventCallbacks (driver : Driver) (chance : Chance) (ctx : ContinuousCtx) (cbs : EventCallbacks) :
    Esp Unit × Driver :=
  if ctx.started then (.error .invalidState, driver)
  else match chance.fault with
    | some error => (.error error, driver)
    | none => (.ok (), driver.updateContext ctx.handle (fun ctx => { ctx with cbs }))

/-- The state machine moves to started before the lock is acquired, and the
acquisition waits for as long as another session keeps the lock. -/
def start (driver : Driver) (chance : Chance) (ctx : ContinuousCtx) : Option (Esp Unit) × Driver :=
  if ctx.started then (some (.error .invalidState), driver)
  else match chance.fault with
    | some error => (some (.error error), driver)
    | none =>
      let running := driver.updateContext ctx.handle (fun ctx => { ctx with started := true })
      if ctx.useAdc1 then
        if driver.lock then (none, running) else (some (.ok ()), { running with lock := true })
      else (some (.ok ()), running)

def stop (driver : Driver) (ctx : ContinuousCtx) : Esp Unit × Driver :=
  if ctx.started then
    let stopped := driver.updateContext ctx.handle (fun ctx => { ctx with started := false })
    (.ok (), { stopped with lock := stopped.lock && !ctx.useAdc1 })
  else (.error .invalidState, driver)

def deinit (driver : Driver) (ctx : ContinuousCtx) : Esp Unit × Driver :=
  if ctx.started then (.error .invalidState, driver)
  else (.ok (), { driver with continuous := driver.continuous.eraseP (fun other => other.handle == ctx.handle) })

def createScheme (driver : Driver) (chance : Chance) (config : CaliConfig) : Esp Handle × Driver :=
  if config.atten < socAdcAttenNum ∧ (config.bitwidth = adcBitwidth12 ∨ config.bitwidth = 0) then
    match chance.fault with
    | some error => (.error error, driver)
    | none => (.ok driver.nextHandle,
        { driver with nextHandle := driver.nextHandle + 1, schemes := driver.nextHandle :: driver.schemes })
  else (.error .invalidArg, driver)

/-- A call on a continuous handle. It is refused on NULL. On a freed handle the C
behaviour is undefined: the outside chooses the answer and the driver stays. -/
def onContext (driver : Driver) (chance : Chance) (handle : Option Handle) (null : EspError)
    (call : ContinuousCtx → Option (Esp Unit) × Driver) : Option (Esp Unit) × Driver :=
  match handle with
  | none => (some (.error null), driver)
  | some handle =>
    match driver.context handle with
    | none => (some (chance.answer ()), driver)
    | some ctx => call ctx

/-- The driver's answer to one call; `none` is a call that never comes back. -/
def serve (driver : Driver) (chance : Chance) (request : Request β) : Option β × Driver :=
  match request with
  | .oneshotNewUnit => let (answer, after) := driver.newUnit chance; (some answer, after)
  | .oneshotConfigChannel none _ _ => (some (.error .invalidArg), driver)
  | .oneshotConfigChannel (some handle) channel config =>
    (some (if driver.unit = some handle then configChannel chance channel config else chance.answer ()), driver)
  | .oneshotRead none _ => (some (.error .invalidArg), driver)
  | .oneshotRead (some handle) channel =>
    (some (if driver.unit = some handle then driver.read chance channel else chance.answer chance.raw), driver)
  | .oneshotDelUnit none => (some (.error .invalidArg), driver)
  | .oneshotDelUnit (some handle) =>
    if driver.unit = some handle then (some (.ok ()), { driver with unit := none })
    else (some (chance.answer ()), driver)
  | .continuousNewHandle config => let (answer, after) := driver.newHandle chance config; (some answer, after)
  | .continuousConfig handle config => driver.onContext chance handle .invalidState fun ctx =>
    let (answer, after) := driver.configContinuous chance ctx config; (some answer, after)
  | .continuousRegisterEventCallbacks handle cbs => driver.onContext chance handle .invalidArg fun ctx =>
    let (answer, after) := driver.registerEventCallbacks chance ctx cbs; (some answer, after)
  | .continuousStart handle => driver.onContext chance handle .invalidState fun ctx => driver.start chance ctx
  | .continuousStop handle => driver.onContext chance handle .invalidState fun ctx =>
    let (answer, after) := driver.stop ctx; (some answer, after)
  | .continuousDeinit handle => driver.onContext chance handle .invalidState fun ctx =>
    let (answer, after) := driver.deinit ctx; (some answer, after)
  | .caliCreateSchemeCurveFitting config => let (answer, after) := driver.createScheme chance config; (some answer, after)
  | .caliRawToVoltage none _ => (some (.error .invalidArg), driver)
  | .caliRawToVoltage (some _) _ => (some (chance.answer chance.voltage), driver)
  | .caliDeleteSchemeCurveFitting none => (some (.error .invalidArg), driver)
  | .caliDeleteSchemeCurveFitting (some handle) => (some (.ok ()), { driver with schemes := driver.schemes.erase handle })

end Driver
end LaserDriver.Adc
