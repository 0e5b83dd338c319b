import Mathlib.Algebra.Group.Nat.Defs
import LaserDriver.Lib.Program

/-! The peripheral side of the LED driver, `ledDriver_cfg.c`. All of it runs in
`LEDC_LOW_SPEED_MODE`, so the speed mode is not an argument here, and a driver
call is answered by whether it returned `ESP_OK`. -/

namespace LaserDriver.Led
open Effects

def maxPwmDuty : UInt32 := 255
def minPwmDuty : UInt32 := 0
def defaultFreqHz : UInt32 := 1000
def defaultDutyRes : Nat := 8

inductive ActiveLevel where
  | low | high | invalid
  deriving Repr, DecidableEq

structure SingleConfig where
  gpioNum : UInt8
  activeLevel : ActiveLevel
  deriving Repr, DecidableEq

structure SinglePwmConfig where
  gpioNum : UInt8
  activeLevel : ActiveLevel
  ledTimer : Nat
  ledChannel : Nat
  deriving Repr, DecidableEq

structure RgbConfig where
  redGpioNum : UInt8
  greenGpioNum : UInt8
  blueGpioNum : UInt8
  activeLevel : ActiveLevel
  ledTimer : Nat
  redChannel : Nat
  greenChannel : Nat
  blueChannel : Nat
  deriving Repr, DecidableEq

inductive CfgRet where
  | error | ok
  deriving Repr, DecidableEq

inductive LedType where
  | single | singlePwm | rgb | invalid
  deriving Repr, DecidableEq

/-- The union, with the member that was written last. -/
inductive LedConfig where
  | single (config : SingleConfig)
  | singlePwm (config : SinglePwmConfig)
  | rgb (config : RgbConfig)
  deriving Repr, DecidableEq

structure LedInfo where
  ledType : LedType
  activeFlag : Bool
  config : LedConfig
  deriving Repr, DecidableEq

inductive Member : Type → Type where
  | single : Member SingleConfig
  | singlePwm : Member SinglePwmConfig
  | rgb : Member RgbConfig

def LedConfig.member? : LedConfig → Member β → Option β
  | .single config, .single => some config
  | .singlePwm config, .singlePwm => some config
  | .rgb config, .rgb => some config
  | _, _ => none

structure TimerConfig where
  dutyResolution : Nat
  timerNum : Nat
  freqHz : UInt32
  deriving Repr, DecidableEq

structure ChannelConfig where
  channel : Nat
  timerSel : Nat
  gpioNum : UInt8
  duty : UInt32
  hpoint : Nat
  deriving Repr, DecidableEq

/-- The calls of the GPIO and LEDC drivers that return an `esp_err_t`. A pin is
always configured as an output without interrupt and without pulls. -/
inductive Request where
  | gpioConfig (pinBitMask : Nat)
  | gpioSetLevel (gpioNum : UInt8) (level : Bool)
  | ledcTimerConfig (config : TimerConfig)
  | ledcChannelConfig (config : ChannelConfig)
  | ledcSetDuty (channel : Nat) (duty : UInt32)
  | ledcUpdateDuty (channel : Nat)
  | ledcSetFadeTimeAndStart (channel : Nat) (targetDuty maxFadeTimeMs : UInt32)
  | ledcSetFreq (timerNum : Nat) (freqHz : UInt32)
  | ledcFadeFuncInstall
  deriving Repr, DecidableEq

/-- What the driver does on a table of `capacity` slots. `reinterpret` reads a
member of the union that is not the one written last. -/
inductive Op (capacity : Nat) : Type → Type 1 where
  | createMutex : Op capacity Bool
  | takeMutex : Op capacity Unit
  | giveMutex : Op capacity Unit
  | loadLed (index : Fin capacity) : Op capacity LedInfo
  | storeLed (index : Fin capacity) (info : LedInfo) : Op capacity Unit
  | outOfBounds : Op capacity Empty
  | loopForever : Op capacity Empty
  | reinterpret {β : Type} (member : Member β) : Op capacity β
  | driver (request : Request) : Op capacity Bool
  | ledcGetFreq (timerNum : Nat) : Op capacity UInt32

variable {capacity : Nat}

namespace Cfg

def initDriver : Program (Op capacity) CfgRet := do
  if ← .send .createMutex then return .ok else return .error

def startFadeService : Program (Op capacity) CfgRet := do
  if ← .send (.driver .ledcFadeFuncInstall) then return .ok else return .error

/-- The result codes of the setup calls are not looked at. -/
def setuptLedSingle (config : SingleConfig) : Program (Op capacity) CfgRet := do
  let _ ← .send (.driver (.gpioConfig (2 ^ config.gpioNum.toNat % 2 ^ 64)))
  -- off after setup
  let _ ← .send (.driver (.gpioSetLevel config.gpioNum !(config.activeLevel = .high)))
  return .ok

def setupTimer (ledTimer : Nat) : Program (Op capacity) Unit := do
  let _ ← .send (.driver (.ledcTimerConfig ⟨defaultDutyRes, ledTimer, defaultFreqHz⟩))

def setupChannel (channel ledTimer : Nat) (gpioNum : UInt8) (activeLevel : ActiveLevel) : Program (Op capacity) Unit := do
  let duty := if activeLevel = .low then maxPwmDuty else minPwmDuty
  let _ ← .send (.driver (.ledcChannelConfig ⟨channel, ledTimer, gpioNum, duty, 0⟩))

def setupLedSinglePwm (config : SinglePwmConfig) : Program (Op capacity) CfgRet := do
  setupTimer config.ledTimer
  setupChannel config.ledChannel config.ledTimer config.gpioNum config.activeLevel
  return .ok

def setupLedRgb (config : RgbConfig) : Program (Op capacity) CfgRet := do
  setupTimer config.ledTimer
  setupChannel config.redChannel config.ledTimer config.redGpioNum config.activeLevel
  setupChannel config.greenChannel config.ledTimer config.greenGpioNum config.activeLevel
  setupChannel config.blueChannel config.ledTimer config.blueGpioNum config.activeLevel
  return .ok

def setLedSingleState (state : UInt8) (config : SingleConfig) : Program (Op capacity) CfgRet := do
  if (state ≥ 1 ∧ config.activeLevel = .high) ∨ (state = 0 ∧ config.activeLevel = .low) then
    let _ ← .send (.driver (.gpioSetLevel config.gpioNum (config.activeLevel = .high)))
    return .ok
  else
    let _ ← .send (.driver (.gpioSetLevel config.gpioNum !(config.activeLevel = .high)))
    return .ok

/-- Write a duty and make it effective; the first call that fails ends the function. -/
def writeDuty (channel : Nat) (duty : UInt32) (rest : Program (Op capacity) CfgRet) : Program (Op capacity) CfgRet := do
  if ← .send (.driver (.ledcSetDuty channel duty)) then
    if ← .send (.driver (.ledcUpdateDuty channel)) then rest else return .error
  else return .error

def startFade (channel : Nat) (targetDuty fadeTimeMs : UInt32) (rest : Program (Op capacity) CfgRet) :
    Program (Op capacity) CfgRet := do
  if ← .send (.driver (.ledcSetFadeTimeAndStart channel targetDuty fadeTimeMs)) then rest else return .error

def setLedSinglePwmDuty (duty : UInt32) (config : SinglePwmConfig) : Program (Op capacity) CfgRet :=
  writeDuty config.ledChannel duty (return .ok)

def fadeLedSinglePwmDuty (targetDuty fadeTimeMs : UInt32) (config : SinglePwmConfig) : Program (Op capacity) CfgRet :=
  startFade config.ledChannel targetDuty fadeTimeMs (return .ok)

def setLedRgbColor (redDuty greenDuty blueDuty : UInt32) (config : RgbConfig) : Program (Op capacity) CfgRet :=
  writeDuty config.redChannel redDuty
    (writeDuty config.greenChannel greenDuty
      (writeDuty config.blueChannel blueDuty (return .ok)))

def fadeLedRgbColor (targetRedDuty targetGreenDuty targetBlueDuty fadeTimeMs : UInt32) (config : RgbConfig) :
    Program (Op capacity) CfgRet :=
  startFade config.redChannel targetRedDuty fadeTimeMs
    (startFade config.greenChannel targetGreenDuty fadeTimeMs
      (startFade config.blueChannel targetBlueDuty fadeTimeMs (return .ok)))

def setFreq (ledTimer : Nat) (freqHz : UInt32) : Program (Op capacity) CfgRet := do
  if ← .send (.driver (.ledcSetFreq ledTimer freqHz)) then return .ok else return .error

def setLedSinglePwmFreq (freqHz : UInt32) (config : SinglePwmConfig) : Program (Op capacity) CfgRet :=
  setFreq config.ledTimer freqHz

def setLedRgbFreq (freqHz : UInt32) (config : RgbConfig) : Program (Op capacity) CfgRet :=
  setFreq config.ledTimer freqHz

/-- The status and what is stored through the pointer. -/
def getFreq (ledTimer : Nat) : Program (Op capacity) (CfgRet × UInt32) := do
  return (.ok, ← .send (.ledcGetFreq ledTimer))

def getLedSinglePwmFreq (config : SinglePwmConfig) : Program (Op capacity) (CfgRet × UInt32) := getFreq config.ledTimer

def getLedRgbFreq (config : RgbConfig) : Program (Op capacity) (CfgRet × UInt32) := getFreq config.ledTimer

end Cfg
end LaserDriver.Led
