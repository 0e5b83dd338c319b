import LaserDriver.Led.Config

/-! The LED driver of `ledDriver.c`, over a table of any capacity. What a function
stores through a pointer is part of its result, `none` when it stores nothing. -/

namespace LaserDriver.Led
open Effects

/-- `LDRV_CFG_MAX_NB_LED`. -/
def maxNbLed : Nat := 3

def noAvailableIndex : UInt8 := 0xFF

inductive Ret where
  | error | ok
  deriving Repr, DecidableEq

def CfgRet.status : CfgRet → Ret
  | .ok => .ok
  | .error => .error

structure Color where
  redDuty : UInt32
  greenDuty : UInt32
  blueDuty : UInt32
  deriving Repr, DecidableEq

section Table
variable {capacity : Nat}

/-- `for(uint8_t index = 0; index < LDRV_CFG_MAX_NB_LED; index++)`, left where `stops`
says so, with the index it was left at. The counter wraps at 256, so a loop that has
made 256 rounds is back where it was and goes on for ever. -/
def forEachLed (stops : Fin capacity → Program (Op capacity) Bool) : Nat → UInt8 → Program (Op capacity) UInt8
  | 0, _ => .request .loopForever nofun
  | rounds + 1, index =>
    if inside : index.toNat < capacity then do
      if ← stops ⟨index.toNat, inside⟩ then return index else forEachLed stops rounds (index + 1)
    else return index

def findInactive : Program (Op capacity) UInt8 :=
  forEachLed (fun index => do
    let info ← .send (.loadLed index)
    return info.activeFlag = false) 256 0

def isTableFull : Program (Op capacity) Bool := do
  let index ← findInactive
  return index.toNat ≥ capacity

def getFirstAvailableIndex : Program (Op capacity) UInt8 := do
  let index ← findInactive
  if index.toNat ≥ capacity then return noAvailableIndex else return index

def clearTable : Program (Op capacity) UInt8 :=
  forEachLed (fun index => do
    let info ← .send (.loadLed index)
    .send (.storeLed index { info with activeFlag := false })
    return false) 256 0

def initDriver : Program (Op capacity) Ret := do
  if (← Cfg.initDriver) ≠ .ok then return .error
  else
    .send .takeMutex
    let _ ← clearTable
    .send .giveMutex
    return .ok

def startFadeService : Program (Op capacity) Ret := do
  return (← Cfg.startFadeService).status

def leave (value : α) : Program (Op capacity) α := do
  .send .giveMutex
  return value

def storeInfo (index : UInt8) (info : LedInfo) : Program (Op capacity) Unit :=
  if inside : index.toNat < capacity then .send (.storeLed ⟨index.toNat, inside⟩ info)
  else .request .outOfBounds nofun

/-- The three functions that add a LED differ in the tag, the member they write and
the setup they make. -/
def addLed (ledType : LedType) (config : LedConfig) (setup : Program (Op capacity) CfgRet) :
    Program (Op capacity) (Ret × Option UInt8) := do
  .send .takeMutex
  if ← isTableFull then leave (.error, none)
  else
    let index ← getFirstAvailableIndex
    if index = noAvailableIndex then leave (.error, none)
    else if (← setup) ≠ .ok then leave (.error, none)
    else
      storeInfo index ⟨ledType, true, config⟩
      leave (.ok, some index)

def addLedSingle (singleConfig : SingleConfig) : Program (Op capacity) (Ret × Option UInt8) :=
  addLed .single (.single singleConfig) (Cfg.setuptLedSingle singleConfig)

def addLedSinglePwm (singlePwmConfig : SinglePwmConfig) : Program (Op capacity) (Ret × Option UInt8) :=
  addLed .singlePwm (.singlePwm singlePwmConfig) (Cfg.setupLedSinglePwm singlePwmConfig)

def addLedRgb (rgbConfig : RgbConfig) : Program (Op capacity) (Ret × Option UInt8) :=
  addLed .rgb (.rgb rgbConfig) (Cfg.setupLedRgb rgbConfig)

/-- How every operation on a handle begins: the range check, then a copy of the slot
taken under the mutex. What follows works on the copy. -/
def withLed (ledHandle : UInt8) (refused : α) (operate : LedInfo → Program (Op capacity) α) : Program (Op capacity) α :=
  if inside : ledHandle.toNat < capacity then do
    .send .takeMutex
    let ledInfo ← .send (.loadLed ⟨ledHandle.toNat, inside⟩)
    .send .giveMutex
    if ledInfo.activeFlag = false then return refused else operate ledInfo
  else return refused

def LedInfo.read (ledInfo : LedInfo) (member : Member β) : Program (Op capacity) β :=
  match ledInfo.config.member? member with
  | some config => pure config
  | none => .send (.reinterpret member)

def onType (ledType : LedType) (member : Member β) (ledHandle : UInt8) (operate : β → Program (Op capacity) CfgRet) :
    Program (Op capacity) Ret :=
  withLed ledHandle .error fun ledInfo => do
    if ledInfo.ledType ≠ ledType then return .error
    else
      let config ← ledInfo.read member
      return (← operate config).status

def clip (duty : UInt32) : UInt32 :=
  let upper := if duty ≥ maxPwmDuty then maxPwmDuty else duty
  if upper ≤ minPwmDuty then minPwmDuty else upper

def inverse (activeLevel : ActiveLevel) (duty : UInt32) : UInt32 :=
  if activeLevel = .low then
    if duty = maxPwmDuty then minPwmDuty
    else if duty = minPwmDuty then maxPwmDuty + 1
    else maxPwmDuty - duty
  else duty

def setLedSingleState (state : UInt8) (ledHandle : UInt8) : Program (Op capacity) Ret :=
  onType .single .single ledHandle fun config => Cfg.setLedSingleState state config

def setLedSinglePwmDuty (dutyCycle : UInt32) (ledHandle : UInt8) : Program (Op capacity) Ret :=
  onType .singlePwm .singlePwm ledHandle fun config =>
    Cfg.setLedSinglePwmDuty (inverse config.activeLevel (clip dutyCycle)) config

def fadeLedSinglePwmDuty (targetDuty fadeTimeMs : UInt32) (ledHandle : UInt8) : Program (Op capacity) Ret :=
  onType .singlePwm .singlePwm ledHandle fun config =>
    Cfg.fadeLedSinglePwmDuty (inverse config.activeLevel (clip targetDuty)) fadeTimeMs config

def setLedRgbColor (color : Color) (ledHandle : UInt8) : Program (Op capacity) Ret :=
  onType .rgb .rgb ledHandle fun config =>
    Cfg.setLedRgbColor (inverse config.activeLevel (clip color.redDuty))
      (inverse config.activeLevel (clip color.greenDuty)) (inverse config.activeLevel (clip color.blueDuty)) config

/-- Unlike the other three, this one does not clip before it inverts. -/
def fadeLedRgbColor (targetColor : Color) (fadeTimeMs : UInt32) (ledHandle : UInt8) : Program (Op capacity) Ret :=
  onType .rgb .rgb ledHandle fun config =>
    Cfg.fadeLedRgbColor (inverse config.activeLevel targetColor.redDuty)
      (inverse config.activeLevel targetColor.greenDuty) (inverse config.activeLevel targetColor.blueDuty)
      fadeTimeMs config

def setLedPwmFreq (freqHz : UInt32) (ledHandle : UInt8) : Program (Op capacity) Ret :=
  withLed ledHandle .error fun ledInfo => do
    if ledInfo.ledType = .singlePwm then
      let config ← ledInfo.read .singlePwm
      return (← Cfg.setLedSinglePwmFreq freqHz config).status
    else if ledInfo.ledType = .rgb then
      let config ← ledInfo.read .rgb
      return (← Cfg.setLedRgbFreq freqHz config).status
    else return .error

def getLedPwmFreq (ledHandle : UInt8) : Program (Op capacity) (Ret × Option UInt32) :=
  withLed ledHandle (.error, none) fun ledInfo => do
    if ledInfo.ledType = .singlePwm then
      let config ← ledInfo.read .singlePwm
      let (ret, freqHz) ← Cfg.getLedSinglePwmFreq config
      return (ret.status, some freqHz)
    else if ledInfo.ledType = .rgb then
      let config ← ledInfo.read .rgb
      let (ret, freqHz) ← Cfg.getLedRgbFreq config
      return (ret.status, some freqHz)
    else return (.error, none)

end Table

inductive Call where
  | initDriver
  | startFadeService
  | addLedSingle (singleConfig : SingleConfig)
  | addLedSinglePwm (singlePwmConfig : SinglePwmConfig)
  | addLedRgb (rgbConfig : RgbConfig)
  | setLedSingleState (state : UInt8) (ledHandle : UInt8)
  | setLedSinglePwmDuty (dutyCycle : UInt32) (ledHandle : UInt8)
  | fadeLedSinglePwmDuty (targetDuty fadeTimeMs : UInt32) (ledHandle : UInt8)
  | setLedRgbColor (color : Color) (ledHandle : UInt8)
  | fadeLedRgbColor (targetColor : Color) (fadeTimeMs : UInt32) (ledHandle : UInt8)
  | setLedPwmFreq (freqHz : UInt32) (ledHandle : UInt8)
  | getLedPwmFreq (ledHandle : UInt8)
  deriving Repr, DecidableEq

inductive Reply where
  | status (ret : Ret)
  | added (ret : Ret) (ledHandle : Option UInt8)
  | frequency (ret : Ret) (freqHz : Option UInt32)
  deriving Repr, DecidableEq

def Call.body {capacity : Nat} : Call → Program (Op capacity) Reply
  | .initDriver => return .status (← Led.initDriver)
  | .startFadeService => return .status (← Led.startFadeService)
  | .addLedSingle config => return (fun (ret, handle) => .added ret handle) (← Led.addLedSingle config)
  | .addLedSinglePwm config => return (fun (ret, handle) => .added ret handle) (← Led.addLedSinglePwm config)
  | .addLedRgb config => return (fun (ret, handle) => .added ret handle) (← Led.addLedRgb config)
  | .setLedSingleState state handle => return .status (← Led.setLedSingleState state handle)
  | .setLedSinglePwmDuty duty handle => return .status (← Led.setLedSinglePwmDuty duty handle)
  | .fadeLedSinglePwmDuty duty time handle => return .status (← Led.fadeLedSinglePwmDuty duty time handle)
  | .setLedRgbColor color handle => return .status (← Led.setLedRgbColor color handle)
  | .fadeLedRgbColor color time handle => return .status (← Led.fadeLedRgbColor color time handle)
  | .setLedPwmFreq freq handle => return .status (← Led.setLedPwmFreq freq handle)
  | .getLedPwmFreq handle => return (fun (ret, freq) => .frequency ret freq) (← Led.getLedPwmFreq handle)

end LaserDriver.Led
