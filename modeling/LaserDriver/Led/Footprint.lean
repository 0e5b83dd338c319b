import LaserDriver.Led.Operations

/-! The footprint of an operation on a handle: the LEDs it goes on with, and what it may
then ask of the peripherals. -/

namespace LaserDriver.Led
open Effects Program

variable {capacity : Nat}

def RgbConfig.channels (config : RgbConfig) : List Nat := [config.redChannel, config.greenChannel, config.blueChannel]

namespace LedConfig

def ledType : LedConfig → LedType
  | .single _ => .single
  | .singlePwm _ => .singlePwm
  | .rgb _ => .rgb

def info (config : LedConfig) : LedInfo := ⟨config.ledType, true, config⟩

def pins : LedConfig → List UInt8
  | .single config => [config.gpioNum]
  | _ => []

def channels : LedConfig → List Nat
  | .single _ => []
  | .singlePwm config => [config.ledChannel]
  | .rgb config => config.channels

def timers : LedConfig → List Nat
  | .single _ => []
  | .singlePwm config => [config.ledTimer]
  | .rgb config => [config.ledTimer]

end LedConfig

def Request.Addresses (config : LedConfig) : Request → Prop
  | .gpioSetLevel gpioNum _ => gpioNum ∈ config.pins
  | .ledcSetDuty channel _ | .ledcUpdateDuty channel | .ledcSetFadeTimeAndStart channel _ _ => channel ∈ config.channels
  | .ledcSetFreq timerNum _ => timerNum ∈ config.timers
  | _ => False

/-- What an operation on the LED may still do. The table is out of reach, and so are the
members of the union that were not written. -/
def Op.Addresses (config : LedConfig) : (β : Type) → Op capacity β → Prop
  | _, .driver asked => asked.Addresses config
  | _, .ledcGetFreq timerNum => timerNum ∈ config.timers
  | _, _ => False

def Call.serves : Call → LedType → Bool
  | .setLedSingleState _ _, .single => true
  | .setLedSinglePwmDuty _ _, .singlePwm | .fadeLedSinglePwmDuty _ _ _, .singlePwm => true
  | .setLedRgbColor _ _, .rgb | .fadeLedRgbColor _ _ _, .rgb => true
  | .setLedPwmFreq _ _, .singlePwm | .setLedPwmFreq _ _, .rgb => true
  | _, _ => false

/-- The types of LED an operation goes on with, the one that reads the frequency included. -/
def Call.suits : Call → LedType → Bool
  | .getLedPwmFreq _, ledType => ledType = .singlePwm ∨ ledType = .rgb
  | call, ledType => call.serves ledType

/-- An operation that refuses the types it does not suit, and otherwise works on the LED it found. -/
def Obeys (suits : LedType → Bool) (ledHandle : UInt8) (refused : α) (program : Program (Op capacity) α) : Prop :=
  ∃ operate, program = withLed ledHandle refused operate ∧
    (∀ ledInfo, suits ledInfo.ledType = false → operate ledInfo = Pure.pure refused) ∧
    ∀ config, suits config.ledType = true → Only (Op.Addresses config) (operate config.info)

theorem Obeys.map {program : Program (Op capacity) α} {suits : LedType → Bool} {ledHandle : UInt8} {refused : α}
    (obeys : Obeys suits ledHandle refused program) (f : α → β) :
    Obeys suits ledHandle (f refused) (program >>= fun value => Pure.pure (f value)) := by
  obtain ⟨operate, rfl, refuses, addresses⟩ := obeys
  refine ⟨_, withLed_map _ _ _ _, ?_, ?_⟩
  · intro ledInfo unsuited
    rw [refuses ledInfo unsuited]
    rfl
  · intro config suited
    exact (addresses config suited).bind fun _ => trivial

theorem obeys_onType {operate : β → Program (Op capacity) CfgRet} {ledType : LedType} {member : Member β}
    {suits : LedType → Bool} (ledHandle : UInt8) (serves : ∀ other, suits other = true ↔ other = ledType)
    (addresses : ∀ config : LedConfig, config.ledType = ledType →
      ∃ part, config.member? member = some part ∧ Only (Op.Addresses config) (operate part)) :
    Obeys suits ledHandle .error (onType ledType member ledHandle operate) := by
  refine ⟨_, rfl, ?_, ?_⟩
  · intro ledInfo unsuited
    apply if_pos
    intro same
    rw [(serves _).mpr same] at unsuited
    cases unsuited
  · intro config suited
    have typed : config.ledType = ledType := (serves _).mp suited
    obtain ⟨part, written, only⟩ := addresses config typed
    have read : (config.info.read member : Program (Op capacity) β) = Pure.pure part := by
      simp only [LedInfo.read, LedConfig.info, written]
    have matched : ¬ config.info.ledType ≠ ledType := not_not.mpr typed
    rw [if_neg matched, read]
    exact only.bind fun _ => trivial

theorem obeys_setLedPwmFreq (freqHz : UInt32) (ledHandle : UInt8) :
    Obeys (Call.setLedPwmFreq freqHz ledHandle).suits ledHandle .error
      (setLedPwmFreq freqHz ledHandle : Program (Op capacity) Ret) := by
  refine ⟨_, rfl, ?_, ?_⟩
  · intro ledInfo unsuited
    obtain ⟨ledType, activeFlag, config⟩ := ledInfo
    cases ledType <;> cases unsuited <;> rfl
  · intro config suited
    cases config with
    | single => cases suited
    | singlePwm config => exact (only_setFreq (List.mem_singleton.mpr rfl)).bind fun _ => trivial
    | rgb config => exact (only_setFreq (List.mem_singleton.mpr rfl)).bind fun _ => trivial

theorem obeys_getLedPwmFreq (ledHandle : UInt8) :
    Obeys (Call.getLedPwmFreq ledHandle).suits ledHandle (.error, none)
      (getLedPwmFreq ledHandle : Program (Op capacity) (Ret × Option UInt32)) := by
  refine ⟨_, rfl, ?_, ?_⟩
  · intro ledInfo unsuited
    obtain ⟨ledType, activeFlag, config⟩ := ledInfo
    cases ledType <;> cases unsuited <;> rfl
  · intro config suited
    cases config with
    | single => cases suited
    | singlePwm config => exact ⟨List.mem_singleton.mpr rfl, fun _ => trivial⟩
    | rgb config => exact ⟨List.mem_singleton.mpr rfl, fun _ => trivial⟩

def Call.sole? : Call → Option LedType
  | .setLedSingleState _ _ => some .single
  | .setLedSinglePwmDuty _ _ | .fadeLedSinglePwmDuty _ _ _ => some .singlePwm
  | .setLedRgbColor _ _ | .fadeLedRgbColor _ _ _ => some .rgb
  | _ => none

theorem suits_sole {call : Call} {ledType : LedType} (sole : call.sole? = some ledType) (other : LedType) :
    call.suits other = true ↔ other = ledType := by
  cases call <;> cases sole <;> cases other <;> simp [Call.suits, Call.serves]

theorem rgb_channels (config : RgbConfig) :
    config.redChannel ∈ (LedConfig.rgb config).channels ∧ config.greenChannel ∈ (LedConfig.rgb config).channels ∧
      config.blueChannel ∈ (LedConfig.rgb config).channels := by
  simp [LedConfig.channels, RgbConfig.channels]

theorem obeys_body {call : Call} {ledHandle : UInt8} (operates : call.ledHandle? = some ledHandle) :
    Obeys call.suits ledHandle call.refusal (call.body : Program (Op capacity) Reply) := by
  cases call <;> cases operates
  case setLedSingleState state =>
    refine (obeys_onType ledHandle (suits_sole rfl) ?_).map Reply.status
    intro config typed
    cases config <;> cases typed
    exact ⟨_, rfl, only_setLedSingleState (fun _ => List.mem_singleton.mpr rfl) state⟩
  case setLedSinglePwmDuty dutyCycle =>
    refine (obeys_onType ledHandle (suits_sole rfl) ?_).map Reply.status
    intro config typed
    cases config <;> cases typed
    rename_i config
    have own : config.ledChannel ∈ (LedConfig.singlePwm config).channels := List.mem_singleton.mpr rfl
    exact ⟨_, rfl, only_writeDuty own own (Only.pure _)⟩
  case fadeLedSinglePwmDuty targetDuty fadeTimeMs =>
    refine (obeys_onType ledHandle (suits_sole rfl) ?_).map Reply.status
    intro config typed
    cases config <;> cases typed
    exact ⟨_, rfl, only_startFade (List.mem_singleton.mpr rfl) (Only.pure _)⟩
  case setLedRgbColor color =>
    refine (obeys_onType ledHandle (suits_sole rfl) ?_).map Reply.status
    intro config typed
    cases config <;> cases typed
    rename_i config
    obtain ⟨red, green, blue⟩ := rgb_channels config
    exact ⟨_, rfl, only_writeDuty red red (only_writeDuty green green (only_writeDuty blue blue (Only.pure _)))⟩
  case fadeLedRgbColor targetColor fadeTimeMs =>
    refine (obeys_onType ledHandle (suits_sole rfl) ?_).map Reply.status
    intro config typed
    cases config <;> cases typed
    rename_i config
    obtain ⟨red, green, blue⟩ := rgb_channels config
    exact ⟨_, rfl, only_startFade red (only_startFade green (only_startFade blue (Only.pure _)))⟩
  case setLedPwmFreq => exact (obeys_setLedPwmFreq _ _).map Reply.status
  case getLedPwmFreq => exact (obeys_getLedPwmFreq _).map fun result => Reply.frequency result.1 result.2

end LaserDriver.Led
