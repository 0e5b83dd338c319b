import LaserDriver.Led.Driver

/-! The shape of the entry points. An operation on a handle copies one slot under
the mutex and then only talks to the peripherals; an addition does all of its work
under the mutex. -/

namespace LaserDriver.Led
open Effects Program

variable {capacity : Nat}

/-- Requests that reach neither the mutex nor the table. -/
def Op.Detached : (β : Type) → Op capacity β → Prop
  | _, .driver _ | _, .ledcGetFreq _ | _, .reinterpret _ => True
  | _, _ => False

abbrev Detached (program : Program (Op capacity) α) : Prop := Only Op.Detached program

theorem detached_read (ledInfo : LedInfo) (member : Member β) :
    Detached (ledInfo.read member : Program (Op capacity) β) := by
  unfold LedInfo.read
  split
  · trivial
  · exact Only.send trivial

theorem detached_startFadeService : Detached (startFadeService : Program (Op capacity) Ret) := by
  refine ⟨trivial, ?_⟩
  intro installed
  cases installed <;> trivial

theorem detached_setuptLedSingle (config : SingleConfig) :
    Detached (Cfg.setuptLedSingle config : Program (Op capacity) CfgRet) :=
  ⟨trivial, fun _ => ⟨trivial, fun _ => trivial⟩⟩

theorem detached_setupChannel (channel ledTimer : Nat) (gpioNum : UInt8) (activeLevel : ActiveLevel) :
    Detached (Cfg.setupChannel channel ledTimer gpioNum activeLevel : Program (Op capacity) Unit) :=
  ⟨trivial, fun _ => trivial⟩

theorem detached_setupLedSinglePwm (config : SinglePwmConfig) :
    Detached (Cfg.setupLedSinglePwm config : Program (Op capacity) CfgRet) := by
  refine ⟨trivial, fun _ => ?_⟩
  apply (detached_setupChannel _ _ _ _).bind
  intro _
  trivial

theorem detached_setupLedRgb (config : RgbConfig) :
    Detached (Cfg.setupLedRgb config : Program (Op capacity) CfgRet) := by
  refine ⟨trivial, fun _ => ?_⟩
  apply (detached_setupChannel _ _ _ _).bind
  intro _
  apply (detached_setupChannel _ _ _ _).bind
  intro _
  apply (detached_setupChannel _ _ _ _).bind
  intro _
  trivial

section Only
variable {allowed : (β : Type) → Op capacity β → Prop} {rest : Program (Op capacity) CfgRet}

theorem only_setLedSingleState {config : SingleConfig} (set : ∀ level, allowed _ (.driver (.gpioSetLevel config.gpioNum level)))
    (state : UInt8) : Only allowed (Cfg.setLedSingleState state config) := by
  unfold Cfg.setLedSingleState
  split
  · exact ⟨set _, fun _ => trivial⟩
  · exact ⟨set _, fun _ => trivial⟩

theorem only_writeDuty {channel : Nat} {duty : UInt32} (set : allowed _ (.driver (.ledcSetDuty channel duty)))
    (update : allowed _ (.driver (.ledcUpdateDuty channel))) (only : Only allowed rest) :
    Only allowed (Cfg.writeDuty channel duty rest) := by
  refine ⟨set, ?_⟩
  intro accepted
  cases accepted with
  | false => trivial
  | true =>
    refine ⟨update, ?_⟩
    intro updated
    cases updated with
    | false => trivial
    | true => exact only

theorem only_startFade {channel : Nat} {targetDuty fadeTimeMs : UInt32}
    (start : allowed _ (.driver (.ledcSetFadeTimeAndStart channel targetDuty fadeTimeMs))) (only : Only allowed rest) :
    Only allowed (Cfg.startFade channel targetDuty fadeTimeMs rest) := by
  refine ⟨start, ?_⟩
  intro started
  cases started with
  | false => trivial
  | true => exact only

theorem only_setFreq {ledTimer : Nat} {freqHz : UInt32} (set : allowed _ (.driver (.ledcSetFreq ledTimer freqHz))) :
    Only allowed (Cfg.setFreq ledTimer freqHz) := by
  refine ⟨set, ?_⟩
  intro accepted
  cases accepted <;> trivial

end Only

def Call.ledHandle? : Call → Option UInt8
  | .initDriver | .startFadeService | .addLedSingle _ | .addLedSinglePwm _ | .addLedRgb _ => none
  | .setLedSingleState _ handle | .setLedSinglePwmDuty _ handle | .fadeLedSinglePwmDuty _ _ handle
  | .setLedRgbColor _ handle | .fadeLedRgbColor _ _ handle | .setLedPwmFreq _ handle | .getLedPwmFreq handle => some handle

def Call.refusal : Call → Reply
  | .getLedPwmFreq _ => .frequency .error none
  | _ => .status .error

theorem withLed_map (ledHandle : UInt8) (refused : α) (operate : LedInfo → Program (Op capacity) α) (f : α → β) :
    (withLed ledHandle refused operate >>= fun value => Pure.pure (f value)) =
      withLed ledHandle (f refused) (fun ledInfo => operate ledInfo >>= fun value => Pure.pure (f value)) := by
  unfold withLed
  split
  · simp only [send_bind, request_bind]
    congr 1
    funext _
    congr 1
    funext ledInfo
    congr 1
    funext _
    split <;> rfl
  · rfl

/-- An operation that goes on with requests to the peripherals only. -/
def Opens (ledHandle : UInt8) (refused : α) (program : Program (Op capacity) α) : Prop :=
  ∃ operate, program = withLed ledHandle refused operate ∧ ∀ ledInfo, Detached (operate ledInfo)

theorem Opens.map {program : Program (Op capacity) α} {ledHandle : UInt8} {refused : α}
    (opens : Opens ledHandle refused program) (f : α → β) :
    Opens ledHandle (f refused) (program >>= fun value => Pure.pure (f value)) := by
  obtain ⟨operate, rfl, detached⟩ := opens
  refine ⟨_, withLed_map _ _ _ _, ?_⟩
  intro ledInfo
  exact (detached ledInfo).bind fun _ => trivial

theorem opens_onType {operate : β → Program (Op capacity) CfgRet} (ledType : LedType) (member : Member β)
    (ledHandle : UInt8) (detached : ∀ config, Detached (operate config)) :
    Opens ledHandle .error (onType ledType member ledHandle operate) := by
  refine ⟨_, rfl, ?_⟩
  intro ledInfo
  split
  · trivial
  · apply (detached_read ledInfo member).bind
    intro config
    exact (detached config).bind fun _ => trivial

theorem opens_setLedPwmFreq (freqHz : UInt32) (ledHandle : UInt8) :
    Opens ledHandle .error (setLedPwmFreq freqHz ledHandle : Program (Op capacity) Ret) := by
  refine ⟨_, rfl, ?_⟩
  intro ledInfo
  split
  · apply (detached_read ledInfo .singlePwm).bind
    intro config
    exact (only_setFreq trivial).bind fun _ => trivial
  · split
    · apply (detached_read ledInfo .rgb).bind
      intro config
      exact (only_setFreq trivial).bind fun _ => trivial
    · trivial

theorem opens_getLedPwmFreq (ledHandle : UInt8) :
    Opens ledHandle (.error, none) (getLedPwmFreq ledHandle : Program (Op capacity) (Ret × Option UInt32)) := by
  refine ⟨_, rfl, ?_⟩
  intro ledInfo
  dsimp only
  split
  · apply (detached_read ledInfo .singlePwm).bind
    intro config
    exact ⟨trivial, fun _ => trivial⟩
  · split
    · apply (detached_read ledInfo .rgb).bind
      intro config
      exact ⟨trivial, fun _ => trivial⟩
    · trivial

def Call.addition? : Call → Option (LedType × LedConfig)
  | .addLedSingle config => some (.single, .single config)
  | .addLedSinglePwm config => some (.singlePwm, .singlePwm config)
  | .addLedRgb config => some (.rgb, .rgb config)
  | _ => none

theorem Call.sorts (call : Call) :
    call = .initDriver ∨ call = .startFadeService ∨ (∃ info, call.addition? = some info) ∨
      ∃ ledHandle, call.ledHandle? = some ledHandle := by
  cases call <;> simp [Call.addition?, Call.ledHandle?]

def Call.setup : Call → Program (Op capacity) CfgRet
  | .addLedSingle config => Cfg.setuptLedSingle config
  | .addLedSinglePwm config => Cfg.setupLedSinglePwm config
  | .addLedRgb config => Cfg.setupLedRgb config
  | _ => return .ok

theorem detached_setup (call : Call) : Detached (call.setup : Program (Op capacity) CfgRet) := by
  cases call with
  | addLedSingle config => exact detached_setuptLedSingle config
  | addLedSinglePwm config => exact detached_setupLedSinglePwm config
  | addLedRgb config => exact detached_setupLedRgb config
  | _ => trivial

theorem addition_body {call : Call} {ledType : LedType} {config : LedConfig}
    (adds : call.addition? = some (ledType, config)) : (call.body : Program (Op capacity) Reply) =
      (addLed ledType config call.setup >>= fun result => Pure.pure (.added result.1 result.2)) := by
  cases call <;> cases adds <;> rfl

theorem opens_body {call : Call} {ledHandle : UInt8} (operates : call.ledHandle? = some ledHandle) :
    Opens ledHandle call.refusal (call.body : Program (Op capacity) Reply) := by
  cases call <;> cases operates
  case setLedSingleState state => exact (opens_onType _ _ _ fun _ => only_setLedSingleState (fun _ => trivial) state).map Reply.status
  case setLedSinglePwmDuty =>
    refine (opens_onType _ _ _ ?_).map Reply.status
    intro config
    exact only_writeDuty trivial trivial (Only.pure _)
  case fadeLedSinglePwmDuty =>
    refine (opens_onType _ _ _ ?_).map Reply.status
    intro config
    exact only_startFade trivial (Only.pure _)
  case setLedRgbColor =>
    refine (opens_onType _ _ _ ?_).map Reply.status
    intro config
    exact only_writeDuty trivial trivial (only_writeDuty trivial trivial (only_writeDuty trivial trivial (Only.pure _)))
  case fadeLedRgbColor =>
    refine (opens_onType _ _ _ ?_).map Reply.status
    intro config
    exact only_startFade trivial (only_startFade trivial (only_startFade trivial (Only.pure _)))
  case setLedPwmFreq => exact (opens_setLedPwmFreq _ _).map Reply.status
  case getLedPwmFreq => exact (opens_getLedPwmFreq _).map fun result => Reply.frequency result.1 result.2

end LaserDriver.Led
