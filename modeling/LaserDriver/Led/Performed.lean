import LaserDriver.Led.Footprint
import LaserDriver.Led.Requests

/-! A call performed from beginning to end: what it returns, what it leaves in the table,
and what it issues to the peripherals. -/

namespace LaserDriver.Led
open Effects Program

variable {capacity : Nat} {chance : Nat → Chance} {world : World capacity}

/-- The active LED of a handle. -/
def World.led? (world : World capacity) (ledHandle : UInt8) : Option LedInfo :=
  if inside : ledHandle.toNat < capacity then
    if world.table[ledHandle.toNat].activeFlag = false then none else some world.table[ledHandle.toNat]
  else none

theorem World.led?_eq_some {ledHandle : UInt8} {info : LedInfo} : world.led? ledHandle = some info ↔
    ∃ inside : ledHandle.toNat < capacity, world.table[ledHandle.toNat] = info ∧ info.activeFlag = true := by
  unfold led?
  constructor
  · intro found
    split at found
    · rename_i inside
      split at found
      · cases found
      · rename_i active
        cases found
        exact ⟨inside, rfl, Bool.not_eq_false _ ▸ active⟩
    · cases found
  · rintro ⟨inside, rfl, active⟩
    rw [dif_pos inside, if_neg (by simp [active])]

/-- What a member of the union reads as, and the world after reading it. -/
def LedInfo.readout (ledInfo : LedInfo) (member : Member β) (chance : Nat → Chance) (world : World capacity) :
    β × World capacity :=
  match ledInfo.config.member? member with
  | some config => (config, world)
  | none => ((chance world.clock).bytes _ member, world.record .reinterpreted)

theorem run_read (ledInfo : LedInfo) (member : Member β) : (ledInfo.read member).run (serve chance) world =
    (some (ledInfo.readout member chance world).1, (ledInfo.readout member chance world).2) := by
  unfold LedInfo.read LedInfo.readout
  cases ledInfo.config.member? member <;> rfl

section Locked
variable (unlocked : world.mutex = .free)
include unlocked

theorem turn_withLed (ledHandle : UInt8) (refused : α) (operate : LedInfo → Program (Op capacity) α) :
    (withLed ledHandle refused operate).turn Op.role (serve chance) world =
      (some ((world.led? ledHandle).elim (Pure.pure refused) operate), world) := by
  by_cases inside : ledHandle.toNat < capacity
  · have free : ({ world with mutex := .free } : World capacity) = world := by rw [← unlocked]
    rw [withLed, dif_pos inside, turn_take rfl (serve_take unlocked), toGive_bind (Only.send rfl) (run_send _ _),
      toGive_give rfl (serve_give rfl), free, World.led?, dif_pos inside]
    by_cases active : world.table[ledHandle.toNat].activeFlag = false
    · simp [active]
    · simp [active]
  · rw [withLed, dif_neg inside, World.led?, dif_neg inside]
    rfl

theorem run_withLed (ledHandle : UInt8) (refused : α) (operate : LedInfo → Program (Op capacity) α) :
    (withLed ledHandle refused operate).run (serve chance) world =
      match world.led? ledHandle with
      | some info => (operate info).run (serve chance) world
      | none => (some refused, world) := by
  rw [run_turn (turn_withLed unlocked ledHandle refused operate)]
  cases world.led? ledHandle <;> rfl

end Locked

theorem perform_status {program : Program (Op capacity) Ret} {ret : Ret} {after : World capacity} {call : Call}
    (ran : program.run (serve chance) world = (some ret, after))
    (body : call.body = program >>= fun ret => Pure.pure (Reply.status ret)) :
    perform chance call world = (some (.status ret), after) := by
  rw [perform, body, run_bind, ran]
  rfl

/-- What an operation asks of the peripherals for the configuration of its LED. -/
def Call.asks : Call → LedConfig → List Request
  | .setLedSingleState state _, .single config => [.gpioSetLevel config.gpioNum (levelFor state config)]
  | .setLedSinglePwmDuty dutyCycle _, .singlePwm config =>
    writeRequests config.ledChannel (inverse config.activeLevel (clip dutyCycle))
  | .fadeLedSinglePwmDuty targetDuty fadeTimeMs _, .singlePwm config =>
    [.ledcSetFadeTimeAndStart config.ledChannel (inverse config.activeLevel (clip targetDuty)) fadeTimeMs]
  | .setLedRgbColor color _, .rgb config =>
    writeRequests config.redChannel (inverse config.activeLevel (clip color.redDuty)) ++
      (writeRequests config.greenChannel (inverse config.activeLevel (clip color.greenDuty)) ++
        writeRequests config.blueChannel (inverse config.activeLevel (clip color.blueDuty)))
  | .fadeLedRgbColor targetColor fadeTimeMs _, .rgb config =>
    [.ledcSetFadeTimeAndStart config.redChannel (inverse config.activeLevel targetColor.redDuty) fadeTimeMs,
      .ledcSetFadeTimeAndStart config.greenChannel (inverse config.activeLevel targetColor.greenDuty) fadeTimeMs,
      .ledcSetFadeTimeAndStart config.blueChannel (inverse config.activeLevel targetColor.blueDuty) fadeTimeMs]
  | .setLedPwmFreq freqHz _, .singlePwm config => [.ledcSetFreq config.ledTimer freqHz]
  | .setLedPwmFreq freqHz _, .rgb config => [.ledcSetFreq config.ledTimer freqHz]
  | _, _ => []

theorem attempts_setLedSinglePwmDuty (dutyCycle : UInt32) (config : SinglePwmConfig) :
    Attempts (Cfg.setLedSinglePwmDuty (inverse config.activeLevel (clip dutyCycle)) config : Program (Op capacity) CfgRet)
      ((Call.setLedSinglePwmDuty dutyCycle 0).asks (.singlePwm config)) :=
  attempts_writeDuty _ _ attempts_done

theorem attempts_fadeLedSinglePwmDuty (targetDuty fadeTimeMs : UInt32) (config : SinglePwmConfig) :
    Attempts (Cfg.fadeLedSinglePwmDuty (inverse config.activeLevel (clip targetDuty)) fadeTimeMs config :
        Program (Op capacity) CfgRet)
      ((Call.fadeLedSinglePwmDuty targetDuty fadeTimeMs 0).asks (.singlePwm config)) :=
  attempts_startFade _ _ _ attempts_done

theorem attempts_setLedRgbColor (color : Color) (config : RgbConfig) :
    Attempts (Cfg.setLedRgbColor (inverse config.activeLevel (clip color.redDuty))
        (inverse config.activeLevel (clip color.greenDuty)) (inverse config.activeLevel (clip color.blueDuty)) config :
        Program (Op capacity) CfgRet)
      ((Call.setLedRgbColor color 0).asks (.rgb config)) :=
  attempts_writeDuty _ _ (attempts_writeDuty _ _ (attempts_writeDuty _ _ attempts_done))

theorem attempts_fadeLedRgbColor (targetColor : Color) (fadeTimeMs : UInt32) (config : RgbConfig) :
    Attempts (Cfg.fadeLedRgbColor (inverse config.activeLevel targetColor.redDuty)
        (inverse config.activeLevel targetColor.greenDuty) (inverse config.activeLevel targetColor.blueDuty) fadeTimeMs
        config : Program (Op capacity) CfgRet)
      ((Call.fadeLedRgbColor targetColor fadeTimeMs 0).asks (.rgb config)) :=
  attempts_startFade _ _ _ (attempts_startFade _ _ _ (attempts_startFade _ _ _ attempts_done))

def Call.checks : Call → Bool
  | .setLedSingleState _ _ | .addLedSingle _ | .addLedSinglePwm _ | .addLedRgb _ => false
  | _ => true

def Call.exchange (call : Call) (chance : Nat → Chance) (clock : Nat) (requests : List Request) : Ret × List Issued :=
  if call.checks then (if accepted chance clock requests then .ok else .error, attempted chance clock requests)
  else (.ok, answered chance clock requests)

/-- The configuration an operation sees: the member of the union that goes with the tag. -/
def LedInfo.seen (ledInfo : LedInfo) (chance : Nat → Chance) (world : World capacity) : LedConfig × World capacity :=
  match ledInfo.ledType with
  | .single => (ledInfo.readout .single chance world).map .single id
  | .singlePwm => (ledInfo.readout .singlePwm chance world).map .singlePwm id
  | .rgb => (ledInfo.readout .rgb chance world).map .rgb id
  | .invalid => (ledInfo.config, world)

theorem CfgRet.status_if (done : Bool) : (if done then CfgRet.ok else .error).status = if done then .ok else .error := by
  cases done <;> rfl

section Served
variable {β : Type} {operate : β → Program (Op capacity) CfgRet} {requests : β → List Request}

theorem run_read_attempts (info : LedInfo) (member : Member β)
    (attempts : ∀ config, Attempts (operate config) (requests config)) :
    (info.read member >>= fun config => operate config >>= fun ret => Pure.pure ret.status).run (serve chance) world =
      (some (if accepted chance (info.readout member chance world).2.clock (requests (info.readout member chance world).1)
          then .ok else .error),
        (info.readout member chance world).2.extend
          (attempted chance (info.readout member chance world).2.clock (requests (info.readout member chance world).1))) := by
  rw [run_bind, run_read, proceed_some, run_bind, attempts _ chance, proceed_some, CfgRet.status_if]
  rfl

theorem run_read_ignores (info : LedInfo) (member : Member β)
    (ignores : ∀ config, Ignores (operate config) (requests config)) :
    (info.read member >>= fun config => operate config >>= fun ret => Pure.pure ret.status).run (serve chance) world =
      (some .ok, (info.readout member chance world).2.extend
        (answered chance (info.readout member chance world).2.clock (requests (info.readout member chance world).1))) := by
  rw [run_bind, run_read, proceed_some, run_bind, ignores _ chance, proceed_some]
  rfl

variable {ledHandle : UInt8} {info : LedInfo}
variable (unlocked : world.mutex = .free) (led : world.led? ledHandle = some info)
include unlocked led

theorem run_onType (member : Member β) : (onType info.ledType member ledHandle operate).run (serve chance) world =
    (info.read member >>= fun config => operate config >>= fun ret => Pure.pure ret.status).run (serve chance) world := by
  rw [onType, run_withLed unlocked, led]
  simp only [ne_eq, not_true_eq_false, if_false]

theorem run_setLedPwmFreq_singlePwm (freqHz : UInt32) (typed : info.ledType = .singlePwm) :
    (setLedPwmFreq freqHz ledHandle).run (serve chance) world =
      (info.read .singlePwm >>= fun config => Cfg.setLedSinglePwmFreq freqHz config >>= fun ret =>
        Pure.pure ret.status).run (serve chance) world := by
  rw [setLedPwmFreq, run_withLed unlocked, led]
  simp only [typed, if_true]

theorem run_setLedPwmFreq_rgb (freqHz : UInt32) (typed : info.ledType = .rgb) :
    (setLedPwmFreq freqHz ledHandle).run (serve chance) world =
      (info.read .rgb >>= fun config => Cfg.setLedRgbFreq freqHz config >>= fun ret =>
        Pure.pure ret.status).run (serve chance) world := by
  rw [setLedPwmFreq, run_withLed unlocked, led]
  simp only [typed, reduceCtorEq, if_false, if_true]

theorem perform_served {call : Call} (operates : call.ledHandle? = some ledHandle)
    (serves : call.serves info.ledType = true) :
    perform chance call world =
      (some (.status (call.exchange chance (info.seen chance world).2.clock (call.asks (info.seen chance world).1)).1),
        (info.seen chance world).2.extend
          (call.exchange chance (info.seen chance world).2.clock (call.asks (info.seen chance world).1)).2) := by
  obtain ⟨ledType, activeFlag, config⟩ := info
  cases call <;> cases operates <;> cases ledType <;> cases serves
  case setLedSingleState.refl.single.refl =>
    exact perform_status ((run_onType unlocked led .single).trans
      (run_read_ignores _ _ (ignores_setLedSingleState _))) rfl
  case setLedSinglePwmDuty.refl.singlePwm.refl =>
    exact perform_status ((run_onType unlocked led .singlePwm).trans
      (run_read_attempts _ _ (attempts_setLedSinglePwmDuty _))) rfl
  case fadeLedSinglePwmDuty.refl.singlePwm.refl =>
    exact perform_status ((run_onType unlocked led .singlePwm).trans
      (run_read_attempts _ _ (attempts_fadeLedSinglePwmDuty _ _))) rfl
  case setLedRgbColor.refl.rgb.refl =>
    exact perform_status ((run_onType unlocked led .rgb).trans
      (run_read_attempts _ _ (attempts_setLedRgbColor _))) rfl
  case fadeLedRgbColor.refl.rgb.refl =>
    exact perform_status ((run_onType unlocked led .rgb).trans
      (run_read_attempts _ _ (attempts_fadeLedRgbColor _ _))) rfl
  case setLedPwmFreq.refl.singlePwm.refl =>
    exact perform_status ((run_setLedPwmFreq_singlePwm unlocked led _ rfl).trans
      (run_read_attempts _ _ fun config : SinglePwmConfig => attempts_setFreq config.ledTimer _)) rfl
  case setLedPwmFreq.refl.rgb.refl =>
    exact perform_status ((run_setLedPwmFreq_rgb unlocked led _ rfl).trans
      (run_read_attempts _ _ fun config : RgbConfig => attempts_setFreq config.ledTimer _)) rfl

end Served

section Unsuited
variable {call : Call} {ledHandle : UInt8} (unlocked : world.mutex = .free) (operates : call.ledHandle? = some ledHandle)
include unlocked operates

theorem perform_unsuited (unsuited : ∀ info, world.led? ledHandle = some info → call.suits info.ledType = false) :
    perform chance call world = (some call.refusal, world) := by
  obtain ⟨operate, shape, refuses, -⟩ :
      Obeys call.suits ledHandle call.refusal (call.body : Program (Op capacity) Reply) := obeys_body operates
  rw [perform, shape, run_withLed unlocked]
  cases led : world.led? ledHandle with
  | none => rfl
  | some info => simp only [refuses info (unsuited info led), run_pure]

theorem perform_unserved (unserved : ∀ info, world.led? ledHandle = some info → call.serves info.ledType = false)
    (reports : call.refusal = .status .error) : perform chance call world = (some (.status .error), world) := by
  rw [← reports]
  apply perform_unsuited unlocked operates
  intro info led
  have refused := unserved info led
  cases call with
  | getLedPwmFreq => cases reports
  | _ => exact refused

end Unsuited

section Add
variable {call : Call} {ledType : LedType} {config : LedConfig} {free : Nat} (small : capacity ≤ 255)
variable (adds : call.addition? = some (ledType, config)) (unlocked : world.mutex = .free)
include small adds unlocked

theorem perform_addition_full (first : FirstInactive world.table capacity) :
    perform chance call world = (some (.added .error none), world) := by
  have scanned : isTableFull.run (serve chance) { world with mutex := .held } =
      (some true, { world with mutex := .held }) := by
    simpa using @run_isTableFull capacity chance { world with mutex := .held } capacity small first
  rw [perform, addition_body adds, run_bind, addLed, run_bind, run_send, serve_take unlocked, proceed_some, run_bind,
    scanned, proceed_some, if_pos rfl, leave, run_bind, run_send, serve_give rfl, ← unlocked]
  rfl

theorem perform_addition_room (first : FirstInactive world.table free) (room : free < capacity) :
    perform chance call world = (some (.added .ok (some (UInt8.ofNat free))),
      { world.extend (answered chance world.clock call.setupRequests) with
        table := world.table.set free ⟨ledType, true, config⟩ }) := by
  have scanned : isTableFull.run (serve chance) { world with mutex := .held } =
      (some false, { world with mutex := .held }) := by
    simpa [Nat.ne_of_lt room] using @run_isTableFull capacity chance { world with mutex := .held } free small first
  have found : getFirstAvailableIndex.run (serve chance) { world with mutex := .held } =
      (some (UInt8.ofNat free), { world with mutex := .held }) :=
    @run_getFirstAvailableIndex capacity chance { world with mutex := .held } free small first room
  rw [perform, addition_body adds, run_bind, addLed, run_bind, run_send, serve_take unlocked, proceed_some, run_bind,
    scanned, proceed_some, if_neg Bool.false_ne_true, run_bind, found, proceed_some, if_neg (available_index small room), run_bind,
    ignores_setup call chance, proceed_some, if_neg (by simp), run_bind, run_storeInfo small room, proceed_some, leave,
    run_bind, run_send, serve_give rfl, World.extend, World.extend, ← unlocked]
  rfl

end Add

end LaserDriver.Led
