import LaserDriver.Led.Commands
import LaserDriver.Ledc.Frequency

/-! The frequencies of the LEDs over a run. LEDs may share a timer, so what counts is the
last success on any of them. -/

namespace LaserDriver.Led
open Effects Program Ledc

variable {capacity : Nat} {chance : Nat → Chance} {world after : World capacity}

/-- What the callers know of the timers: which one a handle has, and what it was last set to. -/
structure Tuning where
  timer : UInt8 → Option Nat
  freqHz : Nat → Option UInt32

namespace Tuning

def untuned : Tuning := ⟨fun _ => none, fun _ => none⟩

def tune (tuning : Tuning) (timerNum : Nat) (freqHz : UInt32) : Tuning :=
  { tuning with freqHz := Function.update tuning.freqHz timerNum (some freqHz) }

/-- A LED with a timer sets it to the default frequency, also when others use it already. -/
def add (tuning : Tuning) (ledHandle : UInt8) (ledTimer : Option Nat) : Tuning :=
  let owned := { tuning with timer := Function.update tuning.timer ledHandle ledTimer }
  ledTimer.elim owned fun timerNum => owned.tune timerNum defaultFreqHz

def note (tuning : Tuning) : Call × Reply → Tuning
  | (.addLedSingle _, .added .ok (some ledHandle)) => tuning.add ledHandle none
  | (.addLedSinglePwm config, .added .ok (some ledHandle)) => tuning.add ledHandle (some config.ledTimer)
  | (.addLedRgb config, .added .ok (some ledHandle)) => tuning.add ledHandle (some config.ledTimer)
  | (.setLedPwmFreq freqHz ledHandle, .status .ok) =>
    (tuning.timer ledHandle).elim tuning fun timerNum => tuning.tune timerNum freqHz
  | _ => tuning

def of (record : List (Call × Reply)) : Tuning := record.foldl note untuned

@[simp] theorem of_snoc (record : List (Call × Reply)) (entry : Call × Reply) :
    of (record ++ [entry]) = (of record).note entry := by
  simp [of]

@[simp] theorem tune_timer (tuning : Tuning) (timerNum : Nat) (freqHz : UInt32) :
    (tuning.tune timerNum freqHz).timer = tuning.timer := rfl

theorem tune_freqHz (tuning : Tuning) (timerNum other : Nat) (freqHz : UInt32) :
    (tuning.tune timerNum freqHz).freqHz other = if timerNum = other then some freqHz else tuning.freqHz other := by
  simp only [tune, Function.update_apply, eq_comm]

theorem add_freqHz (tuning : Tuning) (ledHandle : UInt8) (ledTimer : Option Nat) (timerNum : Nat) :
    (tuning.add ledHandle ledTimer).freqHz timerNum =
      if ledTimer = some timerNum then some defaultFreqHz else tuning.freqHz timerNum := by
  cases ledTimer with
  | none => rfl
  | some own =>
    simp only [Option.some.injEq]
    exact tune_freqHz _ own timerNum defaultFreqHz

@[simp] theorem add_timer (tuning : Tuning) (ledHandle : UInt8) (ledTimer : Option Nat) :
    (tuning.add ledHandle ledTimer).timer = Function.update tuning.timer ledHandle ledTimer := by
  cases ledTimer <;> rfl

end Tuning

def LedConfig.ledTimer? : LedConfig → Option Nat
  | .single _ => none
  | .singlePwm config => some config.ledTimer
  | .rgb config => some config.ledTimer

/-- Nothing that sets a timer. -/
def Issued.Plain : Issued → Prop
  | .call (.ledcTimerConfig _) accepted | .call (.ledcSetFreq _ _) accepted => accepted = false
  | _ => True

theorem setting_plain {issued log : List Issued} (plain : ∀ each ∈ issued, each.Plain) (timerNum : Nat) :
    setting timerNum (log ++ issued) = setting timerNum log := by
  rw [setting_append]
  generalize setting timerNum log = last
  induction issued with
  | nil => rfl
  | cons each rest ih =>
    have same : adopt timerNum last each = last := by
      have first := plain each List.mem_cons_self
      unfold adopt
      split
      · cases first
      · cases first
      · rfl
    rw [List.foldl_cons, same]
    exact ih fun other member => plain other (List.mem_cons_of_mem _ member)

def Request.Untimed : Request → Prop
  | .ledcTimerConfig _ | .ledcSetFreq _ _ => False
  | _ => True

theorem Request.Untimed.plain {asked : Request} (untimed : asked.Untimed) (accepted : Bool) :
    (Issued.call asked accepted).Plain := by
  cases asked <;> trivial

section Untimed
variable {requests : List Request} {clock : Nat} (untimed : ∀ asked ∈ requests, asked.Untimed)
include untimed

theorem plain_answered : ∀ each ∈ answered chance clock requests, each.Plain := by
  induction requests generalizing clock with
  | nil => nofun
  | cons asked rest ih =>
    rw [answered, List.forall_mem_cons]
    constructor
    · exact (untimed asked List.mem_cons_self).plain _
    · exact ih fun other member => untimed other (List.mem_cons_of_mem _ member)

theorem plain_attempted : ∀ each ∈ attempted chance clock requests, each.Plain := by
  induction requests generalizing clock with
  | nil => nofun
  | cons asked rest ih =>
    have first := untimed asked List.mem_cons_self
    rw [attempted]
    split
    · rw [List.forall_mem_cons]
      exact ⟨first.plain _, ih fun other member => untimed other (List.mem_cons_of_mem _ member)⟩
    · rw [List.forall_mem_singleton]
      exact first.plain _

end Untimed

section Invariant
variable {record : List (Call × Reply)} {call : Call} {reply : Reply} {ledHandle : UInt8} {config : LedConfig}

/-- What callers know agrees with the table and with what was issued. -/
structure Tuned (record : List (Call × Reply)) (world : World capacity) : Prop where
  unlocked : world.mutex = .free
  tagged : ∀ ledHandle info, world.led? ledHandle = some info → info = info.config.info
  timer : ∀ ledHandle info, world.led? ledHandle = some info → (Tuning.of record).timer ledHandle = info.config.ledTimer?
  tuned : ∀ ledHandle info timerNum, world.led? ledHandle = some info → info.config.ledTimer? = some timerNum →
    ∃ freqHz, (Tuning.of record).freqHz timerNum = some freqHz
  written : ∀ timerNum freqHz, (Tuning.of record).freqHz timerNum = some freqHz →
    setting timerNum world.log = some (freqHz, defaultDutyRes)

/-- Without a second initialisation, and with the timers of new LEDs configured. The driver
does not look at whether they were. -/
structure Timed (chance : Nat → Chance) (world : World capacity) (call : Call) : Prop where
  once : call ≠ .initDriver
  configured : ∀ config, .call (.ledcTimerConfig config) false ∉ issuedBy chance call world

theorem Timed.of_accepted (once : call ≠ .initDriver) (accepted : AllAccepted world (perform chance call world).2) :
    Timed chance world call := by
  refine ⟨once, ?_⟩
  intro config issued
  cases accepted _ issued

theorem Tuned.keep {issued : List Issued} (tuned : Tuned record world) (plain : ∀ each ∈ issued, each.Plain)
    (same : (Tuning.of record).note (call, reply) = Tuning.of record) :
    Tuned (record ++ [(call, reply)]) (world.extend issued) := by
  refine ⟨tuned.unlocked, tuned.tagged, ?_, ?_, ?_⟩
  · rw [Tuning.of_snoc, same]
    exact tuned.timer
  · rw [Tuning.of_snoc, same]
    exact tuned.tuned
  · rw [Tuning.of_snoc, same, World.extend_log]
    intro timerNum freqHz known
    rw [setting_plain plain]
    exact tuned.written timerNum freqHz known

theorem Tuned.same (tuned : Tuned record world) (same : (Tuning.of record).note (call, reply) = Tuning.of record) :
    Tuned (record ++ [(call, reply)]) world := by
  have kept : Tuned (record ++ [(call, reply)]) (world.extend []) := tuned.keep nofun same
  rwa [World.extend_nil] at kept

theorem untimed_asks (plain : ∀ freqHz ledHandle, call ≠ .setLedPwmFreq freqHz ledHandle) :
    ∀ asked ∈ call.asks config, asked.Untimed := by
  cases call
  case setLedPwmFreq freqHz ledHandle => exact absurd rfl (plain freqHz ledHandle)
  all_goals cases config <;> simp [Call.asks, writeRequests, Request.Untimed]

theorem setup_timed {ledType : LedType} (adds : call.addition? = some (ledType, config)) : ∃ rest,
    call.setupRequests =
      (config.ledTimer?.elim [] fun timerNum => [.ledcTimerConfig ⟨defaultDutyRes, timerNum, defaultFreqHz⟩]) ++ rest ∧
    ∀ asked ∈ rest, asked.Untimed := by
  cases call <;> cases adds
  all_goals refine ⟨_, rfl, ?_⟩
  all_goals simp [channelRequest, Request.Untimed]

theorem setting_setup {ledType : LedType} {clock : Nat} {log : List Issued}
    (adds : call.addition? = some (ledType, config))
    (configured : ∀ config, .call (.ledcTimerConfig config) false ∉ answered chance clock call.setupRequests)
    (timerNum : Nat) : setting timerNum (log ++ answered chance clock call.setupRequests) =
      if config.ledTimer? = some timerNum then some (defaultFreqHz, defaultDutyRes) else setting timerNum log := by
  obtain ⟨rest, requests, untimed⟩ := setup_timed adds
  rw [requests] at configured ⊢
  cases timed : config.ledTimer? with
  | none =>
    rw [if_neg nofun]
    exact setting_plain (plain_answered untimed) timerNum
  | some own =>
    rw [timed] at configured
    have accepted : (chance clock).accepts (.ledcTimerConfig ⟨defaultDutyRes, own, defaultFreqHz⟩) = true := by
      rw [← Bool.not_eq_false]
      intro refused
      apply configured ⟨defaultDutyRes, own, defaultFreqHz⟩
      simp [answered, refused]
    have split : log ++ answered chance clock ([.ledcTimerConfig ⟨defaultDutyRes, own, defaultFreqHz⟩] ++ rest) =
        (log ++ [.call (.ledcTimerConfig ⟨defaultDutyRes, own, defaultFreqHz⟩) true]) ++ answered chance (clock + 1) rest := by
      simp [answered, accepted]
    rw [Option.elim_some, split, setting_plain (plain_answered untimed), setting_append]
    simp only [List.foldl_cons, List.foldl_nil, adopt, Option.some.injEq]

theorem note_addition {ledType : LedType} (tuning : Tuning) (adds : call.addition? = some (ledType, config)) :
    tuning.note (call, .added .ok (some ledHandle)) = tuning.add ledHandle config.ledTimer? := by
  cases call <;> cases adds <;> rfl

theorem note_refused {ledType : LedType} (tuning : Tuning) (adds : call.addition? = some (ledType, config)) :
    tuning.note (call, .added .error none) = tuning := by
  cases call <;> cases adds <;> rfl

theorem note_status {ret : Ret} (tuning : Tuning) (plain : ∀ freqHz ledHandle, call ≠ .setLedPwmFreq freqHz ledHandle) :
    tuning.note (call, .status ret) = tuning := by
  cases call
  case setLedPwmFreq freqHz ledHandle => exact absurd rfl (plain freqHz ledHandle)
  all_goals rfl

theorem Tuned.add {ledType : LedType} {free : Nat} (small : capacity ≤ 255) (tuned : Tuned record world)
    (adds : call.addition? = some (ledType, config)) (room : free < capacity) (unlocked : after.mutex = .free)
    (stored : after.table = world.table.set free config.info)
    (set : ∀ timerNum, setting timerNum after.log =
      if config.ledTimer? = some timerNum then some (defaultFreqHz, defaultDutyRes) else setting timerNum world.log) :
    Tuned (record ++ [(call, .added .ok (some (UInt8.ofNat free)))]) after := by
  refine ⟨unlocked, ?_, ?_, ?_, ?_⟩
  · intro ledHandle info led
    rcases led?_of_set small room rfl stored led with ⟨-, rfl⟩ | ⟨-, old⟩
    · rfl
    · exact tuned.tagged ledHandle info old
  · intro ledHandle info led
    rw [Tuning.of_snoc, note_addition _ adds, Tuning.add_timer]
    rcases led?_of_set small room rfl stored led with ⟨rfl, rfl⟩ | ⟨other, old⟩
    · exact Function.update_self _ _ _
    · rw [Function.update_of_ne other]
      exact tuned.timer ledHandle info old
  · intro ledHandle info timerNum led own
    rw [Tuning.of_snoc, note_addition _ adds, Tuning.add_freqHz]
    by_cases same : config.ledTimer? = some timerNum
    · exact ⟨defaultFreqHz, if_pos same⟩
    · rw [if_neg same]
      rcases led?_of_set small room rfl stored led with ⟨-, rfl⟩ | ⟨-, old⟩
      · exact absurd own same
      · exact tuned.tuned ledHandle info timerNum old own
  · intro timerNum freqHz known
    rw [Tuning.of_snoc, note_addition _ adds, Tuning.add_freqHz] at known
    rw [set]
    by_cases same : config.ledTimer? = some timerNum
    · rw [if_pos same] at known ⊢
      rw [Option.some.inj known]
    · rw [if_neg same] at known ⊢
      exact tuned.written timerNum freqHz known

theorem tuned_addition {ledType : LedType} (small : capacity ≤ 255) (tuned : Tuned record world)
    (timed : Timed chance world call) (adds : call.addition? = some (ledType, config))
    (returned : perform chance call world = (some reply, after)) : Tuned (record ++ [(call, reply)]) after := by
  obtain ⟨free, first⟩ := exists_firstInactive world.table
  by_cases full : free = capacity
  · subst full
    have refused := @perform_addition_full free chance world call ledType config small adds tuned.unlocked first
    obtain ⟨rfl, rfl⟩ : .added .error none = reply ∧ world = after := by simpa using refused.symm.trans returned
    exact tuned.same (note_refused _ adds)
  · have room : free < capacity := Nat.lt_of_le_of_ne first.bounded full
    have added := @perform_addition_room capacity chance world call ledType config free small adds tuned.unlocked first room
    have configured := timed.configured
    rw [issuedBy, added] at configured
    simp only [World.extend_log, List.drop_left] at configured
    rw [addition_info adds] at added
    obtain ⟨answer, reached⟩ := Prod.mk.inj (added.symm.trans returned)
    obtain rfl := Option.some.inj answer
    subst reached
    exact tuned.add small adds room tuned.unlocked rfl (setting_setup adds configured)

theorem perform_setLedPwmFreq {timerNum : Nat} (freqHz : UInt32) (unlocked : world.mutex = .free)
    (led : world.led? ledHandle = some config.info) (own : config.ledTimer? = some timerNum) : ∃ done : Bool,
    perform chance (.setLedPwmFreq freqHz ledHandle) world =
      (some (.status (if done then .ok else .error)), world.extend [.call (.ledcSetFreq timerNum freqHz) done]) := by
  have serves : (Call.setLedPwmFreq freqHz ledHandle).serves config.ledType = true := by
    cases config <;> first | rfl | cases own
  have returned := @perform_served capacity chance world ledHandle config.info unlocked led _ rfl serves
  have seen : config.info.seen chance world = (config, world) := by
    cases config <;> rfl
  have asks : (Call.setLedPwmFreq freqHz ledHandle).asks config = [.ledcSetFreq timerNum freqHz] := by
    cases config <;> cases own <;> rfl
  rw [seen] at returned
  simp only [asks, Call.exchange, Call.checks, if_true] at returned
  refine ⟨(chance world.clock).accepts (.ledcSetFreq timerNum freqHz), ?_⟩
  rw [returned]
  cases done : (chance world.clock).accepts (.ledcSetFreq timerNum freqHz) <;> simp [accepted, attempted, done]

theorem perform_getLedPwmFreq (unlocked : world.mutex = .free) (led : world.led? ledHandle = some config.info) :
    perform chance (.getLedPwmFreq ledHandle) world =
      config.ledTimer?.elim (some (.frequency .error none), world) fun timerNum =>
        (some (.frequency .ok (some ((chance world.clock).freqHz timerNum))),
          world.record (.getFreq timerNum ((chance world.clock).freqHz timerNum))) := by
  rw [perform, Call.body, run_bind, getLedPwmFreq, run_withLed unlocked, led]
  cases config <;> rfl

theorem Tuned.setFreq {timerNum : Nat} {freqHz : UInt32} {done : Bool} (tuned : Tuned record world)
    (led : world.led? ledHandle = some config.info) (own : config.ledTimer? = some timerNum) :
    Tuned (record ++ [(.setLedPwmFreq freqHz ledHandle, .status (if done then .ok else .error))])
      (world.extend [.call (.ledcSetFreq timerNum freqHz) done]) := by
  cases done with
  | false =>
    refine tuned.keep ?_ rfl
    simp [Issued.Plain]
  | true =>
    have timer := tuned.timer ledHandle config.info led
    have noted : (Tuning.of record).note (.setLedPwmFreq freqHz ledHandle, .status .ok) =
        (Tuning.of record).tune timerNum freqHz := by
      rw [Tuning.note, timer]
      cases config <;> cases own <;> rfl
    refine ⟨tuned.unlocked, tuned.tagged, ?_, ?_, ?_⟩
    · rw [if_pos rfl, Tuning.of_snoc, noted]
      exact tuned.timer
    · intro other info otherNum led' own'
      rw [if_pos rfl, Tuning.of_snoc, noted, Tuning.tune_freqHz]
      by_cases same : timerNum = otherNum
      · exact ⟨freqHz, if_pos same⟩
      · rw [if_neg same]
        exact tuned.tuned other info otherNum led' own'
    · intro otherNum asked known
      rw [if_pos rfl, Tuning.of_snoc, noted, Tuning.tune_freqHz] at known
      rw [World.extend_log, setting_append, List.foldl_cons, List.foldl_nil, adopt]
      by_cases same : timerNum = otherNum
      · subst same
        obtain ⟨former, before⟩ := tuned.tuned ledHandle config.info timerNum led own
        rw [if_pos rfl] at known ⊢
        rw [tuned.written timerNum former before, ← Option.some.inj known]
        rfl
      · rw [if_neg same] at known ⊢
        exact tuned.written otherNum asked known

theorem tuned_operation (tuned : Tuned record world) (operates : call.ledHandle? = some ledHandle)
    (plain : ∀ freqHz ledHandle, call ≠ .setLedPwmFreq freqHz ledHandle) (reports : call.refusal = .status .error)
    (returned : perform chance call world = (some reply, after)) : Tuned (record ++ [(call, reply)]) after := by
  by_cases served : ∃ info, world.led? ledHandle = some info ∧ call.serves info.ledType = true
  · obtain ⟨info, led, serves⟩ := served
    obtain ⟨config, rfl⟩ : ∃ config : LedConfig, info = config.info := ⟨_, tuned.tagged ledHandle info led⟩
    have performed := @perform_served capacity chance world ledHandle config.info tuned.unlocked led call operates serves
    have seen : config.info.seen chance world = (config, world) := by
      cases config <;> rfl
    rw [seen] at performed
    obtain ⟨answer, reached⟩ := Prod.mk.inj (performed.symm.trans returned)
    obtain rfl := Option.some.inj answer
    subst reached
    refine tuned.keep ?_ (note_status _ plain)
    rw [Call.exchange]
    split
    · exact plain_attempted (untimed_asks plain)
    · exact plain_answered (untimed_asks plain)
  · have refused : perform chance call world = (some (.status .error), world) := by
      apply perform_unserved tuned.unlocked operates _ reports
      intro info led
      exact Bool.eq_false_iff.mpr fun serves => served ⟨info, led, serves⟩
    obtain ⟨rfl, rfl⟩ : .status .error = reply ∧ world = after := by simpa using refused.symm.trans returned
    exact tuned.same (note_status _ plain)

theorem tuned_setLedPwmFreq {freqHz : UInt32} (tuned : Tuned record world)
    (returned : perform chance (.setLedPwmFreq freqHz ledHandle) world = (some reply, after)) :
    Tuned (record ++ [(.setLedPwmFreq freqHz ledHandle, reply)]) after := by
  by_cases timed : ∃ config timerNum, world.led? ledHandle = some (LedConfig.info config) ∧ config.ledTimer? = some timerNum
  · obtain ⟨config, timerNum, led, own⟩ := timed
    obtain ⟨done, performed⟩ := @perform_setLedPwmFreq capacity chance world ledHandle config timerNum freqHz tuned.unlocked led own
    obtain ⟨answer, reached⟩ := Prod.mk.inj (performed.symm.trans returned)
    obtain rfl := Option.some.inj answer
    subst reached
    exact tuned.setFreq led own
  · have refused : perform chance (.setLedPwmFreq freqHz ledHandle) world = (some (.status .error), world) := by
      apply perform_unserved tuned.unlocked rfl _ rfl
      intro info led
      obtain ⟨config, rfl⟩ : ∃ config : LedConfig, info = config.info := ⟨_, tuned.tagged ledHandle info led⟩
      cases config with
      | single => rfl
      | singlePwm config => exact absurd ⟨_, _, led, rfl⟩ timed
      | rgb config => exact absurd ⟨_, _, led, rfl⟩ timed
    obtain ⟨rfl, rfl⟩ : .status .error = reply ∧ world = after := by simpa using refused.symm.trans returned
    exact tuned.same rfl

theorem tuned_getLedPwmFreq (tuned : Tuned record world)
    (returned : perform chance (.getLedPwmFreq ledHandle) world = (some reply, after)) :
    Tuned (record ++ [(.getLedPwmFreq ledHandle, reply)]) after := by
  cases led : world.led? ledHandle with
  | none =>
    have refused : perform chance (.getLedPwmFreq ledHandle) world = (some (.frequency .error none), world) := by
      apply perform_unsuited tuned.unlocked rfl
      intro info found
      cases led.symm.trans found
    obtain ⟨rfl, rfl⟩ : .frequency .error none = reply ∧ world = after := by simpa using refused.symm.trans returned
    exact tuned.same rfl
  | some info =>
    obtain ⟨config, rfl⟩ : ∃ config : LedConfig, info = config.info := ⟨_, tuned.tagged ledHandle info led⟩
    have performed := @perform_getLedPwmFreq capacity chance world ledHandle config tuned.unlocked led
    cases own : config.ledTimer? with
    | none =>
      rw [own, returned] at performed
      obtain rfl : after = world := congrArg Prod.snd performed
      exact tuned.same rfl
    | some timerNum =>
      rw [own, returned] at performed
      obtain rfl : after = world.extend [.getFreq timerNum ((chance world.clock).freqHz timerNum)] :=
        congrArg Prod.snd performed
      refine tuned.keep ?_ rfl
      simp [Issued.Plain]

theorem tuned_startFadeService (tuned : Tuned record world)
    (returned : perform chance .startFadeService world = (some reply, after)) :
    Tuned (record ++ [(.startFadeService, reply)]) after := by
  have attempts : Attempts (Cfg.startFadeService : Program (Op capacity) CfgRet) [.ledcFadeFuncInstall] :=
    attempts_request attempts_done
  have performed : perform chance .startFadeService world =
      (some (.status (if accepted chance world.clock [.ledcFadeFuncInstall] then CfgRet.ok else .error).status),
        world.extend (attempted chance world.clock [.ledcFadeFuncInstall])) := by
    rw [perform, Call.body, run_bind, startFadeService, run_bind, attempts chance world]
    rfl
  obtain ⟨answer, reached⟩ := Prod.mk.inj (performed.symm.trans returned)
  obtain rfl := Option.some.inj answer
  subst reached
  refine tuned.keep (plain_attempted ?_) rfl
  simp [Request.Untimed]

theorem tuned_of_recorded {start : World capacity} (small : capacity ≤ 255) (initialised : Initialised chance start)
    (recorded : Recorded (perform chance) (Timed chance) start record world) : Tuned record world := by
  apply recorded.invariant Tuned
  · have vacant := initialised.vacant small
    refine ⟨(initialised.cleared small).1, ?_, ?_, ?_, fun timerNum freqHz => nofun⟩
    · intro ledHandle info led
      cases (vacant ledHandle).symm.trans led
    · intro ledHandle info led
      cases (vacant ledHandle).symm.trans led
    · intro ledHandle info timerNum led
      cases (vacant ledHandle).symm.trans led
  · intro record before call reply after tuned returned timed
    rcases call.sorts with rfl | rfl | ⟨⟨ledType, config⟩, adds⟩ | ⟨ledHandle, operates⟩
    · exact absurd rfl timed.once
    · exact tuned_startFadeService tuned returned
    · exact tuned_addition small tuned timed adds returned
    · cases call
      case setLedPwmFreq => exact tuned_setLedPwmFreq tuned returned
      case getLedPwmFreq => exact tuned_getLedPwmFreq tuned returned
      all_goals exact tuned_operation tuned operates (fun freqHz ledHandle => nofun) rfl returned

/-- The frequency that `LDRV_GetLedPwmFreq` stores is the last one that was set with success on
any LED of the timer, or the default if a LED was added to the timer since. What is set is the
request modulo `2 ^ 24`, and what is read is off by less than one part in 512 and rounding,
and by nothing up to 6324 Hz. -/
theorem frequency_read_back {start : World capacity} {freqHz : UInt32} {timers : Timers} (small : capacity ≤ 255)
    (initialised : Initialised chance start) (recorded : Recorded (perform chance) (Timed chance) start record world)
    (returned : perform chance (.getLedPwmFreq ledHandle) world = (some (.frequency .ok (some freqHz)), after))
    (answered : Timers.unset.follow after.log = some timers) :
    ∃ timerNum asked, (Tuning.of record).timer ledHandle = some timerNum ∧
      (Tuning.of record).freqHz timerNum = some asked ∧
      ReadsBack (effective asked defaultDutyRes) defaultDutyRes freqHz.toNat := by
  have tuned := tuned_of_recorded small initialised recorded
  cases led : world.led? ledHandle with
  | none =>
    have refused : perform chance (.getLedPwmFreq ledHandle) world = (some (.frequency .error none), world) := by
      apply perform_unsuited tuned.unlocked rfl
      intro info found
      cases led.symm.trans found
    cases refused.symm.trans returned
  | some info =>
    obtain ⟨config, rfl⟩ : ∃ config : LedConfig, info = config.info := ⟨_, tuned.tagged ledHandle info led⟩
    have performed := @perform_getLedPwmFreq capacity chance world ledHandle config tuned.unlocked led
    have timer : (Tuning.of record).timer ledHandle = config.ledTimer? := tuned.timer ledHandle _ led
    cases own : config.ledTimer? with
    | none =>
      rw [own, returned] at performed
      cases performed
    | some timerNum =>
      rw [own, returned] at performed
      obtain ⟨answer, reached⟩ := Prod.mk.inj performed
      obtain rfl : freqHz = (chance world.clock).freqHz timerNum := by simpa using answer
      subst reached
      obtain ⟨asked, known⟩ := tuned.tuned ledHandle config.info timerNum led own
      refine ⟨timerNum, asked, timer.trans own, known, ?_⟩
      exact readsBack_of_follow (tuned.written timerNum asked known) answered

def fiveKilohertz : Nat → Chance := fun time => { quiet time with freqHz := fun _ => 5000 }

def bench : World maxNbLed := (perform fiveKilohertz .initDriver .boot).2

/-- Two LEDs on one timer, and a frequency set on the first. -/
def sharedRecord : List (Call × Reply) :=
  [(.addLedSinglePwm ⟨4, .high, 0, 0⟩, .added .ok (some 0)),
    (.addLedSinglePwm ⟨5, .high, 0, 1⟩, .added .ok (some 1)),
    (.setLedPwmFreq 5000 0, .status .ok)]

def sharedBench : World maxNbLed := trail (perform fiveKilohertz) (sharedRecord.map Prod.fst) bench

theorem sharedBench_run : Recorded (perform fiveKilohertz) (Timed fiveKilohertz) bench sharedRecord sharedBench := by
  have first : Recorded (perform fiveKilohertz) (Timed fiveKilohertz) bench
      [(.addLedSinglePwm ⟨4, .high, 0, 0⟩, .added .ok (some 0))]
      (trail (perform fiveKilohertz) [.addLedSinglePwm ⟨4, .high, 0, 0⟩] bench) :=
    .single _ _ rfl (.of_accepted nofun (by decide))
  have second := first.second (.addLedSinglePwm ⟨5, .high, 0, 1⟩) (.added .ok (some 1)) rfl (.of_accepted nofun (by decide))
  exact .snoc (.setLedPwmFreq 5000 0) (.status .ok) second rfl (.of_accepted nofun (by decide))

theorem frequency_read_back_shared : ∃ timerNum asked, (Tuning.of sharedRecord).timer 1 = some timerNum ∧
    (Tuning.of sharedRecord).freqHz timerNum = some asked ∧
    ReadsBack (effective asked defaultDutyRes) defaultDutyRes (5000 : UInt32).toNat := by
  have answers : (Timers.unset.follow (perform fiveKilohertz (.getLedPwmFreq 1) sharedBench).2.log).isSome = true := by decide
  obtain ⟨timers, answered⟩ := Option.isSome_iff_exists.mp answers
  exact frequency_read_back (by decide) ⟨.boot, rfl⟩ sharedBench_run rfl answered

end Invariant
end LaserDriver.Led
