import LaserDriver.Adc.Continuous

/-! What a call of the interface can do, said once. `Outcome` lists every way a
call can end, and later arguments go over its cases instead of the programs. -/

namespace LaserDriver.Adc
open Effects Program

variable {chance : Nat → Chance} {world : World}

/-- The calls whose first step is to take the mutex. -/
def Call.locks : Call → Bool
  | .initController | .startTimeCriticalSampling .. => false
  | _ => true

def ContinuousConfig.Valid (config : ContinuousConfig) : Prop :=
  config.channelMask ≠ 0 ∧ config.nbSample ≠ 0 ∧ config.callback ≠ none ∧ config.sampleFreqHz ≠ 0 ∧
    config.sampleFreqHz ≤ ctrlMaxSamplingFreqHz

instance (config : ContinuousConfig) : Decidable config.Valid := inferInstanceAs (Decidable (_ ∧ _))

/-- Whether a call gets past its checks while the ADC is owned for `active`. -/
def Call.Admitted (active : Nat) : Call → Prop
  | .initController | .isControllerAvailable => True
  | .setupTimeCriticalSampling ctrlChannel _ =>
    (ctrlChannel ≠ ctrlChannelInvalid ∧ active = 0) ∨ active = shiftUL ctrlChannel
  | .startTimeCriticalSampling ctrlChannel _ _ => ctrlChannel ≠ ctrlChannelInvalid ∧ active = shiftULL ctrlChannel
  | .startSampling (.oneShot (some config)) =>
    config.ctrlChannel < ctrlChannelInvalid ∧ (active = 0 ∨ active = shiftULL config.ctrlChannel)
  | .startSampling (.continuous (some config)) => config.Valid ∧ (active = 0 ∨ active = config.channelMask.toNat)
  | .startSampling _ => False
  | .applyCalibration ctrlChannel _ pResult => ctrlChannel < ctrlChannelInvalid ∧ pResult ≠ none
  | .releaseAdcController channelMask => channelMask ≠ 0 ∧ active = channelMask.toNat
  | .releaseAdcFromCriticalSampling ctrlChannel => ctrlChannel < ctrlChannelInvalid ∧ active = shiftULL ctrlChannel

def Call.refusal : Call → Reply
  | .applyCalibration _ _ pResult => .calibrated .fail pResult
  | .isControllerAvailable => .available false
  | _ => .status .fail

theorem shiftULL_low (bits : Nat) : (0 ||| shiftULL bits) % 2 ^ 32 = shiftUL bits := by
  rw [Nat.zero_or, shiftULL, shiftUL, Nat.mod_mod_of_dvd _ (by decide)]

theorem shiftULL_of_lt {bits : Nat} (small : bits < 64) : shiftULL bits = 2 ^ bits :=
  Nat.mod_eq_of_lt (Nat.pow_lt_pow_right (by decide) small)

theorem shiftUL_of_lt {bits : Nat} (small : bits < 32) : shiftUL bits = 2 ^ bits :=
  Nat.mod_eq_of_lt (Nat.pow_lt_pow_right (by decide) small)

theorem run_locked (free : world.mutex = .free) (rest : Program Op α) :
    (do .send Op.takeMutex; rest : Program Op α).run (serve chance) world = rest.run (serve chance) world.take := by
  rw [run_bind, run_take free, proceed_some]

theorem run_refuse (free : world.mutex = .free) : (leave .fail).run (serve chance) world.take = (some .fail, world) := by
  rw [run_leave rfl, World.take_give free]

/-! Each entry point is its checks followed by work that holds the mutex and, for
the requests, the ADC. -/

theorem run_setupTimeCriticalSampling (free : world.mutex = .free) (ctrlChannel ctrlAtten : Nat) :
    (setupTimeCriticalSampling ctrlChannel ctrlAtten).run (serve chance) world =
      if (ctrlChannel ≠ ctrlChannelInvalid ∧ world.statics.activeCtrlChannels = 0) ∨
          world.statics.activeCtrlChannels = shiftUL ctrlChannel then
        (setupUnit ctrlChannel ctrlAtten).run (serve chance) (world.take.own (shiftUL ctrlChannel))
      else (some .fail, world) := by
  rw [setupTimeCriticalSampling, run_locked free, run_bind, run_send, serve_load, proceed_some]
  by_cases unowned : ctrlChannel ≠ ctrlChannelInvalid ∧ world.statics.activeCtrlChannels = 0
  · rw [if_pos (by exact unowned), if_pos (.inl unowned), run_bind, run_send, serve_store, proceed_some]
    simp only [World.take, World.own, unowned.2, shiftULL_low]
  · rw [if_neg (by exact unowned)]
    by_cases owner : world.statics.activeCtrlChannels = shiftUL ctrlChannel
    · rw [if_neg (not_not.mpr (by exact owner)), if_pos (.inr owner), ← owner]
      rfl
    · rw [if_pos (by exact owner), if_neg (not_or.mpr ⟨unowned, owner⟩), run_refuse free]

theorem run_startOneShot (free : world.mutex = .free) (config : OneShotConfig) :
    (startOneShot config).run (serve chance) world.take =
      if config.ctrlChannel < ctrlChannelInvalid ∧ (world.statics.activeCtrlChannels = 0 ∨
          world.statics.activeCtrlChannels = shiftULL config.ctrlChannel) then
        (sampleOneShot config).run (serve chance) (world.take.own (shiftULL config.ctrlChannel))
      else (some .fail, world) := by
  rw [startOneShot]
  by_cases valid : config.ctrlChannel < ctrlChannelInvalid
  swap
  · rw [if_pos (by omega), if_neg (fun admitted => valid admitted.1), run_refuse free]
  rw [if_neg (by omega), run_bind, run_send, serve_load, proceed_some]
  by_cases unowned : world.statics.activeCtrlChannels = 0
  · have small : shiftUL config.ctrlChannel = shiftULL config.ctrlChannel := by
      have below : config.ctrlChannel < 32 := valid.trans (by decide)
      rw [shiftUL_of_lt below, shiftULL_of_lt (below.trans (by decide))]
    rw [if_pos (by exact unowned), if_pos ⟨valid, .inl unowned⟩, run_bind, run_send, serve_store, proceed_some]
    simp only [World.take, World.own, unowned, shiftULL_low, small]
  · rw [if_neg (by exact unowned)]
    by_cases owner : world.statics.activeCtrlChannels = shiftULL config.ctrlChannel
    · rw [if_neg (not_not.mpr (by exact owner)), if_pos ⟨valid, .inr owner⟩, ← owner]
      rfl
    · rw [if_pos (by exact owner), if_neg (fun admitted => admitted.2.elim unowned owner), run_refuse free]

theorem startContinuous_valid {config : ContinuousConfig} {callback : Callback} (valid : config.Valid)
    (given : config.callback = some callback) :
    startContinuous config = ownContinuous config callback := by
  obtain ⟨masked, sampled, -, positive, bounded⟩ := valid
  have sampling : ¬ config.nbSample ≤ 0 := fun none => sampled (UInt32.le_zero_iff.mp none)
  have frequency : ¬ (config.sampleFreqHz ≤ 0 ∨ config.sampleFreqHz > ctrlMaxSamplingFreqHz) :=
    not_or.mpr ⟨fun none => positive (UInt32.le_zero_iff.mp none), UInt32.not_lt.mpr bounded⟩
  rw [startContinuous, if_neg masked, if_neg (nbChannelMask_ne_zero masked), if_neg sampling, given]
  exact if_neg frequency

theorem startContinuous_invalid {config : ContinuousConfig} (invalid : ¬ config.Valid) :
    startContinuous config = leave .fail := by
  rw [startContinuous]
  split
  · rfl
  next masked =>
    rw [if_neg (nbChannelMask_ne_zero masked)]
    split
    · rfl
    next sampling =>
      split
      · rfl
      next callback given =>
        refine if_pos ?_
        by_contra frequency
        rw [not_or] at frequency
        refine invalid ⟨masked, ?_, ?_, ?_, ?_⟩
        · rintro none
          exact sampling (UInt32.le_zero_iff.mpr none)
        · simp [given]
        · rintro none
          exact frequency.1 (UInt32.le_zero_iff.mpr none)
        · exact UInt32.not_lt.mp frequency.2

theorem run_ownContinuous (free : world.mutex = .free) (config : ContinuousConfig) (callback : Callback) :
    (ownContinuous config callback).run (serve chance) world.take =
      if world.statics.activeCtrlChannels = 0 ∨ world.statics.activeCtrlChannels = config.channelMask.toNat then
        (openContinuous config callback).run (serve chance) (world.take.own config.channelMask.toNat)
      else (some .fail, world) := by
  rw [ownContinuous, run_bind, run_send, serve_load, proceed_some]
  by_cases unowned : world.statics.activeCtrlChannels = 0
  · rw [if_pos (by exact unowned), if_pos (.inl unowned), run_bind, run_send, serve_store, proceed_some]
    rfl
  · rw [if_neg (by exact unowned)]
    by_cases owner : world.statics.activeCtrlChannels = config.channelMask.toNat
    · rw [if_neg (not_not.mpr (by exact owner)), if_pos (.inr owner), ← owner]
      rfl
    · rw [if_pos (by exact owner), if_neg (not_or.mpr ⟨unowned, owner⟩), run_refuse free]

theorem run_setupUnit_claims (clean : (chance world.clock).fault = none) (unclaimed : world.driver.unit = none)
    (held : world.mutex = .held) (ctrlChannel ctrlAtten : Nat) :
    (setupUnit ctrlChannel ctrlAtten).run (serve chance) world =
      (some .success, (world.claimUnit.tick ⟨some world.driver.nextHandle, true⟩).give) := by
  have configured := @run_configChannel_claimed chance world.claimUnit world.driver.nextHandle rfl rfl
    ctrlChannel ctrlAtten
  rw [setupUnit, run_bind, run_newUnit_claims clean unclaimed, proceed_some, run_bind, configured, proceed_some,
    run_leave (by exact held)]

/-- Without a unit of its own the setup still configures through the handle it finds. -/
theorem run_setupUnit_refused (refused : (chance world.clock).fault ≠ none ∨ world.driver.unit ≠ none)
    (held : world.mutex = .held) (ctrlChannel ctrlAtten : Nat) :
    (setupUnit ctrlChannel ctrlAtten).run (serve chance) world =
      (some .success, ((world.tick ⟨none, false⟩).tick world.oneshotIssued).give) := by
  obtain ⟨accepted, configured⟩ := run_configChannel chance (world.tick ⟨none, false⟩) ctrlChannel ctrlAtten
  rw [setupUnit, run_bind, run_newUnit_fails refused, proceed_some, run_bind, configured, proceed_some,
    run_leave (by exact held)]
  rfl

theorem run_startTimeCriticalSampling {ctrlChannel : Nat} (valid : ctrlChannel ≠ ctrlChannelInvalid)
    (owner : world.statics.activeCtrlChannels = shiftULL ctrlChannel) (nbSamples : UInt32) (pResult : Option Nat) :
    ∃ result, (startTimeCriticalSampling ctrlChannel nbSamples pResult).run (serve chance) world =
      if nbSamples = 0 then (none, world)
      else (some .success, { world.ticks nbSamples.toNat world.oneshotIssued with
        results := world.results ++ pResult.toList.map (·, result) }) := by
  obtain ⟨sum, summed⟩ := run_sumReadings chance world ctrlChannel nbSamples.toNat 0
  refine ⟨(sum / nbSamples).toUInt16, ?_⟩
  have passed : ¬ (ctrlChannel = ctrlChannelInvalid ∨ world.statics.activeCtrlChannels ≠ shiftULL ctrlChannel) :=
    not_or.mpr ⟨valid, not_not.mpr owner⟩
  rw [startTimeCriticalSampling, run_bind, run_send, serve_load, proceed_some, if_neg passed, run_bind, summed,
    proceed_some, run_bind]
  by_cases divisor : nbSamples = 0
  · subst divisor
    rw [run_divide_zero, proceed_none, if_pos rfl]
    simp [World.ticks]
  · rw [run_divide divisor, proceed_some, if_neg divisor]
    cases pResult <;> simp [World.ticks]

theorem run_releaseAdcController (free : world.mutex = .free) (channelMask : UInt8) :
    (releaseAdcController channelMask).run (serve chance) world =
      if channelMask ≠ 0 ∧ world.statics.activeCtrlChannels = channelMask.toNat then
        (do let _ ← onContinuous .continuousStop
            let _ ← onContinuous .continuousDeinit
            leave .success).run (serve chance) (world.take.own 0).unregister
      else (some .fail, world) := by
  rw [releaseAdcController, run_locked free]
  by_cases empty : channelMask = 0
  · rw [if_pos empty, if_neg (fun admitted => admitted.1 empty), run_refuse free]
  · rw [if_neg empty, run_bind, run_send, serve_load, proceed_some]
    by_cases owner : world.statics.activeCtrlChannels = channelMask.toNat
    · rw [if_neg (not_not.mpr (by exact owner)), if_pos ⟨empty, owner⟩, run_bind, run_modify, proceed_some]
      rfl
    · rw [if_pos (by exact owner), if_neg (fun admitted => owner admitted.2), run_refuse free]

theorem run_close {ctx : ContinuousCtx} {handle : Handle} (held : world.mutex = .held)
    (stored : world.statics.continuousHandle = some handle) (found : world.driver.context handle = some ctx) :
    (do let _ ← onContinuous .continuousStop
        let _ ← onContinuous .continuousDeinit
        leave .success : Program Op Ret).run (serve chance) world =
      (some .success, ({ world.ticks 2 ⟨some handle, true⟩ with driver := world.driver.close ctx } : World).give) := by
  obtain ⟨answer, stopped, halts, present, frees⟩ :=
    Driver.serve_stop_deinit (chance world.clock) (chance (world.clock + 1)) found
  have first : world.continuousIssued = ⟨some handle, true⟩ := by simp [World.continuousIssued, stored, found]
  have stops := @run_onContinuous chance world .continuousStop stopped answer .stop (by rw [stored]; exact halts)
  have deinits := @run_onContinuous chance { world.tick ⟨some handle, true⟩ with driver := stopped } .continuousDeinit
    (world.driver.close ctx) (.ok ()) .deinit (by simpa only [World.tick, stored] using frees)
  have second : World.continuousIssued { world.tick ⟨some handle, true⟩ with driver := stopped } = ⟨some handle, true⟩ := by
    simp [World.continuousIssued, World.tick, stored, present]
  rw [first] at stops
  rw [second] at deinits
  rw [run_bind, stops, proceed_some, run_bind, deinits, proceed_some, run_leave (by exact held)]
  simp [World.ticks, World.tick, World.give, List.replicate]

theorem run_close_dead (held : world.mutex = .held)
    (dead : world.statics.continuousHandle.bind world.driver.context = none) :
    (do let _ ← onContinuous .continuousStop
        let _ ← onContinuous .continuousDeinit
        leave .success : Program Op Ret).run (serve chance) world =
      (some .success, (world.ticks 2 world.continuousIssued).give) := by
  obtain ⟨stopped, stops⟩ := run_onContinuous_dead chance world .stop dead
  obtain ⟨freed, deinits⟩ := run_onContinuous_dead chance (world.tick world.continuousIssued) .deinit dead
  rw [run_bind, stops, proceed_some, run_bind, deinits, proceed_some, run_leave (by exact held)]
  simp [World.ticks, World.tick, World.give, List.replicate, World.continuousIssued]

theorem run_releaseAdcFromCriticalSampling (free : world.mutex = .free) (ctrlChannel : Nat) :
    (releaseAdcFromCriticalSampling ctrlChannel).run (serve chance) world =
      if ctrlChannel < ctrlChannelInvalid ∧ world.statics.activeCtrlChannels = shiftULL ctrlChannel then
        (do let _ ← delUnit
            modify fun statics => { statics with activeCtrlChannels := 0 }
            leave .success).run (serve chance) world.take
      else (some .fail, world) := by
  rw [releaseAdcFromCriticalSampling, run_locked free]
  by_cases valid : ctrlChannel < ctrlChannelInvalid
  · rw [if_neg (by omega), run_bind, run_send, serve_load, proceed_some]
    by_cases owner : world.statics.activeCtrlChannels = shiftULL ctrlChannel
    · rw [if_neg (not_not.mpr (by exact owner)), if_pos ⟨valid, owner⟩]
    · rw [if_pos (by exact owner), if_neg (fun admitted => owner admitted.2), run_refuse free]
  · rw [if_pos (by omega), if_neg (fun admitted => valid admitted.1), run_refuse free]

/-- The call was given NULL or a handle that the driver held at that moment. -/
def Issued.Sound (issued : Issued) : Prop := issued.target = none ∨ issued.live = true

instance (issued : Issued) : Decidable issued.Sound := inferInstanceAs (Decidable (_ ∨ _))

theorem run_convertEach (chance : Nat → Chance) (world : World) (calibHandle : Option Handle) (buffer : List UInt16) :
    ∃ converted, (convertEach calibHandle buffer).run (serve chance) world =
      (some converted, world.ticks buffer.length ⟨calibHandle, calibHandle.any world.driver.schemes.contains⟩) := by
  induction buffer generalizing world with
  | nil => exact ⟨[], by simp [convertEach, World.ticks]⟩
  | cons raw rest ih =>
    have served : ∃ answer, serve chance (.driver (.caliRawToVoltage calibHandle raw)) world =
        (some answer, world.tick ⟨calibHandle, calibHandle.any world.driver.schemes.contains⟩) := by
      cases calibHandle <;>
        exact ⟨_, by simp [serve, Driver.serve, World.tick, Request.issued, Request.target, Driver.live]; rfl⟩
    obtain ⟨answer, answered⟩ := served
    obtain ⟨converted, runs⟩ := ih (world.tick ⟨calibHandle, calibHandle.any world.driver.schemes.contains⟩)
    refine ⟨.ofInt (conversionResult answer) :: converted, ?_⟩
    rw [convertEach, run_bind, run_send, answered, proceed_some, run_bind, runs, proceed_some, List.length_cons,
      ← World.tick_ticks]
    rfl

theorem serve_createScheme (chance : Nat → Chance) (world : World) (config : CaliConfig) :
    (∃ error, serve chance (.driver (.caliCreateSchemeCurveFitting config)) world =
      (some (.error error), world.tick ⟨none, false⟩)) ∨
    serve chance (.driver (.caliCreateSchemeCurveFitting config)) world =
      (some (.ok world.driver.nextHandle), { world.tick ⟨none, false⟩ with
        driver := { world.driver with
          nextHandle := world.driver.nextHandle + 1
          schemes := world.driver.nextHandle :: world.driver.schemes } }) := by
  by_cases accepted : config.atten < socAdcAttenNum ∧ (config.bitwidth = adcBitwidth12 ∨ config.bitwidth = 0)
  · cases fault : (chance world.clock).fault with
    | some error =>
      refine .inl ⟨error, ?_⟩
      simp [serve, Driver.serve, Driver.createScheme, accepted, fault, World.tick, Request.issued, Request.target]
    | none =>
      refine .inr ?_
      simp [serve, Driver.serve, Driver.createScheme, accepted, fault, World.tick, Request.issued, Request.target]
  · refine .inl ⟨.invalidArg, ?_⟩
    simp [serve, Driver.serve, Driver.createScheme, accepted, World.tick, Request.issued, Request.target]

/-- Calibration works on a scheme of its own and leaves only its trace. -/
theorem run_applyCalibration (free : world.mutex = .free) {ctrlChannel : Nat}
    (valid : ctrlChannel < ctrlChannelInvalid) (ctrlAtten : Nat) (buffer : List UInt16) :
    ∃ converted issued next, Issued.Sound issued ∧
      (applyCalibration ctrlChannel ctrlAtten (some buffer)).run (serve chance) world =
        (some (.success, some converted),
          { (world.tick ⟨none, false⟩).ticks (buffer.length + 1) issued with
            driver := { world.driver with nextHandle := next } }) := by
  rw [applyCalibration, run_locked free, if_neg (by omega)]
  obtain ⟨error, created⟩ | created := serve_createScheme chance world.take ⟨ctrlChannel, ctrlAtten, adcBitwidth12⟩
  · obtain ⟨converted, converts⟩ := run_convertEach chance (world.take.tick ⟨none, false⟩) none buffer
    refine ⟨converted, ⟨none, false⟩, world.driver.nextHandle, .inl rfl, ?_⟩
    simp only [run_bind, run_send, created, proceed_some, converts, Except.toOption]
    simp [serve, Driver.serve, leave, World.ticks, World.tick, World.take, free, Request.issued, Request.target,
      List.replicate_succ', Nat.add_assoc]
  · obtain ⟨converted, converts⟩ := run_convertEach chance { world.take.tick ⟨none, false⟩ with
      driver := { world.take.driver with
        nextHandle := world.take.driver.nextHandle + 1
        schemes := world.take.driver.nextHandle :: world.take.driver.schemes } }
      (some world.take.driver.nextHandle) buffer
    refine ⟨converted, ⟨some world.driver.nextHandle, true⟩, world.driver.nextHandle + 1, .inr rfl, ?_⟩
    simp only [run_bind, run_send, created, proceed_some, converts, Except.toOption]
    simp [serve, Driver.serve, leave, World.ticks, World.tick, World.take, free, Request.issued, Request.target,
      Driver.live, List.replicate_succ', Nat.add_assoc]

/-- Every way a call can end: its answer, if it gives one, and the world it leaves.
The worlds are given with the mutex free again unless the caller stays inside. -/
inductive Outcome (chance : Nat → Chance) (world : World) : Call → Option Reply → World → Prop where
  | initialised (clean : (chance world.clock).fault = none) :
      Outcome chance world .initController (some (.status .success)) (world.reset .free)
  | uninitialised (fault : (chance world.clock).fault ≠ none) :
      Outcome chance world .initController (some (.status .fail)) (world.reset .absent)
  | waits {call : Call} (locking : call.locks = true) (taken : world.mutex ≠ .free) : Outcome chance world call none world
  | refused {call : Call} (ready : call.locks = true → world.mutex = .free)
      (rejected : ¬ call.Admitted world.statics.activeCtrlChannels) : Outcome chance world call (some call.refusal) world
  | available (free : world.mutex = .free) :
      Outcome chance world .isControllerAvailable (some (.available (world.statics.activeCtrlChannels = 0))) world
  | setUp (ctrlChannel ctrlAtten : Nat) (free : world.mutex = .free)
      (admitted : (Call.setupTimeCriticalSampling ctrlChannel ctrlAtten).Admitted world.statics.activeCtrlChannels)
      (clean : (chance world.clock).fault = none) (unclaimed : world.driver.unit = none) :
      Outcome chance world (.setupTimeCriticalSampling ctrlChannel ctrlAtten) (some (.status .success))
        ((world.own (shiftUL ctrlChannel)).claimUnit.tick ⟨some world.driver.nextHandle, true⟩).give
  | setUpAnyway (ctrlChannel ctrlAtten : Nat) (free : world.mutex = .free)
      (admitted : (Call.setupTimeCriticalSampling ctrlChannel ctrlAtten).Admitted world.statics.activeCtrlChannels)
      (refused : (chance world.clock).fault ≠ none ∨ world.driver.unit ≠ none) :
      Outcome chance world (.setupTimeCriticalSampling ctrlChannel ctrlAtten) (some (.status .success))
        (((world.own (shiftUL ctrlChannel)).tick ⟨none, false⟩).tick world.oneshotIssued).give
  | undivided (ctrlChannel : Nat) (pResult : Option Nat) :
      Outcome chance world (.startTimeCriticalSampling ctrlChannel 0 pResult) none world
  | timeCritical (ctrlChannel : Nat) (nbSamples : UInt32) (pResult : Option Nat) (result : UInt16)
      (admitted : (Call.startTimeCriticalSampling ctrlChannel nbSamples pResult).Admitted
        world.statics.activeCtrlChannels) (sampled : nbSamples ≠ 0) :
      Outcome chance world (.startTimeCriticalSampling ctrlChannel nbSamples pResult) (some (.status .success))
        { world.ticks nbSamples.toNat world.oneshotIssued with
          results := world.results ++ pResult.toList.map (·, result) }
  | oneShot (config : OneShotConfig) {ret : Option Ret} {after : World} (free : world.mutex = .free)
      (admitted : (Call.startSampling (.oneShot (some config))).Admitted world.statics.activeCtrlChannels)
      (outcome : OneShotOutcome chance config (world.take.own (shiftULL config.ctrlChannel)) ret after) :
      Outcome chance world (.startSampling (.oneShot (some config))) (ret.map .status) after
  | continuous (config : ContinuousConfig) (callback : Callback) {ret : Option Ret} {after : World}
      (free : world.mutex = .free) (given : config.callback = some callback)
      (admitted : (Call.startSampling (.continuous (some config))).Admitted world.statics.activeCtrlChannels)
      (outcome : ContinuousOutcome chance config callback (world.take.own config.channelMask.toNat) ret after) :
      Outcome chance world (.startSampling (.continuous (some config))) (ret.map .status) after
  | calibrated (ctrlChannel ctrlAtten : Nat) (buffer converted : List UInt16) (issued : Issued) (next : Handle)
      (sound : issued.Sound) :
      Outcome chance world (.applyCalibration ctrlChannel ctrlAtten (some buffer))
        (some (.calibrated .success (some converted)))
        { (world.tick ⟨none, false⟩).ticks (buffer.length + 1) issued with
          driver := { world.driver with nextHandle := next } }
  | closed (channelMask : UInt8) (handle : Handle) (ctx : ContinuousCtx) (free : world.mutex = .free)
      (admitted : (Call.releaseAdcController channelMask).Admitted world.statics.activeCtrlChannels)
      (stored : world.statics.continuousHandle = some handle) (found : world.driver.context handle = some ctx) :
      Outcome chance world (.releaseAdcController channelMask) (some (.status .success))
        ({ (world.own 0).unregister.ticks 2 ⟨some handle, true⟩ with driver := world.driver.close ctx } : World).give
  | unopened (channelMask : UInt8) (free : world.mutex = .free)
      (admitted : (Call.releaseAdcController channelMask).Admitted world.statics.activeCtrlChannels)
      (dead : world.statics.continuousHandle.bind world.driver.context = none) :
      Outcome chance world (.releaseAdcController channelMask) (some (.status .success))
        ((world.own 0).unregister.ticks 2 world.continuousIssued).give
  | unitFreed (ctrlChannel : Nat) (handle : Handle) (free : world.mutex = .free)
      (admitted : (Call.releaseAdcFromCriticalSampling ctrlChannel).Admitted world.statics.activeCtrlChannels)
      (stored : world.statics.oneshotHandle = some handle) (claimed : world.driver.unit = some handle) :
      Outcome chance world (.releaseAdcFromCriticalSampling ctrlChannel) (some (.status .success))
        (((world.tick ⟨some handle, true⟩).freeUnit).own 0).give
  | unitKept (ctrlChannel : Nat) (free : world.mutex = .free)
      (admitted : (Call.releaseAdcFromCriticalSampling ctrlChannel).Admitted world.statics.activeCtrlChannels)
      (foreign : ∀ handle, world.statics.oneshotHandle = some handle → world.driver.unit ≠ some handle) :
      Outcome chance world (.releaseAdcFromCriticalSampling ctrlChannel) (some (.status .success))
        ((world.tick world.oneshotIssued).own 0).give

theorem perform_waits {call : Call} (locking : call.locks = true) (taken : world.mutex ≠ .free) :
    perform chance call world = (none, world) := by
  have waits {α : Type} (rest : Program Op α) :
      (do .send Op.takeMutex; rest : Program Op α).run (serve chance) world = (none, world) := by
    rw [run_bind, run_take_waits taken, proceed_none]
  cases call with
  | initController => cases locking
  | startTimeCriticalSampling => cases locking
  | setupTimeCriticalSampling => rw [perform, Call.body, run_bind, setupTimeCriticalSampling, waits, proceed_none]
  | startSampling => rw [perform, Call.body, run_bind, startSampling.eq_def, waits, proceed_none]
  | applyCalibration => rw [perform, Call.body, run_bind, applyCalibration.eq_def, waits, proceed_none]
  | releaseAdcController => rw [perform, Call.body, run_bind, releaseAdcController, waits, proceed_none]
  | releaseAdcFromCriticalSampling =>
    rw [perform, Call.body, run_bind, releaseAdcFromCriticalSampling, waits, proceed_none]
  | isControllerAvailable => rw [perform, Call.body, run_bind, isControllerAvailable, waits, proceed_none]

theorem perform_refused {call : Call} (ready : call.locks = true → world.mutex = .free)
    (rejected : ¬ call.Admitted world.statics.activeCtrlChannels) :
    perform chance call world = (some call.refusal, world) := by
  cases call with
  | initController => exact absurd trivial rejected
  | isControllerAvailable => exact absurd trivial rejected
  | setupTimeCriticalSampling ctrlChannel ctrlAtten =>
    rw [perform, Call.body, run_bind, run_setupTimeCriticalSampling (ready rfl), if_neg (by exact rejected)]
    rfl
  | startTimeCriticalSampling ctrlChannel nbSamples pResult =>
    have stopped : ctrlChannel = ctrlChannelInvalid ∨ world.statics.activeCtrlChannels ≠ shiftULL ctrlChannel := by
      by_contra passed
      rw [not_or, not_not] at passed
      exact rejected passed
    rw [perform, Call.body, run_bind, startTimeCriticalSampling, run_bind, run_send, serve_load, proceed_some,
      if_pos stopped]
    rfl
  | startSampling sampling =>
    have refuse := @run_refuse chance world (ready rfl)
    rw [perform, Call.body, run_bind, startSampling.eq_def, run_locked (ready rfl)]
    match sampling with
    | .invalid | .oneShot none | .continuous none => rw [refuse]; rfl
    | .oneShot (some config) =>
      simp only []
      rw [run_startOneShot (ready rfl), if_neg (by exact rejected)]
      rfl
    | .continuous (some config) =>
      simp only []
      by_cases valid : config.Valid
      · obtain ⟨callback, given⟩ := Option.ne_none_iff_exists'.mp valid.2.2.1
        rw [startContinuous_valid valid given, run_ownContinuous (ready rfl),
          if_neg (fun owner => rejected ⟨valid, owner⟩)]
        rfl
      · rw [startContinuous_invalid valid, refuse]
        rfl
  | applyCalibration ctrlChannel ctrlAtten pResult =>
    have refuse := @run_refuse chance world (ready rfl)
    rw [perform, Call.body, run_bind, applyCalibration.eq_def, run_locked (ready rfl)]
    by_cases valid : ctrlChannel < ctrlChannelInvalid
    · cases pResult with
      | none => rw [if_neg (by omega), run_bind, refuse]; rfl
      | some buffer => exact absurd ⟨valid, nofun⟩ rejected
    · rw [if_pos (by omega), run_bind, refuse]
      rfl
  | releaseAdcController channelMask =>
    rw [perform, Call.body, run_bind, run_releaseAdcController (ready rfl), if_neg (by exact rejected)]
    rfl
  | releaseAdcFromCriticalSampling ctrlChannel =>
    rw [perform, Call.body, run_bind, run_releaseAdcFromCriticalSampling (ready rfl), if_neg (by exact rejected)]
    rfl

private theorem proceed_status (answer : Option Ret × World) :
    proceed answer (fun ret after => (Pure.pure (Reply.status ret) : Program Op Reply).run (serve chance) after) =
      (answer.1.map .status, answer.2) := by
  obtain ⟨ret | ret, after⟩ := answer <;> rfl

/-- What the call does in this world is one of the listed outcomes. -/
abbrev Listed (chance : Nat → Chance) (call : Call) (world : World) : Prop :=
  Outcome chance world call (perform chance call world).1 (perform chance call world).2

theorem listed_initController : Listed chance .initController world := by
  cases fault : (chance world.clock).fault with
  | none =>
    have ends : perform chance .initController world = (some (.status .success), world.reset .free) := by
      simp [perform, Call.body, run_bind, initController, serve, fault, World.reset]
    rw [Listed, ends]
    exact .initialised fault
  | some error =>
    have ends : perform chance .initController world = (some (.status .fail), world.reset .absent) := by
      simp [perform, Call.body, run_bind, initController, serve, fault, World.reset]
    rw [Listed, ends]
    exact .uninitialised (by simp [fault])

theorem listed_isControllerAvailable (free : world.mutex = .free) : Listed chance .isControllerAvailable world := by
  have ends : perform chance .isControllerAvailable world =
      (some (.available (world.statics.activeCtrlChannels = 0)), world) := by
    rw [perform, Call.body, run_bind, isControllerAvailable, run_locked free]
    simp [serve, World.take, ← free]
  rw [Listed, ends]
  exact .available free

theorem listed_setupTimeCriticalSampling {ctrlChannel ctrlAtten : Nat} (free : world.mutex = .free)
    (admitted : (Call.setupTimeCriticalSampling ctrlChannel ctrlAtten).Admitted world.statics.activeCtrlChannels) :
    Listed chance (.setupTimeCriticalSampling ctrlChannel ctrlAtten) world := by
  rw [Listed, perform, Call.body, run_bind, run_setupTimeCriticalSampling free, if_pos (by exact admitted)]
  by_cases refused : (chance world.clock).fault ≠ none ∨ world.driver.unit ≠ none
  · rw [run_setupUnit_refused (by exact refused) rfl]
    exact .setUpAnyway ctrlChannel ctrlAtten free admitted refused
  · obtain ⟨clean, unclaimed⟩ := not_or.mp refused
    rw [not_not] at clean unclaimed
    rw [run_setupUnit_claims (by exact clean) (by exact unclaimed) rfl]
    exact .setUp ctrlChannel ctrlAtten free admitted clean unclaimed

theorem listed_startTimeCriticalSampling {ctrlChannel : Nat} {nbSamples : UInt32} {pResult : Option Nat}
    (admitted : (Call.startTimeCriticalSampling ctrlChannel nbSamples pResult).Admitted
      world.statics.activeCtrlChannels) :
    Listed chance (.startTimeCriticalSampling ctrlChannel nbSamples pResult) world := by
  obtain ⟨result, runs⟩ := @run_startTimeCriticalSampling chance world _ admitted.1 admitted.2 nbSamples pResult
  rw [Listed, perform, Call.body, run_bind, runs]
  by_cases divisor : nbSamples = 0
  · subst divisor
    exact .undivided ctrlChannel pResult
  · rw [if_neg divisor]
    exact .timeCritical ctrlChannel nbSamples pResult result admitted divisor

theorem listed_startSampling {sampling : Sampling} (free : world.mutex = .free)
    (admitted : (Call.startSampling sampling).Admitted world.statics.activeCtrlChannels) :
    Listed chance (.startSampling sampling) world := by
  rw [Listed, perform, Call.body, run_bind, startSampling.eq_def, run_locked free]
  match sampling with
  | .invalid | .oneShot none | .continuous none => exact absurd admitted id
  | .oneShot (some config) =>
    simp only []
    rw [run_startOneShot free, if_pos (by exact admitted), proceed_status]
    exact .oneShot config free admitted (run_sampleOneShot rfl config)
  | .continuous (some config) =>
    simp only []
    obtain ⟨callback, given⟩ := Option.ne_none_iff_exists'.mp admitted.1.2.2.1
    rw [startContinuous_valid admitted.1 given, run_ownContinuous free, if_pos admitted.2, proceed_status]
    exact .continuous config callback free given admitted
      (run_openContinuous rfl (nbChannelMask_ne_zero admitted.1.1) callback)

theorem listed_applyCalibration {ctrlChannel ctrlAtten : Nat} {pResult : Option (List UInt16)}
    (free : world.mutex = .free)
    (admitted : (Call.applyCalibration ctrlChannel ctrlAtten pResult).Admitted world.statics.activeCtrlChannels) :
    Listed chance (.applyCalibration ctrlChannel ctrlAtten pResult) world := by
  cases pResult with
  | none => exact absurd rfl admitted.2
  | some buffer =>
    obtain ⟨converted, issued, next, sound, runs⟩ :=
      @run_applyCalibration chance world free _ admitted.1 ctrlAtten buffer
    rw [Listed, perform, Call.body, run_bind, runs]
    exact .calibrated ctrlChannel ctrlAtten buffer converted issued next sound

theorem listed_releaseAdcController {channelMask : UInt8} (free : world.mutex = .free)
    (admitted : (Call.releaseAdcController channelMask).Admitted world.statics.activeCtrlChannels) :
    Listed chance (.releaseAdcController channelMask) world := by
  rw [Listed, perform, Call.body, run_bind, run_releaseAdcController free, if_pos (by exact admitted)]
  cases opened : world.statics.continuousHandle.bind world.driver.context with
  | none =>
    rw [run_close_dead rfl (by exact opened)]
    exact .unopened channelMask free admitted opened
  | some ctx =>
    obtain ⟨handle, stored, found⟩ := Option.bind_eq_some_iff.mp opened
    rw [run_close rfl (by exact stored) (by exact found)]
    exact .closed channelMask handle ctx free admitted stored found

theorem listed_releaseAdcFromCriticalSampling {ctrlChannel : Nat} (free : world.mutex = .free)
    (admitted : (Call.releaseAdcFromCriticalSampling ctrlChannel).Admitted world.statics.activeCtrlChannels) :
    Listed chance (.releaseAdcFromCriticalSampling ctrlChannel) world := by
  rw [Listed, perform, Call.body, run_bind, run_releaseAdcFromCriticalSampling free, if_pos (by exact admitted)]
  by_cases owner : ∃ handle, world.statics.oneshotHandle = some handle ∧ world.driver.unit = some handle
  · obtain ⟨handle, stored, claimed⟩ := owner
    rw [run_bind, run_delUnit_claimed handle (by exact stored) (by exact claimed), proceed_some, run_bind, run_modify,
      proceed_some, run_leave rfl]
    exact .unitFreed ctrlChannel handle free admitted stored claimed
  · have foreign : ∀ handle, world.statics.oneshotHandle = some handle → world.driver.unit ≠ some handle :=
      fun handle stored claimed => owner ⟨handle, stored, claimed⟩
    obtain ⟨deleted, deletes⟩ := @run_delUnit_other chance world.take foreign
    rw [run_bind, deletes, proceed_some, run_bind, run_modify, proceed_some, run_leave rfl]
    exact .unitKept ctrlChannel free admitted foreign

/-- The inversion that every later result about calls uses. -/
theorem perform_outcome (chance : Nat → Chance) (call : Call) (world : World) : Listed chance call world := by
  by_cases waiting : call.locks = true ∧ world.mutex ≠ .free
  · rw [Listed, perform_waits waiting.1 waiting.2]
    exact .waits waiting.1 waiting.2
  have ready : call.locks = true → world.mutex = .free := by simpa only [not_and, not_not] using waiting
  by_cases admitted : call.Admitted world.statics.activeCtrlChannels
  swap
  · rw [Listed, perform_refused ready admitted]
    exact .refused ready admitted
  cases call with
  | initController => exact listed_initController
  | isControllerAvailable => exact listed_isControllerAvailable (ready rfl)
  | setupTimeCriticalSampling => exact listed_setupTimeCriticalSampling (ready rfl) admitted
  | startTimeCriticalSampling => exact listed_startTimeCriticalSampling admitted
  | startSampling => exact listed_startSampling (ready rfl) admitted
  | applyCalibration => exact listed_applyCalibration (ready rfl) admitted
  | releaseAdcController => exact listed_releaseAdcController (ready rfl) admitted
  | releaseAdcFromCriticalSampling => exact listed_releaseAdcFromCriticalSampling (ready rfl) admitted

theorem Outcome.of_perform {call : Call} {answer : Option Reply} {after : World}
    (performed : perform chance call world = (answer, after)) : Outcome chance world call answer after := by
  have outcome := perform_outcome chance call world
  rwa [Listed, performed] at outcome

end LaserDriver.Adc
