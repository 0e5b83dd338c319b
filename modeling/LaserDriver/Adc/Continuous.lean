import LaserDriver.Adc.Execution

/-! The continuous path, from a new handle to a running session. Its exits after
the handle exists leave it open, in the context they had reached. -/

namespace LaserDriver.Adc
open Effects Program

variable {chance : Nat → Chance} {world : World}

/-- The context of a new handle at the stages it goes through. -/
def created (handle : Handle) : ContinuousCtx := ⟨handle, false, false, ⟨none, none⟩⟩
def configured (handle : Handle) : ContinuousCtx := { created handle with useAdc1 := true }
def registered (handle : Handle) : ContinuousCtx := { configured handle with cbs := eventCallbacks }
def running (handle : Handle) : ContinuousCtx := { registered handle with started := true }

@[simp] theorem running_handle (handle : Handle) : (running handle).handle = handle := rfl

def FrequencyAccepted (config : ContinuousConfig) : Prop :=
  config.sampleFreqHz ≤ socAdcSampleFreqThresHigh ∧ socAdcSampleFreqThresLow ≤ config.sampleFreqHz

instance (config : ContinuousConfig) : Decidable (FrequencyAccepted config) :=
  inferInstanceAs (Decidable (_ ∧ _))

inductive OnContinuous : (Option Handle → Request (Esp Unit)) → Prop where
  | config (config : ContinuousCfg) : OnContinuous (.continuousConfig · config)
  | register (cbs : EventCallbacks) : OnContinuous (.continuousRegisterEventCallbacks · cbs)
  | start : OnContinuous .continuousStart
  | stop : OnContinuous .continuousStop
  | deinit : OnContinuous .continuousDeinit

theorem OnContinuous.issued {call : Option Handle → Request (Esp Unit)} (kind : OnContinuous call)
    (handle : Option Handle) (driver : Driver) :
    (call handle).issued driver = ⟨handle, handle.any (fun handle => (driver.context handle).isSome)⟩ := by
  cases kind <;> rfl

theorem run_onOpen {call : Option Handle → Request (Esp Unit)} {before : Handle → ContinuousCtx}
    {count : Nat} {after : Driver} (answer : Option (Esp Unit)) (kind : OnContinuous call)
    (present : (before world.driver.nextHandle).handle = world.driver.nextHandle)
    (served : (world.openDriver before).serve (chance (world.clock + 1 + count)) (call (some world.driver.nextHandle)) =
      (answer, after)) :
    (onContinuous call).run (serve chance) (world.openWith count before) =
      (answer.map Except.isOk, { world.openWith (count + 1) before with driver := after }) := by
  have live : ((world.openDriver before).context world.driver.nextHandle).isSome = true := by
    simp [Driver.context, World.openDriver, present]
  have issued : (call (some world.driver.nextHandle)).issued (world.openDriver before) =
      ⟨some world.driver.nextHandle, true⟩ := by
    rw [kind.issued]
    simp [live]
  cases answer <;>
    simp [onContinuous, serve, World.openWith, World.ticks, World.tick, served, issued, List.replicate_succ'] <;> rfl

private theorem context_open (world : World) (ctx : Handle → ContinuousCtx)
    (present : (ctx world.driver.nextHandle).handle = world.driver.nextHandle) :
    (world.openDriver ctx).context world.driver.nextHandle = some (ctx world.driver.nextHandle) := by
  simp [Driver.context, World.openDriver, present]

private theorem update_open (world : World) (ctx : Handle → ContinuousCtx) (change : ContinuousCtx → ContinuousCtx)
    (present : (ctx world.driver.nextHandle).handle = world.driver.nextHandle) :
    (world.openDriver ctx).updateContext world.driver.nextHandle change =
      world.openDriver (fun handle => change (ctx handle)) := by
  simp [Driver.updateContext, World.openDriver, List.replaceF, present]

theorem run_config_accepted {config : ContinuousConfig} {count : Nat} (counted : nbChannelMask config.channelMask ≠ 0)
    (inRange : FrequencyAccepted config) (clean : (chance (world.clock + 1 + count)).fault = none) :
    (onContinuous (.continuousConfig · config.driverCfg)).run (serve chance) (world.openWith count created) =
      (some true, world.openWith (count + 1) configured) := by
  have accepted : Driver.acceptsConfig config.driverCfg = true := (acceptsConfig_iff config).mpr inRange
  have used : config.driverCfg.adcPattern.any Option.isSome = true := patternConfig_used config counted
  refine run_onOpen (some (.ok ())) (.config _) rfl ?_
  simp only [Driver.serve, Driver.onContext, context_open world created rfl, Driver.configContinuous, created,
    Bool.false_eq_true, if_false, accepted, if_true, clean, used]
  rw [update_open world created _ rfl]
  rfl

theorem run_config_refused {config : ContinuousConfig} {count : Nat}
    (refused : ¬ (FrequencyAccepted config ∧ (chance (world.clock + 1 + count)).fault = none)) :
    (onContinuous (.continuousConfig · config.driverCfg)).run (serve chance) (world.openWith count created) =
      (some false, world.openWith (count + 1) created) := by
  by_cases inRange : FrequencyAccepted config
  · have accepted : Driver.acceptsConfig config.driverCfg = true := (acceptsConfig_iff config).mpr inRange
    cases fault : (chance (world.clock + 1 + count)).fault with
    | none => exact absurd ⟨inRange, fault⟩ refused
    | some error =>
      refine run_onOpen (some (.error error)) (.config _) rfl ?_
      simp [Driver.serve, Driver.onContext, context_open world created rfl, Driver.configContinuous, created,
        accepted, fault]
  · have rejected : Driver.acceptsConfig config.driverCfg = false :=
      Bool.eq_false_iff.mpr (fun accepted => inRange ((acceptsConfig_iff config).mp accepted))
    refine run_onOpen (some (.error .invalidArg)) (.config _) rfl ?_
    simp [Driver.serve, Driver.onContext, context_open world created rfl, Driver.configContinuous, created, rejected]

theorem run_register {count : Nat} :
    (onContinuous (.continuousRegisterEventCallbacks · eventCallbacks)).run (serve chance)
        (world.openWith count configured) =
      if (chance (world.clock + 1 + count)).fault = none then (some true, world.openWith (count + 1) registered)
      else (some false, world.openWith (count + 1) configured) := by
  cases fault : (chance (world.clock + 1 + count)).fault with
  | none =>
    refine run_onOpen (some (.ok ())) (.register _) rfl ?_
    simp only [Driver.serve, Driver.onContext, context_open world configured rfl, Driver.registerEventCallbacks, fault,
      configured, created, Bool.false_eq_true, if_false]
    rw [update_open world configured _ rfl]
    rfl
  | some error =>
    refine run_onOpen (some (.error error)) (.register _) rfl ?_
    simp [Driver.serve, Driver.onContext, context_open world configured rfl, Driver.registerEventCallbacks, configured,
      created, fault]

theorem run_start_fails {count : Nat} (fault : (chance (world.clock + 1 + count)).fault ≠ none) :
    (onContinuous .continuousStart).run (serve chance) (world.openWith count registered) =
      (some false, world.openWith (count + 1) registered) := by
  cases seen : (chance (world.clock + 1 + count)).fault with
  | none => exact absurd seen fault
  | some error =>
    refine run_onOpen (some (.error error)) .start rfl ?_
    simp [Driver.serve, Driver.onContext, context_open world registered rfl, Driver.start, registered, configured,
      created, seen]

/-- The driver starts the session and takes the lock of the unit, or waits for it
with the session already marked as started. -/
theorem run_start {count : Nat} (clean : (chance (world.clock + 1 + count)).fault = none) :
    (onContinuous .continuousStart).run (serve chance) (world.openWith count registered) =
      if world.driver.lock then (none, world.openWith (count + 1) running)
      else (some true, (world.openWith (count + 1) running).acquireLock) := by
  cases locked : world.driver.lock with
  | true =>
    refine run_onOpen none .start rfl ?_
    simp only [Driver.serve, Driver.onContext, context_open world registered rfl, Driver.start, clean, registered,
      configured, created, Bool.false_eq_true, if_false, if_true]
    rw [update_open world registered _ rfl, if_pos (by exact locked)]
    rfl
  | false =>
    refine run_onOpen (some (.ok ())) .start rfl ?_
    simp only [Driver.serve, Driver.onContext, context_open world registered rfl, Driver.start, clean, registered,
      configured, created, Bool.false_eq_true, if_false, if_true]
    rw [update_open world registered _ rfl, if_neg (by simp [World.openDriver, locked])]
    rfl

/-- The driver has the memory for frames of this size. A size that has wrapped to zero gets none. -/
def HandleGranted (chance : Nat → Chance) (clock : Nat) (config : ContinuousConfig) : Prop :=
  (chance clock).fault = none ∧ frameSize config ≠ 0

instance (clock : Nat) (config : ContinuousConfig) : Decidable (HandleGranted chance clock config) :=
  inferInstanceAs (Decidable (_ ∧ _))

theorem serve_newHandle_fails {config : ContinuousConfig} (denied : ¬ HandleGranted chance world.clock config) :
    ∃ error, serve chance (.driver (.continuousNewHandle ⟨frameSize config, frameSize config⟩)) world =
      (some (.error error), world.tick ⟨none, false⟩) := by
  cases seen : (chance world.clock).fault with
  | none =>
    have empty : frameSize config = 0 := not_not.mp fun sized => denied ⟨seen, sized⟩
    refine ⟨.noMem, ?_⟩
    simp [serve, Driver.serve, Driver.newHandle, seen, empty, World.tick, Request.issued, Request.target,
      socAdcDigiDataBytesPerConv]
  | some error =>
    refine ⟨error, ?_⟩
    simp [serve, Driver.serve, Driver.newHandle, seen, frameSize_aligned, World.tick, Request.issued, Request.target]

theorem serve_newHandle {config : ContinuousConfig} (granted : HandleGranted chance world.clock config) :
    serve chance (.driver (.continuousNewHandle ⟨frameSize config, frameSize config⟩)) world =
      (some (.ok world.driver.nextHandle), { world.tick ⟨none, false⟩ with driver := world.openDriver created }) := by
  simp [serve, Driver.serve, Driver.newHandle, granted.1, granted.2, frameSize_aligned, World.tick, Request.issued,
    Request.target, World.openDriver, created]

/-- The ways through the continuous path once the request owns the ADC. -/
inductive ContinuousOutcome (chance : Nat → Chance) (config : ContinuousConfig) (callback : Callback) (world : World) :
    Option Ret → World → Prop where
  | refused (denied : ¬ HandleGranted chance world.clock config) :
      ContinuousOutcome chance config callback world (some .fail) ((world.tick ⟨none, false⟩).own 0).give
  | misconfigured (granted : HandleGranted chance world.clock config)
      (rejected : ¬ (FrequencyAccepted config ∧ (chance (world.clock + 1)).fault = none)) :
      ContinuousOutcome chance config callback world (some .fail) ((world.openWith 1 created).own 0).give
  | unregistered (granted : HandleGranted chance world.clock config) (fault : (chance (world.clock + 2)).fault ≠ none) :
      ContinuousOutcome chance config callback world (some .fail)
        (((world.register callback).openWith 2 configured).own 0).give
  | unstarted (granted : HandleGranted chance world.clock config) (fault : (chance (world.clock + 3)).fault ≠ none) :
      ContinuousOutcome chance config callback world (some .fail)
        (((world.register callback).openWith 3 registered).own 0).give
  | waiting (locked : world.driver.lock = true) (clean : ∀ n < 4, (chance (world.clock + n)).fault = none)
      (sized : frameSize config ≠ 0) (inRange : FrequencyAccepted config) :
      ContinuousOutcome chance config callback world none ((world.register callback).openWith 3 running)
  | started (unlocked : world.driver.lock = false) (clean : ∀ n < 4, (chance (world.clock + n)).fault = none)
      (sized : frameSize config ≠ 0) (inRange : FrequencyAccepted config) :
      ContinuousOutcome chance config callback world (some .success)
        (((world.register callback).openWith 3 running).acquireLock).give

theorem run_runContinuous (held : world.mutex = .held) {config : ContinuousConfig}
    (granted : HandleGranted chance world.clock config) (counted : nbChannelMask config.channelMask ≠ 0) (callback : Callback) :
    ContinuousOutcome chance config callback world
      ((runContinuous config callback).run (serve chance) (world.openWith 0 created)).1
      ((runContinuous config callback).run (serve chance) (world.openWith 0 created)).2 := by
  have abandoned := fun (world : World) count ctx (held : world.mutex = .held) =>
    run_abandon chance (world.openWith count ctx) held
  unfold runContinuous
  by_cases accepted : FrequencyAccepted config ∧ (chance (world.clock + 1)).fault = none
  swap
  · rw [run_bind, run_config_refused accepted, proceed_some, if_neg (by decide), abandoned world 1 created held]
    exact .misconfigured granted accepted
  have registers : { world.openWith 1 configured with
      statics := { (world.openWith 1 configured).statics with activeContinuousCallback := some callback } } =
      (world.register callback).openWith 1 configured := rfl
  rw [run_bind, run_config_accepted counted accepted.1 accepted.2, proceed_some, if_pos rfl, run_bind, run_modify,
    proceed_some, registers, run_bind, run_register]
  by_cases listed : (chance (world.clock + 2)).fault = none
  swap
  · rw [if_neg (by exact listed), proceed_some, if_neg (by decide), abandoned (world.register callback) 2 configured held]
    exact .unregistered granted listed
  rw [if_pos (by exact listed), proceed_some, if_pos rfl, run_bind]
  by_cases begun : (chance (world.clock + 3)).fault = none
  swap
  · rw [run_start_fails (by exact begun), proceed_some, if_neg (by decide),
      abandoned (world.register callback) 3 registered held]
    exact .unstarted granted begun
  have allClean : ∀ n < 4, (chance (world.clock + n)).fault = none := by
    intro n small
    obtain rfl | rfl | rfl | rfl : n = 0 ∨ n = 1 ∨ n = 2 ∨ n = 3 := by omega
    · exact granted.1
    · exact accepted.2
    · exact listed
    · exact begun
  rw [run_start (by exact begun)]
  cases locked : world.driver.lock with
  | true =>
    rw [if_pos (by exact locked), proceed_none]
    exact .waiting locked allClean granted.2 accepted.1
  | false =>
    rw [if_neg (by simp [World.register, locked]), proceed_some, if_pos rfl, run_leave (by exact held)]
    exact .started locked allClean granted.2 accepted.1

theorem run_openContinuous (held : world.mutex = .held) {config : ContinuousConfig}
    (counted : nbChannelMask config.channelMask ≠ 0) (callback : Callback) :
    ContinuousOutcome chance config callback world ((openContinuous config callback).run (serve chance) world).1
      ((openContinuous config callback).run (serve chance) world).2 := by
  by_cases granted : HandleGranted chance world.clock config
  · have opened : (openContinuous config callback).run (serve chance) world =
        (runContinuous config callback).run (serve chance) (world.openWith 0 created) := by
      simp only [openContinuous, run_bind, run_send, serve_newHandle granted, proceed_some, run_modify]
      simp [World.openWith, World.ticks, World.tick]
    rw [opened]
    exact run_runContinuous held granted counted callback
  · obtain ⟨error, refused⟩ := serve_newHandle_fails granted
    have abandoned := run_abandon chance (world.tick ⟨none, false⟩) held
    simp only [openContinuous, run_bind, run_send, refused, proceed_some, abandoned]
    exact .refused granted

theorem run_onContinuous {call : Option Handle → Request (Esp Unit)} {after : Driver} (answer : Esp Unit)
    (kind : OnContinuous call)
    (served : world.driver.serve (chance world.clock) (call world.statics.continuousHandle) = (some answer, after)) :
    (onContinuous call).run (serve chance) world =
      (some answer.isOk, { world.tick world.continuousIssued with driver := after }) := by
  simp only [onContinuous, run_bind, run_send, proceed_some, serve, served, run_pure, kind.issued]
  rfl

theorem run_onContinuous_dead (chance : Nat → Chance) (world : World)
    {call : Option Handle → Request (Esp Unit)} (kind : OnContinuous call)
    (dead : world.statics.continuousHandle.bind world.driver.context = none) :
    ∃ ok, (onContinuous call).run (serve chance) world = (some ok, world.tick world.continuousIssued) := by
  cases stored : world.statics.continuousHandle with
  | none =>
    cases kind <;> exact ⟨_, run_onContinuous (.error _) (by constructor) (by rw [stored]; rfl)⟩
  | some handle =>
    rw [stored, Option.bind_some] at dead
    refine ⟨((chance world.clock).answer ()).isOk, run_onContinuous _ kind ?_⟩
    cases kind <;> simp [Driver.serve, Driver.onContext, stored, dead]

namespace Driver
variable {driver : Driver} {handle : Handle} {ctx : ContinuousCtx}

theorem context_handle (found : driver.context handle = some ctx) : ctx.handle = handle := by
  simpa using List.find?_some found

/-- What stopping and deinitialising leave of a handle the driver holds. -/
def close (driver : Driver) (ctx : ContinuousCtx) : Driver :=
  { driver with
    continuous := driver.continuous.eraseP (fun other => other.handle == ctx.handle)
    lock := driver.lock && !(ctx.started && ctx.useAdc1) }

section Update
variable {change : ContinuousCtx → ContinuousCtx} (same : ∀ ctx, (change ctx).handle = ctx.handle)
include same

private theorem context_update (found : driver.context handle = some ctx) :
    (driver.updateContext handle change).context handle = some (change ctx) := by
  have updated : ∀ contexts : List ContinuousCtx,
      contexts.find? (fun ctx => ctx.handle == handle) = some ctx →
        (contexts.replaceF (fun ctx => if ctx.handle == handle then some (change ctx) else none)).find?
          (fun ctx => ctx.handle == handle) = some (change ctx) := by
    intro contexts
    induction contexts with
    | nil => simp
    | cons first rest ih =>
      by_cases here : first.handle = handle
      · rintro first
        simp_all [List.replaceF]
      · simpa [List.replaceF, here] using ih
  exact updated driver.continuous found

private theorem erase_update (contexts : List ContinuousCtx) :
    (contexts.replaceF (fun ctx => if ctx.handle == handle then some (change ctx) else none)).eraseP
        (fun ctx => ctx.handle == handle) =
      contexts.eraseP (fun ctx => ctx.handle == handle) := by
  induction contexts with
  | nil => rfl
  | cons first rest ih =>
    by_cases here : first.handle = handle
    · simp [List.replaceF, here, same]
    · simpa [List.replaceF, here] using ih

end Update

/-- Stopping may fail, but only on a session that is not running: either way the
handle can be freed next. -/
theorem serve_stop_deinit (first second : Chance) (found : driver.context handle = some ctx) :
    ∃ answer stopped, driver.serve first (.continuousStop (some handle)) = (some answer, stopped) ∧
      (stopped.context handle).isSome ∧
      stopped.serve second (.continuousDeinit (some handle)) = (some (.ok ()), driver.close ctx) := by
  have same := context_handle found
  cases started : ctx.started with
  | false =>
    refine ⟨.error .invalidState, driver, ?_, by simp [found], ?_⟩
    · simp [serve, onContext, found, stop, started]
    · simp [serve, onContext, found, deinit, close, started]
  | true =>
    have halted : (driver.updateContext handle (fun ctx => { ctx with started := false })).context handle =
        some { ctx with started := false } := context_update (fun _ => rfl) found
    refine ⟨.ok (), { driver.updateContext handle (fun ctx => { ctx with started := false }) with
      lock := driver.lock && !ctx.useAdc1 }, ?_, Option.isSome_iff_exists.mpr ⟨_, halted⟩, ?_⟩
    · simp [serve, onContext, found, stop, started, same, updateContext]
    · have erased := @erase_update handle (fun ctx => { ctx with started := false }) (fun _ => rfl) driver.continuous
      have kept (lock : Bool) : ({ driver.updateContext handle (fun ctx => { ctx with started := false }) with
          lock } : Driver).context handle = some { ctx with started := false } := halted
      simp only [serve, onContext, kept, deinit, close, started, Bool.true_and, Bool.false_eq_true, if_false, same]
      simp only [updateContext, erased]

end Driver

end LaserDriver.Adc
