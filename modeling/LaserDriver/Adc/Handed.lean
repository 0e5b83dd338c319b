import LaserDriver.Adc.Exchanges

/-! What an accepted continuous request hands to the driver, against the request itself:
the table of its channels, and the sizes as an unbounded product. -/

namespace LaserDriver.Adc
open Effects Program

variable {chance : Nat → Chance} {world : World} {config : ContinuousConfig}

def Handed (exchanges : List (Exchange Op)) {β : Type} (request : Request β) : Prop :=
  ∃ reply, ⟨.driver request, reply⟩ ∈ exchanges

/-- The bytes of one frame: four for each sample of each channel. -/
def frameBytes (config : ContinuousConfig) : Nat :=
  config.nbSample.toNat * 4 * (maskChannels config.channelMask).length

/-- The entry that the loop over the mask writes next, before round `i`. -/
def nextEntry (config : ContinuousConfig) (i : Nat) : Nat :=
  ((List.range i).foldl (fillPattern config.channelMask config.ctrlAtten)
    (0, List.replicate (nbChannelMask config.channelMask) none)).1

structure Consistent (config : ContinuousConfig) (exchanges : List (Exchange Op)) : Prop where
  table : ∀ handle cfg, Handed exchanges (.continuousConfig handle cfg) →
    cfg.patternNum = (maskChannels config.channelMask).length ∧
      cfg.adcPattern = (maskChannels config.channelMask).map (some ∘ patternEntry config.ctrlAtten)
  inside : ∀ i < 8, config.channelMask.toNat.testBit i = true → nextEntry config i < nbChannelMask config.channelMask
  opened : ∃ cfg, Handed exchanges (.continuousNewHandle cfg)
  sized : ∀ cfg, Handed exchanges (.continuousNewHandle cfg) →
    cfg.convFrameSize.toNat = frameBytes config ∧ cfg.maxStoreBufSize.toNat = frameBytes config
  given : ∀ cfg handle, ⟨.driver (.continuousNewHandle cfg), .ok handle⟩ ∈ exchanges →
    ∃ cfg, Handed exchanges (.continuousConfig (some handle) cfg)

theorem frameSize_toNat (config : ContinuousConfig) : (frameSize config).toNat = frameBytes config % 2 ^ 32 := by
  rw [frameSize, frameBytes, nbChannelMask_eq, UInt32.toNat_mul, UInt32.toNat_mul, UInt32.toNat_ofNat']
  simp [socAdcDigiDataBytesPerConv, Nat.mul_mod]

theorem nextEntry_eq (config : ContinuousConfig) (i : Nat) :
    nextEntry config i = ((List.range i).filter config.channelMask.toNat.testBit).length := by
  induction i with
  | zero => rfl
  | succ i ih =>
    rw [nextEntry, List.range_succ, List.foldl_append, List.foldl_cons, List.foldl_nil, fillPattern, List.filter_append,
      List.length_append, ← ih]
    by_cases set : config.channelMask.toNat.testBit i = true
    · rw [if_pos ((bit_filled _ i).mpr set), List.filter_cons_of_pos set]
      rfl
    · rw [if_neg (fun filled => set ((bit_filled _ i).mp filled)), List.filter_cons_of_neg set]
      rfl

theorem nextEntry_inside {i : Nat} (inside : i < 8) (set : config.channelMask.toNat.testBit i = true) :
    nextEntry config i < nbChannelMask config.channelMask := by
  have until_next : nextEntry config (i + 1) = nextEntry config i + 1 := by
    rw [nextEntry_eq, nextEntry_eq, List.range_succ, List.filter_append, List.length_append, List.filter_cons_of_pos set]
    rfl
  have initial : (List.range (i + 1)).Sublist (List.range 8) := List.range_sublist.mpr inside
  have bounded := (initial.filter config.channelMask.toNat.testBit).length_le
  rw [← nextEntry_eq, until_next] at bounded
  rw [nbChannelMask_eq]
  exact bounded

/-- What the requests of a continuous start are given. Only one that is still `opening` asks for a handle. -/
def FromConfig (config : ContinuousConfig) (opening : Prop) : (β : Type) → Op β → Prop
  | _, .driver (.continuousNewHandle cfg) => opening ∧ cfg = ⟨frameSize config, frameSize config⟩
  | _, .driver (.continuousConfig _ cfg) => cfg = config.driverCfg
  | _, _ => True

section Requests
variable {opening : Prop}

theorem fromConfig_leave (ret : Ret) : Only (FromConfig config opening) (leave ret) := ⟨trivial, fun _ => trivial⟩

theorem fromConfig_abandon : Only (FromConfig config opening) abandon := ⟨trivial, fun _ => ⟨trivial, fun _ => fromConfig_leave _⟩⟩

theorem fromConfig_onContinuous {call : Option Handle → Request (Esp Unit)}
    (given : ∀ handle, FromConfig config opening _ (.driver (call handle))) : Only (FromConfig config opening) (onContinuous call) :=
  ⟨trivial, fun statics => ⟨given statics.continuousHandle, fun _ => trivial⟩⟩

theorem fromConfig_modify (change : Statics → Statics) : Only (FromConfig config opening) (modify change) :=
  ⟨trivial, fun _ => ⟨trivial, fun _ => trivial⟩⟩

theorem fromConfig_runContinuous (callback : Callback) : Only (FromConfig config opening) (runContinuous config callback) := by
  refine Only.bind (fromConfig_onContinuous ?_) ?_
  · intro handle
    exact rfl
  intro accepted
  cases accepted with
  | false => exact fromConfig_abandon
  | true =>
    refine Only.bind (fromConfig_modify _) ?_
    intro _
    refine Only.bind (fromConfig_onContinuous fun _ => trivial) ?_
    intro registered
    cases registered with
    | false => exact fromConfig_abandon
    | true =>
      refine Only.bind (fromConfig_onContinuous fun _ => trivial) ?_
      intro started
      cases started with
      | false => exact fromConfig_abandon
      | true => exact fromConfig_leave _

end Requests

theorem fromConfig_openContinuous (callback : Callback) : Only (FromConfig config True) (openContinuous config callback) := by
  refine ⟨⟨trivial, rfl⟩, ?_⟩
  intro opened
  cases opened with
  | error => exact fromConfig_abandon
  | ok handle => exact ⟨trivial, fun _ => ⟨trivial, fun _ => fromConfig_runContinuous callback⟩⟩

theorem fromConfig_ownContinuous (callback : Callback) : Only (FromConfig config True) (ownContinuous config callback) := by
  refine ⟨trivial, ?_⟩
  intro statics
  change Only _ (ite _ _ _)
  split
  · exact ⟨trivial, fun _ => fromConfig_openContinuous callback⟩
  · split
    · exact fromConfig_leave _
    · exact fromConfig_openContinuous callback

theorem handed_openContinuous (callback : Callback) :
    Handed ((openContinuous config callback).exchanges (serve chance) world)
      (.continuousNewHandle ⟨frameSize config, frameSize config⟩) := by
  refine ⟨(world.driver.newHandle (chance world.clock) ⟨frameSize config, frameSize config⟩).1, ?_⟩
  rw [openContinuous, exchanges_send rfl]
  exact List.mem_cons_self

theorem handed_ownContinuous (callback : Callback)
    (owner : world.statics.activeCtrlChannels = 0 ∨ world.statics.activeCtrlChannels = config.channelMask.toNat) :
    Handed ((ownContinuous config callback).exchanges (serve chance) world)
      (.continuousNewHandle ⟨frameSize config, frameSize config⟩) := by
  rw [ownContinuous, exchanges_send serve_load]
  by_cases unowned : world.statics.activeCtrlChannels = 0
  · rw [if_pos unowned, exchanges_send (serve_store _)]
    obtain ⟨reply, member⟩ := handed_openContinuous callback
    exact ⟨reply, List.mem_cons_of_mem _ (List.mem_cons_of_mem _ member)⟩
  · rw [if_neg unowned, if_neg (not_not.mpr (owner.resolve_left unowned))]
    obtain ⟨reply, member⟩ := handed_openContinuous callback
    exact ⟨reply, List.mem_cons_of_mem _ member⟩

theorem serve_config (handle : Option Handle) (cfg : ContinuousCfg) :
    ∃ answer after, serve chance (.driver (.continuousConfig handle cfg)) world = (some answer, after) := by
  cases handle with
  | none => exact ⟨_, _, rfl⟩
  | some handle =>
    cases found : world.driver.context handle with
    | none => exact ⟨_, _, by simp only [serve, Driver.serve, Driver.onContext, found]; rfl⟩
    | some ctx => exact ⟨_, _, by simp only [serve, Driver.serve, Driver.onContext, found]; rfl⟩

theorem handed_runContinuous (callback : Callback) :
    Handed ((runContinuous config callback).exchanges (serve chance) world)
      (.continuousConfig world.statics.continuousHandle config.driverCfg) := by
  obtain ⟨answer, after, served⟩ := @serve_config chance world world.statics.continuousHandle config.driverCfg
  refine ⟨answer, exchanges_subset_bind _ _ _ ?_⟩
  rw [onContinuous, exchanges_send serve_load, exchanges_send served]
  exact List.mem_cons_of_mem _ List.mem_cons_self

/-- Every handle that was opened is given a table. -/
def Tabled (exchanges : List (Exchange Op)) : Prop :=
  ∀ cfg handle, ⟨.driver (.continuousNewHandle cfg), .ok handle⟩ ∈ exchanges →
    ∃ cfg, Handed exchanges (.continuousConfig (some handle) cfg)

theorem Tabled.cons {exchanges : List (Exchange Op)} {exchange : Exchange Op} (config : ContinuousConfig)
    (tabled : Tabled exchanges) (unopened : FromConfig config False _ exchange.operation) : Tabled (exchange :: exchanges) := by
  intro cfg handle opened
  obtain rfl | later := List.mem_cons.mp opened
  · exact unopened.1.elim
  · obtain ⟨table, reply, member⟩ := tabled cfg handle later
    exact ⟨table, reply, List.mem_cons_of_mem _ member⟩

theorem not_opened (config : ContinuousConfig) {program : Program Op α} (only : Only (FromConfig config False) program)
    {cfg : ContinuousHandleCfg} {handle : Handle} :
    ⟨.driver (.continuousNewHandle cfg), .ok handle⟩ ∉ program.exchanges (serve chance) world := by
  intro opened
  exact (exchanges_only only world _ opened).1

theorem tabled_openContinuous (callback : Callback) :
    Tabled ((openContinuous config callback).exchanges (serve chance) world) := by
  have served : serve chance (.driver (.continuousNewHandle ⟨frameSize config, frameSize config⟩)) world =
      (some (world.driver.newHandle (chance world.clock) ⟨frameSize config, frameSize config⟩).1, _) := rfl
  rw [openContinuous, exchanges_send served]
  generalize (world.driver.newHandle (chance world.clock) ⟨frameSize config, frameSize config⟩).1 = answer
  intro cfg handle opened
  cases answer with
  | error =>
    obtain same | later := List.mem_cons.mp opened
    · cases same
    · exact absurd later (not_opened config fromConfig_abandon)
  | ok given =>
    rw [exchanges_bind (run_modify _)] at opened ⊢
    obtain same | later := List.mem_cons.mp opened
    · cases same
      obtain ⟨reply, member⟩ := @handed_runContinuous chance _ config callback
      exact ⟨_, reply, List.mem_cons_of_mem _ (List.mem_append_right _ member)⟩
    · obtain stored | later := List.mem_append.mp later
      · exact absurd stored (not_opened config (fromConfig_modify _))
      · exact absurd later (not_opened config (fromConfig_runContinuous callback))

theorem tabled_ownContinuous (callback : Callback) :
    Tabled ((ownContinuous config callback).exchanges (serve chance) world) := by
  rw [ownContinuous, exchanges_send serve_load]
  refine Tabled.cons config ?_ trivial
  by_cases unowned : world.statics.activeCtrlChannels = 0
  · rw [if_pos unowned, exchanges_send (serve_store _)]
    exact (tabled_openContinuous callback).cons config trivial
  · rw [if_neg unowned]
    by_cases other : world.statics.activeCtrlChannels ≠ config.channelMask.toNat
    · rw [if_pos other]
      exact fun _ _ opened => absurd opened (not_opened config (fromConfig_leave _))
    · rw [if_neg other]
      exact tabled_openContinuous callback

theorem body_continuous {callback : Callback} (valid : config.Valid) (given : config.callback = some callback) :
    (Call.startSampling (.continuous (some config))).body =
      (do .send .takeMutex; return .status (← ownContinuous config callback)) := by
  rw [← startContinuous_valid valid given]
  rfl

theorem exchanged_continuous {callback : Callback} (free : world.mutex = .free) (valid : config.Valid)
    (given : config.callback = some callback) :
    exchanged chance (.startSampling (.continuous (some config))) world =
      ⟨.takeMutex, ()⟩ :: (ownContinuous config callback).exchanges (serve chance) world.take := by
  have taken : serve chance .takeMutex world = (some (), world.take) := by
    simp only [serve, free]
    rfl
  rw [exchanged, body_continuous valid given, exchanges_send taken, exchanges_wrap]

theorem handed_startSampling {callback : Callback} (free : world.mutex = .free) (valid : config.Valid)
    (given : config.callback = some callback)
    (owner : world.statics.activeCtrlChannels = 0 ∨ world.statics.activeCtrlChannels = config.channelMask.toNat) :
    Handed (exchanged chance (.startSampling (.continuous (some config))) world)
      (.continuousNewHandle ⟨frameSize config, frameSize config⟩) := by
  obtain ⟨reply, member⟩ := @handed_ownContinuous chance world.take config callback owner
  rw [exchanged_continuous free valid given]
  exact ⟨reply, List.mem_cons_of_mem _ member⟩

/-- An accepted request is handed over as it was made exactly when the frame size fits thirty-two bits. -/
theorem continuous_consistent_iff (free : world.mutex = .free)
    (admitted : (Call.startSampling (.continuous (some config))).Admitted world.statics.activeCtrlChannels) :
    Consistent config (exchanged chance (.startSampling (.continuous (some config))) world) ↔
      config.nbSample.toNat * 4 * (maskChannels config.channelMask).length < 2 ^ 32 := by
  obtain ⟨valid, owner⟩ := admitted
  obtain ⟨callback, given⟩ := Option.ne_none_iff_exists'.mp valid.2.2.1
  have opened := @handed_startSampling chance world config callback free valid given owner
  have tabled : Tabled (exchanged chance (.startSampling (.continuous (some config))) world) := by
    rw [exchanged_continuous free valid given]
    exact (tabled_ownContinuous callback).cons config trivial
  have only : Only (FromConfig config True) (Call.startSampling (.continuous (some config))).body := by
    rw [body_continuous valid given]
    exact ⟨trivial, fun _ => (fromConfig_ownContinuous callback).bind fun _ => trivial⟩
  have asked : ∀ exchange ∈ exchanged chance (.startSampling (.continuous (some config))) world,
      FromConfig config True _ exchange.operation := exchanges_only only world
  have sized : ∀ cfg, Handed (exchanged chance (.startSampling (.continuous (some config))) world)
      (.continuousNewHandle cfg) → cfg = ⟨frameSize config, frameSize config⟩ := by
    intro cfg ⟨reply, member⟩
    exact (asked _ member).2
  constructor
  · intro consistent
    have exactly := (consistent.sized _ opened).1
    rw [frameSize_toNat] at exactly
    exact (Nat.mod_eq_iff_lt (by decide)).mp exactly
  · intro fits
    refine ⟨?_, fun i => nextEntry_inside, ⟨_, opened⟩, ?_, tabled⟩
    · intro handle cfg ⟨reply, member⟩
      obtain rfl : cfg = config.driverCfg := asked _ member
      exact ⟨nbChannelMask_eq _, patternConfig_eq _⟩
    · intro cfg handed
      rw [sized cfg handed, frameSize_toNat]
      exact ⟨Nat.mod_eq_of_lt fits, Nat.mod_eq_of_lt fits⟩

theorem continuous_consistent_two :
    Consistent ⟨0b101, 0, 3, 1000, some 5⟩
      (exchanged quiet (.startSampling (.continuous (some ⟨0b101, 0, 3, 1000, some 5⟩))) (afterCalls [])) := by
  refine (continuous_consistent_iff rfl ⟨by decide, .inl rfl⟩).mpr ?_
  decide

/-- 2^29 + 1 samples of two channels are accepted and sampled in frames of eight bytes. -/
theorem continuous_wraps :
    (afterCalls []).mutex = .free ∧
    (Call.startSampling (.continuous (some ⟨0b101, 0, 0x20000001, 1000, some 5⟩))).Admitted
      (afterCalls []).statics.activeCtrlChannels ∧
    (perform quiet (.startSampling (.continuous (some ⟨0b101, 0, 0x20000001, 1000, some 5⟩))) (afterCalls [])).1 =
      some (.status .success) ∧
    Handed (exchanged quiet (.startSampling (.continuous (some ⟨0b101, 0, 0x20000001, 1000, some 5⟩))) (afterCalls []))
      (.continuousNewHandle ⟨8, 8⟩) ∧
    ¬ Consistent ⟨0b101, 0, 0x20000001, 1000, some 5⟩
      (exchanged quiet (.startSampling (.continuous (some ⟨0b101, 0, 0x20000001, 1000, some 5⟩))) (afterCalls [])) := by
  have valid : ContinuousConfig.Valid ⟨0b101, 0, 0x20000001, 1000, some 5⟩ := by decide
  have handed := @handed_startSampling quiet (afterCalls []) ⟨0b101, 0, 0x20000001, 1000, some 5⟩ 5 rfl valid rfl (.inl rfl)
  refine ⟨rfl, ⟨valid, .inl rfl⟩, ?_, handed, ?_⟩
  · decide +kernel
  intro consistent
  exact absurd (consistent.sized _ handed).1 (by decide)

end LaserDriver.Adc
