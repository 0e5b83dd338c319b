import LaserDriver.Adc.System
import LaserDriver.Adc.Pattern

/-! What each piece of the controller does to the world. Later proofs use these
results and the case lemmas of the entry points, never the program texts. -/

namespace LaserDriver.Adc
open Effects Program

variable {chance : Nat → Chance} {world : World}

namespace World

/-- The trace a driver call leaves when it changes nothing else. -/
def tick (world : World) (issued : Issued) : World :=
  { world with clock := world.clock + 1, log := world.log ++ [issued] }

def ticks (world : World) (count : Nat) (issued : Issued) : World :=
  { world with clock := world.clock + count, log := world.log ++ List.replicate count issued }

def oneshotIssued (world : World) : Issued :=
  ⟨world.statics.oneshotHandle, world.statics.oneshotHandle.any (fun handle => world.driver.unit == some handle)⟩

def continuousIssued (world : World) : Issued :=
  ⟨world.statics.continuousHandle,
    world.statics.continuousHandle.any (fun handle => (world.driver.context handle).isSome)⟩

def take (world : World) : World := { world with mutex := .held }
def give (world : World) : World := { world with mutex := .free }

def own (world : World) (channels : Nat) : World :=
  { world with statics := { world.statics with activeCtrlChannels := channels } }

/-- The one-shot unit claimed under a new handle, which the controller stores. -/
def claimUnit (world : World) : World :=
  { world.tick ⟨none, false⟩ with
    statics := { world.statics with oneshotHandle := some world.driver.nextHandle }
    driver := { world.driver with unit := some world.driver.nextHandle, nextHandle := world.driver.nextHandle + 1 } }

def freeUnit (world : World) : World := { world with driver := { world.driver with unit := none } }

def openDriver (world : World) (ctx : Handle → ContinuousCtx) : Driver :=
  { world.driver with
    nextHandle := world.driver.nextHandle + 1
    continuous := ctx world.driver.nextHandle :: world.driver.continuous }

/-- A new continuous handle, stored by the controller, after `count` calls on it. -/
def openWith (world : World) (count : Nat) (ctx : Handle → ContinuousCtx) : World :=
  { (world.tick ⟨none, false⟩).ticks count ⟨some world.driver.nextHandle, true⟩ with
    statics := { world.statics with continuousHandle := some world.driver.nextHandle }
    driver := world.openDriver ctx }

def register (world : World) (callback : Callback) : World :=
  { world with statics := { world.statics with activeContinuousCallback := some callback } }

def unregister (world : World) : World :=
  { world with statics := { world.statics with activeContinuousCallback := none } }

def reset (world : World) (mutex : Mutex) : World :=
  { world with
    statics := { world.statics with oneshotHandle := none, continuousHandle := none, activeCtrlChannels := 0 }
    clock := world.clock + 1
    mutex }

def acquireLock (world : World) : World := { world with driver := { world.driver with lock := true } }

@[simp] theorem tick_oneshotIssued (issued : Issued) : (world.tick issued).oneshotIssued = world.oneshotIssued := rfl

theorem take_give (free : world.mutex = .free) : world.take.give = world := by
  cases world
  cases free
  rfl

theorem ticks_tick (count : Nat) (issued : Issued) : (world.ticks count issued).tick issued = world.ticks (count + 1) issued := by
  simp [ticks, tick, List.replicate_succ', Nat.add_assoc]

theorem tick_ticks (count : Nat) (issued : Issued) : (world.tick issued).ticks count issued = world.ticks (count + 1) issued := by
  simp [ticks, tick, List.replicate_succ, Nat.add_assoc, Nat.add_comm 1 count]

end World

@[simp] theorem serve_load : serve chance .load world = (some world.statics, world) := rfl

@[simp] theorem serve_store (statics : Statics) :
    serve chance (.store statics) world = (some (), { world with statics }) := rfl

@[simp] theorem serve_writeResult (address : Nat) (value : UInt16) :
    serve chance (.writeResult address value) world =
      (some (), { world with results := world.results ++ [(address, value)] }) := rfl

@[simp] theorem run_modify (change : Statics → Statics) :
    (modify change).run (serve chance) world = (some (), { world with statics := change world.statics }) := rfl

theorem run_take (free : world.mutex = .free) :
    (Program.send Op.takeMutex).run (serve chance) world = (some (), world.take) := by
  simp [serve, free, World.take]

theorem run_take_waits (taken : world.mutex ≠ .free) :
    (Program.send Op.takeMutex).run (serve chance) world = (none, world) := by
  cases seen : world.mutex <;> simp_all [serve]

theorem run_leave (held : world.mutex = .held) (ret : Ret) :
    (leave ret).run (serve chance) world = (some ret, world.give) := by
  simp [leave, serve, held, World.give]

theorem run_abandon (chance : Nat → Chance) (world : World) (held : world.mutex = .held) :
    abandon.run (serve chance) world = (some .fail, (world.own 0).give) := by
  simp [abandon, run_bind, World.own, World.give, leave, serve, held]

theorem run_newUnit_claims (clean : (chance world.clock).fault = none) (unclaimed : world.driver.unit = none) :
    newUnit.run (serve chance) world = (some true, world.claimUnit) := by
  simp [newUnit, run_bind, serve, Driver.serve, Driver.newUnit, clean, unclaimed, World.tick, World.claimUnit,
    Request.issued, Request.target]

theorem run_newUnit_fails (refused : (chance world.clock).fault ≠ none ∨ world.driver.unit ≠ none) :
    newUnit.run (serve chance) world = (some false, world.tick ⟨none, false⟩) := by
  cases fault : (chance world.clock).fault <;> cases unit : world.driver.unit <;>
    simp_all [newUnit, serve, Driver.serve, Driver.newUnit, World.tick, Request.issued, Request.target]

theorem run_configChannel (chance : Nat → Chance) (world : World) (ctrlChannel ctrlAtten : Nat) :
    ∃ accepted, (configChannel ctrlChannel ctrlAtten).run (serve chance) world =
      (some accepted, world.tick world.oneshotIssued) := by
  cases handle : world.statics.oneshotHandle <;>
    simp [configChannel, serve, Driver.serve, World.tick, World.oneshotIssued, Request.issued, Request.target,
      Driver.live, handle]

/-- What the driver accepts for a channel of a unit it holds. -/
def ChannelAccepted (chance : Nat → Chance) (clock ctrlChannel ctrlAtten : Nat) : Prop :=
  ctrlAtten < socAdcAttenNum ∧ ctrlChannel < socAdcChannelNum ∧ (chance clock).fault = none

instance : Decidable (ChannelAccepted chance clock ctrlChannel ctrlAtten) :=
  inferInstanceAs (Decidable (_ ∧ _ ∧ _))

private theorem configChannel_isOk (clock ctrlChannel ctrlAtten : Nat) :
    (Driver.configChannel (chance clock) ctrlChannel ⟨ctrlAtten, adcBitwidth12⟩).isOk =
      decide (ChannelAccepted chance clock ctrlChannel ctrlAtten) := by
  by_cases limits : ctrlAtten < socAdcAttenNum ∧ ctrlChannel < socAdcChannelNum
  · cases fault : (chance clock).fault <;>
      simp [Driver.configChannel, Chance.answer, ChannelAccepted, limits, fault, Except.isOk, Except.toBool]
  · have refused : ¬ ChannelAccepted chance clock ctrlChannel ctrlAtten :=
      fun accepted => limits ⟨accepted.1, accepted.2.1⟩
    rw [Driver.configChannel, if_neg (fun accepted => limits ⟨accepted.1, accepted.2.2⟩), decide_eq_false refused]
    rfl

theorem run_configChannel_claimed (handle : Handle) (held : world.statics.oneshotHandle = some handle)
    (claimed : world.driver.unit = some handle) (ctrlChannel ctrlAtten : Nat) :
    (configChannel ctrlChannel ctrlAtten).run (serve chance) world =
      (some (decide (ChannelAccepted chance world.clock ctrlChannel ctrlAtten)), world.tick ⟨some handle, true⟩) := by
  simp [configChannel, serve, Driver.serve, World.tick, Request.issued, Request.target, Driver.live, held, claimed,
    configChannel_isOk]

theorem run_delUnit_claimed (handle : Handle) (held : world.statics.oneshotHandle = some handle)
    (claimed : world.driver.unit = some handle) :
    delUnit.run (serve chance) world = (some true, (world.tick ⟨some handle, true⟩).freeUnit) := by
  simp [delUnit, serve, Driver.serve, World.tick, World.freeUnit, Request.issued, Request.target, Driver.live, held,
    claimed, Except.isOk, Except.toBool]

theorem run_delUnit_other (foreign : ∀ handle, world.statics.oneshotHandle = some handle → world.driver.unit ≠ some handle) :
    ∃ deleted, delUnit.run (serve chance) world = (some deleted, world.tick world.oneshotIssued) := by
  cases held : world.statics.oneshotHandle with
  | none => simp [delUnit, serve, Driver.serve, World.tick, World.oneshotIssued, Request.issued, Request.target, held]
  | some handle =>
    have other := foreign handle held
    simp [delUnit, serve, Driver.serve, World.tick, World.oneshotIssued, Request.issued, Request.target, Driver.live,
      held, other]

theorem serve_read (chance : Nat → Chance) (world : World) (channel : Nat) :
    ∃ answer, serve chance (.driver (.oneshotRead world.statics.oneshotHandle channel)) world =
      (some answer, world.tick world.oneshotIssued) := by
  cases held : world.statics.oneshotHandle <;>
    simp [serve, Driver.serve, World.tick, World.oneshotIssued, Request.issued, Request.target, Driver.live, held]

theorem run_readSamples (chance : Nat → Chance) (world : World) (channel remaining : Nat) (sum : UInt32) :
    ∃ result count, (readSamples channel remaining sum).run (serve chance) world =
      (some result, world.ticks count world.oneshotIssued) := by
  induction remaining generalizing sum world with
  | zero => exact ⟨sum, 0, by simp [readSamples, World.ticks]⟩
  | succ remaining ih =>
    obtain ⟨answer, answered⟩ := serve_read chance world channel
    cases answer with
    | error error => exact ⟨sum, 1, by simp [readSamples, answered, World.ticks, World.tick]⟩
    | ok raw =>
      obtain ⟨result, count, rest⟩ := ih (world.tick world.oneshotIssued) (sum + .ofNat raw)
      refine ⟨result, count + 1, ?_⟩
      simpa [readSamples, run_bind, answered, ← World.tick_ticks] using rest

theorem run_sumReadings (chance : Nat → Chance) (world : World) (channel remaining : Nat) (sum : UInt32) :
    ∃ result, (sumReadings channel remaining sum).run (serve chance) world =
      (some result, world.ticks remaining world.oneshotIssued) := by
  induction remaining generalizing sum world with
  | zero => exact ⟨sum, by simp [sumReadings, World.ticks]⟩
  | succ remaining ih =>
    obtain ⟨answer, answered⟩ := serve_read chance world channel
    have rest := ih (world.tick world.oneshotIssued)
    cases answer with
    | error error => simpa [sumReadings, run_bind, answered, ← World.tick_ticks] using rest sum
    | ok raw => simpa [sumReadings, run_bind, answered, ← World.tick_ticks] using rest (sum + .ofNat raw)

theorem run_divide {dividend divisor : UInt32} (nonzero : divisor ≠ 0) :
    (divide dividend divisor).run (serve chance) world = (some (dividend / divisor), world) := by
  simp [divide, nonzero]

theorem run_divide_zero {dividend : UInt32} :
    (divide dividend 0).run (serve chance) world = (none, world) := rfl

theorem run_averageOneShot_zero {config : OneShotConfig} (divisor : config.nbSample = 0) (pResult : Nat) :
    (averageOneShot config pResult).run (serve chance) world = (none, world) := by
  simp [averageOneShot, run_bind, divisor, readSamples, run_divide_zero]

theorem run_averageOneShot {config : OneShotConfig} {handle : Handle} (held : world.mutex = .held)
    (stored : world.statics.oneshotHandle = some handle) (claimed : world.driver.unit = some handle)
    (nonzero : config.nbSample ≠ 0) (pResult : Nat) :
    ∃ count result, (averageOneShot config pResult).run (serve chance) world =
      (some .success, (({ (world.ticks count ⟨some handle, true⟩).freeUnit with
        statics := { world.statics with oneshotHandle := none }
        results := world.results ++ [(pResult, result)] } : World).own 0).give) := by
  obtain ⟨sum, count, summed⟩ := run_readSamples chance world config.ctrlChannel config.nbSample.toNat 0
  have issued : world.oneshotIssued = ⟨some handle, true⟩ := by simp [World.oneshotIssued, stored, claimed]
  rw [issued] at summed
  refine ⟨count + 1, (sum / config.nbSample).toUInt16, ?_⟩
  simp only [averageOneShot, run_bind, summed, run_divide nonzero, proceed_some, run_send, serve_writeResult]
  rw [run_delUnit_claimed handle (by exact stored) (by exact claimed)]
  simp only [proceed_some, if_true, run_bind, run_modify]
  rw [run_leave (by exact held), ← World.ticks_tick]
  rfl

/-- The ways through the one-shot path once the request owns the ADC. -/
inductive OneShotOutcome (chance : Nat → Chance) (config : OneShotConfig) (world : World) : Option Ret → World → Prop where
  | noBuffer (missing : config.pResult = none) :
      OneShotOutcome chance config world (some .fail) (world.own 0).give
  | refused (refused : (chance world.clock).fault ≠ none ∨ world.driver.unit ≠ none) :
      OneShotOutcome chance config world (some .fail) ((world.tick ⟨none, false⟩).own 0).give
  | misconfigured (clean : (chance world.clock).fault = none) (unclaimed : world.driver.unit = none)
      (rejected : ¬ ChannelAccepted chance (world.clock + 1) config.ctrlChannel config.ctrlAtten) :
      OneShotOutcome chance config world (some .fail)
        (((world.claimUnit.ticks 2 ⟨some world.driver.nextHandle, true⟩).freeUnit).own 0).give
  | trapped (buffer : config.pResult ≠ none) (clean : (chance world.clock).fault = none)
      (unclaimed : world.driver.unit = none)
      (accepted : ChannelAccepted chance (world.clock + 1) config.ctrlChannel config.ctrlAtten)
      (divisor : config.nbSample = 0) :
      OneShotOutcome chance config world none (world.claimUnit.tick ⟨some world.driver.nextHandle, true⟩)
  | sampled (pResult : Nat) (buffer : config.pResult = some pResult)
      (clean : (chance world.clock).fault = none) (unclaimed : world.driver.unit = none)
      (accepted : ChannelAccepted chance (world.clock + 1) config.ctrlChannel config.ctrlAtten)
      (nonzero : config.nbSample ≠ 0) (count : Nat) (result : UInt16) :
      OneShotOutcome chance config world (some .success)
        (({ (world.claimUnit.ticks count ⟨some world.driver.nextHandle, true⟩).freeUnit with
            statics := { world.statics with oneshotHandle := none }
            results := world.results ++ [(pResult, result)] } : World).own 0).give

theorem run_sampleOneShot (held : world.mutex = .held) (config : OneShotConfig) :
    OneShotOutcome chance config world ((sampleOneShot config).run (serve chance) world).1
      ((sampleOneShot config).run (serve chance) world).2 := by
  cases buffer : config.pResult with
  | none =>
    simp only [sampleOneShot, buffer, run_abandon chance world held]
    exact .noBuffer buffer
  | some pResult =>
    by_cases refused : (chance world.clock).fault ≠ none ∨ world.driver.unit ≠ none
    · have abandoned := run_abandon chance (world.tick ⟨none, false⟩) held
      simp only [sampleOneShot, buffer, run_bind, run_newUnit_fails refused, proceed_some, Bool.false_eq_true,
        if_false, abandoned]
      exact .refused refused
    · obtain ⟨clean, unclaimed⟩ := not_or.mp refused
      rw [not_not] at clean unclaimed
      have configured := @run_configChannel_claimed chance world.claimUnit world.driver.nextHandle rfl rfl
        config.ctrlChannel config.ctrlAtten
      simp only [sampleOneShot, buffer, run_bind, run_newUnit_claims clean unclaimed, proceed_some, if_true, configured]
      by_cases accepted : ChannelAccepted chance (world.clock + 1) config.ctrlChannel config.ctrlAtten
      · have agreed : decide (ChannelAccepted chance world.claimUnit.clock config.ctrlChannel config.ctrlAtten) = true :=
          decide_eq_true accepted
        simp only [agreed, if_true]
        by_cases divisor : config.nbSample = 0
        · rw [run_averageOneShot_zero divisor]
          exact .trapped (by simp [buffer]) clean unclaimed accepted divisor
        · obtain ⟨count, result, averaged⟩ := @run_averageOneShot chance
            (world.claimUnit.tick ⟨some world.driver.nextHandle, true⟩) config world.driver.nextHandle held rfl rfl
            divisor pResult
          rw [averaged, World.tick_ticks]
          exact .sampled pResult buffer clean unclaimed accepted divisor (count + 1) result
      · have refused : decide (ChannelAccepted chance world.claimUnit.clock config.ctrlChannel config.ctrlAtten) = false :=
          decide_eq_false accepted
        simp only [refused, Bool.false_eq_true, if_false, run_bind, run_modify, proceed_some]
        rw [run_delUnit_claimed world.driver.nextHandle (by rfl) (by rfl), proceed_some,
          run_leave (by exact held)]
        have outcome := OneShotOutcome.misconfigured clean unclaimed accepted
        rwa [← World.tick_ticks] at outcome

end LaserDriver.Adc
