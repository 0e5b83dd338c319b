import LaserDriver.Adc.Ownership

/-! What a failed request leaves behind. The exits of the sampling requests give
the ADC up even when an earlier session on the same channels owns it, and those of
the continuous mode leave the new handle open. -/

namespace LaserDriver.Adc
open Effects

variable {chance : Nat → Chance} {world after : World} {call : Call} {answer : Option Reply}

/-- Owner, callback, claimed unit and open continuous handles are as before. -/
structure Unchanged (before after : World) : Prop where
  owner : after.statics.activeCtrlChannels = before.statics.activeCtrlChannels
  callback : after.statics.activeContinuousCallback = before.statics.activeContinuousCallback
  unit : after.driver.unit = before.driver.unit
  continuous : after.driver.continuous.map (·.handle) = before.driver.continuous.map (·.handle)

def Call.Transfers : Call → Prop
  | .setupTimeCriticalSampling .. | .startSampling _ | .releaseAdcController _ | .releaseAdcFromCriticalSampling _ => True
  | _ => False

def FailsCleanly (chance : Nat → Chance) (call : Call) (world : World) : Prop :=
  ∀ after, perform chance call world = (some (.status .fail), after) → Unchanged world after

/-- A one-shot request for channels that own the ADC already must go through. A
continuous one may only be refused its handle, and only while nobody owns the ADC. -/
def Call.AvoidsFailure (chance : Nat → Chance) (world : World) : Call → Prop
  | .startSampling (.oneShot (some config)) =>
    world.mutex = .free → config.ctrlChannel < ctrlChannelInvalid →
      world.statics.activeCtrlChannels = shiftULL config.ctrlChannel →
      config.pResult ≠ none ∧ (chance world.clock).fault = none ∧ world.driver.unit = none ∧
        ChannelAccepted chance (world.clock + 1) config.ctrlChannel config.ctrlAtten
  | .startSampling (.continuous (some config)) =>
    world.mutex = .free → config.Valid →
      (world.statics.activeCtrlChannels = 0 ∨ world.statics.activeCtrlChannels = config.channelMask.toNat) →
      (¬ HandleGranted chance world.clock config ∧ world.statics.activeCtrlChannels = 0) ∨
      (frameSize config ≠ 0 ∧ FrequencyAccepted config ∧ ∀ n < 4, (chance (world.clock + n)).fault = none)
  | _ => True

theorem shiftULL_ne_zero {bits : Nat} (small : bits < 64) : shiftULL bits ≠ 0 := by
  rw [shiftULL_of_lt small]
  exact Nat.ne_of_gt (Nat.two_pow_pos bits)

/-- The one-shot exits free the unit they claimed; what they lose is the owner. -/
theorem OneShotOutcome.unchanged_iff {config : OneShotConfig} {owner : Nat}
    (outcome : OneShotOutcome chance config (world.take.own owner) (some .fail) after) :
    Unchanged world after ↔ world.statics.activeCtrlChannels = 0 := by
  refine ⟨fun unchanged => ?_, fun unowned => ?_⟩
  · cases outcome <;> exact unchanged.owner.symm
  · cases outcome with
    | misconfigured _ unclaimed => exact ⟨unowned.symm, rfl, unclaimed.symm, rfl⟩
    | _ => exact ⟨unowned.symm, rfl, rfl, rfl⟩

theorem ContinuousOutcome.unchanged_iff {config : ContinuousConfig} {callback : Callback} {owner : Nat}
    (outcome : ContinuousOutcome chance config callback (world.take.own owner) (some .fail) after) :
    Unchanged world after ↔ ¬ HandleGranted chance world.clock config ∧ world.statics.activeCtrlChannels = 0 := by
  refine ⟨fun unchanged => ?_, fun unowned => ?_⟩
  · have longer (ctx : ContinuousCtx) :
        (ctx :: world.driver.continuous).map (·.handle) ≠ world.driver.continuous.map (·.handle) := by
      intro same
      simpa using congrArg List.length same
    cases outcome with
    | refused denied => exact ⟨denied, unchanged.owner.symm⟩
    | _ => exact absurd unchanged.continuous (longer _)
  · cases outcome with
    | refused => exact ⟨unowned.2.symm, rfl, rfl, rfl⟩
    | misconfigured granted => exact absurd granted unowned.1
    | unregistered granted => exact absurd granted unowned.1
    | unstarted granted => exact absurd granted unowned.1

theorem OneShotOutcome.passes_or_fails {config : OneShotConfig} {ret : Option Ret}
    (outcome : OneShotOutcome chance config world ret after) :
    (config.pResult ≠ none ∧ (chance world.clock).fault = none ∧ world.driver.unit = none ∧
      ChannelAccepted chance (world.clock + 1) config.ctrlChannel config.ctrlAtten) ∨ ret = some .fail := by
  cases outcome with
  | trapped buffer clean unclaimed accepted => exact .inl ⟨buffer, clean, unclaimed, accepted⟩
  | sampled pResult buffer clean unclaimed accepted => exact .inl ⟨by simp [buffer], clean, unclaimed, accepted⟩
  | _ => exact .inr rfl

theorem ContinuousOutcome.passes_or_fails {config : ContinuousConfig} {callback : Callback} {ret : Option Ret}
    (outcome : ContinuousOutcome chance config callback world ret after) :
    (frameSize config ≠ 0 ∧ FrequencyAccepted config ∧ ∀ n < 4, (chance (world.clock + n)).fault = none) ∨
      ret = some .fail := by
  cases outcome with
  | waiting _ clean sized inRange => exact .inl ⟨sized, inRange, clean⟩
  | started _ clean sized inRange => exact .inl ⟨sized, inRange, clean⟩
  | _ => exact .inr rfl

private theorem avoids_of_clean (clean : FailsCleanly chance call world) : call.AvoidsFailure chance world := by
  match call, clean with
  | .startSampling (.oneShot (some config)), clean =>
    intro free valid owner
    rcases performed : perform chance (.startSampling (.oneShot (some config))) world with ⟨answer, after⟩
    cases Outcome.of_perform performed with
    | waits _ taken => exact absurd free taken
    | refused _ rejected => exact absurd ⟨valid, .inr owner⟩ rejected
    | oneShot _ _ _ outcome =>
      obtain passed | rfl := outcome.passes_or_fails
      · exact passed
      · have disowned := outcome.unchanged_iff.mp (clean after performed)
        exact absurd (owner.symm.trans disowned) (shiftULL_ne_zero (valid.trans (by decide)))
  | .startSampling (.continuous (some config)), clean =>
    intro free valid owner
    rcases performed : perform chance (.startSampling (.continuous (some config))) world with ⟨answer, after⟩
    cases Outcome.of_perform performed with
    | waits _ taken => exact absurd free taken
    | refused _ rejected => exact absurd ⟨valid, owner⟩ rejected
    | continuous _ callback _ _ _ outcome =>
      obtain passed | rfl := outcome.passes_or_fails
      · exact .inr passed
      · exact .inl (outcome.unchanged_iff.mp (clean after performed))
  | .startSampling (.oneShot none), _ | .startSampling (.continuous none), _ | .startSampling .invalid, _ => trivial
  | .initController, _ | .setupTimeCriticalSampling .., _ | .startTimeCriticalSampling .., _ => trivial
  | .applyCalibration .., _ | .releaseAdcController _, _ | .releaseAdcFromCriticalSampling _, _ => trivial
  | .isControllerAvailable, _ => trivial

private theorem unchanged_of_avoids (outcome : Outcome chance world call answer after)
    (failed : answer = some (.status .fail)) (transfers : call.Transfers) (avoids : call.AvoidsFailure chance world) :
    Unchanged world after := by
  cases outcome with
  | uninitialised => exact transfers.elim
  | refused => exact ⟨rfl, rfl, rfl, rfl⟩
  | oneShot config free admitted outcome =>
    obtain rfl : _ = some Ret.fail := by simpa using failed
    refine outcome.unchanged_iff.mpr (admitted.2.resolve_right (fun owner => ?_))
    obtain ⟨buffer, clean, unclaimed, accepted⟩ := avoids free admitted.1 owner
    cases outcome with
    | noBuffer missing => exact buffer missing
    | refused refused => exact refused.elim (absurd clean) (absurd unclaimed)
    | misconfigured _ _ rejected => exact rejected accepted
  | continuous config callback free given admitted outcome =>
    obtain rfl : _ = some Ret.fail := by simpa using failed
    obtain exits | ⟨sized, inRange, clean⟩ := avoids free admitted.1 admitted.2
    · exact outcome.unchanged_iff.mpr exits
    · cases outcome with
      | refused denied => exact absurd ⟨clean 0 (by decide), sized⟩ denied
      | misconfigured _ rejected => exact absurd ⟨inRange, clean 1 (by decide)⟩ rejected
      | unregistered _ fault => exact absurd (clean 2 (by decide)) fault
      | unstarted _ fault => exact absurd (clean 3 (by decide)) fault
  | _ => cases failed

/-- A failed request is without effect exactly when it stays clear of the exits
that disown an earlier session or leave a handle open. -/
theorem fails_cleanly_iff (transfers : call.Transfers) :
    FailsCleanly chance call world ↔ call.AvoidsFailure chance world :=
  ⟨avoids_of_clean, fun avoids _ failed => unchanged_of_avoids (Outcome.of_perform failed) rfl transfers avoids⟩

theorem fails_cleanly_refused_release :
    FailsCleanly quiet (.releaseAdcController 2) (afterCalls [.setupTimeCriticalSampling 0 0]) ↔
      (Call.releaseAdcController 2).AvoidsFailure quiet (afterCalls [.setupTimeCriticalSampling 0 0]) :=
  fails_cleanly_iff trivial

/-- A one-shot request on a channel set up for time-critical sampling finds the
unit claimed. It fails, and the ADC is no longer owned for that channel. -/
theorem failed_oneShot_disowns :
    Reachable quiet (afterCalls [.setupTimeCriticalSampling 0 0]) ∧
      (Call.startSampling (.oneShot (some ⟨0, 0, 1, some 0⟩))).Transfers ∧
      ¬ FailsCleanly quiet (.startSampling (.oneShot (some ⟨0, 0, 1, some 0⟩)))
        (afterCalls [.setupTimeCriticalSampling 0 0]) := by
  refine ⟨⟨afterCalls [], rfl, .next (.setupTimeCriticalSampling 0 0) (.status .success) .refl rfl trivial⟩, trivial, ?_⟩
  intro clean
  have unchanged := clean _ rfl
  exact absurd unchanged.owner (by decide)

end LaserDriver.Adc
