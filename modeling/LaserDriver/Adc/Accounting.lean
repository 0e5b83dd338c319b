import LaserDriver.Adc.Failures

/-! What the ADC is owned for against what the drivers hold. One mask stands for
time-critical, one-shot and continuous use, and each release undoes one kind only. -/

namespace LaserDriver.Adc
open Effects

variable {chance : Nat → Chance} {world after : World} {call : Call} {answer : Option Reply}

/-- The ADC is unowned exactly when nothing of it is in use. -/
def OwnerMatches (world : World) : Prop :=
  world.statics.activeCtrlChannels = 0 ↔
    world.driver.unit = none ∧ world.driver.continuous = [] ∧ world.statics.activeContinuousCallback = none

instance (world : World) : Decidable (OwnerMatches world) := inferInstanceAs (Decidable (_ ↔ _))

def Idle (world : World) : Prop :=
  world.driver.continuous = [] ∧ world.driver.lock = false ∧ world.statics.activeContinuousCallback = none

/-- One continuous session, started, under the handle the controller holds. -/
structure Streaming (world : World) (handle : Handle) : Prop where
  opened : world.driver.continuous = [running handle]
  stored : world.statics.continuousHandle = some handle
  locked : world.driver.lock = true
  callback : world.statics.activeContinuousCallback ≠ none
  owned : world.statics.activeCtrlChannels ≠ 0

/-- The part of the state that the calls have to keep together. -/
structure Accounted (world : World) : Prop where
  session : Idle world ∨ ∃ handle, Streaming world handle
  unit : ∀ handle, world.driver.unit = some handle →
    world.statics.oneshotHandle = some handle ∧ world.statics.activeCtrlChannels ≠ 0
  owner : world.statics.activeCtrlChannels ≠ 0 → world.driver.unit ≠ none ∨ ¬ Idle world

theorem Accounted.matches (accounted : Accounted world) : OwnerMatches world := by
  refine ⟨fun unowned => ?_, fun unused => ?_⟩
  · have unclaimed : world.driver.unit = none := by
      cases claimed : world.driver.unit with
      | none => rfl
      | some handle => exact absurd unowned (accounted.unit handle claimed).2
    obtain idle | ⟨handle, streaming⟩ := accounted.session
    · exact ⟨unclaimed, idle.1, idle.2.2⟩
    · exact absurd unowned streaming.owned
  · by_contra owned
    obtain claimed | busy := accounted.owner owned
    · exact claimed unused.1
    · obtain idle | ⟨handle, streaming⟩ := accounted.session
      · exact busy idle
      · exact streaming.callback unused.2.2

/-- Each release meets the one kind of session there is, a one-shot request comes
to an unowned ADC, and the setup of an unowned ADC is given its unit. -/
def Call.FitsSession (chance : Nat → Chance) (world : World) : Call → Prop
  | .setupTimeCriticalSampling ctrlChannel _ =>
    world.statics.activeCtrlChannels = 0 → ctrlChannel < 32 ∧ (chance world.clock).fault = none
  | .startSampling (.oneShot _) => world.statics.activeCtrlChannels = 0
  | .releaseAdcController _ => world.driver.unit = none
  | .releaseAdcFromCriticalSampling _ => world.statics.activeContinuousCallback = none
  | _ => True

theorem accounted_init (initialised : Initialised chance world) : Accounted world := by
  cases Outcome.of_perform initialised with
  | initialised => exact ⟨.inl ⟨rfl, rfl, rfl⟩, nofun, fun owned => absurd rfl owned⟩

private theorem setup_owns {ctrlChannel ctrlAtten : Nat}
    (admitted : (Call.setupTimeCriticalSampling ctrlChannel ctrlAtten).Admitted world.statics.activeCtrlChannels)
    (fits : (Call.setupTimeCriticalSampling ctrlChannel ctrlAtten).FitsSession chance world) :
    shiftUL ctrlChannel ≠ 0 := by
  by_cases unowned : world.statics.activeCtrlChannels = 0
  · rw [shiftUL_of_lt (fits unowned).1]
    exact Nat.ne_of_gt (Nat.two_pow_pos ctrlChannel)
  · obtain fresh | same := admitted
    · exact absurd fresh.2 unowned
    · exact same ▸ unowned

namespace Accounted

theorem idle (accounted : Accounted world) (silent : world.statics.activeContinuousCallback = none) : Idle world := by
  obtain idle | ⟨handle, streaming⟩ := accounted.session
  · exact idle
  · exact absurd silent streaming.callback

theorem same (accounted : Accounted world) (statics : after.statics = world.statics)
    (driver : after.driver = world.driver) : Accounted after := by
  obtain ⟨session, unit, owner⟩ := accounted
  refine ⟨?_, by rwa [statics, driver], by rwa [Idle, statics, driver]⟩
  obtain idle | ⟨handle, opened, stored, locked, callback, owned⟩ := session
  · exact .inl (by rwa [Idle, statics, driver])
  · exact .inr ⟨handle, by rwa [driver], by rwa [statics], by rwa [driver], by rwa [statics], by rwa [statics]⟩

theorem claim {owner : Nat} (accounted : Accounted world) (owned : owner ≠ 0) : Accounted (world.own owner).claimUnit := by
  refine ⟨?_, fun handle claimed => ⟨claimed, owned⟩, fun _ => .inl nofun⟩
  obtain idle | ⟨handle, streaming⟩ := accounted.session
  · exact .inl idle
  · exact .inr ⟨handle, streaming.opened, streaming.stored, streaming.locked, streaming.callback, owned⟩

theorem ended (unowned : world.statics.activeCtrlChannels = 0) (unclaimed : world.driver.unit = none)
    (idle : Idle world) : Accounted world :=
  ⟨.inl idle, fun _ claimed => absurd (unclaimed.symm.trans claimed) nofun, fun owned => absurd unowned owned⟩

theorem unclaimed (accounted : Accounted world) (unowned : world.statics.activeCtrlChannels = 0) :
    world.driver.unit = none := (accounted.matches.mp unowned).1

end Accounted

theorem Outcome.accounted (outcome : Outcome chance world call answer after)
    (succeeded : answer = some (.status .success)) (transfers : call.Transfers) (fits : call.FitsSession chance world)
    (accounted : Accounted world) : Accounted after := by
  cases outcome with
  | waits => cases succeeded
  | refused => cases call <;> cases succeeded
  | initialised => exact transfers.elim
  | uninitialised => exact transfers.elim
  | available => exact transfers.elim
  | undivided => exact transfers.elim
  | timeCritical => exact transfers.elim
  | calibrated => exact transfers.elim
  | setUp _ _ _ admitted => exact (accounted.claim (setup_owns admitted fits)).same rfl rfl
  | setUpAnyway _ _ _ admitted refused =>
    have owned : world.statics.activeCtrlChannels ≠ 0 := by
      intro unowned
      exact refused.elim (absurd (fits unowned).2) (absurd (accounted.unclaimed unowned))
    have owner := admitted.resolve_left (fun fresh => owned fresh.2)
    exact accounted.same (congrArg (fun owner => { world.statics with activeCtrlChannels := owner }) owner.symm) rfl
  | oneShot config _ _ outcome =>
    obtain rfl : _ = some Ret.success := by simpa using succeeded
    have unused := accounted.matches.mp fits
    cases outcome with
    | sampled => exact .ended rfl rfl (accounted.idle unused.2.2)
  | continuous config callback _ _ admitted outcome =>
    obtain rfl : _ = some Ret.success := by simpa using succeeded
    have masked : config.channelMask.toNat ≠ 0 := fun zero => admitted.1.1 (UInt8.toNat_inj.mp zero)
    cases outcome with
    | started unlocked =>
      have empty : world.driver.continuous = [] := by
        obtain idle | ⟨handle, streaming⟩ := accounted.session
        · exact idle.1
        · exact absurd (streaming.locked.symm.trans unlocked) nofun
      have streaming : Streaming ((((world.take.own config.channelMask.toNat).register callback).openWith 3
          running).acquireLock).give world.driver.nextHandle :=
        ⟨congrArg (running world.driver.nextHandle :: ·) empty, rfl, rfl, nofun, masked⟩
      refine ⟨.inr ⟨_, streaming⟩, fun handle claimed => ⟨(accounted.unit handle claimed).1, masked⟩, fun _ => .inr ?_⟩
      exact fun idle => streaming.callback idle.2.2
  | closed _ handle ctx _ _ stored found =>
    refine .ended rfl fits ?_
    obtain idle | ⟨session, streaming⟩ := accounted.session
    · simp [Driver.context, idle.1] at found
    · obtain rfl : handle = session := Option.some.inj (stored.symm.trans streaming.stored)
      obtain rfl : running handle = ctx := by simpa [Driver.context, streaming.opened] using found
      refine ⟨?_, Bool.and_false _, rfl⟩
      exact (congrArg (List.eraseP _) streaming.opened).trans (by simp)
  | unopened _ _ _ dead =>
    refine .ended rfl fits ?_
    obtain idle | ⟨session, streaming⟩ := accounted.session
    · exact ⟨idle.1, idle.2.1, rfl⟩
    · simp [Driver.context, streaming.stored, streaming.opened] at dead
  | unitFreed => exact .ended rfl rfl (accounted.idle fits)
  | unitKept ctrlChannel _ admitted foreign =>
    have idle := accounted.idle fits
    have owned : world.statics.activeCtrlChannels ≠ 0 := by
      rw [admitted.2]
      exact shiftULL_ne_zero (admitted.1.trans (by decide))
    have claimed := (accounted.owner owned).resolve_right (not_not.mpr idle)
    obtain ⟨handle, claimed⟩ := Option.ne_none_iff_exists'.mp claimed
    exact absurd claimed (foreign handle (accounted.unit handle claimed).1)

/-- A call of the four functions that returned success. -/
def Succeeds (call : Call) (reply : Reply) : Prop := call.Transfers ∧ reply = .status .success

/-- In a run of successful calls that each fit the session they find, the ADC is
owned exactly while the drivers hold something for it. -/
theorem owner_matches {start : World} (initialised : Initialised chance start)
    (reached : Reaches (perform chance)
      (fun world call reply => Succeeds call reply ∧ call.FitsSession chance world) start world) :
    OwnerMatches world := by
  have kept : Accounted world := by
    refine reached.invariant Accounted (accounted_init initialised) ?_
    intro before call reply after accounted returned permitted
    obtain ⟨⟨transfers, rfl⟩, fits⟩ := permitted
    exact (Outcome.of_perform returned).accounted rfl transfers fits accounted
  exact kept.matches

theorem owner_matches_session :
    OwnerMatches (afterCalls [.setupTimeCriticalSampling 0 0, .releaseAdcFromCriticalSampling 0]) :=
  @owner_matches quiet _ (afterCalls []) rfl
    (.next (.releaseAdcFromCriticalSampling 0) (.status .success)
      (.next (.setupTimeCriticalSampling 0 0) (.status .success) .refl rfl
        ⟨⟨trivial, rfl⟩, fun _ => ⟨by decide, rfl⟩⟩) rfl ⟨⟨trivial, rfl⟩, rfl⟩)

/-- The release of continuous sessions also accepts the channel of a time-critical
one. Both calls succeed, and the unit stays claimed without an owner. -/
theorem release_keeps_unit :
    Reaches (perform quiet) (fun _ call reply => Succeeds call reply) (afterCalls [])
        (afterCalls [.setupTimeCriticalSampling 0 0, .releaseAdcController 1]) ∧
      ¬ OwnerMatches (afterCalls [.setupTimeCriticalSampling 0 0, .releaseAdcController 1]) := by
  refine ⟨?_, by decide⟩
  exact .next (.releaseAdcController 1) (.status .success)
    (.next (.setupTimeCriticalSampling 0 0) (.status .success) .refl rfl ⟨trivial, rfl⟩) rfl ⟨trivial, rfl⟩

end LaserDriver.Adc
