import LaserDriver.Adc.Cases

/-! Which handles reach the drivers. The handle of a released unit or session stays
in its static variable, so a later call of another kind can pass it on. -/

namespace LaserDriver.Adc
open Effects

variable {chance : Nat → Chance} {world after : World} {call : Call} {answer : Option Reply}

/-- The controller holds the handle of the claimed unit, or none at all. -/
def UnitTracked (world : World) : Prop :=
  ∀ handle, world.driver.unit = some handle →
    world.statics.oneshotHandle = none ∨ world.statics.oneshotHandle = some handle

/-- Every driver call so far was given NULL or a live handle. -/
def HandlesLive (world : World) : Prop := ∀ issued ∈ world.log, issued.Sound

instance (world : World) : Decidable (HandlesLive world) := inferInstanceAs (Decidable (∀ issued ∈ world.log, _))

/-- A one-shot unit is claimed, or the controller holds no handle of one. -/
def UnitOrNull (world : World) : Prop := world.driver.unit ≠ none ∨ world.statics.oneshotHandle = none

/-- The last continuous handle was not freed, or the controller holds none. -/
def SessionOrNull (world : World) : Prop :=
  ∀ handle, world.statics.continuousHandle = some handle → (world.driver.context handle).isSome

/-- What a call must find so as not to use a handle that an earlier one freed. -/
def Call.FindsHandle (chance : Nat → Chance) (world : World) (call : Call) : Prop :=
  (call.locks = true → world.mutex = .free) → call.Admitted world.statics.activeCtrlChannels →
  match call with
  | .setupTimeCriticalSampling .. => (chance world.clock).fault = none ∨ UnitOrNull world
  | .startTimeCriticalSampling _ nbSamples _ => nbSamples ≠ 0 → UnitOrNull world
  | .releaseAdcFromCriticalSampling _ => UnitOrNull world
  | .releaseAdcController _ => SessionOrNull world
  | _ => True

theorem Issued.Sound.null : Issued.Sound ⟨none, false⟩ := .inl rfl

theorem Issued.Sound.live (handle : Option Handle) : Issued.Sound ⟨handle, true⟩ := .inr rfl

theorem oneshotIssued_sound_iff (tracked : UnitTracked world) : world.oneshotIssued.Sound ↔ UnitOrNull world := by
  cases stored : world.statics.oneshotHandle with
  | none => simp [Issued.Sound, World.oneshotIssued, UnitOrNull, stored]
  | some handle =>
    cases claimed : world.driver.unit with
    | none => simp [Issued.Sound, World.oneshotIssued, UnitOrNull, stored, claimed]
    | some owner =>
      have same := tracked owner claimed
      simp_all [Issued.Sound, World.oneshotIssued, UnitOrNull]

theorem continuousIssued_sound_iff : world.continuousIssued.Sound ↔ SessionOrNull world := by
  cases stored : world.statics.continuousHandle <;>
    simp [Issued.Sound, World.continuousIssued, SessionOrNull, stored]

theorem tracked_boot : UnitTracked .boot := nofun

theorem OneShotOutcome.tracked {config : OneShotConfig} {ret : Option Ret}
    (outcome : OneShotOutcome chance config world ret after) (tracked : UnitTracked world) : UnitTracked after := by
  cases outcome with
  | noBuffer => exact tracked
  | refused => exact tracked
  | misconfigured => exact nofun
  | trapped => exact fun _ claimed => .inr claimed
  | sampled => exact nofun

theorem ContinuousOutcome.tracked {config : ContinuousConfig} {callback : Callback} {ret : Option Ret}
    (outcome : ContinuousOutcome chance config callback world ret after) (tracked : UnitTracked world) :
    UnitTracked after := by
  cases outcome <;> exact tracked

theorem Outcome.tracked (outcome : Outcome chance world call answer after) (tracked : UnitTracked world) :
    UnitTracked after := by
  cases outcome with
  | initialised => exact fun _ _ => .inl rfl
  | uninitialised => exact fun _ _ => .inl rfl
  | setUp => exact fun _ claimed => .inr claimed
  | oneShot _ _ _ outcome => exact outcome.tracked tracked
  | continuous _ _ _ _ _ outcome => exact outcome.tracked tracked
  | unitFreed => exact nofun
  | _ => exact tracked

theorem handlesLive_ticks (world : World) (count : Nat) (issued : Issued) :
    HandlesLive (world.ticks count issued) ↔ HandlesLive world ∧ (count ≠ 0 → issued.Sound) := by
  simp only [HandlesLive, World.ticks, List.mem_append, List.mem_replicate, or_imp, forall_and, and_imp]
  exact and_congr_right fun _ => ⟨fun sound nonempty => sound issued nonempty rfl,
    fun sound _ nonempty same => same ▸ sound nonempty⟩

theorem handlesLive_tick (world : World) (issued : Issued) :
    HandlesLive (world.tick issued) ↔ HandlesLive world ∧ issued.Sound := by
  simp [HandlesLive, World.tick, or_imp, forall_and]

theorem handlesLive_null : HandlesLive (world.tick ⟨none, false⟩) ↔ HandlesLive world := by
  rw [handlesLive_tick]
  exact and_iff_left .null

theorem handlesLive_of_sound (count : Nat) {issued : Issued} (sound : issued.Sound) :
    HandlesLive ((world.tick ⟨none, false⟩).ticks count issued) ↔ HandlesLive world := by
  rw [handlesLive_ticks, handlesLive_null]
  exact and_iff_left (fun _ => sound)

theorem OneShotOutcome.handlesLive {config : OneShotConfig} {ret : Option Ret}
    (outcome : OneShotOutcome chance config world ret after) : HandlesLive after ↔ HandlesLive world := by
  cases outcome with
  | noBuffer => exact Iff.rfl
  | refused => exact @handlesLive_null world
  | misconfigured => exact @handlesLive_of_sound world 2 _ (.live _)
  | trapped => exact @handlesLive_of_sound world 1 _ (.live _)
  | sampled _ _ _ _ _ _ count => exact @handlesLive_of_sound world count _ (.live _)

theorem ContinuousOutcome.handlesLive {config : ContinuousConfig} {callback : Callback} {ret : Option Ret}
    (outcome : ContinuousOutcome chance config callback world ret after) : HandlesLive after ↔ HandlesLive world := by
  cases outcome with
  | refused => exact @handlesLive_null world
  | misconfigured => exact @handlesLive_of_sound world 1 _ (.live _)
  | unregistered => exact @handlesLive_of_sound world 2 _ (.live _)
  | unstarted => exact @handlesLive_of_sound world 3 _ (.live _)
  | waiting => exact @handlesLive_of_sound world 3 _ (.live _)
  | started => exact @handlesLive_of_sound world 3 _ (.live _)

theorem Outcome.handlesLive_iff (outcome : Outcome chance world call answer after) (tracked : UnitTracked world) :
    HandlesLive after ↔ HandlesLive world ∧ call.FindsHandle chance world := by
  cases outcome with
  | initialised => exact (and_iff_left (fun _ _ => trivial)).symm
  | uninitialised => exact (and_iff_left (fun _ _ => trivial)).symm
  | available => exact (and_iff_left (fun _ _ => trivial)).symm
  | waits locking taken => exact (and_iff_left (fun ready => absurd (ready locking) taken)).symm
  | refused _ rejected => exact (and_iff_left (fun _ admitted => absurd admitted rejected)).symm
  | undivided => exact (and_iff_left (fun _ _ sampled => absurd rfl sampled)).symm
  | setUp _ _ free admitted clean =>
    refine (@handlesLive_of_sound world 1 _ (.live _)).trans (and_iff_left ?_).symm
    exact fun _ _ => .inl clean
  | setUpAnyway _ _ free admitted refused =>
    refine (handlesLive_tick (world.tick ⟨none, false⟩) world.oneshotIssued).trans ?_
    rw [handlesLive_null, oneshotIssued_sound_iff tracked]
    refine and_congr_right fun _ => ⟨fun found _ _ => .inr found, fun finds => ?_⟩
    obtain clean | found := finds (fun _ => free) admitted
    · exact .inl (refused.resolve_left (not_not.mpr clean))
    · exact found
  | timeCritical _ nbSamples _ _ admitted sampled =>
    refine (handlesLive_ticks world nbSamples.toNat world.oneshotIssued).trans ?_
    rw [oneshotIssued_sound_iff tracked]
    have positive : nbSamples.toNat ≠ 0 := fun zero => sampled (UInt32.toNat_inj.mp zero)
    exact and_congr_right fun _ => ⟨fun found _ _ _ => found positive, fun finds _ => finds nofun admitted sampled⟩
  | oneShot _ _ _ outcome => exact outcome.handlesLive.trans (and_iff_left (fun _ _ => trivial)).symm
  | continuous _ _ _ _ _ outcome => exact outcome.handlesLive.trans (and_iff_left (fun _ _ => trivial)).symm
  | calibrated _ _ buffer _ _ _ sound =>
    exact (@handlesLive_of_sound world (buffer.length + 1) _ sound).trans (and_iff_left (fun _ _ => trivial)).symm
  | closed _ handle ctx _ _ stored found =>
    refine (handlesLive_ticks world 2 ⟨some handle, true⟩).trans (and_congr_right fun _ => ?_)
    refine iff_of_true (fun _ => .live _) (fun _ _ other same => ?_)
    rw [stored] at same
    cases same
    simp [found]
  | unopened _ free admitted =>
    refine (handlesLive_ticks world 2 world.continuousIssued).trans ?_
    rw [continuousIssued_sound_iff]
    exact and_congr_right fun _ =>
      ⟨fun found _ _ => found (by decide), fun finds _ => finds (fun _ => free) admitted⟩
  | unitFreed _ handle _ _ _ claimed =>
    refine (handlesLive_tick world ⟨some handle, true⟩).trans (and_congr_right fun _ => ?_)
    exact iff_of_true (.live _) (fun _ _ => .inl (by simp [claimed]))
  | unitKept _ free admitted =>
    refine (handlesLive_tick world world.oneshotIssued).trans ?_
    rw [oneshotIssued_sound_iff tracked]
    exact and_congr_right fun _ => ⟨fun found _ _ => found, fun finds => finds (fun _ => free) admitted⟩

/-- A run of any calls, with any answers of the drivers, uses no freed handle
exactly when none of its calls comes upon one. -/
theorem run_handlesLive_iff (chance : Nat → Chance) (calls : List Call) :
    HandlesLive (trail (perform chance) calls .boot) ↔
      Meets (perform chance) (fun world call => call.FindsHandle chance world) calls .boot := by
  have exact := trail_iff_meets UnitTracked HandlesLive
    (fun call world => (perform_outcome chance call world).tracked)
    (fun call world => (perform_outcome chance call world).handlesLive_iff) calls .boot tracked_boot
  exact exact.trans (and_iff_right nofun)

/-- A continuous session is released and its channel set up for time-critical
sampling; the release meant for a continuous session then finds the freed handle. -/
theorem release_uses_freed_handle :
    ¬ HandlesLive (trail (perform quiet)
      [.initController, .startSampling (.continuous (some ⟨1, 0, 1, 1000, some 0⟩)), .releaseAdcController 1,
        .setupTimeCriticalSampling 0 0, .releaseAdcController 1] .boot) := by
  decide

end LaserDriver.Adc
