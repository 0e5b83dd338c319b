import LaserDriver.Adc.Cases

/-! Who owns the ADC. While it is owned for one set of channels, every request for
another set fails without a trace. -/

namespace LaserDriver.Adc
open Effects

variable {chance : Nat → Chance} {world after : World} {call : Call} {answer : Option Reply}

/-- Between calls the mutex is free. It is missing only after an initialisation
that failed, which also disowns the ADC. -/
def Ready (world : World) : Prop :=
  world.mutex = .free ∨ (world.mutex = .absent ∧ world.statics.activeCtrlChannels = 0)

theorem Ready.free (ready : Ready world) (owned : world.statics.activeCtrlChannels ≠ 0) : world.mutex = .free :=
  ready.resolve_right (fun missing => owned missing.2)

theorem OneShotOutcome.gives {config : OneShotConfig} {ret : Option Ret}
    (outcome : OneShotOutcome chance config world ret after) (answered : ret ≠ none) : after.mutex = .free := by
  cases outcome with
  | trapped => exact absurd rfl answered
  | _ => rfl

theorem ContinuousOutcome.gives {config : ContinuousConfig} {callback : Callback} {ret : Option Ret}
    (outcome : ContinuousOutcome chance config callback world ret after) (answered : ret ≠ none) :
    after.mutex = .free := by
  cases outcome with
  | waiting => exact absurd rfl answered
  | _ => rfl

theorem Outcome.ready (outcome : Outcome chance world call answer after) (answered : answer ≠ none)
    (ready : Ready world) : Ready after := by
  cases outcome with
  | initialised => exact .inl rfl
  | uninitialised => exact .inr ⟨rfl, rfl⟩
  | waits => exact absurd rfl answered
  | undivided => exact absurd rfl answered
  | refused => exact ready
  | available => exact ready
  | timeCritical => exact ready
  | calibrated => exact ready
  | oneShot _ _ _ outcome => exact .inl (outcome.gives (by simpa using answered))
  | continuous _ _ _ _ _ outcome => exact .inl (outcome.gives (by simpa using answered))
  | _ => exact .inl rfl

theorem Initialised.ready (initialised : Initialised chance world) : Ready world :=
  (Outcome.of_perform initialised).ready nofun (.inr ⟨rfl, rfl⟩)

theorem Reachable.ready (reached : Reachable chance world) : Ready world := by
  obtain ⟨start, initialised, reaches⟩ := reached
  refine reaches.invariant Ready initialised.ready ?_
  intro before input reply after ready returned _
  exact (Outcome.of_perform returned).ready nofun ready

/-- A request for other channels than the ADC is owned for. -/
def Call.Foreign (owner : Nat) : Call → Prop
  | .setupTimeCriticalSampling ctrlChannel _ | .startTimeCriticalSampling ctrlChannel _ _
  | .releaseAdcFromCriticalSampling ctrlChannel => ctrlChannel < 32 ∧ 1 <<< ctrlChannel ≠ owner
  | .startSampling (.oneShot (some config)) => config.ctrlChannel < 32 ∧ 1 <<< config.ctrlChannel ≠ owner
  | .startSampling (.continuous (some config)) => config.channelMask.toNat ≠ owner
  | .releaseAdcController channelMask => channelMask.toNat ≠ owner
  | _ => False

private theorem shift_foreign {ctrlChannel owner : Nat} (foreign : ctrlChannel < 32 ∧ 1 <<< ctrlChannel ≠ owner) :
    owner ≠ shiftULL ctrlChannel ∧ owner ≠ shiftUL ctrlChannel := by
  rw [Nat.one_shiftLeft] at foreign
  rw [shiftULL_of_lt (foreign.1.trans (by decide)), shiftUL_of_lt foreign.1]
  exact ⟨foreign.2.symm, foreign.2.symm⟩

theorem Call.Foreign.rejected {owner : Nat} (foreign : call.Foreign owner) (owned : owner ≠ 0) :
    ¬ call.Admitted owner := by
  cases call with
  | setupTimeCriticalSampling =>
    intro either
    rcases either with unowned | same
    · exact owned unowned.2
    · exact (shift_foreign foreign).2 same
  | startTimeCriticalSampling => exact fun admitted => (shift_foreign foreign).1 admitted.2
  | releaseAdcFromCriticalSampling => exact fun admitted => (shift_foreign foreign).1 admitted.2
  | releaseAdcController => exact fun admitted => foreign admitted.2.symm
  | startSampling sampling =>
    match sampling with
    | .oneShot (some config) => exact fun admitted => admitted.2.elim owned (shift_foreign foreign).1
    | .continuous (some config) => exact fun admitted => admitted.2.elim owned (Ne.symm foreign)
  | _ => exact foreign.elim

theorem Call.Foreign.refusal_eq {owner : Nat} (foreign : call.Foreign owner) : call.refusal = .status .fail := by
  cases call <;> first | rfl | exact absurd foreign id

/-- Nothing of the world changes: not the owner, the handles and the callback, not
the drivers and the log of their calls, and no result is written. -/
theorem foreign_call_fails (reached : Reachable chance world) (owned : world.statics.activeCtrlChannels ≠ 0)
    (foreign : call.Foreign world.statics.activeCtrlChannels) :
    perform chance call world = (some (.status .fail), world) := by
  rw [perform_refused (fun _ => reached.ready.free owned) (foreign.rejected owned), foreign.refusal_eq]

theorem foreign_release_fails :
    perform quiet (.releaseAdcController 2) (afterCalls [.setupTimeCriticalSampling 0 0]) =
      (some (.status .fail), afterCalls [.setupTimeCriticalSampling 0 0]) :=
  foreign_call_fails ⟨afterCalls [], rfl, .next (.setupTimeCriticalSampling 0 0) (.status .success) .refl rfl trivial⟩
    (by decide) (by exact (by decide : 2 ≠ 1))

def OwnedForChannels (world : World) : Prop :=
  ∀ channel, world.statics.activeCtrlChannels.testBit channel = true → channel < ctrlChannelInvalid

/-- One call of a release function disowns the ADC. -/
def Releasable (chance : Nat → Chance) (world : World) : Prop :=
  ∃ release after, ((∃ channelMask, release = .releaseAdcController channelMask) ∨
      ∃ ctrlChannel, release = .releaseAdcFromCriticalSampling ctrlChannel) ∧
    perform chance release world = (some (.status .success), after) ∧ after.statics.activeCtrlChannels = 0

theorem ownedForChannels_iff : OwnedForChannels world ↔ world.statics.activeCtrlChannels < 2 ^ ctrlChannelInvalid := by
  constructor
  · intro owned
    refine Nat.lt_pow_two_of_testBit _ (fun channel beyond => ?_)
    exact Bool.eq_false_iff.mpr (fun set => Nat.not_lt.mpr beyond (owned channel set))
  · intro small channel set
    by_contra beyond
    rw [Nat.testBit_lt_two_pow (small.trans_le (Nat.pow_le_pow_right (by decide) (Nat.not_lt.mp beyond)))] at set
    cases set

theorem release_succeeds {channelMask : UInt8} (free : world.mutex = .free)
    (admitted : (Call.releaseAdcController channelMask).Admitted world.statics.activeCtrlChannels) :
    ∃ after, perform chance (.releaseAdcController channelMask) world = (some (.status .success), after) ∧
      after.statics.activeCtrlChannels = 0 := by
  rcases performed : perform chance (.releaseAdcController channelMask) world with ⟨answer, after⟩
  cases Outcome.of_perform performed with
  | waits _ taken => exact absurd free taken
  | refused _ rejected => exact absurd admitted rejected
  | closed => exact ⟨_, rfl, rfl⟩
  | unopened => exact ⟨_, rfl, rfl⟩

theorem releasable (free : world.mutex = .free) (owned : world.statics.activeCtrlChannels ≠ 0)
    (small : world.statics.activeCtrlChannels < 2 ^ ctrlChannelInvalid) : Releasable chance world := by
  have fits : (UInt8.ofNat world.statics.activeCtrlChannels).toNat = world.statics.activeCtrlChannels :=
    UInt8.toNat_ofNat_of_lt' (small.trans (by decide))
  obtain ⟨after, released, disowned⟩ := @release_succeeds chance world _ free
    ⟨fun zero => owned (by rw [← fits, zero]; rfl), fits.symm⟩
  exact ⟨_, after, .inl ⟨_, rfl⟩, released, disowned⟩

/-- Owned for channels of the board only, and never for good. -/
def WellOwned (chance : Nat → Chance) (world : World) : Prop :=
  OwnedForChannels world ∧ (world.statics.activeCtrlChannels ≠ 0 → Releasable chance world)

def DriverClaims (chance : Nat → Chance) (world : World) (config : OneShotConfig) : Prop :=
  (chance world.clock).fault = none ∧ world.driver.unit = none ∧
    ChannelAccepted chance (world.clock + 1) config.ctrlChannel config.ctrlAtten

/-- The driver lets a continuous request through, up to the lock of the unit. -/
def DriverAccepts (chance : Nat → Chance) (world : World) (config : ContinuousConfig) : Prop :=
  frameSize config ≠ 0 ∧ FrequencyAccepted config ∧ ∀ n < 4, (chance (world.clock + n)).fault = none

/-- What a call that passes its checks must not do: own the ADC beyond its channels, or
stay inside with the ADC owned, in the division by no samples or waiting for the lock of
a running session. -/
def Call.OwnsChannels (chance : Nat → Chance) (world : World) (call : Call) : Prop :=
  (call.locks = true → world.mutex = .free) → call.Admitted world.statics.activeCtrlChannels →
  match call with
  | .setupTimeCriticalSampling ctrlChannel _ => ctrlChannel < 32 → ctrlChannel < ctrlChannelInvalid
  | .startSampling (.oneShot (some config)) =>
    config.pResult ≠ none → DriverClaims chance world config → config.nbSample ≠ 0
  | .startSampling (.continuous (some config)) =>
    DriverAccepts chance world config → world.driver.lock = false ∧ config.channelMask.toNat < 2 ^ ctrlChannelInvalid
  | _ => True

theorem wellOwned_iff : WellOwned chance world ↔
    world.statics.activeCtrlChannels < 2 ^ ctrlChannelInvalid ∧
      (world.statics.activeCtrlChannels ≠ 0 → world.mutex = .free) := by
  rw [WellOwned, ownedForChannels_iff]
  refine and_congr_right fun small => forall_congr' fun owned => ⟨?_, fun free => releasable free owned small⟩
  intro ⟨release, after, kind, released, _⟩
  have locking : release.locks = true := by
    obtain ⟨channelMask, rfl⟩ | ⟨ctrlChannel, rfl⟩ := kind <;> rfl
  by_contra taken
  rw [perform_waits locking taken] at released
  cases released

theorem wellOwned_unowned (unowned : after.statics.activeCtrlChannels = 0) : WellOwned chance after := by
  rw [wellOwned_iff, unowned]
  exact ⟨Nat.two_pow_pos _, fun owned => absurd rfl owned⟩

theorem wellOwned_free (free : after.mutex = .free) :
    WellOwned chance after ↔ after.statics.activeCtrlChannels < 2 ^ ctrlChannelInvalid := by
  rw [wellOwned_iff]
  exact and_iff_left fun _ => free

theorem not_wellOwned_inside (inside : after.mutex = .held) (owned : after.statics.activeCtrlChannels ≠ 0) :
    ¬ WellOwned chance after := by
  rw [wellOwned_iff]
  intro ⟨_, free⟩
  cases inside.symm.trans (free owned)

theorem shiftUL_small_iff (ctrlChannel : Nat) :
    shiftUL ctrlChannel < 2 ^ ctrlChannelInvalid ↔ (ctrlChannel < 32 → ctrlChannel < ctrlChannelInvalid) := by
  by_cases inside : ctrlChannel < 32
  · rw [shiftUL_of_lt inside, Nat.pow_lt_pow_iff_right (by decide)]
    exact ⟨fun below _ => below, fun below => below inside⟩
  · have lost : shiftUL ctrlChannel = 0 := Nat.mod_eq_zero_of_dvd (Nat.pow_dvd_pow 2 (Nat.not_lt.mp inside))
    rw [lost]
    exact iff_of_true (Nat.two_pow_pos _) fun below => absurd below inside

theorem OneShotOutcome.wellOwned_iff {config : OneShotConfig} {ret : Option Ret} {owner : Nat}
    (outcome : OneShotOutcome chance config (world.take.own owner) ret after) (owned : owner ≠ 0) :
    WellOwned chance after ↔ (config.pResult ≠ none → DriverClaims chance world config → config.nbSample ≠ 0) := by
  cases outcome with
  | noBuffer missing => exact iff_of_true (wellOwned_unowned rfl) fun given => absurd missing given
  | refused refused =>
    refine iff_of_true (wellOwned_unowned rfl) fun _ claims => ?_
    exact absurd refused (not_or.mpr ⟨not_not.mpr claims.1, not_not.mpr claims.2.1⟩)
  | misconfigured _ _ rejected => exact iff_of_true (wellOwned_unowned rfl) fun _ claims => absurd claims.2.2 rejected
  | trapped buffer clean unclaimed accepted divisor =>
    exact iff_of_false (not_wellOwned_inside rfl owned) fun divides =>
      divides buffer ⟨clean, unclaimed, accepted⟩ divisor
  | sampled _ _ _ _ _ nonzero => exact iff_of_true (wellOwned_unowned rfl) fun _ _ => nonzero

theorem ContinuousOutcome.wellOwned_iff {config : ContinuousConfig} {callback : Callback} {ret : Option Ret}
    (outcome : ContinuousOutcome chance config callback (world.take.own config.channelMask.toNat) ret after)
    (masked : config.channelMask.toNat ≠ 0) :
    WellOwned chance after ↔ (DriverAccepts chance world config →
      world.driver.lock = false ∧ config.channelMask.toNat < 2 ^ ctrlChannelInvalid) := by
  have refuted (wrong : ¬ DriverAccepts chance world config) (unowned : after.statics.activeCtrlChannels = 0) :
      WellOwned chance after ↔ (DriverAccepts chance world config →
        world.driver.lock = false ∧ config.channelMask.toNat < 2 ^ ctrlChannelInvalid) :=
    iff_of_true (wellOwned_unowned unowned) fun accepts => absurd accepts wrong
  cases outcome with
  | refused denied => exact refuted (fun accepts => denied ⟨accepts.2.2 0 (by decide), accepts.1⟩) rfl
  | misconfigured _ rejected => exact refuted (fun accepts => rejected ⟨accepts.2.1, accepts.2.2 1 (by decide)⟩) rfl
  | unregistered _ fault => exact refuted (fun accepts => fault (accepts.2.2 2 (by decide))) rfl
  | unstarted _ fault => exact refuted (fun accepts => fault (accepts.2.2 3 (by decide))) rfl
  | waiting locked clean sized inRange =>
    have busy : world.driver.lock = true := locked
    exact iff_of_false (not_wellOwned_inside rfl masked) fun finds =>
      Bool.false_ne_true ((finds ⟨sized, inRange, clean⟩).1.symm.trans busy)
  | started unlocked clean sized inRange =>
    have idle : world.driver.lock = false := unlocked
    refine (wellOwned_free rfl).trans ⟨fun small _ => ⟨idle, small⟩, fun finds => ?_⟩
    exact (finds ⟨sized, inRange, clean⟩).2

theorem Outcome.wellOwned_iff (outcome : Outcome chance world call answer after) (well : WellOwned chance world) :
    WellOwned chance after ↔ call.OwnsChannels chance world := by
  have well_kept := Adc.wellOwned_iff.mp well
  have setup_iff {ctrlChannel ctrlAtten : Nat} (free : world.mutex = .free) (released : after.mutex = .free)
      (owner : after.statics.activeCtrlChannels = shiftUL ctrlChannel)
      (admitted : (Call.setupTimeCriticalSampling ctrlChannel ctrlAtten).Admitted world.statics.activeCtrlChannels) :
      WellOwned chance after ↔ (Call.setupTimeCriticalSampling ctrlChannel ctrlAtten).OwnsChannels chance world := by
    rw [wellOwned_free released, owner, shiftUL_small_iff]
    exact ⟨fun small _ _ => small, fun owns => owns (fun _ => free) admitted⟩
  have unowned_iff (unowned : after.statics.activeCtrlChannels = 0) (owns : call.OwnsChannels chance world) :
      WellOwned chance after ↔ call.OwnsChannels chance world := iff_of_true (wellOwned_unowned unowned) owns
  cases outcome with
  | initialised => exact unowned_iff rfl fun _ _ => trivial
  | uninitialised => exact unowned_iff rfl fun _ _ => trivial
  | waits locking taken => exact iff_of_true well fun ready => absurd (ready locking) taken
  | refused _ rejected => exact iff_of_true well fun _ admitted => absurd admitted rejected
  | available => exact iff_of_true well fun _ _ => trivial
  | undivided => exact iff_of_true well fun _ _ => trivial
  | setUp _ _ free admitted => exact setup_iff free rfl rfl admitted
  | setUpAnyway _ _ free admitted => exact setup_iff free rfl rfl admitted
  | timeCritical => exact iff_of_true (Adc.wellOwned_iff.mpr well_kept) fun _ _ => trivial
  | calibrated => exact iff_of_true (Adc.wellOwned_iff.mpr well_kept) fun _ _ => trivial
  | oneShot config free admitted outcome =>
    have owned : shiftULL config.ctrlChannel ≠ 0 := by
      rw [shiftULL_of_lt (admitted.1.trans (by decide))]
      exact Nat.ne_of_gt (Nat.two_pow_pos _)
    refine (outcome.wellOwned_iff owned).trans ⟨fun divides _ _ => divides, fun owns => ?_⟩
    exact owns (fun _ => free) admitted
  | continuous config callback free given admitted outcome =>
    have masked : config.channelMask.toNat ≠ 0 := fun zero => admitted.1.1 (UInt8.toNat_inj.mp zero)
    refine (outcome.wellOwned_iff masked).trans ⟨fun finds _ _ => finds, fun owns => ?_⟩
    exact owns (fun _ => free) admitted
  | closed => exact unowned_iff rfl fun _ _ => trivial
  | unopened => exact unowned_iff rfl fun _ _ => trivial
  | unitFreed => exact unowned_iff rfl fun _ _ => trivial
  | unitKept => exact unowned_iff rfl fun _ _ => trivial

/-- In every state of a run, also where a call has not come back, the ADC is owned for its
channels only and can be released, exactly when every call of the run finds what it must. -/
theorem owner_releasable_iff (chance : Nat → Chance) (calls : List Call) :
    Always (perform chance) (WellOwned chance) calls .boot ↔
      Meets (perform chance) (fun world call => call.OwnsChannels chance world) calls .boot := by
  apply always_iff_meets _ calls .boot (wellOwned_unowned rfl)
  intro call world well
  exact (perform_outcome chance call world).wellOwned_iff well

/-- Channel 8 passes the setup, and no release accepts its bit. -/
theorem setup_eight_locks_out :
    Reachable quiet (afterCalls [.setupTimeCriticalSampling 8 0]) ∧
      ¬ OwnedForChannels (afterCalls [.setupTimeCriticalSampling 8 0]) ∧
      (afterCalls [.setupTimeCriticalSampling 8 0]).statics.activeCtrlChannels ≠ 0 ∧
      ¬ Releasable quiet (afterCalls [.setupTimeCriticalSampling 8 0]) := by
  refine ⟨⟨afterCalls [], rfl, .next (.setupTimeCriticalSampling 8 0) (.status .success) .refl rfl trivial⟩, ?_,
    by decide, ?_⟩
  · rw [ownedForChannels_iff]
    decide
  · intro ⟨release, after, kind, released, _⟩
    have rejected : ¬ release.Admitted (2 ^ 8) := by
      obtain ⟨channelMask, rfl⟩ | ⟨ctrlChannel, rfl⟩ := kind
      · exact fun admitted => absurd admitted.2 (Nat.ne_of_gt channelMask.toNat_lt)
      · intro ⟨below, same⟩
        rw [shiftULL_of_lt (below.trans (by decide))] at same
        exact absurd (Nat.pow_right_injective (le_refl 2) same) (Nat.ne_of_gt (below.trans (by decide)))
    rw [perform_refused (fun _ => rfl) rejected] at released
    obtain ⟨channelMask, rfl⟩ | ⟨ctrlChannel, rfl⟩ := kind <;> cases released

end LaserDriver.Adc
