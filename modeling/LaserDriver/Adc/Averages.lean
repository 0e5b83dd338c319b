import LaserDriver.Lib.Average
import LaserDriver.Adc.Exchanges

/-! The two calls that average, over the readings that the driver answered them with. -/

namespace LaserDriver.Adc
open Effects Program

variable {chance : Nat → Chance} {world after : World} {trace : List (Exchange Op)}

/-- What a loop has added up after its exchanges. -/
structure Summed (remaining : Nat) (exchanges : List (Exchange Op)) : Prop where
  unstored : exchanges.flatMap stored = []
  bounded : (readings exchanges).length ≤ remaining
  complete : (∀ answer ∈ readings exchanges, answer.isOk = true) → (readings exchanges).length = remaining

theorem Summed.cons {remaining channel : Nat} {statics : Statics} {handle : Option Handle} (summed : Summed remaining trace)
    (answer : Esp (Fin 4096)) :
    Summed (remaining + 1) (⟨.load, statics⟩ :: ⟨.driver (.oneshotRead handle channel), answer⟩ :: trace) where
  unstored := summed.unstored
  bounded := Nat.succ_le_succ summed.bounded
  complete := by
    intro clean
    have later := (List.forall_mem_cons.mp (show ∀ other ∈ answer :: readings trace, other.isOk = true from clean)).2
    exact congrArg Nat.succ (summed.complete later)

theorem sumReadings_returns {channel remaining : Nat} {sum result : UInt32}
    (returned : (sumReadings channel remaining sum).Returns trace result) :
    result = sum + .ofNat (succeeded trace).sum ∧ Summed remaining trace := by
  induction remaining generalizing sum trace with
  | zero =>
    obtain ⟨rfl, rfl⟩ := returned
    exact ⟨by simp [succeeded, readings], rfl, Nat.le_refl _, fun _ => rfl⟩
  | succ remaining ih =>
    obtain ⟨statics, _, rfl, answer, rest, rfl, returned⟩ := returned
    cases answer with
    | ok raw =>
      obtain ⟨total, summed⟩ := ih returned
      refine ⟨?_, summed.cons _⟩
      rw [total, UInt32.add_assoc, ← UInt32.ofNat_add]
      rfl
    | error error =>
      obtain ⟨total, summed⟩ := ih returned
      exact ⟨total, summed.cons _⟩

theorem readSamples_returns {channel remaining : Nat} {sum result : UInt32}
    (returned : (readSamples channel remaining sum).Returns trace result) :
    result = sum + .ofNat (succeeded trace).sum ∧ Summed remaining trace := by
  induction remaining generalizing sum trace with
  | zero =>
    obtain ⟨rfl, rfl⟩ := returned
    exact ⟨by simp [succeeded, readings], rfl, Nat.le_refl _, fun _ => rfl⟩
  | succ remaining ih =>
    obtain ⟨statics, _, rfl, answer, rest, rfl, returned⟩ := returned
    cases answer with
    | ok raw =>
      obtain ⟨total, summed⟩ := ih returned
      refine ⟨?_, summed.cons _⟩
      rw [total, UInt32.add_assoc, ← UInt32.ofNat_add]
      rfl
    | error error =>
      obtain ⟨rfl, rfl⟩ := returned
      refine ⟨(UInt32.add_zero _).symm, rfl, Nat.succ_le_succ (Nat.zero_le _), ?_⟩
      intro clean
      cases clean _ List.mem_cons_self

theorem divide_returns {dividend divisor result : UInt32} (returned : (divide dividend divisor).Returns trace result) :
    divisor ≠ 0 ∧ trace = [] ∧ result = dividend / divisor := by
  unfold divide at returned
  split at returned
  · obtain ⟨⟨⟩, -⟩ := returned
  · next nonzero =>
    obtain ⟨rfl, rfl⟩ := returned
    exact ⟨nonzero, rfl, rfl⟩

/-- The call stored the quotient of the sum of what succeeded, in machine words, and no more. -/
structure Averaged (count : UInt32) (address : Nat) (exchanges : List (Exchange Op)) : Prop where
  counted : count ≠ 0
  stored : exchanges.flatMap stored = [(address, (UInt32.ofNat (succeeded exchanges).sum / count).toUInt16)]
  bounded : (readings exchanges).length ≤ count.toNat
  complete : (∀ answer ∈ readings exchanges, answer.isOk = true) → (readings exchanges).length = count.toNat

/-- What is exchanged around the average does not matter. -/
theorem Averaged.of_same {count : UInt32} {address : Nat} {exchanges : List (Exchange Op)}
    (averaged : Averaged count address trace) (read : readings exchanges = readings trace)
    (written : exchanges.flatMap Adc.stored = trace.flatMap Adc.stored) : Averaged count address exchanges := by
  have sum : succeeded exchanges = succeeded trace := by rw [succeeded, read, succeeded]
  refine ⟨averaged.counted, ?_, ?_, ?_⟩
  · rw [sum, written]
    exact averaged.stored
  · rw [read]
    exact averaged.bounded
  · rw [read]
    exact averaged.complete

theorem Averaged.prepend {count : UInt32} {address : Nat} {first : List (Exchange Op)} (averaged : Averaged count address trace)
    (silent : ∀ exchange ∈ first, Silent _ exchange.operation) : Averaged count address (first ++ trace) := by
  obtain ⟨unread, unstored⟩ := readings_silent silent
  apply averaged.of_same
  · rw [readings_append, unread, List.nil_append]
  · rw [List.flatMap_append, unstored, List.nil_append]

theorem Averaged.append {count : UInt32} {address : Nat} {last : List (Exchange Op)} (averaged : Averaged count address trace)
    (silent : ∀ exchange ∈ last, Silent _ exchange.operation) : Averaged count address (trace ++ last) := by
  obtain ⟨unread, unstored⟩ := readings_silent silent
  apply averaged.of_same
  · rw [readings_append, unread, List.append_nil]
  · rw [List.flatMap_append, unstored, List.append_nil]

theorem Averaged.cons {count : UInt32} {address : Nat} {β : Type} {op : Op β} {reply : β}
    (averaged : Averaged count address trace) (silent : Silent _ op) : Averaged count address (⟨op, reply⟩ :: trace) := by
  refine @Averaged.prepend trace count address [⟨op, reply⟩] averaged ?_
  intro exchange member
  cases List.mem_singleton.mp member
  exact silent

theorem Summed.store {count : UInt32} (summed : Summed count.toNat trace) (counted : count ≠ 0) (address : Nat) :
    Averaged count address
      (trace ++ [⟨.writeResult address (UInt32.ofNat (succeeded trace).sum / count).toUInt16, ()⟩]) := by
  have same : readings (trace ++ [⟨.writeResult address (UInt32.ofNat (succeeded trace).sum / count).toUInt16, ()⟩]) =
      readings trace := by
    rw [readings_append]
    exact List.append_nil _
  have sum : succeeded (trace ++ [⟨.writeResult address (UInt32.ofNat (succeeded trace).sum / count).toUInt16, ()⟩]) =
      succeeded trace := by rw [succeeded, same, succeeded]
  refine ⟨counted, ?_, ?_, ?_⟩
  · rw [sum, List.flatMap_append, summed.unstored]
    rfl
  · rw [same]
    exact summed.bounded
  · rw [same]
    exact summed.complete

theorem averageOneShot_returns {config : OneShotConfig} {pResult : Nat} {ret : Ret}
    (returned : (averageOneShot config pResult).Returns trace ret) : Averaged config.nbSample pResult trace := by
  obtain ⟨summing, sum, _, rfl, added, divides⟩ := returns_bind.mp returned
  obtain ⟨dividing, quotient, _, rfl, divided, writes⟩ := returns_bind.mp divides
  obtain ⟨⟨⟩, rest, rfl, released⟩ := writes
  obtain ⟨total, summed⟩ := readSamples_returns added
  obtain ⟨nonzero, rfl, rfl⟩ := divide_returns divided
  rw [UInt32.zero_add] at total
  subst total
  have silent := released.only (silent_delUnit.bind fun deleted => by
    cases deleted with
    | true => exact (silent_modify _).bind fun _ => silent_leave _
    | false => exact silent_abandon)
  have whole := (summed.store nonzero pResult).append silent
  rw [List.append_assoc] at whole
  exact whole

theorem sampleOneShot_returns {config : OneShotConfig} (returned : (sampleOneShot config).Returns trace .success) :
    ∃ pResult, config.pResult = some pResult ∧ Averaged config.nbSample pResult trace := by
  unfold sampleOneShot at returned
  split at returned
  · cases abandon_returns returned
  · next pResult buffer =>
    obtain ⟨claiming, claimed, _, rfl, claims, rest⟩ := returns_bind.mp returned
    cases claimed with
    | false =>
      rw [if_neg Bool.false_ne_true] at rest
      cases abandon_returns rest
    | true =>
      rw [if_pos rfl] at rest
      obtain ⟨configuring, accepted, _, rfl, configures, rest⟩ := returns_bind.mp rest
      cases accepted with
      | false =>
        rw [if_neg Bool.false_ne_true] at rest
        obtain ⟨_, _, _, _, _, rest⟩ := returns_bind.mp rest
        obtain ⟨_, _, _, _, _, rest⟩ := returns_bind.mp rest
        cases leave_returns rest
      | true =>
        rw [if_pos rfl] at rest
        refine ⟨pResult, buffer, ?_⟩
        apply Averaged.prepend _ (claims.only silent_newUnit)
        apply Averaged.prepend _ (configures.only (silent_configChannel _ _))
        exact averageOneShot_returns rest

/-- The calls that average, with their count and the place of the result. -/
inductive Averages : Call → UInt32 → Nat → Prop where
  | oneShot (config : OneShotConfig) {pResult : Nat} (buffer : config.pResult = some pResult) :
      Averages (.startSampling (.oneShot (some config))) config.nbSample pResult
  | timeCritical (ctrlChannel : Nat) (nbSamples : UInt32) (pResult : Nat) :
      Averages (.startTimeCriticalSampling ctrlChannel nbSamples (some pResult)) nbSamples pResult

theorem startOneShot_returns {config : OneShotConfig} (returned : (startOneShot config).Returns trace .success) :
    ∃ pResult, config.pResult = some pResult ∧ Averaged config.nbSample pResult trace := by
  unfold startOneShot at returned
  split at returned
  · cases leave_returns returned
  · obtain ⟨statics, _, rfl, rest⟩ := returned
    change Program.Returns (ite _ _ _) _ _ at rest
    split at rest
    · obtain ⟨⟨⟩, _, rfl, rest⟩ := rest
      obtain ⟨pResult, buffer, averaged⟩ := sampleOneShot_returns rest
      refine ⟨pResult, buffer, Averaged.cons ?_ ?_⟩
      · exact averaged.cons trivial
      · trivial
    · split at rest
      · cases leave_returns rest
      · obtain ⟨pResult, buffer, averaged⟩ := sampleOneShot_returns rest
        exact ⟨pResult, buffer, averaged.cons trivial⟩

theorem startTimeCriticalSampling_returns {ctrlChannel pResult : Nat} {nbSamples : UInt32}
    (returned : (startTimeCriticalSampling ctrlChannel nbSamples (some pResult)).Returns trace .success) :
    Averaged nbSamples pResult trace := by
  obtain ⟨statics, _, rfl, rest⟩ := returned
  change Program.Returns (ite _ _ _) _ _ at rest
  split at rest
  · cases rest.2
  · obtain ⟨summing, sum, _, rfl, added, divides⟩ := returns_bind.mp rest
    obtain ⟨dividing, quotient, _, rfl, divided, writes⟩ := returns_bind.mp divides
    obtain ⟨⟨⟩, _, rfl, rfl, -⟩ := writes
    obtain ⟨total, summed⟩ := sumReadings_returns added
    obtain ⟨nonzero, rfl, rfl⟩ := divide_returns divided
    rw [UInt32.zero_add] at total
    subst total
    exact (summed.store nonzero pResult).cons trivial

theorem Averages.returns {call : Call} {count : UInt32} {address : Nat} (averages : Averages call count address)
    (returned : call.body.Returns trace (.status .success)) : Averaged count address trace := by
  cases averages with
  | oneShot config buffer =>
    have started : (startSampling (.oneShot (some config))).Returns trace .success := status_returns returned
    obtain ⟨⟨⟩, _, rfl, rest⟩ := started
    obtain ⟨pResult, given, averaged⟩ := startOneShot_returns rest
    obtain rfl := Option.some.inj (buffer.symm.trans given)
    exact averaged.cons trivial
  | timeCritical ctrlChannel nbSamples pResult =>
    exact startTimeCriticalSampling_returns (status_returns returned)

theorem average_toNat {count : UInt32} {samples : List Nat} (bounded : samples.length ≤ count.toNat)
    (small : ∀ sample ∈ samples, sample ≤ 4095) :
    (UInt32.ofNat samples.sum / count).toUInt16.toNat = samples.sum % 2 ^ 32 / count.toNat := by
  have fits := @Average.mean_le samples count.toNat (2 ^ 32) 4095 bounded small
  rw [UInt32.toNat_toUInt16, UInt32.toNat_div, UInt32.toNat_ofNat']
  exact Nat.mod_eq_of_lt (Nat.lt_of_le_of_lt fits (by decide))

/-- The checks of an averaging call pass, and the unit of a one-shot request can be claimed and configured. -/
def Accepted (chance : Nat → Chance) (world : World) : Call → Prop
  | .startSampling (.oneShot (some config)) =>
    world.mutex = .free ∧ (Call.startSampling (.oneShot (some config))).Admitted world.statics.activeCtrlChannels ∧
      config.pResult ≠ none ∧ (chance world.clock).fault = none ∧ world.driver.unit = none ∧
      ChannelAccepted chance (world.clock + 1) config.ctrlChannel config.ctrlAtten
  | .startTimeCriticalSampling ctrlChannel nbSamples pResult =>
    (Call.startTimeCriticalSampling ctrlChannel nbSamples pResult).Admitted world.statics.activeCtrlChannels
  | _ => False

/-- The call returns, and what it stores is the mean of its readings over unbounded integers, rounded down. -/
def StoresMean (chance : Nat → Chance) (world : World) (call : Call) (count : UInt32) (address : Nat) : Prop :=
  ∃ after value, perform chance call world = (some (.status .success), after) ∧
    after.results = world.results ++ [(address, value)] ∧
    (succeeded (exchanged chance call world)).length = count.toNat ∧
    value.toNat = (succeeded (exchanged chance call world)).sum / count.toNat ∧
    Average.Within value.toNat (succeeded (exchanged chance call world))

section Average
variable {call : Call} {count : UInt32} {address : Nat} (averages : Averages call count address)
include averages

theorem Averages.stores (returned : perform chance call world = (some (.status .success), after)) :
    ∃ value, after.results = world.results ++ [(address, value)] ∧
      value.toNat = (succeeded (exchanged chance call world)).sum % 2 ^ 32 / count.toNat ∧
      0 < count.toNat ∧ (succeeded (exchanged chance call world)).length ≤ count.toNat := by
  have averaged := averages.returns (returns_of_run returned)
  have enough := Nat.le_trans (succeeded_length_le _) averaged.bounded
  have positive : 0 < count.toNat := Nat.pos_of_ne_zero (fun zero => averaged.counted (UInt32.toNat_inj.mp zero))
  refine ⟨_, ?_, average_toNat enough (succeeded_le _), positive, enough⟩
  rw [perform_results returned]
  exact congrArg _ averaged.stored

/-- A successful call stores a value between the smallest and the largest reading that
succeeded exactly when these readings tolerate the samples it did not get. -/
theorem average_within_iff (returned : perform chance call world = (some (.status .success), after)) :
    (∃ value, after.results = world.results ++ [(address, value)] ∧
      Average.Within value.toNat (succeeded (exchanged chance call world))) ↔
    Average.Tolerates (2 ^ 32) count.toNat (succeeded (exchanged chance call world)) := by
  obtain ⟨value, results, quotient, positive, enough⟩ := averages.stores returned
  rw [← Average.within_iff positive enough, ← quotient]
  constructor
  · intro ⟨other, same, within⟩
    rw [results, List.append_cancel_left_eq] at same
    obtain rfl : value = other := by simpa using same
    exact within
  · intro within
    exact ⟨value, results, within⟩

theorem Averages.succeeds (accepted : Accepted chance world call) (counted : count ≠ 0) :
    ∃ after, perform chance call world = (some (.status .success), after) := by
  generalize ran : perform chance call world = answer
  obtain ⟨answer, after⟩ := answer
  refine ⟨after, ?_⟩
  have outcome := Outcome.of_perform ran
  cases averages with
  | oneShot config buffer =>
    obtain ⟨free, admitted, given, clean, unclaimed, configured⟩ := accepted
    cases outcome with
    | waits _ taken => exact absurd free taken
    | refused _ rejected => exact absurd admitted rejected
    | oneShot config free admitted outcome =>
      cases outcome with
      | noBuffer missing => exact absurd missing given
      | refused refused => exact absurd refused (not_or.mpr ⟨not_not.mpr clean, not_not.mpr unclaimed⟩)
      | misconfigured _ _ rejected => exact absurd configured rejected
      | trapped _ _ _ _ divisor => exact absurd divisor counted
      | sampled => rfl
  | timeCritical ctrlChannel nbSamples pResult =>
    cases outcome with
    | waits locking => cases locking
    | refused _ rejected => exact absurd accepted rejected
    | undivided => exact absurd rfl counted
    | timeCritical => rfl

/-- With readings that all succeed an accepted call stores their mean exactly when it was
asked for at least one and their sum fits the accumulator. -/
theorem average_exact_iff (accepted : Accepted chance world call)
    (clean : ∀ answer ∈ readings (exchanged chance call world), answer.isOk = true) :
    StoresMean chance world call count address ↔
      count ≠ 0 ∧ (succeeded (exchanged chance call world)).sum < 2 ^ 32 := by
  constructor
  · intro ⟨after, value, returned, results, _, mean, _⟩
    obtain ⟨other, same, quotient, positive, _⟩ := averages.stores returned
    rw [results, List.append_cancel_left_eq] at same
    obtain rfl : value = other := by simpa using same
    refine ⟨(averages.returns (returns_of_run returned)).counted, ?_⟩
    rw [← Average.mod_div_eq_iff positive (Nat.le_of_lt count.toNat_lt), ← quotient]
    exact mean
  · intro ⟨counted, fits⟩
    obtain ⟨after, returned⟩ := averages.succeeds accepted counted
    obtain ⟨value, results, quotient, positive, enough⟩ := averages.stores returned
    have complete : (succeeded (exchanged chance call world)).length = count.toNat :=
      (succeeded_length clean).trans ((averages.returns (returns_of_run returned)).complete clean)
    have sampled : succeeded (exchanged chance call world) ≠ [] := by
      intro empty
      rw [empty, List.length_nil] at complete
      omega
    refine ⟨after, value, returned, results, complete, ?_, ?_⟩
    · rw [quotient, Nat.mod_eq_of_lt fits]
    · rw [quotient, Average.within_iff positive enough, ← complete]
      exact Average.tolerates_complete sampled fits

end Average

/-- Readings of 100, and one driver call that fails. -/
def failingAt (clock : Nat) : Nat → Chance :=
  fun n => { quiet n with fault := if n = clock then some .timeout else none, raw := ⟨100, by decide⟩ }

def twoSamples : OneShotConfig := ⟨0, 0, 2, some 7⟩

theorem average_exact_two :
    StoresMean (failingAt 9) (perform (failingAt 9) .initController .boot).2 (.startSampling (.oneShot (some twoSamples))) 2 7 := by
  refine (average_exact_iff (.oneShot twoSamples rfl) ?_ ?_).mpr ?_
  · exact ⟨rfl, ⟨by decide, .inl rfl⟩, nofun, rfl, rfl, by decide⟩
  · decide
  · decide

/-- Neither call returns when it is asked for no samples. -/
theorem average_of_none :
    Accepted quiet (afterCalls []) (.startSampling (.oneShot (some ⟨0, 0, 0, some 7⟩))) ∧
    ¬ StoresMean quiet (afterCalls []) (.startSampling (.oneShot (some ⟨0, 0, 0, some 7⟩))) 0 7 ∧
    Accepted quiet (afterCalls [.setupTimeCriticalSampling 0 0]) (.startTimeCriticalSampling 0 0 (some 7)) ∧
    ¬ StoresMean quiet (afterCalls [.setupTimeCriticalSampling 0 0]) (.startTimeCriticalSampling 0 0 (some 7)) 0 7 := by
  have stuck : (perform quiet (.startSampling (.oneShot (some ⟨0, 0, 0, some 7⟩))) (afterCalls [])).1 = none := rfl
  have stuck' : (perform quiet (.startTimeCriticalSampling 0 0 (some 7))
      (afterCalls [.setupTimeCriticalSampling 0 0])).1 = none := rfl
  refine ⟨⟨rfl, ⟨by decide, .inl rfl⟩, nofun, rfl, rfl, by decide⟩, ?_, ⟨by decide, rfl⟩, ?_⟩
  · intro ⟨after, value, returned, _⟩
    rw [returned] at stuck
    cases stuck
  · intro ⟨after, value, returned, _⟩
    rw [returned] at stuck'
    cases stuck'

theorem average_within_two :
    ∃ value, (perform (failingAt 9) (.startSampling (.oneShot (some twoSamples)))
        (perform (failingAt 9) .initController .boot).2).2.results = [] ++ [(7, value)] ∧
      Average.Within value.toNat (succeeded (exchanged (failingAt 9) (.startSampling (.oneShot (some twoSamples)))
        (perform (failingAt 9) .initController .boot).2)) := by
  have returned : perform (failingAt 9) (.startSampling (.oneShot (some twoSamples)))
    (perform (failingAt 9) .initController .boot).2 = (some (.status .success), _) := rfl
  refine (average_within_iff (.oneShot twoSamples rfl) returned).mpr ⟨100, rfl, .inr ?_⟩
  decide

/-- The second of two readings of 100 fails, and 50 is stored with success. A time-critical
reading that fails is stored as zero, with success too. -/
theorem average_halved :
    (∃ after, perform (failingAt 4) (.startSampling (.oneShot (some twoSamples)))
        (perform (failingAt 4) .initController .boot).2 = (some (.status .success), after) ∧
      after.results = [(7, 50)] ∧
      succeeded (exchanged (failingAt 4) (.startSampling (.oneShot (some twoSamples)))
        (perform (failingAt 4) .initController .boot).2) = [100] ∧ ¬ Average.Within 50 [100]) ∧
    (∃ after, perform (failingAt 3) (.startTimeCriticalSampling 0 1 (some 7))
        (trail (perform (failingAt 3)) [.initController, .setupTimeCriticalSampling 0 0] .boot) =
          (some (.status .success), after) ∧
      after.results = [(7, 0)] ∧
      succeeded (exchanged (failingAt 3) (.startTimeCriticalSampling 0 1 (some 7))
        (trail (perform (failingAt 3)) [.initController, .setupTimeCriticalSampling 0 0] .boot)) = []) := by
  refine ⟨⟨_, rfl, rfl, rfl, ?_⟩, _, rfl, rfl, rfl⟩
  intro within
  have tolerated := (@Average.within_iff [100] 2 (2 ^ 32) (by decide) (by decide)).mp within
  exact Average.not_tolerates_level (by decide) (fun sample member => List.mem_singleton.mp member) (by decide) tolerated

end LaserDriver.Adc
