import Mathlib.Data.List.Forall2
import LaserDriver.Adc.Exchanges

/-! What calibration leaves in the buffer of its caller, against the voltages that the
driver computed. -/

namespace LaserDriver.Adc
open Effects Program

variable {chance : Nat → Chance} {world after : World} {trace : List (Exchange Op)}

def conversion : Exchange Op → Option (UInt16 × Esp Int)
  | ⟨.driver (.caliRawToVoltage _ raw), answer⟩ => some (raw, answer)
  | _ => none

def conversions (exchanges : List (Exchange Op)) : List (UInt16 × Esp Int) := exchanges.filterMap conversion

/-- The element holds the voltage that the driver computed. -/
def Replaced (conversion : UInt16 × Esp Int) (value : UInt16) : Prop := conversion.2 = .ok (value.toNat : Int)

/-- Each element of the buffer was converted once, in order, and replaced by its voltage. -/
structure Calibrated (buffer converted : List UInt16) (exchanges : List (Exchange Op)) : Prop where
  once : (conversions exchanges).map Prod.fst = buffer
  replaced : List.Forall₂ Replaced (conversions exchanges) converted

/-- Success comes with the whole buffer calibrated, and failure with the buffer as it was. -/
structure AllOrNothing (pResult : Option (List UInt16)) (ret : Ret) (left : Option (List UInt16))
    (exchanges : List (Exchange Op)) : Prop where
  success : ret = .success →
    ∃ buffer converted, pResult = some buffer ∧ left = some converted ∧ Calibrated buffer converted exchanges
  fail : ret = .fail → left = pResult

/-- The driver converts, to a voltage that sixteen bits can hold. -/
def Chance.Converts (chance : Chance) : Prop := chance.fault = none ∧ 0 ≤ chance.voltage ∧ chance.voltage ≤ 65535

/-- The driver makes a scheme for the attenuation and converts every element with it. -/
def Calibratable (chance : Nat → Chance) (clock ctrlAtten size : Nat) : Prop :=
  ∀ i < size, (ctrlAtten < socAdcAttenNum ∧ (chance clock).fault = none) ∧ (chance (clock + 1 + i)).Converts

theorem replaced_iff (chance : Chance) (raw : UInt16) :
    Replaced (raw, chance.answer chance.voltage) (.ofInt (conversionResult (chance.answer chance.voltage))) ↔
      chance.Converts := by
  unfold Replaced Chance.Converts Chance.answer
  cases fault : chance.fault with
  | some error => simp
  | none =>
    have wraps : ((UInt16.ofInt chance.voltage).toNat : Int) = chance.voltage % 65536 := by
      rw [UInt16.ofInt, UInt16.toNat_ofNat']
      omega
    simp only [conversionResult, Except.ok.injEq, wraps, true_and]
    omega

/-- The answer to a conversion: without a scheme it fails. -/
def conversionAnswer (calibHandle : Option Handle) (chance : Chance) : Esp Int :=
  match calibHandle with
  | none => .error .invalidArg
  | some _ => chance.answer chance.voltage

theorem serve_rawToVoltage (calibHandle : Option Handle) (raw : UInt16) :
    ∃ issued, serve chance (.driver (.caliRawToVoltage calibHandle raw)) world =
      (some (conversionAnswer calibHandle (chance world.clock)), world.tick issued) := by
  cases calibHandle <;> exact ⟨_, rfl⟩

theorem replaced_answer_iff (calibHandle : Option Handle) (chance : Chance) (raw : UInt16) :
    Replaced (raw, conversionAnswer calibHandle chance) (.ofInt (conversionResult (conversionAnswer calibHandle chance))) ↔
      calibHandle.isSome ∧ chance.Converts := by
  cases calibHandle with
  | none =>
    constructor
    · intro replaced
      cases replaced
    · intro ⟨scheme, _⟩
      cases scheme
  | some handle =>
    rw [Option.isSome_some, eq_self, true_and]
    exact replaced_iff chance raw

/-- The loop converts each element once, in order, and every element holds its voltage
exactly when there is a scheme and every conversion succeeds. -/
theorem convertEach_exact (chance : Nat → Chance) (world : World) (calibHandle : Option Handle) (buffer : List UInt16) :
    ∃ converted after, (convertEach calibHandle buffer).run (serve chance) world = (some converted, after) ∧
      after.mutex = world.mutex ∧
      (conversions ((convertEach calibHandle buffer).exchanges (serve chance) world)).map Prod.fst = buffer ∧
      (List.Forall₂ Replaced (conversions ((convertEach calibHandle buffer).exchanges (serve chance) world)) converted ↔
        ∀ i < buffer.length, calibHandle.isSome ∧ (chance (world.clock + i)).Converts) := by
  induction buffer generalizing world with
  | nil => exact ⟨[], world, rfl, rfl, rfl, iff_of_true .nil nofun⟩
  | cons raw rest ih =>
    obtain ⟨issued, answered⟩ := @serve_rawToVoltage chance world calibHandle raw
    obtain ⟨converted, after, ran, held, once, replaced⟩ := ih (world.tick issued)
    have whole : (convertEach calibHandle (raw :: rest)).exchanges (serve chance) world =
        ⟨.driver (.caliRawToVoltage calibHandle raw), conversionAnswer calibHandle (chance world.clock)⟩ ::
          ((convertEach calibHandle rest).exchanges (serve chance) (world.tick issued) ++ []) := by
      rw [convertEach, exchanges_send answered, exchanges_bind ran, exchanges_pure]
    refine ⟨.ofInt (conversionResult (conversionAnswer calibHandle (chance world.clock))) :: converted, after, ?_, held, ?_, ?_⟩
    · rw [convertEach, run_bind, run_send, answered, proceed_some, run_bind, ran, proceed_some]
      rfl
    · rw [whole, List.append_nil]
      exact congrArg (raw :: ·) once
    · rw [whole, List.append_nil]
      refine List.forall₂_cons.trans ?_
      refine (and_congr (replaced_answer_iff _ _ _) replaced).trans ?_
      rw [List.length_cons, Nat.forall_lt_succ_left]
      simp only [World.tick, Nat.add_assoc, Nat.add_comm 1, Nat.add_zero]

theorem createScheme_isSome (driver : Driver) (chance : Chance) (ctrlChannel ctrlAtten : Nat) :
    (driver.createScheme chance ⟨ctrlChannel, ctrlAtten, adcBitwidth12⟩).1.toOption.isSome ↔
      ctrlAtten < socAdcAttenNum ∧ chance.fault = none := by
  unfold Driver.createScheme
  by_cases valid : ctrlAtten < socAdcAttenNum
  · rw [if_pos ⟨valid, .inl rfl⟩]
    cases fault : chance.fault <;> simp [valid, Except.toOption]
  · rw [if_neg (fun accepted => valid accepted.1)]
    simp [valid, Except.toOption]

theorem serve_createScheme_isSome (chance : Nat → Chance) (world : World) (ctrlChannel ctrlAtten : Nat) :
    ∃ created middle, serve chance (.driver (.caliCreateSchemeCurveFitting ⟨ctrlChannel, ctrlAtten, adcBitwidth12⟩)) world =
        (some created, middle) ∧ middle.clock = world.clock + 1 ∧ middle.mutex = world.mutex ∧
      (created.toOption.isSome ↔ ctrlAtten < socAdcAttenNum ∧ (chance world.clock).fault = none) :=
  ⟨_, _, rfl, rfl, rfl, createScheme_isSome _ _ _ _⟩

def Unconverted (β : Type) (op : Op β) : Prop := ∀ reply, conversion ⟨op, reply⟩ = none

theorem conversions_unconverted {exchanges : List (Exchange Op)}
    (silent : ∀ exchange ∈ exchanges, Unconverted _ exchange.operation) : conversions exchanges = [] := by
  apply List.filterMap_eq_nil_iff.mpr
  intro exchange member
  exact silent exchange member exchange.reply

def closeScheme (calibHandle : Option Handle) (converted : List UInt16) : Program Op (Ret × Option (List UInt16)) := do
  let _ ← .send (.driver (.caliDeleteSchemeCurveFitting calibHandle))
  return (← leave .success, some converted)

theorem run_closeScheme (held : world.mutex = .held) (calibHandle : Option Handle) (converted : List UInt16) :
    ∃ after, (closeScheme calibHandle converted).run (serve chance) world = (some (.success, some converted), after) := by
  have deleted : ∃ answer closed, serve chance (.driver (.caliDeleteSchemeCurveFitting calibHandle)) world =
      (some answer, closed) ∧ closed.mutex = world.mutex := by
    cases calibHandle <;> exact ⟨_, _, rfl, rfl⟩
  obtain ⟨answer, closed, served, same⟩ := deleted
  refine ⟨closed.give, ?_⟩
  rw [closeScheme, run_bind, run_send, served, proceed_some, run_bind, run_leave (same.trans held)]
  rfl

theorem conversions_closeScheme (calibHandle : Option Handle) (converted : List UInt16) :
    conversions ((closeScheme calibHandle converted).exchanges (serve chance) world) = [] := by
  have unconverted : Only Unconverted (closeScheme calibHandle converted) :=
    ⟨fun _ => rfl, fun _ => ⟨fun _ => rfl, fun _ => trivial⟩⟩
  exact conversions_unconverted (exchanges_only unconverted world)

/-- Calibration that gets past its checks answers with success, whatever the driver said. -/
theorem applyCalibration_exact (free : world.mutex = .free) {ctrlChannel : Nat} (valid : ctrlChannel < ctrlChannelInvalid)
    (ctrlAtten : Nat) (buffer : List UInt16) :
    ∃ converted after, (applyCalibration ctrlChannel ctrlAtten (some buffer)).run (serve chance) world =
        (some (.success, some converted), after) ∧
      (Calibrated buffer converted ((applyCalibration ctrlChannel ctrlAtten (some buffer)).exchanges (serve chance) world) ↔
        Calibratable chance world.clock ctrlAtten buffer.length) := by
  obtain ⟨created, scheme, creates, ticked, held, made⟩ :=
    serve_createScheme_isSome chance world.take ctrlChannel ctrlAtten
  obtain ⟨converted, middle, ran, kept, once, replaced⟩ := convertEach_exact chance scheme created.toOption buffer
  obtain ⟨after, closes⟩ := @run_closeScheme chance middle (kept.trans held) created.toOption converted
  have taken : serve chance .takeMutex world = (some (), world.take) := by
    simp only [serve, free]
    rfl
  have split : (applyCalibration ctrlChannel ctrlAtten (some buffer)).exchanges (serve chance) world =
      ⟨.takeMutex, ()⟩ :: ⟨.driver (.caliCreateSchemeCurveFitting ⟨ctrlChannel, ctrlAtten, adcBitwidth12⟩), created⟩ ::
        ((convertEach created.toOption buffer).exchanges (serve chance) scheme ++
          (closeScheme created.toOption converted).exchanges (serve chance) middle) := by
    rw [applyCalibration, exchanges_send taken, if_neg (by omega), exchanges_send creates, exchanges_bind ran]
    rfl
  have whole : conversions ((applyCalibration ctrlChannel ctrlAtten (some buffer)).exchanges (serve chance) world) =
      conversions ((convertEach created.toOption buffer).exchanges (serve chance) scheme) := by
    rw [split]
    refine (List.filterMap_append).trans ?_
    exact (congrArg _ (conversions_closeScheme _ _)).trans (List.append_nil _)
  refine ⟨converted, after, ?_, ?_⟩
  · rw [applyCalibration, run_locked free, if_neg (by omega), run_bind, run_send, creates, proceed_some, run_bind, ran,
      proceed_some]
    exact closes
  · rw [ticked, made, ← whole] at replaced
    refine Iff.trans ?_ replaced
    constructor
    · intro calibrated
      exact calibrated.replaced
    · intro all
      exact ⟨whole ▸ once, all⟩

theorem perform_applyCalibration (free : world.mutex = .free) {ctrlChannel : Nat} (valid : ctrlChannel < ctrlChannelInvalid)
    (ctrlAtten : Nat) (buffer : List UInt16) :
    ∃ converted after, perform chance (.applyCalibration ctrlChannel ctrlAtten (some buffer)) world =
        (some (.calibrated .success (some converted)), after) ∧
      (Calibrated buffer converted (exchanged chance (.applyCalibration ctrlChannel ctrlAtten (some buffer)) world) ↔
        Calibratable chance world.clock ctrlAtten buffer.length) := by
  obtain ⟨converted, after, ran, exactly⟩ := @applyCalibration_exact chance world free _ valid ctrlAtten buffer
  have same : exchanged chance (.applyCalibration ctrlChannel ctrlAtten (some buffer)) world =
      (applyCalibration ctrlChannel ctrlAtten (some buffer)).exchanges (serve chance) world := by
    refine (exchanges_bind ran _).trans ?_
    exact List.append_nil _
  refine ⟨converted, after, ?_, ?_⟩
  · rw [perform, Call.body, run_bind, ran]
    rfl
  · rw [same]
    exact exactly

/-- An answer of calibration means what it says exactly when the call was refused or the
driver makes the scheme and converts every element. -/
theorem calibration_exact_iff {ctrlChannel ctrlAtten : Nat} {pResult left : Option (List UInt16)} {ret : Ret}
    (returned : perform chance (.applyCalibration ctrlChannel ctrlAtten pResult) world =
      (some (.calibrated ret left), after)) :
    AllOrNothing pResult ret left (exchanged chance (.applyCalibration ctrlChannel ctrlAtten pResult) world) ↔
      (ctrlChannel < ctrlChannelInvalid → ∀ buffer, pResult = some buffer →
        Calibratable chance world.clock ctrlAtten buffer.length) := by
  have free : world.mutex = .free := by
    by_contra taken
    rw [perform_waits rfl taken] at returned
    cases returned
  by_cases admitted : (Call.applyCalibration ctrlChannel ctrlAtten pResult).Admitted world.statics.activeCtrlChannels
  · obtain ⟨valid, given⟩ := admitted
    obtain ⟨buffer, rfl⟩ := Option.ne_none_iff_exists'.mp given
    obtain ⟨converted, other, performed, exactly⟩ := @perform_applyCalibration chance world free _ valid ctrlAtten buffer
    rw [performed] at returned
    cases returned
    constructor
    · intro all _ other given
      cases given
      obtain ⟨_, _, ⟨⟩, ⟨⟩, calibrated⟩ := all.success rfl
      exact exactly.mp calibrated
    · intro calibratable
      constructor
      · intro _
        exact ⟨buffer, converted, rfl, rfl, exactly.mpr (calibratable valid buffer rfl)⟩
      · intro failed
        cases failed
  · rw [perform_refused (fun _ => free) admitted] at returned
    cases returned
    apply iff_of_true
    · constructor
      · intro succeeded
        cases succeeded
      · intro _
        rfl
    · intro valid buffer given
      exact absurd ⟨valid, by simp [given]⟩ admitted

def measuring (voltage : Int) (fault : Option EspError) : Nat → Chance :=
  fun time => { quiet time with fault := fault, voltage := voltage }

theorem calibration_exact_two :
    AllOrNothing (some [1000, 2000]) .success (some [700, 700])
      (exchanged (measuring 700 none) (.applyCalibration 0 0 (some [1000, 2000])) (afterCalls [])) := by
  have returned : perform (measuring 700 none) (.applyCalibration 0 0 (some [1000, 2000])) (afterCalls []) =
    (some (.calibrated .success (some [700, 700])), _) := rfl
  have converts : (Chance.mk none 0 700).Converts := ⟨rfl, by decide, by decide⟩
  refine (calibration_exact_iff returned).mpr ?_
  intro _ buffer _ i _
  exact ⟨⟨by decide, rfl⟩, converts⟩

/-- Without burnt eFuses the two values come back as zeros, with success. -/
theorem calibration_zeroed :
    (perform (measuring 700 (some .notSupported)) (.applyCalibration 0 0 (some [1000, 2000])) (afterCalls [])).1 =
      some (.calibrated .success (some [0, 0])) ∧
    ¬ AllOrNothing (some [1000, 2000]) .success (some [0, 0])
      (exchanged (measuring 700 (some .notSupported)) (.applyCalibration 0 0 (some [1000, 2000])) (afterCalls [])) := by
  refine ⟨rfl, ?_⟩
  intro all
  obtain ⟨buffer, converted, _, ⟨⟩, calibrated⟩ := all.success rfl
  have first := List.forall₂_cons.mp calibrated.replaced
  cases first.1

end LaserDriver.Adc
