import Mathlib.Algebra.Group.Nat.Defs
import Mathlib.Data.Nat.Basic
import LaserDriver.Lib.Debounce

/-! The trigger driver of `triggerDriver.c` and the debouncer it implements. The
identifier `trigger_release` of the source is read as `trigger_release_cptr`. -/

namespace LaserDriver.Trigger
open Debounce

inductive State where
  | release | press | invalid
  deriving Repr, DecidableEq

inductive ActiveLevel where
  | low | high
  deriving Repr, DecidableEq

inductive Ret where
  | error | ok
  deriving Repr, DecidableEq

structure Config where
  triggerGpio : UInt8
  activeLevel : ActiveLevel
  deriving Repr, DecidableEq

/-- What `gpio_config` is given besides the constant input mode without interrupt. -/
structure GpioConfig where
  pullDownEn : Bool
  pullUpEn : Bool
  pinBitMask : Nat
  deriving Repr, DecidableEq

/-- The client's function, by identity. -/
abbrev Callback := Nat

structure Statics where
  triggerConfig : Config
  stateChangeCallback : Option Callback
  currentState : State
  triggerPressCptr : UInt32
  triggerReleaseCptr : UInt32
  deriving Repr, DecidableEq

def Statics.boot : Statics := ⟨⟨0, .low⟩, none, .invalid, 0, 0⟩

def debounceFactor : Nat := 3
def reportedMark : UInt32 := 0xFFFFFFFF

/-- `gpioConfig` and `taskCreated` are the answers of the GPIO driver and of the
kernel. The task runs only when `ok` is returned. -/
def initDriver (gpioConfig : GpioConfig → Bool) (taskCreated : Bool) (pConfig : Config) (callback : Option Callback)
    (statics : Statics) : Ret × Statics :=
  let cfg := ⟨pConfig.activeLevel == .high, pConfig.activeLevel == .low, 2 ^ pConfig.triggerGpio.toNat % 2 ^ 64⟩
  if gpioConfig cfg then
    let statics := { statics with
      triggerConfig := pConfig
      stateChangeCallback := callback
      currentState := .release }
    if taskCreated then (.ok, statics) else (.error, statics)
  else (.error, statics)

def newState (activeLevel : ActiveLevel) (level : UInt8) : State :=
  if (level ≠ 0 ∧ activeLevel = .high) ∨ (level = 0 ∧ activeLevel = .low) then .press else .release

def count (cptr : UInt32) : UInt32 := if cptr < reportedMark then cptr + 1 else cptr

/-- One iteration on a sampled level: the state it leaves and the callback it makes. -/
def tTriggerTask (level : UInt8) (statics : Statics) : Statics × Option (Callback × State) :=
  let new := newState statics.triggerConfig.activeLevel level
  if new = .press then
    let statics := { statics with triggerPressCptr := count statics.triggerPressCptr, triggerReleaseCptr := 0 }
    if statics.triggerPressCptr ≥ .ofNat debounceFactor ∧ statics.triggerPressCptr ≠ reportedMark then
      if new ≠ statics.currentState then
        ({ statics with triggerPressCptr := reportedMark, currentState := new }, statics.stateChangeCallback.map (·, new))
      else (statics, none)
    else (statics, none)
  else
    let statics := { statics with triggerReleaseCptr := count statics.triggerReleaseCptr, triggerPressCptr := 0 }
    if statics.triggerReleaseCptr ≥ .ofNat debounceFactor ∧ statics.triggerReleaseCptr ≠ reportedMark then
      if new ≠ statics.currentState then
        ({ statics with triggerReleaseCptr := reportedMark, currentState := new }, statics.stateChangeCallback.map (·, new))
      else (statics, none)
    else (statics, none)

/-- The state before iteration `k` on an endless sequence of levels. -/
def run (levels : Nat → UInt8) (start : Statics) : Nat → Statics
  | 0 => start
  | k + 1 => (tTriggerTask (levels k) (run levels start k)).1

def invoked (levels : Nat → UInt8) (start : Statics) (k : Nat) : Option (Callback × State) :=
  (tTriggerTask (levels k) (run levels start k)).2

def calls (levels : Nat → UInt8) (start : Statics) (n : Nat) : List State :=
  ((List.range n).filterMap (invoked levels start)).map (·.2)

/-- What an iteration does to the counter of the state it sees, and whether it reports. -/
def debounced (cptr : UInt32) (new current : State) : UInt32 × Bool :=
  if (count cptr ≥ .ofNat debounceFactor ∧ count cptr ≠ reportedMark) ∧ new ≠ current then (reportedMark, true)
  else (count cptr, false)

theorem debounced_tests (cptr : UInt32) (new current : State) (reports keeps : β) :
    (if count cptr ≥ .ofNat debounceFactor ∧ count cptr ≠ reportedMark then
        if new ≠ current then reports else keeps
      else keeps) = if (debounced cptr new current).2 then reports else keeps := by
  by_cases passed : count cptr ≥ .ofNat debounceFactor ∧ count cptr ≠ reportedMark
  · by_cases differs : new ≠ current
    · simp only [debounced, if_pos passed, if_pos differs, if_pos (And.intro passed differs), if_true]
    · have kept : ¬ ((count cptr ≥ .ofNat debounceFactor ∧ count cptr ≠ reportedMark) ∧ new ≠ current) :=
        fun all => differs all.2
      simp only [debounced, if_pos passed, if_neg differs, if_neg kept, Bool.false_eq_true, if_false]
  · have kept : ¬ ((count cptr ≥ .ofNat debounceFactor ∧ count cptr ≠ reportedMark) ∧ new ≠ current) :=
      fun all => passed all.1
    simp only [debounced, if_neg passed, if_neg kept, Bool.false_eq_true, if_false]

theorem debounced_cptr (cptr : UInt32) (new current : State) :
    (debounced cptr new current).1 = if (debounced cptr new current).2 then reportedMark else count cptr := by
  unfold debounced
  split <;> rfl

theorem tTriggerTask_press {level : UInt8} {statics : Statics}
    (pressed : newState statics.triggerConfig.activeLevel level = .press) :
    tTriggerTask level statics =
      let seen := debounced statics.triggerPressCptr .press statics.currentState
      ({ statics with
          triggerPressCptr := seen.1
          triggerReleaseCptr := 0
          currentState := if seen.2 then .press else statics.currentState },
        if seen.2 then statics.stateChangeCallback.map (·, .press) else none) := by
  simp only [tTriggerTask, pressed, debounced_tests, debounced_cptr]
  cases (debounced statics.triggerPressCptr .press statics.currentState).2 <;> rfl

theorem tTriggerTask_release {level : UInt8} {statics : Statics}
    (released : newState statics.triggerConfig.activeLevel level = .release) :
    tTriggerTask level statics =
      let seen := debounced statics.triggerReleaseCptr .release statics.currentState
      ({ statics with
          triggerPressCptr := 0
          triggerReleaseCptr := seen.1
          currentState := if seen.2 then .release else statics.currentState },
        if seen.2 then statics.stateChangeCallback.map (·, .release) else none) := by
  simp only [tTriggerTask, released, debounced_tests, debounced_cptr]
  cases (debounced statics.triggerReleaseCptr .release statics.currentState).2 <;> rfl

/-- A counter holds the length of the current run of its state, or just that the
run has been long enough: the mark and saturation lose no more than that. -/
def Counts (cptr : UInt32) (length : Nat) : Prop :=
  cptr.toNat = length ∨ (debounceFactor ≤ cptr.toNat ∧ debounceFactor ≤ length)

theorem toNat_count (cptr : UInt32) : (count cptr).toNat = min (cptr.toNat + 1) 4294967295 := by
  have bound := cptr.toNat_lt
  have below : cptr < reportedMark ↔ cptr.toNat < 4294967295 := UInt32.lt_iff_toNat_lt
  by_cases small : cptr.toNat < 4294967295
  · rw [count, if_pos (below.mpr small), UInt32.toNat_add, Nat.min_eq_left small]
    exact Nat.mod_eq_of_lt (Nat.add_lt_of_lt_sub small)
  · rw [count, if_neg (fun less => small (below.mp less))]
    omega

/-- An iteration keeps the counter and reports exactly when the run is long enough
and its state is not the reported one. -/
theorem debounced_counts {cptr : UInt32} {length : Nat} {new current : State} (counts : Counts cptr length)
    (known : debounceFactor ≤ length → current = new) :
    Counts (debounced cptr new current).1 (length + 1) ∧
      ((debounced cptr new current).2 = true ↔ debounceFactor ≤ length + 1 ∧ new ≠ current) := by
  have counted := toNat_count cptr
  have long : count cptr ≥ .ofNat debounceFactor ↔ debounceFactor ≤ (count cptr).toNat := UInt32.le_iff_toNat_le
  have marked : count cptr ≠ reportedMark ↔ (count cptr).toNat ≠ 4294967295 := not_congr UInt32.toNat_inj.symm
  have three : debounceFactor = 3 := rfl
  unfold Counts at counts ⊢
  unfold debounced
  split
  next passed =>
    rw [long, marked] at passed
    refine ⟨.inr ⟨by decide, ?_⟩, iff_of_true rfl ⟨?_, passed.2⟩⟩ <;> omega
  next kept =>
    rw [long, marked] at kept
    refine ⟨?_, iff_of_false Bool.false_ne_true ?_⟩
    · simp only [counted]
      omega
    · intro ⟨steady, differs⟩
      have short : ¬ debounceFactor ≤ length := fun enough => differs (known enough).symm
      exact kept ⟨⟨by omega, by omega⟩, differs⟩

def decoded (config : Config) (levels : Nat → UInt8) (k : Nat) : State := newState config.activeLevel (levels k)

theorem newState_press_or_release (activeLevel : ActiveLevel) (level : UInt8) :
    newState activeLevel level = .press ∨ newState activeLevel level = .release := by
  unfold newState
  split
  · exact .inl rfl
  · exact .inr rfl

/-- What the task's variables say about the first `n` samples. -/
structure Tracks (config : Config) (callback : Option Callback) (levels : Nat → UInt8) (n : Nat) (statics : Statics) :
    Prop where
  setup : statics.triggerConfig = config
  client : statics.stateChangeCallback = callback
  state : statics.currentState = reported debounceFactor (decoded config levels) .release n
  press : Counts statics.triggerPressCptr (trailing (decoded config levels) .press n)
  release : Counts statics.triggerReleaseCptr (trailing (decoded config levels) .release n)

variable {config : Config} {callback : Option Callback} {levels : Nat → UInt8} {n : Nat} {statics start : Statics}

theorem debounced_change {cptr : UInt32} {new : State} (seen : decoded config levels n = new)
    (counts : Counts cptr (trailing (decoded config levels) new n)) :
    Counts (debounced cptr new (reported debounceFactor (decoded config levels) .release n)).1
        (trailing (decoded config levels) new (n + 1)) ∧
      change debounceFactor (decoded config levels) .release n =
        if (debounced cptr new (reported debounceFactor (decoded config levels) .release n)).2 then some new else none := by
  have known (long : debounceFactor ≤ trailing (decoded config levels) new n) :
      reported debounceFactor (decoded config levels) .release n = new := reported_of_trailing (by decide) long
  obtain ⟨counted, reports⟩ := debounced_counts counts known
  subst seen
  rw [← trailing_of_eq rfl] at counted reports
  exact ⟨counted, if_congr ((and_congr_left' (steady_iff n)).trans reports.symm) rfl rfl⟩

private theorem report_state (flag : Bool) (new current : State) :
    (if flag then new else current) = (if flag then some new else none).getD current := by
  cases flag <;> rfl

private theorem report_call (flag : Bool) (new : State) (callback : Option Callback) :
    (if flag then callback.map (·, new) else none) =
      callback.bind fun client => (if flag then some new else none).map (client, ·) := by
  cases flag <;> cases callback <;> rfl

theorem Tracks.step (tracks : Tracks config callback levels n statics) :
    Tracks config callback levels (n + 1) (tTriggerTask (levels n) statics).1 ∧
      (tTriggerTask (levels n) statics).2 =
        callback.bind fun client => (change debounceFactor (decoded config levels) .release n).map (client, ·) := by
  obtain ⟨rfl, rfl, state, press, release⟩ := tracks
  have zero : Counts 0 0 := .inl rfl
  have reports := @reported_succ _ _ debounceFactor (decoded statics.triggerConfig levels) .release n
  obtain pressed | released := newState_press_or_release statics.triggerConfig.activeLevel (levels n)
  · obtain ⟨counted, changes⟩ := debounced_change pressed press
    have other : decoded statics.triggerConfig levels n ≠ .release := by
      rw [decoded, pressed]
      nofun
    rw [changes, ← state] at reports
    rw [tTriggerTask_press pressed, changes]
    rw [← state] at counted ⊢
    refine ⟨⟨rfl, rfl, (report_state _ _ _).trans reports.symm, counted, ?_⟩, report_call _ _ _⟩
    rw [trailing_of_ne other]
    exact zero
  · obtain ⟨counted, changes⟩ := debounced_change released release
    have other : decoded statics.triggerConfig levels n ≠ .press := by
      rw [decoded, released]
      nofun
    rw [changes, ← state] at reports
    rw [tTriggerTask_release released, changes]
    rw [← state] at counted ⊢
    refine ⟨⟨rfl, rfl, (report_state _ _ _).trans reports.symm, ?_, counted⟩, report_call _ _ _⟩
    rw [trailing_of_ne other]
    exact zero

theorem initDriver_tracks {gpioConfig : GpioConfig → Bool} {taskCreated : Bool}
    (initialised : initDriver gpioConfig taskCreated config callback .boot = (.ok, start)) (levels : Nat → UInt8) :
    Tracks config callback levels 0 start := by
  simp only [initDriver] at initialised
  split at initialised
  · split at initialised
    · obtain rfl := (Prod.mk.inj initialised).2
      exact ⟨rfl, rfl, rfl, .inl rfl, .inl rfl⟩
    · cases initialised
  · cases initialised

theorem Tracks.run (tracks : Tracks config callback levels 0 start) (n : Nat) :
    Tracks config callback levels n (run levels start n) := by
  induction n with
  | zero => exact tracks
  | succ n ih => exact ih.step.1

theorem Tracks.invoked (tracks : Tracks config callback levels 0 start) (k : Nat) :
    invoked levels start k =
      callback.bind fun client => (change debounceFactor (decoded config levels) .release k).map (client, ·) :=
  (tracks.run k).step.2

theorem Tracks.calls_succ {client : Callback} (tracks : Tracks config (some client) levels 0 start) (n : Nat) :
    calls levels start (n + 1) =
      calls levels start n ++ (change debounceFactor (decoded config levels) .release n).toList := by
  have last := tracks.invoked n
  rw [calls, calls, List.range_succ, List.filterMap_append, List.map_append]
  cases changed : change debounceFactor (decoded config levels) .release n <;> simp [last, changed]

/-- The number of reports so far determines the reported state. -/
def turn (count : Nat) : State := if count % 2 = 0 then .release else .press

theorem turn_succ {count : Nat} {state : State} (known : state = .press ∨ state = .release)
    (other : state ≠ turn count) : state = turn (count + 1) := by
  unfold turn at *
  obtain rfl | rfl := known <;> split at other <;> split <;> first | rfl | omega | exact absurd rfl other

theorem Tracks.alternates {client : Callback} (tracks : Tracks config (some client) levels 0 start) (n : Nat) :
    reported debounceFactor (decoded config levels) .release n = turn (calls levels start n).length ∧
      ∀ i state, (calls levels start n)[i]? = some state → state = turn (i + 1) := by
  induction n with
  | zero => exact ⟨rfl, nofun⟩
  | succ n ih =>
    obtain ⟨reportedTurn, turns⟩ := ih
    rw [tracks.calls_succ n, reported_succ]
    cases changed : change debounceFactor (decoded config levels) .release n with
    | none => simpa using ⟨reportedTurn, turns⟩
    | some value =>
      obtain ⟨⟨-, differs⟩, seen⟩ := change_eq_some_iff.mp changed
      have next : value = turn ((calls levels start n).length + 1) := by
        rw [← seen] at *
        exact turn_succ (newState_press_or_release _ _) (reportedTurn ▸ differs)
      refine ⟨by simpa using next, fun i state found => ?_⟩
      rw [Option.toList_some, List.getElem?_append] at found
      split at found
      · exact turns i state found
      next beyond =>
        rw [List.getElem?_singleton, Option.ite_none_right_eq_some] at found
        obtain rfl := Option.some.inj found.2
        rw [next, Nat.le_antisymm (Nat.sub_eq_zero_iff_le.mp found.1) (Nat.not_lt.mp beyond)]

theorem calls_without_client (tracks : Tracks config none levels 0 start) (n : Nat) : calls levels start n = [] := by
  have silent : invoked levels start = fun _ => none := funext tracks.invoked
  simp [calls, silent]

/-- From a successful initialisation on, over any endless sequence of levels, the
task tells the client what the reference debouncer reports, in the same iteration.
So a report needs three agreeing samples, and presses and releases alternate. -/
theorem tTriggerTask_debounces {gpioConfig : GpioConfig → Bool} {taskCreated : Bool}
    (initialised : initDriver gpioConfig taskCreated config callback .boot = (.ok, start)) (levels : Nat → UInt8) :
    (∀ k, invoked levels start k =
      callback.bind fun client => (change debounceFactor (decoded config levels) .release k).map (client, ·)) ∧
    (∀ k client state, invoked levels start k = some (client, state) →
      2 ≤ k ∧ decoded config levels (k - 2) = state ∧ decoded config levels (k - 1) = state ∧
        decoded config levels k = state) ∧
    ∀ n i state, (calls levels start n)[i]? = some state → state = if i % 2 = 0 then .press else .release := by
  have tracks := initDriver_tracks initialised levels
  refine ⟨tracks.invoked, fun k client state told => ?_, fun n i state told => ?_⟩
  · rw [tracks.invoked k] at told
    obtain ⟨_, _, made⟩ := Option.bind_eq_some_iff.mp told
    obtain ⟨value, changed, same⟩ := Option.map_eq_some_iff.mp made
    obtain rfl := (Prod.mk.inj same).2
    obtain ⟨⟨⟨enough, steady⟩, -⟩, seen⟩ := change_eq_some_iff.mp changed
    rw [seen] at steady
    have three : debounceFactor = 3 := rfl
    exact ⟨by omega, steady 2 (by decide), steady 1 (by decide), steady 0 (by decide)⟩
  · cases callback with
    | none => simp [calls_without_client tracks n] at told
    | some client =>
      rw [(tracks.alternates n).2 i state told, turn]
      split <;> split <;> first | rfl | omega

theorem tTriggerTask_reports_press :
    invoked (fun k => if k < 3 then 1 else 0)
      (initDriver (fun _ => true) true ⟨4, .high⟩ (some 9) .boot).2 2 = some (9, .press) :=
  ((@tTriggerTask_debounces ⟨4, .high⟩ (some 9) _ (fun _ => true) true rfl (fun k => if k < 3 then 1 else 0)).1 2).trans
    (by decide)

end LaserDriver.Trigger
