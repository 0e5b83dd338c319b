import Mathlib.Tactic.Ring
import LaserDriver.Ledc.Fade

/-! A fade comes to its target, and how long it takes. All duties of a fade lie in its
direction, so they are counted by their distance from the target. -/

namespace LaserDriver.Ledc

variable {fade : Fade}

namespace Fade

/-- The hardware and the handler can represent the duty at this distance. -/
structure Inside (fade : Fade) (distance : Nat) : Prop where
  target : fade.targetDuty < 2 ^ 31
  lower : 0 ≤ fade.duty distance
  upper : fade.duty distance < 2 ^ 31

/-- A configuration that leads from one distance to another: steps in the direction of the
fade, or the target at once where it is no more than a step away. -/
inductive Leg (fade : Fade) : Nat → DutyConfig → Nat → Prop where
  | steps (distance count : Nat) (stepping : 0 < fade.scale) (moves : 0 < count) (few : count ≤ dutyNumMax)
      (short : count * fade.scale ≤ distance) :
      Leg fade distance ⟨(fade.duty distance).toNat, fade.direction, count, fade.cycleNum, fade.scale⟩
        (distance - count * fade.scale)
  | jump (distance : Nat) (direction : Direction) (near : distance ≤ fade.scale) :
      Leg fade distance ⟨fade.targetDuty, direction, 1, 1, 0⟩ 0

/-- The legs that remain, none from the target itself. -/
inductive Way (fade : Fade) : Nat → List DutyConfig → Prop where
  | arrived : Way fade 0 []
  | leg {distance later : Nat} {config : DutyConfig} {rest : List DutyConfig} (far : 0 < distance)
      (leg : Leg fade distance config later) (way : Way fade later rest) : Way fade distance (config :: rest)

end Fade

open Fade

section Distance
variable {distance later : Nat} {config : DutyConfig}

theorem bmod_eq {value : Int} (lower : 0 ≤ value) (upper : value < 2 ^ 31) : Int.bmod value (2 ^ 32) = value := by
  apply Int.bmod_eq_of_le <;> omega

@[simp] theorem duty_zero (fade : Fade) : fade.duty 0 = fade.targetDuty := by
  unfold Fade.duty
  cases fade.direction <;> simp

theorem abs_duty (fade : Fade) (distance : Nat) : |fade.duty distance - fade.targetDuty| = distance := by
  unfold Fade.duty
  cases fade.direction with
  | decrease =>
    simp only
    rw [add_sub_cancel_left, Nat.abs_cast]
  | increase =>
    simp only
    rw [sub_sub_cancel_left, abs_neg, Nat.abs_cast]

theorem Fade.Inside.closer (inside : fade.Inside distance) (closer : later ≤ distance) : fade.Inside later := by
  obtain ⟨target, lower, upper⟩ := inside
  unfold Fade.duty at lower upper
  refine ⟨target, ?_, ?_⟩
  · unfold Fade.duty
    cases direction : fade.direction <;> simp only [direction] at lower upper ⊢ <;> omega
  · unfold Fade.duty
    cases direction : fade.direction <;> simp only [direction] at lower upper ⊢ <;> omega

theorem Fade.Inside.read (inside : fade.Inside distance) : ((fade.duty distance).toNat : Int) = fade.duty distance :=
  Int.toNat_of_nonneg inside.lower

theorem delta_eq (inside : fade.Inside distance) : fade.delta (fade.duty distance).toNat = distance := by
  have read := inside.read
  obtain ⟨target, lower, upper⟩ := inside
  unfold Fade.delta
  rw [read]
  unfold Fade.duty at lower upper ⊢
  cases direction : fade.direction with
  | decrease =>
    simp only [direction] at lower upper ⊢
    rw [bmod_eq (by omega) (by omega)]
    omega
  | increase =>
    simp only [direction] at lower upper ⊢
    rw [bmod_eq (by omega) (by omega)]
    omega

theorem arrived_iff (inside : fade.Inside distance) : (fade.duty distance).toNat = fade.targetDuty ↔ distance = 0 := by
  have far := abs_duty fade distance
  rw [← inside.read] at far
  constructor
  · intro same
    rw [same, sub_self, abs_zero] at far
    omega
  · rintro rfl
    rw [duty_zero, Int.toNat_natCast]

theorem next_eq (inside : fade.Inside distance) :
    fade.next (fade.duty distance).toNat =
      if distance = 0 ∨ fade.scale = 0 then none
      else if distance > fade.scale then
        some ⟨(fade.duty distance).toNat, fade.direction, min (distance / fade.scale) dutyNumMax, fade.cycleNum, fade.scale⟩
      else some ⟨fade.targetDuty, fade.direction, 1, 1, 0⟩ := by
  unfold Fade.next
  rw [delta_eq inside, ← Int.ofNat_tdiv, ← Nat.cast_min, Int.toNat_natCast]
  simp only [arrived_iff inside, gt_iff_lt, Nat.cast_lt]

theorem next_cases (inside : fade.Inside distance) (stepping : 0 < fade.scale) :
    (distance = 0 ∧ fade.next (fade.duty distance).toNat = none) ∨
      ∃ config later, fade.next (fade.duty distance).toNat = some config ∧ fade.Leg distance config later ∧ later < distance := by
  rw [next_eq inside]
  by_cases arrived : distance = 0
  · exact .inl ⟨arrived, if_pos (.inl arrived)⟩
  · right
    rw [if_neg (not_or.mpr ⟨arrived, Nat.ne_of_gt stepping⟩)]
    by_cases far : distance > fade.scale
    · have moves : 0 < distance / fade.scale := Nat.div_pos (Nat.le_of_lt far) stepping
      have count : 0 < min (distance / fade.scale) dutyNumMax := lt_min moves (by decide)
      have short : min (distance / fade.scale) dutyNumMax * fade.scale ≤ distance :=
        (Nat.mul_le_mul_right _ (min_le_left _ _)).trans (Nat.div_mul_le_self _ _)
      rw [if_pos far]
      refine ⟨_, _, rfl, .steps distance _ stepping count (min_le_right _ _) short, ?_⟩
      have positive := Nat.mul_pos count stepping
      omega
    · rw [if_neg far]
      exact ⟨_, _, rfl, .jump distance _ (Nat.le_of_not_gt far), Nat.pos_of_ne_zero arrived⟩

theorem after_steps (inside : fade.Inside distance) {count steps : Nat} (short : steps * fade.scale ≤ distance) :
    (DutyConfig.mk (fade.duty distance).toNat fade.direction count fade.cycleNum fade.scale).after steps =
      fade.duty (distance - steps * fade.scale) := by
  have nearer : ((distance - steps * fade.scale : Nat) : Int) = distance - steps * fade.scale := by
    rw [Nat.cast_sub short, Nat.cast_mul]
  have read := inside.read
  unfold Fade.duty at read
  unfold DutyConfig.after Fade.duty
  cases direction : fade.direction with
  | decrease =>
    simp only [direction] at read ⊢
    rw [read, nearer]
    omega
  | increase =>
    simp only [direction] at read ⊢
    rw [read, nearer]
    omega

theorem after_jump (fade : Fade) (direction : Direction) (steps : Nat) :
    (DutyConfig.mk fade.targetDuty direction 1 1 0).after steps = fade.duty 0 := by
  rw [duty_zero]
  unfold DutyConfig.after
  cases direction <;> simp

/-- The duties of a leg are those of distances that shrink from where it begins to where it ends. -/
theorem Fade.Leg.distances (leg : fade.Leg distance config later) (inside : fade.Inside distance) :
    ∃ distances : List Nat, config.duties = distances.map fade.duty ∧ distances.Pairwise (· ≥ ·) ∧
      ∀ between ∈ distances, later ≤ between ∧ between ≤ distance := by
  cases leg with
  | steps count stepping moves few short =>
    have shorter : ∀ steps, steps < count + 1 → steps * fade.scale ≤ count * fade.scale :=
      fun steps few => Nat.mul_le_mul_right _ (Nat.le_of_lt_succ few)
    refine ⟨(List.range (count + 1)).map fun steps => distance - steps * fade.scale, ?_, ?_, ?_⟩
    · rw [DutyConfig.duties, List.map_map]
      apply List.map_congr_left
      intro steps member
      exact after_steps inside ((shorter steps (List.mem_range.mp member)).trans short)
    · rw [List.pairwise_map]
      apply List.pairwise_lt_range.imp
      intro earlier later before
      exact Nat.sub_le_sub_left (Nat.mul_le_mul_right _ (Nat.le_of_lt before)) _
    · intro between member
      obtain ⟨steps, counted, rfl⟩ := List.mem_map.mp member
      exact ⟨Nat.sub_le_sub_left (shorter steps (List.mem_range.mp counted)) _, Nat.sub_le _ _⟩
  | jump direction near =>
    refine ⟨[0, 0], ?_, ?_, ?_⟩
    · rw [DutyConfig.duties, List.map_congr_left fun steps _ => after_jump fade direction steps]
      rfl
    · simp
    · simp

theorem Fade.Leg.last_eq (leg : fade.Leg distance config later) (inside : fade.Inside distance) :
    config.last = fade.duty later := by
  cases leg with
  | steps count stepping moves few short => exact after_steps inside short
  | jump direction near => exact after_jump fade direction 1

theorem Fade.Leg.nearer (leg : fade.Leg distance config later) : later ≤ distance := by
  cases leg with
  | steps => exact Nat.sub_le _ _
  | jump => exact Nat.zero_le _

theorem Fade.Leg.fits (leg : fade.Leg distance config later) (cycleNum : fade.cycleNum ≤ dutyCycleMax)
    (scale : fade.scale ≤ dutyScaleMax) : config.Fits := by
  cases leg with
  | steps count stepping moves few short => exact ⟨few, cycleNum, scale⟩
  | jump direction near =>
    exact ⟨Nat.one_le_iff_ne_zero.mpr (by decide), Nat.one_le_iff_ne_zero.mpr (by decide), Nat.zero_le _⟩

/-- The periods, counted by the scale, that a way of this length may cost. -/
def Fade.reserve (fade : Fade) : Nat → Nat
  | 0 => 0
  | further + 1 => fade.cycleNum * (further + fade.scale)

theorem Fade.Leg.periods_le (leg : fade.Leg distance config later) (some_cycles : 0 < fade.cycleNum) (far : 0 < distance) :
    fade.scale * config.periods + fade.reserve later ≤ fade.reserve distance := by
  obtain ⟨further, rfl⟩ := Nat.exists_eq_succ_of_ne_zero (Nat.ne_of_gt far)
  cases leg with
  | steps count stepping moves few short =>
    have same : fade.scale * (count * fade.cycleNum) = fade.cycleNum * (count * fade.scale) := by ring
    simp only [DutyConfig.periods, same]
    cases left : further + 1 - count * fade.scale with
    | zero =>
      apply Nat.mul_le_mul_left
      omega
    | succ later =>
      rw [Fade.reserve, Fade.reserve, ← Nat.mul_add]
      apply Nat.mul_le_mul_left
      omega
  | jump direction near =>
    simp only [DutyConfig.periods, Fade.reserve, Nat.mul_one, Nat.add_zero]
    calc fade.scale ≤ further + fade.scale := Nat.le_add_left _ _
      _ ≤ fade.cycleNum * (further + fade.scale) := Nat.le_mul_of_pos_left _ some_cycles

end Distance

section Way
variable {distance : Nat} {configs : List DutyConfig}

theorem Fade.Way.distances (way : fade.Way distance configs) (inside : fade.Inside distance) :
    ∃ distances : List Nat, configs.flatMap DutyConfig.duties = distances.map fade.duty ∧ distances.Pairwise (· ≥ ·) ∧
      ∀ between ∈ distances, between ≤ distance := by
  induction way with
  | arrived => exact ⟨[], rfl, .nil, nofun⟩
  | @leg distance later config rest far leg way ih =>
    obtain ⟨first, duties, falling, bounds⟩ := leg.distances inside
    obtain ⟨others, more, falls, below⟩ := ih (inside.closer leg.nearer)
    refine ⟨first ++ others, ?_, ?_, ?_⟩
    · rw [List.flatMap_cons, duties, more, List.map_append]
    · rw [List.pairwise_append]
      exact ⟨falling, falls, fun earlier before after behind => (below after behind).trans (bounds earlier before).1⟩
    · intro between member
      obtain before | behind := List.mem_append.mp member
      · exact (bounds between before).2
      · exact (below between behind).trans leg.nearer

theorem Fade.Way.fits (way : fade.Way distance configs) (cycleNum : fade.cycleNum ≤ dutyCycleMax)
    (scale : fade.scale ≤ dutyScaleMax) : ∀ config ∈ configs, config.Fits := by
  induction way with
  | arrived => exact nofun
  | leg far leg way ih => exact List.forall_mem_cons.mpr ⟨leg.fits cycleNum scale, ih⟩

theorem Fade.Way.last_eq (way : fade.Way distance configs) (inside : fade.Inside distance) (begun : configs ≠ []) :
    configs.getLast?.map DutyConfig.last = some (fade.targetDuty : Int) := by
  induction way with
  | arrived => exact absurd rfl begun
  | @leg distance later config rest far leg way ih =>
    cases rest with
    | nil =>
      cases way
      rw [List.getLast?_singleton, Option.map_some, leg.last_eq inside, duty_zero]
    | cons next others =>
      rw [List.getLast?_cons_cons]
      exact ih (inside.closer leg.nearer) (List.cons_ne_nil _ _)

theorem Fade.Way.periods_le (way : fade.Way distance configs) (some_cycles : 0 < fade.cycleNum) :
    fade.scale * (configs.map DutyConfig.periods).sum ≤ fade.reserve distance := by
  induction way with
  | arrived => exact Nat.zero_le _
  | leg far leg way ih =>
    have cost := leg.periods_le some_cycles far
    rw [List.map_cons, List.sum_cons, Nat.mul_add]
    omega

/-- With a round for every distance the handler comes to the end of the fade. -/
theorem follow_leg {fuel later : Nat} {config : DutyConfig} (leg : fade.Leg distance config later)
    (inside : fade.Inside distance) (stepping : 0 < fade.scale ∨ later = 0) (enough : later < fuel) :
    ∃ rest, fade.follow fuel config = some (config :: rest) ∧ fade.Way later rest := by
  induction fuel generalizing distance later config with
  | zero => exact absurd enough (Nat.not_lt_zero _)
  | succ fuel ih =>
    have there := inside.closer leg.nearer
    rw [Fade.follow, leg.last_eq inside]
    by_cases stopped : fade.scale = 0
    · obtain rfl : later = 0 := stepping.resolve_left (by omega)
      rw [next_eq there, if_pos (.inl rfl)]
      exact ⟨[], rfl, .arrived⟩
    · have moving := Nat.pos_of_ne_zero stopped
      obtain ⟨rfl, ended⟩ | ⟨next, further, goes_on, onwards, nearer⟩ := next_cases there moving
      · rw [ended]
        exact ⟨[], rfl, .arrived⟩
      · obtain ⟨rest, followed, way⟩ := ih onwards there (.inl moving) (by omega)
        rw [goes_on]
        simp only [followed, Option.map_some]
        exact ⟨next :: rest, rfl, .leg (by omega) onwards way⟩

end Way

section Start
variable {maxDuty dutyCur targetDuty : Nat}

/-- The first leg of a fade, and where it and all that follow it lie. -/
structure Starts (fade : Fade) (config : DutyConfig) (dutyCur targetDuty : Nat) (distance later : Nat) : Prop where
  leg : fade.Leg distance config later
  inside : fade.Inside distance
  target : fade.targetDuty = targetDuty
  stepping : 0 < fade.scale ∨ later = 0
  short : distance ≤ max dutyCur targetDuty - min dutyCur targetDuty
  lower : (min dutyCur targetDuty : Nat) ≤ fade.duty distance
  upper : fade.duty distance ≤ (max dutyCur targetDuty : Nat)

theorem starts_at_target (bounded : maxDuty < 2 ^ 31) (target : targetDuty ≤ maxDuty) (cycleNum : Nat) :
    Starts (fade.setFadeWithStep maxDuty dutyCur targetDuty 0 cycleNum).1
      (fade.setFadeWithStep maxDuty dutyCur targetDuty 0 cycleNum).2 dutyCur targetDuty 0 0 := by
  have inside : (targetDuty : Int) < 2 ^ 31 := by omega
  refine ⟨.jump _ _ (Nat.zero_le _), ⟨by exact_mod_cast inside, ?_, ?_⟩, rfl, .inr rfl, Nat.zero_le _, ?_, ?_⟩
  · rw [duty_zero]
    exact Nat.cast_nonneg _
  · rw [duty_zero]
    exact inside
  · rw [duty_zero]
    exact_mod_cast min_le_right _ _
  · rw [duty_zero]
    exact_mod_cast le_max_right _ _

theorem first_leg (stepping : 0 < fade.scale) (distance : Nat) {begins : Nat}
    (begun : (fade.duty distance).toNat = begins) :
    ∃ later, fade.Leg distance
      (if fade.scale > 0 ∧ min (distance / fade.scale) dutyNumMax > 0 then
        ⟨begins, fade.direction, min (distance / fade.scale) dutyNumMax, fade.cycleNum, fade.scale⟩
      else ⟨fade.targetDuty, .increase, 1, 1, 0⟩) later := by
  subst begun
  by_cases moves : min (distance / fade.scale) dutyNumMax > 0
  · have short : min (distance / fade.scale) dutyNumMax * fade.scale ≤ distance :=
      (Nat.mul_le_mul_right _ (min_le_left _ _)).trans (Nat.div_mul_le_self _ _)
    rw [if_pos ⟨stepping, moves⟩]
    exact ⟨_, .steps distance _ stepping moves (min_le_right _ _) short⟩
  · have near : distance / fade.scale = 0 := by
      have positive : 0 < dutyNumMax := Nat.succ_pos _
      generalize distance / fade.scale = count at moves ⊢
      omega
    rw [if_neg fun both => moves both.2]
    exact ⟨0, .jump distance _ (Nat.le_of_lt ((Nat.div_eq_zero_iff_lt stepping).mp near))⟩

theorem starts_with_steps {scale : Nat} (bounded : maxDuty < 2 ^ 31) (current : dutyCur ≤ maxDuty)
    (target : targetDuty ≤ maxDuty) (stepping : 0 < scale) (apart : dutyCur ≠ targetDuty) (cycleNum : Nat) :
    ∃ distance later, Starts (fade.setFadeWithStep maxDuty dutyCur targetDuty scale cycleNum).1
      (fade.setFadeWithStep maxDuty dutyCur targetDuty scale cycleNum).2 dutyCur targetDuty distance later := by
  unfold Fade.setFadeWithStep
  simp only [if_pos stepping]
  generalize begins : (if dutyCur = maxDuty then dutyCur - 1 else dutyCur) = begun
  have near : begun ≤ dutyCur ∧ dutyCur ≤ begun + 1 ∧ (begun ≠ dutyCur → dutyCur = maxDuty) := by
    split at begins <;> omega
  by_cases down : begun > targetDuty
  · simp only [if_pos down]
    have reached : (⟨targetDuty, cycleNum, scale, .decrease⟩ : Fade).duty (begun - targetDuty) = begun := by
      simp only [Fade.duty]
      omega
    have read : ((⟨targetDuty, cycleNum, scale, .decrease⟩ : Fade).duty (begun - targetDuty)).toNat = begun := by
      rw [reached, Int.toNat_natCast]
    obtain ⟨later, leg⟩ := first_leg stepping _ read
    refine ⟨begun - targetDuty, later, leg, ⟨?_, ?_, ?_⟩, rfl, .inl stepping, ?_, ?_, ?_⟩
    · simp only
      omega
    · omega
    · omega
    · omega
    · omega
    · omega
  · simp only [if_neg down]
    have reached : (⟨targetDuty, cycleNum, scale, .increase⟩ : Fade).duty (targetDuty - begun) = begun := by
      simp only [Fade.duty]
      omega
    have read : ((⟨targetDuty, cycleNum, scale, .increase⟩ : Fade).duty (targetDuty - begun)).toNat = begun := by
      rw [reached, Int.toNat_natCast]
    obtain ⟨later, leg⟩ := first_leg stepping _ read
    refine ⟨targetDuty - begun, later, leg, ⟨?_, ?_, ?_⟩, rfl, .inl stepping, ?_, ?_, ?_⟩
    · simp only
      omega
    · omega
    · omega
    · omega
    · omega
    · omega

/-- How `_ledc_set_fade_with_time` chooses the scale and the number of cycles of a step. -/
inductive Pace (totalCycles dutyDelta : Nat) : Nat → Nat → Prop where
  | instant (direct : dutyDelta = 0 ∨ totalCycles = 0) : Pace totalCycles dutyDelta 0 0
  | slow (apart : 0 < dutyDelta) (long : dutyDelta < totalCycles) :
      Pace totalCycles dutyDelta 1 (min (totalCycles / dutyDelta) dutyCycleMax)
  | fast (timed : 0 < totalCycles) (brief : totalCycles ≤ dutyDelta) :
      Pace totalCycles dutyDelta (min (dutyDelta / totalCycles) dutyScaleMax) 1

theorem paced (fade : Fade) (freq maxFadeTimeMs : UInt32) (maxDuty dutyCur dutyRead targetDuty : Nat) :
    ∃ scale cycleNum, fade.setFadeWithTime maxDuty freq dutyCur dutyRead targetDuty maxFadeTimeMs =
        fade.setFadeWithStep maxDuty dutyRead targetDuty scale cycleNum ∧
      Pace (maxFadeTimeMs * freq / 1000).toNat (max dutyCur targetDuty - min dutyCur targetDuty) scale cycleNum := by
  have delta : (if targetDuty > dutyCur then targetDuty - dutyCur else dutyCur - targetDuty) =
      max dutyCur targetDuty - min dutyCur targetDuty := by
    split <;> omega
  unfold Fade.setFadeWithTime
  rw [delta]
  generalize (maxFadeTimeMs * freq / 1000).toNat = totalCycles
  generalize max dutyCur targetDuty - min dutyCur targetDuty = dutyDelta
  by_cases same : dutyDelta = 0
  · exact ⟨0, 0, if_pos same, .instant (.inl same)⟩
  · by_cases instant : totalCycles = 0
    · refine ⟨0, 0, ?_, .instant (.inr instant)⟩
      simp only
      rw [if_neg same, if_pos instant]
    · by_cases long : totalCycles > dutyDelta
      · refine ⟨_, _, ?_, .slow (Nat.pos_of_ne_zero same) long⟩
        simp only
        rw [if_neg same, if_neg instant, if_pos long]
      · refine ⟨_, _, ?_, .fast (Nat.pos_of_ne_zero instant) (Nat.le_of_not_gt long)⟩
        simp only
        rw [if_neg same, if_neg instant, if_neg long]

theorem Pace.fits {totalCycles dutyDelta scale cycleNum : Nat} (pace : Pace totalCycles dutyDelta scale cycleNum) :
    cycleNum ≤ dutyCycleMax ∧ scale ≤ dutyScaleMax := by
  cases pace with
  | instant => exact ⟨Nat.zero_le _, Nat.zero_le _⟩
  | slow => exact ⟨min_le_right _ _, Nat.succ_pos _⟩
  | fast => exact ⟨Nat.succ_pos _, min_le_right _ _⟩

theorem Pace.cycles {totalCycles dutyDelta scale cycleNum : Nat} (pace : Pace totalCycles dutyDelta scale cycleNum)
    (stepping : 0 < scale) : 0 < cycleNum := by
  cases pace with
  | instant => exact stepping
  | slow apart long => exact lt_min (Nat.div_pos (Nat.le_of_lt long) apart) (Nat.succ_pos _)
  | fast => exact Nat.one_pos

theorem Pace.starts {totalCycles scale cycleNum : Nat}
    (pace : Pace totalCycles (max dutyCur targetDuty - min dutyCur targetDuty) scale cycleNum) (fade : Fade)
    (bounded : maxDuty < 2 ^ 31) (current : dutyCur ≤ maxDuty) (target : targetDuty ≤ maxDuty) :
    ∃ distance later, Starts (fade.setFadeWithStep maxDuty dutyCur targetDuty scale cycleNum).1
      (fade.setFadeWithStep maxDuty dutyCur targetDuty scale cycleNum).2 dutyCur targetDuty distance later := by
  have begun : 0 < scale → dutyCur ≠ targetDuty →
      ∃ distance later, Starts (fade.setFadeWithStep maxDuty dutyCur targetDuty scale cycleNum).1
        (fade.setFadeWithStep maxDuty dutyCur targetDuty scale cycleNum).2 dutyCur targetDuty distance later :=
    fun stepping apart => starts_with_steps bounded current target stepping apart cycleNum
  cases pace with
  | instant => exact ⟨0, 0, starts_at_target bounded target 0⟩
  | slow apart long => exact begun Nat.one_pos (by omega)
  | fast timed brief => exact begun (lt_min (Nat.div_pos brief timed) (Nat.succ_pos _)) (by omega)

section Course
variable {first : DutyConfig} {rest : List DutyConfig} {distance later : Nat}

theorem Starts.followed (starts : Starts fade first dutyCur targetDuty distance later) {fuel : Nat}
    (enough : max dutyCur targetDuty < fuel) :
    ∃ rest, fade.follow fuel first = some (first :: rest) ∧ fade.Way later rest := by
  have short := starts.short
  have nearer := starts.leg.nearer
  exact follow_leg starts.leg starts.inside starts.stepping (by omega)

theorem Starts.course (starts : Starts fade first dutyCur targetDuty distance later) (way : fade.Way later rest) :
    (∀ duty ∈ (first :: rest).flatMap DutyConfig.duties,
        (min dutyCur targetDuty : Nat) ≤ duty ∧ duty ≤ (max dutyCur targetDuty : Nat)) ∧
      ((first :: rest).flatMap DutyConfig.duties).Pairwise
        (fun before behind => |behind - (targetDuty : Int)| ≤ |before - (targetDuty : Int)|) := by
  have nearer := starts.leg.nearer
  obtain ⟨begins, duties, falling, bounds⟩ := starts.leg.distances starts.inside
  obtain ⟨others, more, falls, below⟩ := way.distances (starts.inside.closer nearer)
  have all : (first :: rest).flatMap DutyConfig.duties = (begins ++ others).map fade.duty := by
    rw [List.flatMap_cons, duties, more, List.map_append]
  rw [all]
  constructor
  · intro duty member
    obtain ⟨between, listed, rfl⟩ := List.mem_map.mp member
    have close : between ≤ distance := by
      obtain early | late := List.mem_append.mp listed
      · exact (bounds between early).2
      · exact (below between late).trans nearer
    have lower := starts.lower
    have upper := starts.upper
    have target := starts.target
    unfold Fade.duty at lower upper ⊢
    cases direction : fade.direction with
    | decrease =>
      simp only [direction] at lower upper ⊢
      omega
    | increase =>
      simp only [direction] at lower upper ⊢
      omega
  · rw [List.pairwise_map, ← starts.target]
    simp only [abs_duty, Nat.cast_le]
    rw [List.pairwise_append]
    exact ⟨falling, falls, fun before early behind late => (below behind late).trans (bounds before early).1⟩

theorem Starts.last_eq (starts : Starts fade first dutyCur targetDuty distance later) (way : fade.Way later rest) :
    (first :: rest).getLast?.map DutyConfig.last = some (targetDuty : Int) := by
  have there := starts.inside.closer starts.leg.nearer
  rw [← starts.target]
  cases rest with
  | nil =>
    cases way
    rw [List.getLast?_singleton, Option.map_some, starts.leg.last_eq starts.inside, duty_zero]
  | cons next others =>
    rw [List.getLast?_cons_cons]
    exact way.last_eq there (List.cons_ne_nil _ _)

theorem Starts.cost (starts : Starts fade first dutyCur targetDuty distance later) (way : fade.Way later rest)
    (some_cycles : 0 < fade.scale → 0 < fade.cycleNum) :
    ((first :: rest).map DutyConfig.periods).sum = 1 ∨
      (0 < distance ∧ fade.scale * ((first :: rest).map DutyConfig.periods).sum ≤
        fade.cycleNum * (distance - 1 + fade.scale)) := by
  have leg := starts.leg
  by_cases stepping : 0 < fade.scale ∧ 0 < distance
  · obtain ⟨stepping, far⟩ := stepping
    have first_cost := leg.periods_le (some_cycles stepping) far
    have rest_cost := way.periods_le (some_cycles stepping)
    obtain ⟨further, rfl⟩ := Nat.exists_eq_succ_of_ne_zero (Nat.ne_of_gt far)
    right
    refine ⟨far, ?_⟩
    rw [List.map_cons, List.sum_cons, Nat.mul_add]
    exact (Nat.add_le_add_left rest_cost _).trans first_cost
  · left
    cases leg with
    | steps count moving moves few short =>
      have positive := Nat.mul_pos moves moving
      exact absurd ⟨moving, Nat.lt_of_lt_of_le positive short⟩ stepping
    | jump direction near =>
      cases way with
      | arrived => rfl
      | leg far => exact absurd far (Nat.lt_irrefl 0)

end Course

/-- A fade that has time for more than one period takes at most twice its time, and no
more than its time if a step of one has at least a period. -/
theorem Pace.periods_le {totalCycles scale cycleNum periods distance : Nat}
    (pace : Pace totalCycles (max dutyCur targetDuty - min dutyCur targetDuty) scale cycleNum) (timed : 0 < totalCycles)
    (wide : max dutyCur targetDuty - min dutyCur targetDuty ≤ dutyScaleMax * totalCycles)
    (short : distance ≤ max dutyCur targetDuty - min dutyCur targetDuty)
    (cost : periods = 1 ∨ (0 < distance ∧ scale * periods ≤ cycleNum * (distance - 1 + scale))) :
    periods ≤ 2 * totalCycles ∧ (max dutyCur targetDuty - min dutyCur targetDuty < totalCycles → periods ≤ totalCycles) := by
  generalize max dutyCur targetDuty - min dutyCur targetDuty = dutyDelta at pace wide short
  obtain rfl | ⟨far, cost⟩ := cost
  · exact ⟨by omega, fun _ => timed⟩
  · cases pace with
    | instant direct => omega
    | slow apart long =>
      have bounded : periods ≤ totalCycles := by
        rw [Nat.one_mul, Nat.sub_add_cancel far] at cost
        calc periods ≤ min (totalCycles / dutyDelta) dutyCycleMax * distance := cost
          _ ≤ totalCycles / dutyDelta * dutyDelta := Nat.mul_le_mul (min_le_left _ _) short
          _ ≤ totalCycles := Nat.div_mul_le_self _ _
      exact ⟨by omega, fun _ => bounded⟩
    | fast timed brief =>
      have unclipped : min (dutyDelta / totalCycles) dutyScaleMax = dutyDelta / totalCycles :=
        min_eq_left (Nat.div_le_of_le_mul (Nat.mul_comm _ _ ▸ wide))
      have scaled : 0 < dutyDelta / totalCycles := Nat.div_pos brief timed
      have near : dutyDelta < (dutyDelta / totalCycles + 1) * totalCycles := by
        rw [Nat.mul_comm]
        exact Nat.lt_mul_div_succ _ timed
      rw [unclipped, Nat.one_mul] at cost
      generalize dutyDelta / totalCycles = scale at cost scaled near
      refine ⟨?_, fun long => absurd brief (Nat.not_le_of_lt long)⟩
      by_contra more
      have enough : scale * (2 * totalCycles + 1) ≤ scale * periods := Nat.mul_le_mul_left _ (Nat.lt_of_not_le more)
      have least : totalCycles ≤ scale * totalCycles := Nat.le_mul_of_pos_left _ scaled
      have expanded : scale * (2 * totalCycles + 1) = scale * totalCycles + scale * totalCycles + scale := by ring
      rw [Nat.succ_mul] at near
      omega

end Start

/-- A fade ends exactly at its target, whatever the time and the frequency. On its way
every duty lies between the one it began with and the target, none is farther from the
target than the one before it, and every configuration fits into the registers. -/
theorem fade_reaches_target (fade : Fade) (freq maxFadeTimeMs : UInt32) {maxDuty dutyCur targetDuty : Nat}
    (bounded : maxDuty < 2 ^ 31) (current : dutyCur ≤ maxDuty) (target : targetDuty ≤ maxDuty) :
    ∃ configs, (fade.setFadeWithTime maxDuty freq dutyCur dutyCur targetDuty maxFadeTimeMs).1.follow (maxDuty + 1)
        (fade.setFadeWithTime maxDuty freq dutyCur dutyCur targetDuty maxFadeTimeMs).2 = some configs ∧
      (∀ config ∈ configs, config.Fits) ∧
      (∀ duty ∈ configs.flatMap DutyConfig.duties,
        (min dutyCur targetDuty : Nat) ≤ duty ∧ duty ≤ (max dutyCur targetDuty : Nat)) ∧
      (configs.flatMap DutyConfig.duties).Pairwise
        (fun before behind => |behind - (targetDuty : Int)| ≤ |before - (targetDuty : Int)|) ∧
      configs.getLast?.map DutyConfig.last = some (targetDuty : Int) := by
  obtain ⟨scale, cycleNum, set, pace⟩ := paced fade freq maxFadeTimeMs maxDuty dutyCur dutyCur targetDuty
  obtain ⟨distance, later, starts⟩ := pace.starts fade bounded current target
  obtain ⟨rest, followed, way⟩ := starts.followed (Nat.lt_succ_of_le (max_le current target))
  obtain ⟨between, nearing⟩ := starts.course way
  rw [set]
  refine ⟨_ :: rest, followed, ?_, between, nearing, starts.last_eq way⟩
  exact List.forall_mem_cons.mpr ⟨starts.leg.fits pace.fits.1 pace.fits.2, way.fits pace.fits.1 pace.fits.2⟩

theorem fade_reaches_target_dimming :
    ∃ configs, ((⟨0, 0, 0, .increase⟩ : Fade).setFadeWithTime 256 1000 256 256 3 10).1.follow 257
        ((⟨0, 0, 0, .increase⟩ : Fade).setFadeWithTime 256 1000 256 256 3 10).2 = some configs ∧
      configs.getLast?.map DutyConfig.last = some 3 := by
  obtain ⟨configs, followed, -, -, -, last⟩ :=
    fade_reaches_target ⟨0, 0, 0, .increase⟩ 1000 10 (by decide) (Nat.le_refl 256) (show 3 ≤ 256 by decide)
  exact ⟨configs, followed, last⟩

/-- A fade takes at most twice the time it was given, and no more than that time if it
has more periods than duties to go through. The time must be at least a period and fit,
multiplied by the frequency, into 32 bits; a scale must fit into its register. -/
theorem fade_takes_at_most_twice (fade : Fade) (freq maxFadeTimeMs : UInt32) {maxDuty dutyCur targetDuty : Nat}
    (bounded : maxDuty < 2 ^ 31) (current : dutyCur ≤ maxDuty) (target : targetDuty ≤ maxDuty)
    (representable : maxFadeTimeMs.toNat * freq.toNat < 2 ^ 32) (period : 1000 ≤ maxFadeTimeMs.toNat * freq.toNat)
    (wide : maxDuty ≤ dutyScaleMax) :
    ∃ configs, (fade.setFadeWithTime maxDuty freq dutyCur dutyCur targetDuty maxFadeTimeMs).1.follow (maxDuty + 1)
        (fade.setFadeWithTime maxDuty freq dutyCur dutyCur targetDuty maxFadeTimeMs).2 = some configs ∧
      1000 * (configs.map DutyConfig.periods).sum ≤ 2 * (maxFadeTimeMs.toNat * freq.toNat) ∧
      (1000 * (max dutyCur targetDuty - min dutyCur targetDuty + 1) ≤ maxFadeTimeMs.toNat * freq.toNat →
        1000 * (configs.map DutyConfig.periods).sum ≤ maxFadeTimeMs.toNat * freq.toNat) := by
  obtain ⟨scale, cycleNum, set, pace⟩ := paced fade freq maxFadeTimeMs maxDuty dutyCur dutyCur targetDuty
  obtain ⟨distance, later, starts⟩ := pace.starts fade bounded current target
  obtain ⟨rest, followed, way⟩ := starts.followed (Nat.lt_succ_of_le (max_le current target))
  have total : (maxFadeTimeMs * freq / 1000).toNat = maxFadeTimeMs.toNat * freq.toNat / 1000 := by
    rw [UInt32.toNat_div, UInt32.toNat_mul, Nat.mod_eq_of_lt representable]
    rfl
  rw [total] at pace
  have timed : 0 < maxFadeTimeMs.toNat * freq.toNat / 1000 := Nat.div_pos period (by decide)
  have spread : max dutyCur targetDuty - min dutyCur targetDuty ≤ dutyScaleMax * (maxFadeTimeMs.toNat * freq.toNat / 1000) := by
    have inside : max dutyCur targetDuty - min dutyCur targetDuty ≤ dutyScaleMax :=
      (Nat.sub_le _ _).trans ((max_le current target).trans wide)
    exact inside.trans (Nat.le_mul_of_pos_right _ timed)
  obtain ⟨twice, once⟩ := pace.periods_le timed spread starts.short (starts.cost way pace.cycles)
  have whole : 1000 * (maxFadeTimeMs.toNat * freq.toNat / 1000) ≤ maxFadeTimeMs.toNat * freq.toNat := Nat.mul_div_le _ _
  rw [set]
  refine ⟨_, followed, by omega, ?_⟩
  intro long
  have reached := once ((Nat.le_div_iff_mul_le (by decide)).mpr (by omega))
  omega

/-- 199 steps of one period each, in a time of 100 periods. -/
theorem fade_takes_at_most_twice_brightening :
    ∃ configs, ((⟨0, 0, 0, .increase⟩ : Fade).setFadeWithTime 256 1000 0 0 199 100).1.follow 257
        ((⟨0, 0, 0, .increase⟩ : Fade).setFadeWithTime 256 1000 0 0 199 100).2 = some configs ∧
      1000 * (configs.map DutyConfig.periods).sum ≤ 200000 := by
  obtain ⟨configs, followed, twice, -⟩ := fade_takes_at_most_twice ⟨0, 0, 0, .increase⟩ 1000 100
    (show 256 < 2 ^ 31 by decide) (Nat.zero_le 256) (show 199 ≤ 256 by decide) (by decide) (by decide) (by decide)
  exact ⟨configs, followed, twice⟩

example : (((⟨0, 0, 0, .increase⟩ : Fade).setFadeWithTime 256 1000 0 0 199 100).1.follow 257
    ((⟨0, 0, 0, .increase⟩ : Fade).setFadeWithTime 256 1000 0 0 199 100).2).map (fun configs =>
      (configs.map DutyConfig.periods).sum) = some 199 := by decide +kernel

end LaserDriver.Ledc
