import Mathlib.Logic.Basic

/-! Debouncing, as a specification over the whole sequence of samples. A value is
reported once a fixed number of consecutive samples agree on it. -/

namespace Debounce

variable {α : Type} [DecidableEq α]

/-- The last `factor` samples up to sample `k` all read `value`. -/
def Steady (factor : Nat) (samples : Nat → α) (k : Nat) (value : α) : Prop :=
  factor ≤ k + 1 ∧ ∀ back < factor, samples (k - back) = value

instance (factor : Nat) (samples : Nat → α) (k : Nat) (value : α) : Decidable (Steady factor samples k value) :=
  inferInstanceAs (Decidable (_ ∧ ∀ back < factor, _))

def reported (factor : Nat) (samples : Nat → α) (initial : α) : Nat → α
  | 0 => initial
  | k + 1 => if Steady factor samples k (samples k) then samples k else reported factor samples initial k

/-- The report made at sample `k`: a steady value other than the reported one. -/
def change (factor : Nat) (samples : Nat → α) (initial : α) (k : Nat) : Option α :=
  if Steady factor samples k (samples k) ∧ samples k ≠ reported factor samples initial k then some (samples k) else none

/-- How many of the first `n` samples, counted from the last one back, read `value`. -/
def trailing (samples : Nat → α) (value : α) : Nat → Nat
  | 0 => 0
  | n + 1 => if samples n = value then trailing samples value n + 1 else 0

section Facts
variable {factor : Nat} {samples : Nat → α} {initial value : α}

theorem trailing_of_eq {n : Nat} (same : samples n = value) :
    trailing samples value (n + 1) = trailing samples value n + 1 := if_pos same

theorem trailing_of_ne {n : Nat} (other : samples n ≠ value) : trailing samples value (n + 1) = 0 := if_neg other

theorem le_trailing_iff (n : Nat) :
    factor ≤ trailing samples value n ↔ factor ≤ n ∧ ∀ back < factor, samples (n - 1 - back) = value := by
  induction n generalizing factor with
  | zero => simp [trailing]; omega
  | succ n ih =>
    cases factor with
    | zero => simp
    | succ factor =>
      by_cases same : samples n = value
      · rw [trailing_of_eq same, Nat.add_le_add_iff_right, Nat.add_le_add_iff_right, ih]
        have shift (back : Nat) : n + 1 - 1 - (back + 1) = n - 1 - back := by omega
        refine and_congr_right fun _ => ⟨fun before back bound => ?_, fun all back bound => ?_⟩
        · cases back with
          | zero => exact same
          | succ back =>
            rw [shift]
            exact before back (by omega)
        · rw [← shift]
          exact all (back + 1) (by omega)
      · rw [trailing_of_ne same]
        exact iff_of_false (by omega) (fun all => same (all.2 0 (by omega)))

theorem steady_iff (k : Nat) : Steady factor samples k value ↔ factor ≤ trailing samples value (k + 1) :=
  (le_trailing_iff (k + 1)).symm

theorem reported_of_trailing (positive : 0 < factor) {n : Nat} (long : factor ≤ trailing samples value n) :
    reported factor samples initial n = value := by
  cases n with
  | zero => exact absurd long (Nat.not_le.mpr positive)
  | succ k =>
    by_cases same : samples k = value
    · subst same
      exact if_pos ((steady_iff k).mpr long)
    · rw [trailing_of_ne same] at long
      omega

theorem change_eq_some_iff {k : Nat} {value : α} :
    change factor samples initial k = some value ↔
      (Steady factor samples k (samples k) ∧ samples k ≠ reported factor samples initial k) ∧ samples k = value := by
  rw [change, Option.ite_none_right_eq_some, Option.some.injEq]

theorem reported_succ (k : Nat) :
    reported factor samples initial (k + 1) = (change factor samples initial k).getD (reported factor samples initial k) := by
  rw [reported, change]
  by_cases steady : Steady factor samples k (samples k)
  · by_cases same : samples k = reported factor samples initial k
    · rw [if_pos steady, if_neg (fun changes => changes.2 same)]
      exact same
    · rw [if_pos steady, if_pos ⟨steady, same⟩]
      rfl
  · rw [if_neg steady, if_neg (fun changes => steady changes.1)]
    rfl

end Facts
end Debounce
