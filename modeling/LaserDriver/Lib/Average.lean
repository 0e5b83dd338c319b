import Mathlib.Algebra.GroupWithZero.Nat

/-! Averages whose sum is kept modulo a machine word and divided by a count that may be
larger than the number of samples. -/

namespace Average

variable {samples : List Nat} {count modulus least greatest : Nat}

def Within (value : Nat) (samples : List Nat) : Prop :=
  ∃ least greatest, samples.min? = some least ∧ samples.max? = some greatest ∧ least ≤ value ∧ value ≤ greatest

/-- What the samples have above a level, all together. -/
def excess (samples : List Nat) (level : Nat) : Nat := (samples.map (· - level)).sum

/-- How many samples may be missing. A smallest sample of zero allows any number; otherwise
each missing one uses up as much of the excess over the smallest sample as that sample is,
and each wrap of the sum a whole word of it. -/
def Tolerates (modulus count : Nat) (samples : List Nat) : Prop :=
  ∃ least, samples.min? = some least ∧
    (least = 0 ∨ modulus * (samples.sum / modulus) ≤ excess samples least ∧
      count - samples.length ≤ (excess samples least - modulus * (samples.sum / modulus)) / least)

/-- A word is not smaller than the count, so the quotient shows every wrap. -/
theorem mod_div_eq_iff (positive : 0 < count) (small : count ≤ modulus) (total : Nat) :
    total % modulus / count = total / count ↔ total < modulus := by
  constructor
  · intro same
    apply Nat.lt_of_not_le
    intro large
    have lost : total % modulus + count ≤ total := by
      have := Nat.mod_add_div total modulus
      have := Nat.le_mul_of_pos_right modulus (Nat.div_pos large (by omega))
      omega
    have smaller := Nat.div_le_div_right (c := count) lost
    rw [Nat.add_div_right _ positive] at smaller
    omega
  · intro fits
    rw [Nat.mod_eq_of_lt fits]

theorem sum_eq (below : ∀ sample ∈ samples, least ≤ sample) :
    samples.sum = samples.length * least + excess samples least := by
  unfold excess
  induction samples with
  | nil => simp
  | cons sample rest ih =>
    obtain ⟨first, later⟩ := List.forall_mem_cons.mp below
    rw [List.sum_cons, List.map_cons, List.sum_cons, List.length_cons, ih later, Nat.succ_mul]
    omega

theorem sum_le (above : ∀ sample ∈ samples, sample ≤ greatest) : samples.sum ≤ samples.length * greatest := by
  induction samples with
  | nil => simp
  | cons sample rest ih =>
    obtain ⟨first, later⟩ := List.forall_mem_cons.mp above
    rw [List.sum_cons, List.length_cons, Nat.succ_mul]
    have := ih later
    omega

theorem mean_le (enough : samples.length ≤ count)
    (above : ∀ sample ∈ samples, sample ≤ greatest) : samples.sum % modulus / count ≤ greatest := by
  apply Nat.div_le_of_le_mul
  calc samples.sum % modulus
    _ ≤ samples.sum := Nat.mod_le _ _
    _ ≤ samples.length * greatest := sum_le above
    _ ≤ count * greatest := Nat.mul_le_mul_right _ enough

theorem le_mean_iff (positive : 0 < count) (enough : samples.length ≤ count)
    (below : ∀ sample ∈ samples, least ≤ sample) :
    least ≤ samples.sum % modulus / count ↔
      least = 0 ∨ modulus * (samples.sum / modulus) ≤ excess samples least ∧
        count - samples.length ≤ (excess samples least - modulus * (samples.sum / modulus)) / least := by
  have split := sum_eq below
  have wrapped := Nat.mod_add_div samples.sum modulus
  have shared : count * least = samples.length * least + (count - samples.length) * least := by
    rw [← Nat.add_mul, Nat.add_sub_cancel' enough]
  by_cases zero : least = 0
  · simp [zero]
  · rw [Nat.le_div_iff_mul_le positive, Nat.le_div_iff_mul_le (Nat.pos_of_ne_zero zero), Nat.mul_comm, shared]
    omega

/-- The average lies between the smallest and the largest sample exactly when it tolerates the missing samples. -/
theorem within_iff (positive : 0 < count) (enough : samples.length ≤ count) :
    Within (samples.sum % modulus / count) samples ↔ Tolerates modulus count samples := by
  constructor
  · intro ⟨least, greatest, smallest, _, low, _⟩
    exact ⟨least, smallest, (le_mean_iff positive enough (List.min?_eq_some_iff.mp smallest).2).mp low⟩
  · intro ⟨least, smallest, tolerated⟩
    have sampled : samples ≠ [] := by
      intro empty
      rw [empty] at smallest
      cases smallest
    refine ⟨least, samples.max sampled, smallest, List.max?_eq_some_max sampled, ?_, ?_⟩
    · exact (le_mean_iff positive enough (List.min?_eq_some_iff.mp smallest).2).mpr tolerated
    · exact mean_le enough (fun sample member => List.le_max_of_mem member)

theorem tolerates_complete (sampled : samples ≠ []) (fits : samples.sum < modulus) :
    Tolerates modulus samples.length samples := by
  refine ⟨samples.min sampled, List.min?_eq_some_min sampled, .inr ?_⟩
  rw [Nat.sub_self, Nat.div_eq_of_lt fits]
  exact ⟨Nat.zero_le _, Nat.zero_le _⟩

/-- Equal samples other than zero leave no room for a missing one. -/
theorem not_tolerates_level (nonzero : least ≠ 0) (level : ∀ sample ∈ samples, sample = least)
    (missing : samples.length < count) : ¬ Tolerates modulus count samples := by
  intro ⟨smallest, found, tolerated⟩
  obtain rfl : smallest = least := level _ (List.min?_eq_some_iff.mp found).1
  have flat : excess samples smallest = 0 := by
    rw [excess, List.sum_eq_zero_iff_forall_eq_nat]
    intro above member
    obtain ⟨sample, sampled, rfl⟩ := List.mem_map.mp member
    rw [level sample sampled, Nat.sub_self]
  rw [flat, Nat.zero_sub, Nat.zero_div] at tolerated
  omega

end Average
