import Mathlib.Algebra.Order.Ring.Abs
import Mathlib.Algebra.Order.Ring.Int
import Mathlib.Tactic.Linarith

/-! Truncated quotients of integers that were kept modulo a machine word. A divisor
below the modulus does not hide a wrap, unless both quotients are zero. -/

namespace Wrapped

variable {x y d : Int} {m : Nat}

theorem exists_remainder (positive : 0 < d) (x : Int) :
    ∃ r, x = d * x.tdiv d + r ∧ -d < r ∧ r < d ∧ (0 ≤ x → 0 ≤ r) ∧ (x ≤ 0 → r ≤ 0) := by
  refine ⟨x.tmod d, (Int.mul_tdiv_add_tmod x d).symm, Int.lt_tmod_of_pos x positive, Int.tmod_lt_of_pos x positive,
    Int.tmod_nonneg d, ?_⟩
  intro nonpositive
  have mirrored := Int.tmod_nonneg d (Int.neg_nonneg_of_nonpos nonpositive)
  rw [Int.neg_tmod] at mirrored
  omega

theorem tdiv_eq_zero_iff (positive : 0 < d) : x.tdiv d = 0 ↔ |x| < d := by
  obtain ⟨r, split, above, below, -, -⟩ := exists_remainder positive x
  rw [abs_lt]
  constructor
  · intro zero
    rw [zero, mul_zero, zero_add] at split
    rw [split]
    exact ⟨above, below⟩
  · intro ⟨low, high⟩
    rcases Int.le_total 0 x with nonnegative | nonpositive
    · exact Int.tdiv_eq_zero_of_lt nonnegative high
    · have mirrored := Int.tdiv_eq_zero_of_lt (Int.neg_nonneg_of_nonpos nonpositive) (by omega : -x < d)
      rw [Int.neg_tdiv] at mirrored
      omega

theorem abs_sub_lt_of_tdiv_eq (positive : 0 < d) (same : x.tdiv d = y.tdiv d) (nonzero : x.tdiv d ≠ 0) :
    |x - y| < d := by
  obtain ⟨r, splitX, lowX, highX, upX, downX⟩ := exists_remainder positive x
  obtain ⟨s, splitY, lowY, highY, upY, downY⟩ := exists_remainder positive y
  rw [← same] at splitY
  rw [abs_lt]
  rcases Int.lt_or_gt_of_ne nonzero with negative | large
  · have product : d * x.tdiv d ≤ -d := by nlinarith
    have := downX (by omega)
    have := downY (by omega)
    omega
  · have product : d ≤ d * x.tdiv d := by nlinarith
    have := upX (by omega)
    have := upY (by omega)
    omega

theorem le_abs_sub_bmod (wrapped : x.bmod m ≠ x) : (m : Int) ≤ |x - x.bmod m| := by
  obtain ⟨k, split⟩ : (m : Int) ∣ x - x.bmod m := Int.dvd_self_sub_bmod
  have nonzero : k ≠ 0 := by
    intro equal
    subst equal
    apply wrapped
    omega
  rw [split, abs_mul, Nat.abs_cast]
  exact le_mul_of_one_le_right (Int.natCast_nonneg m) (Int.one_le_abs nonzero)

/-- The quotient of a value kept modulo `m` is the quotient of the value. -/
theorem tdiv_bmod_eq_iff (positive : 0 < d) (small : d < m) :
    (x.bmod m).tdiv d = x.tdiv d ↔ x.bmod m = x ∨ |x| < d ∧ |x.bmod m| < d := by
  constructor
  · intro same
    by_cases exactly : x.bmod m = x
    · exact .inl exactly
    · by_cases zero : x.tdiv d = 0
      · exact .inr ⟨(tdiv_eq_zero_iff positive).mp zero, (tdiv_eq_zero_iff positive).mp (same.trans zero)⟩
      · have near := abs_sub_lt_of_tdiv_eq positive same.symm zero
        have far := le_abs_sub_bmod exactly
        omega
  · intro either
    rcases either with exactly | ⟨short, wrapped⟩
    · rw [exactly]
    · rw [(tdiv_eq_zero_iff positive).mpr short, (tdiv_eq_zero_iff positive).mpr wrapped]

theorem tdiv_mem_iff {low high : Int} (positive : 0 < d) (negative : high < 0) :
    low ≤ x.tdiv d ∧ x.tdiv d ≤ high ↔ (low - 1) * d < x ∧ x ≤ high * d := by
  obtain ⟨r, split, above, below, up, down⟩ := exists_remainder positive x
  constructor
  · intro ⟨least, most⟩
    have product : d * x.tdiv d ≤ -d := by nlinarith
    have := down (by omega)
    constructor <;> nlinarith
  · intro ⟨least, most⟩
    have product : high * d ≤ -d := by nlinarith
    have := down (by omega)
    constructor <;> by_contra outside <;> nlinarith

theorem tdiv_weighted_mem {a b s t : Int} (positive : 0 < a) (nonnegative : 0 ≤ b) :
    min s t ≤ (s * a + t * b).tdiv (a + b) ∧ (s * a + t * b).tdiv (a + b) ≤ max s t := by
  have total : 0 < a + b := by omega
  have lower : min s t * (a + b) ≤ s * a + t * b := by nlinarith [min_le_left s t, min_le_right s t]
  have upper : s * a + t * b ≤ max s t * (a + b) := by nlinarith [le_max_left s t, le_max_right s t]
  have least := Int.tdiv_le_tdiv total lower
  have most := Int.tdiv_le_tdiv total upper
  rw [Int.mul_tdiv_cancel _ (Int.ne_of_gt total)] at least most
  exact ⟨least, most⟩

end Wrapped
