import Mathlib.Tactic.Ring
import Mathlib.Algebra.Order.Group.Nat

/-! Division to the nearest whole number. -/

namespace Effects

def nearest (total divisor : Nat) : Nat := (total + divisor / 2) / divisor

theorem nearest_le (total divisor : Nat) : 2 * (nearest total divisor * divisor) ≤ 2 * total + divisor := by
  have below : nearest total divisor * divisor ≤ total + divisor / 2 := Nat.div_mul_le_self _ _
  omega

theorem le_nearest (total : Nat) {divisor : Nat} (positive : 0 < divisor) :
    2 * total ≤ 2 * (nearest total divisor * divisor) + divisor := by
  have above : total + divisor / 2 < divisor * (nearest total divisor + 1) := Nat.lt_mul_div_succ _ positive
  have expanded : divisor * (nearest total divisor + 1) = nearest total divisor * divisor + divisor := by ring
  omega

theorem nearest_le_of_le {total least divisor : Nat} (positive : 0 < least) (enough : least ≤ divisor) :
    nearest total divisor ≤ total / least + 1 := by
  calc nearest total divisor ≤ (total + divisor) / divisor := Nat.div_le_div_right (by omega)
    _ = total / divisor + 1 := Nat.add_div_right _ (Nat.lt_of_lt_of_le positive enough)
    _ ≤ total / least + 1 := Nat.succ_le_succ (Nat.div_le_div_left enough positive)

/-- A total is divided by a count of units, and then by as many units as this gave. What
comes out is the count again but for an error that shrinks as the quotient grows. -/
theorem nearest_nearest {total unit count quotient : Nat} (units : 0 < unit) (counts : 0 < count)
    (quotients : 0 < quotient) (divided : nearest total (count * unit) = quotient) :
    2 * (quotient * nearest total (unit * quotient)) ≤ 2 * (quotient * count) + count + quotient ∧
      2 * (quotient * count) ≤ 2 * (quotient * nearest total (unit * quotient)) + count + quotient := by
  have first_le := nearest_le total (count * unit)
  have le_first := le_nearest total (Nat.mul_pos counts units)
  have second_le := nearest_le total (unit * quotient)
  have le_second := le_nearest total (Nat.mul_pos units quotients)
  rw [divided] at first_le le_first
  generalize nearest total (unit * quotient) = again at second_le le_second ⊢
  constructor
  · apply Nat.le_of_mul_le_mul_left _ units
    calc unit * (2 * (quotient * again)) = 2 * (again * (unit * quotient)) := by ring
      _ ≤ 2 * (quotient * (count * unit)) + count * unit + unit * quotient := by omega
      _ = unit * (2 * (quotient * count) + count + quotient) := by ring
  · apply Nat.le_of_mul_le_mul_left _ units
    calc unit * (2 * (quotient * count)) = 2 * (quotient * (count * unit)) := by ring
      _ ≤ 2 * (again * (unit * quotient)) + count * unit + unit * quotient := by omega
      _ = unit * (2 * (quotient * again) + count + quotient) := by ring

theorem nearest_nearest_eq {total unit count quotient : Nat} (units : 0 < unit) (counts : 0 < count)
    (divided : nearest total (count * unit) = quotient) (smaller : count < quotient) :
    nearest total (unit * quotient) = count := by
  obtain ⟨above, below⟩ := nearest_nearest units counts (Nat.zero_lt_of_lt smaller) divided
  generalize nearest total (unit * quotient) = again at above below ⊢
  apply Nat.le_antisymm
  · by_contra more
    have step : quotient * (count + 1) ≤ quotient * again := Nat.mul_le_mul_left _ (Nat.lt_of_not_le more)
    rw [Nat.mul_succ] at step
    omega
  · by_contra less
    have step : quotient * (again + 1) ≤ quotient * count := Nat.mul_le_mul_left _ (Nat.lt_of_not_le less)
    rw [Nat.mul_succ] at step
    omega

theorem closer_by_less {least factor first second slack : Nat} (enough : least ≤ factor)
    (close : 2 * (factor * first) ≤ 2 * (factor * second) + slack + factor) :
    2 * (least * first) ≤ 2 * (least * second) + slack + least := by
  obtain ⟨extra, rfl⟩ := Nat.exists_eq_add_of_le enough
  obtain beyond | within := Nat.lt_or_ge second first
  · obtain ⟨further, rfl⟩ := Nat.exists_eq_add_of_lt beyond
    have split : (least + extra) * (second + further + 1) =
        (least + extra) * second + least * (further + 1) + extra * further + extra := by ring
    have spread : least * (second + further + 1) = least * second + least * (further + 1) := by ring
    omega
  · have smaller : least * first ≤ least * second := Nat.mul_le_mul_left _ within
    omega

/-- With a quotient of at least `least` the error is at most one part in `2 * least`, and rounding. -/
theorem nearest_nearest_close {total unit count quotient least : Nat} (units : 0 < unit) (counts : 0 < count)
    (positive : 0 < least) (divided : nearest total (count * unit) = quotient) (enough : least ≤ quotient) :
    2 * (least * nearest total (unit * quotient)) ≤ 2 * (least * count) + count + least ∧
      2 * (least * count) ≤ 2 * (least * nearest total (unit * quotient)) + count + least := by
  obtain ⟨above, below⟩ := nearest_nearest units counts (Nat.lt_of_lt_of_le positive enough) divided
  exact ⟨closer_by_less enough above, closer_by_less enough below⟩

end Effects
