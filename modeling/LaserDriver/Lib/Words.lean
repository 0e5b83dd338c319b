import LaserDriver.Lib.Circular

/-! Numbers in a memory of bytes, the lowest byte first. -/

namespace Effects

def word : Nat → Nat → List UInt8
  | 0, _ => []
  | count + 1, number => UInt8.ofNat number :: word count (number / 256)

def unword : List UInt8 → Nat
  | [] => 0
  | byte :: rest => byte.toNat + 256 * unword rest

@[simp] theorem length_word (count number : Nat) : (word count number).length = count := by
  induction count generalizing number with
  | zero => rfl
  | succ count ih => rw [word, List.length_cons, ih]

theorem unword_word (count : Nat) {number : Nat} (fits : number < Nat.pow 256 count) :
    unword (word count number) = number := by
  induction count generalizing number with
  | zero =>
    have zero : number = 0 := Nat.lt_one_iff.mp fits
    rw [zero]
    rfl
  | succ count ih =>
    have high : number / 256 < Nat.pow 256 count := by
      apply Nat.div_lt_of_lt_mul
      rw [Nat.mul_comm]
      exact fits
    have low : (UInt8.ofNat number).toNat = number % 256 := rfl
    rw [word, unword, ih high, low]
    exact Nat.mod_add_div number 256

end Effects
