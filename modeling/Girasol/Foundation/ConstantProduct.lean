import Mathlib.Algebra.Order.Ring.Nat
import Mathlib.Tactic.GCongr
import Mathlib.Tactic.Ring

/-!
# Constant-product exchange

`swapOut a b x` is what a pool with reserves `a` and `b` pays out of `b` for an
input of `x`, rounded down in favour of the pool.
-/

namespace Girasol.Foundation

def swapOut (a b x : Nat) : Nat := b * x / (a + x)

@[simp] theorem swapOut_zero (a b : Nat) : swapOut a b 0 = 0 := by
  simp [swapOut]

theorem swapOut_mul_le (a b x : Nat) : swapOut a b x * (a + x) ≤ b * x :=
  Nat.div_mul_le_self (b * x) (a + x)

theorem swapOut_le (a b x : Nat) : swapOut a b x ≤ b := by
  apply Nat.div_le_of_le_mul
  rw [Nat.mul_comm]
  exact Nat.mul_le_mul_right b (Nat.le_add_left x a)

theorem swapOut_lt {a b : Nat} (ha : 0 < a) (hb : 0 < b) (x : Nat) : swapOut a b x < b := by
  apply Nat.div_lt_of_lt_mul
  rw [Nat.mul_comm]
  exact Nat.mul_lt_mul_of_pos_right (by omega) hb

theorem mul_le_swapped (a b x : Nat) : a * b ≤ (a + x) * (b - swapOut a b x) := by
  have hpaid := swapOut_mul_le a b x
  calc a * b = (a + x) * b - b * x := by
        rw [Nat.add_mul, Nat.mul_comm x b, Nat.add_sub_cancel]
    _ ≤ (a + x) * b - (a + x) * swapOut a b x := by
        rw [Nat.mul_comm (a + x) (swapOut a b x)]
        exact Nat.sub_le_sub_left hpaid _
    _ = (a + x) * (b - swapOut a b x) := (Nat.mul_sub _ _ _).symm

theorem le_swapOut_of_mul_le {a b x y : Nat} (ha : 0 < a) (hy : y ≤ b)
    (hkept : a * b ≤ (a + x) * (b - y)) : y ≤ swapOut a b x := by
  apply (Nat.le_div_iff_mul_le (by omega)).mpr
  obtain ⟨rest, rfl⟩ := Nat.exists_eq_add_of_le hy
  rw [Nat.add_sub_cancel_left, Nat.mul_add, Nat.add_mul] at hkept
  have hfair : a * y ≤ x * rest := by omega
  calc y * (a + x) = a * y + y * x := by ring
    _ ≤ x * rest + y * x := Nat.add_le_add_right hfair _
    _ = (y + rest) * x := by ring

theorem mul_le_of_le_sub_succ {a b x y : Nat} (ha : 0 < a)
    (hy : y ≤ b - (a * b / (a + x) + 1)) : a * b ≤ (a + x) * (b - y) := by
  by_cases hroom : a * b / (a + x) + 1 ≤ b
  · have hkept : a * b / (a + x) + 1 ≤ b - y := by omega
    have habove : a * b < (a + x) * (a * b / (a + x) + 1) := Nat.lt_mul_div_succ _ (by omega)
    exact habove.le.trans (Nat.mul_le_mul_left _ hkept)
  · have hnone : y = 0 := by omega
    rw [hnone, Nat.sub_zero]
    exact Nat.mul_le_mul_right b (Nat.le_add_right a x)

theorem swapOut_mul_add_le (a b : Nat) {x y : Nat} (hxy : x ≤ y) :
    swapOut a b x * (a + y) ≤ b * y := by
  by_cases hempty : a + x = 0
  · simp [swapOut, hempty]
  · have hscaled : swapOut a b x * (a + y) * (a + x) ≤ b * y * (a + x) := by
      calc swapOut a b x * (a + y) * (a + x)
          = swapOut a b x * (a + x) * (a + y) := by ring
        _ ≤ b * x * (a + y) := Nat.mul_le_mul_right _ (swapOut_mul_le a b x)
        _ = b * (a * x) + b * (x * y) := by ring
        _ ≤ b * (a * y) + b * (x * y) := by gcongr
        _ = b * y * (a + x) := by ring
    exact Nat.le_of_mul_le_mul_right hscaled (by omega)

theorem swapOut_mono {a : Nat} (ha : 0 < a) (b : Nat) {x y : Nat} (hxy : x ≤ y) :
    swapOut a b x ≤ swapOut a b y := by
  apply (Nat.le_div_iff_mul_le (by omega)).mpr
  exact swapOut_mul_add_le a b hxy

/--
Swapping back.  An input of which only `x` of `gross` counted bought
`swapOut a b x`; putting at most that much back into the pool it left behind
returns at most `gross`.
-/
theorem swapOut_back_le {a b x gross : Nat} (hx : x ≤ gross) {back : Nat}
    (hback : back ≤ swapOut a b x) :
    swapOut (b - swapOut a b x) (a + gross) back ≤ gross := by
  apply Nat.div_le_of_le_mul
  have hpaid := swapOut_mul_add_le a b hx
  obtain ⟨rest, hrest⟩ := Nat.exists_eq_add_of_le (swapOut_le a b x)
  have hkept : b - swapOut a b x = rest := by omega
  have hfair : swapOut a b x * a ≤ rest * gross := by
    have hsplit : b * gross = swapOut a b x * gross + rest * gross := by
      rw [← Nat.add_mul, ← hrest]
    rw [Nat.mul_add, hsplit] at hpaid
    omega
  calc (a + gross) * back = back * a + back * gross := by ring
    _ ≤ swapOut a b x * a + back * gross := by gcongr
    _ ≤ rest * gross + back * gross := by gcongr
    _ = (b - swapOut a b x + back) * gross := by rw [hkept]; ring

end Girasol.Foundation
