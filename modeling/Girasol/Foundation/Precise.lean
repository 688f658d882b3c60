import Girasol.Foundation.Machine
import Mathlib.Algebra.Order.Field.Basic
import Mathlib.Tactic.Positivity

/-!
# Whole numbers through scaled floating point

A whole number that is divided by a scale, passed on as an `f64` and multiplied
back is the same number again after rounding, as long as three rounding errors
together stay below one half.
-/

namespace Girasol.Foundation

/-- `x as i64`: truncation towards zero, saturating at both ends. -/
def asI64OfF64 (x : ℚ) : Int :=
  max (-2 ^ 63) (min (if 0 ≤ x then ⌊x⌋ else -⌊-x⌋) (2 ^ 63 - 1))

theorem asI64OfF64_intCast {d : Int} (hd : |d| < 2 ^ 63) : asI64OfF64 d = d := by
  obtain ⟨hlow, hhigh⟩ := abs_lt.mp hd
  have htrunc : (if 0 ≤ (d : ℚ) then ⌊(d : ℚ)⌋ else -⌊-(d : ℚ)⌋) = d := by
    split
    · exact Int.floor_intCast d
    · rw [← Int.cast_neg, Int.floor_intCast, neg_neg]
  rw [asI64OfF64, htrunc]
  omega

theorem roundHalfAway_of_close {x : ℚ} {d : Int} (hclose : |x - d| < 1 / 2) :
    roundHalfAway x = d := by
  obtain ⟨hlow, hhigh⟩ := abs_lt.mp hclose
  rw [roundHalfAway]
  split
  case isTrue =>
    have hfloor : ⌊x + 1 / 2⌋ = d := by
      rw [Int.floor_eq_iff]
      constructor <;> linarith
    rw [hfloor]
  case isFalse =>
    have hfloor : ⌊1 / 2 - x⌋ = -d := by
      rw [Int.floor_eq_iff]
      push_cast
      constructor <;> linarith
    rw [hfloor]
    push_cast
    ring

namespace Rounding

/-- The relative error of one rounding in the range of full precision. -/
structure Precise (r : Rounding) : Prop where
  zero : r.round 0 = 0
  relative : ∀ x, f64MinPositive ≤ |x| → |x| ≤ 2 ^ 128 → |r.round x - x| ≤ |x| / 2 ^ 53

theorem exact_precise : exact.Precise where
  zero := rfl
  relative x _ _ := by
    change |x - x| ≤ |x| / 2 ^ 53
    rw [sub_self, abs_zero]
    positivity

theorem f64MinPositive_le_tiny : f64MinPositive ≤ 1 / 2 ^ 40 :=
  one_div_le_one_div_of_le (by positivity) (pow_le_pow_right₀ one_le_two (by omega))

theorem Precise.abs_bounds {r : Rounding} (hr : r.Precise) {x : ℚ} (hlow : 1 / 2 ^ 40 ≤ |x|)
    (hhigh : |x| ≤ 2 ^ 128) :
    |r.round x - x| ≤ |x| / 2 ^ 53 ∧ |x| / 2 ≤ |r.round x| ∧ |r.round x| ≤ 2 * |x| := by
  have herror := hr.relative x (f64MinPositive_le_tiny.trans hlow) hhigh
  have hsmall : |x| / 2 ^ 53 ≤ |x| / 2 :=
    div_le_div_of_nonneg_left (abs_nonneg x) two_pos (by norm_num)
  have hdown : |x| - |r.round x - x| ≤ |r.round x| := by
    have htriangle := abs_sub_abs_le_abs_sub x (r.round x)
    rw [abs_sub_comm x] at htriangle
    linarith
  have hup : |r.round x| ≤ |x| + |r.round x - x| := by
    have htriangle := abs_sub_abs_le_abs_sub (r.round x) x
    linarith
  exact ⟨herror, by linarith, by linarith [abs_nonneg x]⟩

theorem Precise.scaled_round_trip {r : Rounding} (hr : r.Precise) {d : Int}
    (hd : |d| ≤ 2 ^ 49) :
    roundHalfAway (r.mul (r.div (r.round d) 1000000000) 1000000000) = d := by
  by_cases hzero : d = 0
  · subst hzero
    simp only [mul, div, Int.cast_zero, hr.zero, zero_div, zero_mul]
    exact roundHalfAway_of_close (d := 0) (by simp)
  · have hone : (1 : ℚ) ≤ |(d : ℚ)| := by exact_mod_cast Int.one_le_abs hzero
    have hscale : |(1000000000 : ℚ)| = 1000000000 := abs_of_pos (by norm_num)
    have hmax : |(d : ℚ)| ≤ 2 ^ 49 := by exact_mod_cast hd
    obtain ⟨ha, halow, hahigh⟩ := hr.abs_bounds (x := d) (by linarith) (by linarith)
    set a := r.round (d : ℚ)
    have habs : |a / 1000000000| = |a| / 1000000000 := by rw [abs_div, hscale]
    obtain ⟨hb, hblow, hbhigh⟩ := hr.abs_bounds (x := a / 1000000000)
      (by rw [habs]; linarith) (by rw [habs]; linarith)
    set b := r.round (a / 1000000000)
    have hmul : |b * 1000000000| = |b| * 1000000000 := by rw [abs_mul, hscale]
    rw [habs] at hb hblow hbhigh
    obtain ⟨hc, -, -⟩ := hr.abs_bounds (x := b * 1000000000)
      (by rw [hmul]; linarith) (by rw [hmul]; linarith)
    rw [hmul] at hc
    refine roundHalfAway_of_close ?_
    change |r.round (b * 1000000000) - d| < 1 / 2
    have hscaled : |b * 1000000000 - a| = |b - a / 1000000000| * 1000000000 := by
      have hinner : b * 1000000000 - a = (b - a / 1000000000) * 1000000000 := by
        rw [sub_mul, div_mul_cancel₀ a (by norm_num)]
      rw [hinner, abs_mul, hscale]
    have hsum : |r.round (b * 1000000000) - d| ≤
        |r.round (b * 1000000000) - b * 1000000000| + |b * 1000000000 - a| + |a - d| := by
      have h1 := abs_sub_le (r.round (b * 1000000000)) (b * 1000000000) (d : ℚ)
      have h2 := abs_sub_le (b * 1000000000) a (d : ℚ)
      linarith
    rw [hscaled] at hsum
    linarith

end Rounding

end Girasol.Foundation
