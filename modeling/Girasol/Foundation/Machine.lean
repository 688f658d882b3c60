import Mathlib.Data.Rat.Floor

/-!
# Machine numbers

A `u64` is a natural number whose wrap-around is written out where it can
happen.  An `f64` is a rational number, and every `f64` operation rounds its
exact result by the same function.  Exact arithmetic is the rounding that
changes nothing, so a theorem about every rounding covers both.
-/

namespace Girasol.Foundation

def u64Max : Nat := 2 ^ 64 - 1

/-- Addition on `u64`, wrapping as a release build does. -/
def u64Add (a b : Nat) : Nat := (a + b) % 2 ^ 64

/-- `x as u64`: truncation towards zero, saturating at both ends. -/
def asU64 (x : ℚ) : Nat := min ⌊x⌋.toNat u64Max

def asU128 (x : ℚ) : Nat := min ⌊x⌋.toNat (2 ^ 128 - 1)

def asU32 (x : ℚ) : Nat := min ⌊x⌋.toNat (2 ^ 32 - 1)

/-- `f64::round`: to the nearest integer, halves away from zero. -/
def roundHalfAway (x : ℚ) : ℚ := if 0 ≤ x then ⌊x + 1 / 2⌋ else -⌊1 / 2 - x⌋

theorem asU64_le_iff {x : ℚ} {n : Nat} : asU64 x ≤ n ↔ x < n + 1 ∨ u64Max ≤ n := by
  have hfloor : ⌊x⌋.toNat ≤ n ↔ x < n + 1 := by
    rw [Int.toNat_le, ← Int.lt_add_one_iff, Int.floor_lt]
    push_cast
    rfl
  rw [asU64, min_le_iff, hfloor]

theorem asU64_le_max (x : ℚ) : asU64 x ≤ u64Max := min_le_right _ _

theorem max_le_asU64_succ_iff {x : ℚ} : u64Max ≤ asU64 x + 1 ↔ (u64Max : ℚ) - 1 ≤ x := by
  have hpred : u64Max ≤ asU64 x + 1 ↔ ¬ asU64 x ≤ u64Max - 2 := by
    simp only [u64Max]
    omega
  rw [hpred, asU64_le_iff, not_or, not_lt, and_iff_left (by decide)]
  norm_num [u64Max]

theorem asU64_mono {x y : ℚ} (hxy : x ≤ y) : asU64 x ≤ asU64 y :=
  min_le_min_right u64Max (Int.toNat_le_toNat (Int.floor_le_floor hxy))

@[simp] theorem asU64_natCast {n : Nat} (hn : n ≤ u64Max) : asU64 n = n := by
  rw [asU64, Int.floor_natCast, Int.toNat_natCast, min_eq_left hn]

theorem asU64_le_self {x : ℚ} (hx : 0 ≤ x) : (asU64 x : ℚ) ≤ x := by
  have hfloor : (⌊x⌋.toNat : ℚ) ≤ x := by
    have hnonneg : 0 ≤ ⌊x⌋ := Int.floor_nonneg.mpr hx
    calc ((⌊x⌋.toNat : Nat) : ℚ) = ((⌊x⌋.toNat : ℤ) : ℚ) := (Int.cast_natCast _).symm
      _ = (⌊x⌋ : ℚ) := by rw [Int.toNat_of_nonneg hnonneg]
      _ ≤ x := Int.floor_le x
  have hmin : ((asU64 x : Nat) : ℚ) ≤ (⌊x⌋.toNat : ℚ) := by
    exact_mod_cast min_le_left _ _
  exact hmin.trans hfloor

theorem asU64_of_nonpos {x : ℚ} (hx : x ≤ 0) : asU64 x = 0 := by
  have hfloor : ⌊x⌋ ≤ 0 := by exact_mod_cast (Int.floor_le x).trans hx
  rw [asU64, Int.toNat_of_nonpos hfloor, Nat.zero_min]

theorem asU64_roundHalfAway_le_iff {x : ℚ} (hx : 0 ≤ x) {n : Nat} :
    asU64 (roundHalfAway x) ≤ n ↔ x < n + 1 / 2 ∨ u64Max ≤ n := by
  have hround : asU64 (roundHalfAway x) = asU64 (x + 1 / 2) := by
    rw [roundHalfAway, if_pos hx, asU64, asU64, Int.floor_intCast]
  rw [hround, asU64_le_iff]
  apply or_congr_left
  constructor <;> intro h <;> linarith

theorem asU64_roundHalfAway_mono {x y : ℚ} (hx : 0 ≤ x) (hxy : x ≤ y) :
    asU64 (roundHalfAway x) ≤ asU64 (roundHalfAway y) := by
  apply (asU64_roundHalfAway_le_iff hx).mpr
  have hy := (asU64_roundHalfAway_le_iff (hx.trans hxy)).mp (le_refl (asU64 (roundHalfAway y)))
  exact hy.imp_left hxy.trans_lt

theorem one_le_asU64_roundHalfAway {x : ℚ} (hx : 1 ≤ x) : 1 ≤ asU64 (roundHalfAway x) := by
  by_contra hzero
  have hle : asU64 (roundHalfAway x) ≤ 0 := by omega
  have hsmall := (asU64_roundHalfAway_le_iff (zero_le_one.trans hx)).mp hle
  norm_num [u64Max] at hsmall
  linarith

theorem asU64_roundHalfAway_natCast {n : Nat} (hn : n ≤ u64Max) :
    asU64 (roundHalfAway n) = n := by
  have hround : roundHalfAway n = n := by
    have hfloor : ⌊(n : ℚ) + 1 / 2⌋ = n := by
      rw [Int.floor_eq_iff]
      push_cast
      constructor <;> linarith
    rw [roundHalfAway, if_pos n.cast_nonneg, hfloor, Int.cast_natCast]
  rw [hround, asU64_natCast hn]

theorem asU64_roundHalfAway_close {x : ℚ} (hx : 0 ≤ x) :
    |(asU64 (roundHalfAway x) : ℚ) - x| < 1 ∨
      asU64 (roundHalfAway x) = u64Max ∧ (u64Max : ℚ) < x := by
  have hupper := (asU64_roundHalfAway_le_iff hx).mp (le_refl (asU64 (roundHalfAway x)))
  obtain hzero | hpos := (asU64 (roundHalfAway x)).eq_zero_or_pos
  · left
    rw [hzero] at hupper ⊢
    norm_num [u64Max] at hupper
    rw [abs_lt]
    push_cast
    constructor <;> linarith
  · have hlower : ¬ asU64 (roundHalfAway x) ≤ asU64 (roundHalfAway x) - 1 := by omega
    rw [asU64_roundHalfAway_le_iff hx, not_or, not_lt, Nat.cast_sub hpos] at hlower
    push_cast at hlower
    by_cases hsmall : x < asU64 (roundHalfAway x) + 1 / 2
    · left
      rw [abs_lt]
      constructor <;> linarith [hlower.1]
    · right
      have hmax := le_antisymm (asU64_le_max _) (hupper.resolve_left hsmall)
      rw [hmax] at hsmall ⊢
      exact ⟨rfl, by linarith⟩

/-- `f64::MIN_POSITIVE`, the smallest number of full precision. -/
def f64MinPositive : ℚ := 1 / 2 ^ 1022

theorem f64MinPositive_pos : 0 < f64MinPositive := one_div_pos.mpr (pow_pos two_pos 1022)

theorem f64MinPositive_le_one : f64MinPositive ≤ 1 :=
  div_le_one_of_le₀ (one_le_pow₀ one_le_two) (pow_pos two_pos 1022).le

structure Rounding where
  round : ℚ → ℚ

namespace Rounding

def exact : Rounding := ⟨id⟩

def ofU64 (r : Rounding) (n : Nat) : ℚ := r.round n

def add (r : Rounding) (x y : ℚ) : ℚ := r.round (x + y)

def sub (r : Rounding) (x y : ℚ) : ℚ := r.round (x - y)

def mul (r : Rounding) (x y : ℚ) : ℚ := r.round (x * y)

def div (r : Rounding) (x y : ℚ) : ℚ := r.round (x / y)

/-- What rounding to `f64` keeps of a nonnegative number. -/
structure Accurate (r : Rounding) : Prop where
  nonneg : ∀ x, 0 ≤ x → 0 ≤ r.round x
  half_le : ∀ x, f64MinPositive ≤ x → x / 2 ≤ r.round x
  le_twice : ∀ x, 1 ≤ x → x ≤ 2 ^ 64 → r.round x ≤ 2 * x

theorem Accurate.half_le_ofU64 {r : Rounding} (hr : r.Accurate) {n : Nat} (hn : 0 < n) :
    1 / 2 ≤ r.ofU64 n := by
  have hone : (1 : ℚ) ≤ n := by exact_mod_cast hn
  have hhalf := hr.half_le n (f64MinPositive_le_one.trans hone)
  exact le_trans (by linarith) hhalf

theorem Accurate.ofU64_le {r : Rounding} (hr : r.Accurate) {n : Nat} (hn : 0 < n)
    (hlt : n < 2 ^ 64) : r.ofU64 n ≤ 2 ^ 65 := by
  have hle : (n : ℚ) ≤ 2 ^ 64 := by exact_mod_cast hlt.le
  have htwice := hr.le_twice n (by exact_mod_cast hn) hle
  exact htwice.trans (by linarith)

theorem exact_accurate : exact.Accurate where
  nonneg _ hx := hx
  half_le _ hx := half_le_self (f64MinPositive_pos.le.trans hx)
  le_twice _ hx _ := le_mul_of_one_le_left (zero_le_one.trans hx) one_le_two

end Rounding

/-- `format!("{:.1}", x)` of a nonnegative `x`: one decimal, ties to even. -/
def fixedOne (x : ℚ) : String :=
  let scaled := x * 10
  let below := ⌊scaled⌋.toNat
  let tenths :=
    if scaled - below < 1 / 2 then below
    else if 1 / 2 < scaled - below then below + 1
    else if below % 2 = 0 then below else below + 1
  s!"{tenths / 10}.{tenths % 10}"

end Girasol.Foundation
