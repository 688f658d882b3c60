import Girasol.Sell.SellToken

/-!
# The least SOL a sale accepts

The PumpSwap and the pump.fun route compute the minimum from the same price,
which is in SOL per whole token, and the same amount, which is in base units.
-/

namespace Girasol

open Foundation

section

variable (p : Platform) (cfg : Settings) (order : SellOrder)

/-- The minimum that `run_sell_executor` passes to the PumpSwap instruction. -/
def minSolOut : Nat :=
  let r := p.rounding
  let gross := r.mul order.currentPrice (r.ofU64 order.amount)
  let afterSlippage := r.mul gross (r.sub 1 (r.div (r.ofU64 cfg.slippageBps) 10000))
  asU64 (r.mul afterSlippage 1000000000)

/-- The value of the order in lamports, at its price. -/
def SellOrder.lamports : ℚ :=
  order.amount / 10 ^ order.decimals * order.currentPrice * 1000000000

/-- The share of it that slippage leaves. -/
def Settings.kept : ℚ := 1 - cfg.slippageBps / 10000

end

section

variable {p : Platform} {cfg : Settings} {order : SellOrder}

theorem minSolWithSlippage_exact (hexact : p.rounding = .exact) :
    minSolWithSlippage p cfg order = asU64 (asU64 order.lamports * cfg.kept) := by
  simp only [minSolWithSlippage, hexact, Rounding.exact, Rounding.mul, Rounding.div,
    Rounding.sub, Rounding.ofU64, id_eq, SellOrder.lamports, Settings.kept]

theorem minSolOut_exact (hexact : p.rounding = .exact) :
    minSolOut p cfg order = asU64 (10 ^ order.decimals * (order.lamports * cfg.kept)) := by
  have hscale : (10 : ℚ) ^ order.decimals ≠ 0 := pow_ne_zero _ (by norm_num)
  simp only [minSolOut, hexact, Rounding.exact, Rounding.mul, Rounding.div, Rounding.sub,
    Rounding.ofU64, id_eq, SellOrder.lamports, Settings.kept]
  congr 1
  field_simp

theorem kept_nonneg (hslippage : cfg.slippageBps ≤ 10000) : 0 ≤ cfg.kept := by
  have hle : (cfg.slippageBps : ℚ) ≤ 10000 := by exact_mod_cast hslippage
  simp only [Settings.kept]
  linarith

theorem kept_le_one (cfg : Settings) : cfg.kept ≤ 1 := by
  have hnonneg : (0 : ℚ) ≤ cfg.slippageBps := Nat.cast_nonneg _
  simp only [Settings.kept]
  linarith

theorem asU64_mul_le {x k : ℚ} (hx : 0 ≤ x) (hk : 0 ≤ k) : (asU64 (asU64 x * k) : ℚ) ≤ x * k :=
  calc (asU64 (asU64 x * k) : ℚ) ≤ asU64 x * k :=
        asU64_le_self (mul_nonneg (Nat.cast_nonneg _) hk)
    _ ≤ x * k := mul_le_mul_of_nonneg_right (asU64_le_self hx) hk

theorem asU64_mul_lt {x k : ℚ} (hk : 0 ≤ k) (hk1 : k ≤ 1) (hmax : asU64 x < u64Max) :
    x * k < asU64 (asU64 x * k) + 2 := by
  have hx : x < asU64 x + 1 := by
    rcases asU64_le_iff.mp (le_refl (asU64 x)) with h | h
    · exact h
    · omega
  have hinner : (asU64 x : ℚ) * k < asU64 (asU64 x * k) + 1 := by
    rcases asU64_le_iff.mp (le_refl (asU64 (asU64 x * k))) with h | h
    · exact h
    · have hle : (asU64 x : ℚ) * k ≤ asU64 x :=
        mul_le_of_le_one_right (Nat.cast_nonneg _) hk1
      have hsmall : (asU64 x : ℚ) < u64Max := by exact_mod_cast hmax
      have hlarge : (u64Max : ℚ) ≤ asU64 (asU64 x * k) := by exact_mod_cast h
      linarith
  have hscaled : x * k ≤ (asU64 x + 1) * k := mul_le_mul_of_nonneg_right hx.le hk
  linarith

private theorem slippageBps_eq_zero (hslippage : cfg.slippageBps ≤ 10000) {x : ℚ} (hx : x ≤ u64Max)
    (h : (u64Max : ℚ) - 1 ≤ x * cfg.kept) : cfg.slippageBps = 0 := by
  by_contra hpos
  have hone : (1 : ℚ) ≤ cfg.slippageBps := by
    exact_mod_cast Nat.one_le_iff_ne_zero.mpr hpos
  have hkept : cfg.kept ≤ 9999 / 10000 := by
    simp only [Settings.kept]
    linarith
  have hlost : x * cfg.kept ≤ u64Max * (9999 / 10000) :=
    mul_le_mul hx hkept (kept_nonneg hslippage) (Nat.cast_nonneg _)
  have hbig : (20000 : ℚ) ≤ u64Max := by norm_num [u64Max]
  linarith

private theorem kept_eq_one (hzero : cfg.slippageBps = 0) : cfg.kept = 1 := by
  simp [Settings.kept, hzero]

theorem max_le_minSol_iff (hslippage : cfg.slippageBps ≤ 10000) (x : ℚ) :
    u64Max ≤ asU64 (asU64 x * cfg.kept) + 1 ↔ cfg.slippageBps = 0 ∧ (u64Max : ℚ) - 1 ≤ x := by
  have hcast : (u64Max : ℚ) - 1 ≤ asU64 x ↔ (u64Max : ℚ) - 1 ≤ x := by
    rw [← max_le_asU64_succ_iff (x := x), sub_le_iff_le_add]
    exact_mod_cast Iff.rfl
  rw [max_le_asU64_succ_iff]
  constructor
  · intro h
    have hzero := slippageBps_eq_zero hslippage (by exact_mod_cast asU64_le_max x) h
    rw [kept_eq_one hzero, mul_one] at h
    exact ⟨hzero, hcast.mp h⟩
  · rintro ⟨hzero, hx⟩
    rw [kept_eq_one hzero, mul_one]
    exact hcast.mpr hx

private theorem eq_zero_of_scaled_lt {y : ℚ} {m d : Nat} (hle : (m : ℚ) ≤ y)
    (hlarge : 2 ≤ 10 ^ d * y) (h : 10 ^ d * y < m + 2) : d = 0 := by
  by_contra hpos
  have hy : 0 ≤ y := (Nat.cast_nonneg m).trans hle
  have hten : (10 : ℚ) ≤ 10 ^ d := le_self_pow₀ (by norm_num) hpos
  have hscaled : 10 * y ≤ 10 ^ d * y := mul_le_mul_of_nonneg_right hten hy
  have hzero : m = 0 := by
    have hlt : (m : ℚ) < 1 := by linarith
    exact Nat.lt_one_iff.mp (by exact_mod_cast hlt)
  rw [hzero, Nat.cast_zero] at h
  linarith

private theorem scaled_lt_iff (hslippage : cfg.slippageBps ≤ 10000) (x : ℚ) (d : Nat) :
    10 ^ d * (x * cfg.kept) < asU64 (asU64 x * cfg.kept) + 2 ↔
      10 ^ d * (x * cfg.kept) < 2 ∨
        d = 0 ∧ x * cfg.kept < asU64 (u64Max * cfg.kept) + 2 := by
  have hkept := kept_nonneg hslippage
  constructor
  · intro h
    by_cases hsmall : 10 ^ d * (x * cfg.kept) < 2
    · exact Or.inl hsmall
    right
    have hlarge : 2 ≤ 10 ^ d * (x * cfg.kept) := not_lt.mp hsmall
    have hvalue : 0 < x * cfg.kept := by
      apply pos_of_mul_pos_right (a := (10 : ℚ) ^ d) (by linarith)
      exact pow_nonneg (by norm_num) d
    have hx : 0 ≤ x := (pos_of_mul_pos_left hvalue hkept).le
    have hd := eq_zero_of_scaled_lt (asU64_mul_le hx hkept) hlarge h
    refine ⟨hd, ?_⟩
    rw [hd, pow_zero, one_mul] at h
    have hmax : asU64 (asU64 x * cfg.kept) ≤ asU64 (u64Max * cfg.kept) := by
      apply asU64_mono
      exact mul_le_mul_of_nonneg_right (by exact_mod_cast asU64_le_max x) hkept
    have hmax' : (asU64 (asU64 x * cfg.kept) : ℚ) ≤ asU64 (u64Max * cfg.kept) := by
      exact_mod_cast hmax
    linarith
  · rintro (hsmall | ⟨hd, hsmall⟩)
    · have hfirst : (0 : ℚ) ≤ asU64 (asU64 x * cfg.kept) := Nat.cast_nonneg _
      linarith
    · rw [hd, pow_zero, one_mul]
      by_cases hmax : asU64 x < u64Max
      · exact asU64_mul_lt hkept (kept_le_one cfg) hmax
      · have heq : asU64 x = u64Max := le_antisymm (asU64_le_max x) (not_lt.mp hmax)
        rw [heq]
        exact hsmall

private theorem minSolWithSlippage_le (hexact : p.rounding = .exact)
    (hslippage : cfg.slippageBps ≤ 10000) :
    minSolWithSlippage p cfg order ≤ minSolOut p cfg order := by
  have hkept := kept_nonneg hslippage
  rw [minSolWithSlippage_exact hexact, minSolOut_exact hexact]
  by_cases hx : 0 ≤ order.lamports
  · apply asU64_mono
    have hone : (1 : ℚ) ≤ 10 ^ order.decimals := one_le_pow₀ (by norm_num)
    calc (asU64 order.lamports : ℚ) * cfg.kept ≤ order.lamports * cfg.kept :=
          mul_le_mul_of_nonneg_right (asU64_le_self hx) hkept
      _ ≤ 10 ^ order.decimals * (order.lamports * cfg.kept) :=
          le_mul_of_one_le_left (mul_nonneg hx hkept) hone
  · rw [asU64_of_nonpos (not_le.mp hx).le, Nat.cast_zero, zero_mul, asU64_of_nonpos le_rfl]
    exact Nat.zero_le _

/-- The same minimum, up to what the two ways of rounding down differ by. -/
def MinOutputsAgree (p : Platform) (cfg : Settings) (order : SellOrder) : Prop :=
  minSolWithSlippage p cfg order ≤ minSolOut p cfg order ∧
    minSolOut p cfg order ≤ minSolWithSlippage p cfg order + 1

theorem minOutputsAgree_iff (hexact : p.rounding = .exact)
    (hslippage : cfg.slippageBps ≤ 10000) (order : SellOrder) :
    MinOutputsAgree p cfg order ↔
      10 ^ order.decimals * (order.lamports * cfg.kept) < 2 ∨
      order.decimals = 0 ∧ order.lamports * cfg.kept < asU64 (u64Max * cfg.kept) + 2 ∨
      cfg.slippageBps = 0 ∧ (u64Max : ℚ) - 1 ≤ order.lamports := by
  rw [MinOutputsAgree, and_iff_right (minSolWithSlippage_le hexact hslippage),
    minSolOut_exact hexact, minSolWithSlippage_exact hexact, asU64_le_iff,
    max_le_minSol_iff hslippage, ← or_assoc, ← scaled_lt_iff hslippage]
  push_cast
  constructor
  · rintro (h | h)
    · exact Or.inl (by linarith)
    · exact Or.inr h
  · rintro (h | h)
    · exact Or.inl (by linarith)
    · exact Or.inr h

def SellOrder.millionUnits : SellOrder where
  mint := "So11111111111111111111111111111111111111112"
  amount := 1000000
  currentPrice := 1 / 1000
  decimals := 6
  reason := .mirrorSell
  levelIndex := 0
  isFinal := false
  dex := "pumpswap"
  ammPool := none
  extraPumpAccount := none
  pumpswapAccounts := none

theorem minOutputsAgree_iff_plain :
    MinOutputsAgree .plain .plain .millionUnits ↔
      10 ^ 6 * (SellOrder.millionUnits.lamports * Settings.plain.kept) < 2 ∨
      6 = 0 ∧ SellOrder.millionUnits.lamports * Settings.plain.kept <
        asU64 (u64Max * Settings.plain.kept) + 2 ∨
      500 = 0 ∧ (u64Max : ℚ) - 1 ≤ SellOrder.millionUnits.lamports :=
  minOutputsAgree_iff rfl (by decide) .millionUnits

theorem minSolOut_scaled :
    minSolWithSlippage .plain .plain .millionUnits = 950000 ∧
      minSolOut .plain .plain .millionUnits = 950000 * 10 ^ 6 ∧
      ¬ MinOutputsAgree .plain .plain .millionUnits := by
  have hfun : minSolWithSlippage .plain .plain .millionUnits = 950000 := by decide +kernel
  have hswap : minSolOut .plain .plain .millionUnits = 950000 * 10 ^ 6 := by decide +kernel
  refine ⟨hfun, hswap, ?_⟩
  rw [MinOutputsAgree, hfun, hswap]
  omega

end

end Girasol
