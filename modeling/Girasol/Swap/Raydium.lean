import Girasol.Foundation.ConstantProduct
import Girasol.Foundation.Wrapping
import Girasol.Settings

/-!
# The amounts of a Raydium swap

Both Raydium modules compute what a pool pays and the least the bot accepts.
They share the fee, the exchange and the slippage step, and differ in which
empty pools they refuse.
-/

namespace Girasol

open Foundation

/-! ## The steps -/

def amountAfterFee (numerator denominator amountIn : Nat) : Wrapped Nat := do
  let scaled ← Wrapped.mul 64 amountIn numerator
  return amountIn - scaled / denominator

/-- The exchange in `u128`, and the cast of what is paid to `u64`. -/
def poolAmountOut (reserveIn reserveOut amountInAfterFee : Nat) : Wrapped Nat := do
  let product ← Wrapped.mul 128 reserveOut amountInAfterFee
  let total ← Wrapped.add 128 reserveIn amountInAfterFee
  Wrapped.low 64 (product / total)

def withMinAmountOut (slippageBps amountOut : Nat) : Wrapped (Nat × Nat) := do
  let kept ← Wrapped.sub 64 10000 slippageBps
  let scaled ← Wrapped.mul 64 amountOut kept
  return (amountOut, scaled / 10000)

def orientReserves (reserve0 reserve1 : Nat) (isBaseIn : Bool) : Nat × Nat :=
  if isBaseIn then (reserve0, reserve1) else (reserve1, reserve0)

namespace RaydiumV4

def tradeFeeNumerator : Nat := 25

def tradeFeeDenominator : Nat := 10000

def computeSwapAmount (coinReserve pcReserve : Nat) (isBaseIn : Bool)
    (amountIn slippageBps : Nat) : Wrapped (Nat × Nat) := do
  let amountInAfterFee ← amountAfterFee tradeFeeNumerator tradeFeeDenominator amountIn
  let (reserveIn, reserveOut) := orientReserves coinReserve pcReserve isBaseIn
  let amountOut ←
    if 0 < reserveIn then poolAmountOut reserveIn reserveOut amountInAfterFee else pure 0
  withMinAmountOut slippageBps amountOut

end RaydiumV4

namespace RaydiumCpmm

def computeSwapAmount (reserve0 reserve1 : Nat) (isBaseIn : Bool)
    (amountIn slippageBps : Nat) : Wrapped (Nat × Nat) := do
  let amountInAfterFee ← amountAfterFee 25 10000 amountIn
  let (rIn, rOut) := orientReserves reserve0 reserve1 isBaseIn
  let total ← Wrapped.add 128 rIn amountInAfterFee
  let amountOut ←
    if 0 < total then poolAmountOut rIn rOut amountInAfterFee else pure 0
  withMinAmountOut slippageBps amountOut

end RaydiumCpmm

/-! ## What each step does -/

@[simp] theorem exact_amountAfterFee (numerator denominator amountIn : Nat) :
    (amountAfterFee numerator denominator amountIn).exact = true ↔
      amountIn * numerator < 2 ^ 64 := by
  simp [amountAfterFee]

theorem amountAfterFee_eq {amountIn : Nat} (h : amountIn * 25 < 2 ^ 64) :
    amountAfterFee 25 10000 amountIn = pure (amountIn - amountIn / 400) := by
  have hfee : amountIn * 25 / 10000 = amountIn / 400 := by omega
  rw [amountAfterFee, Wrapped.mul_eq_pure h, Wrapped.pure_bind, hfee]

theorem amountAfterFee_le (numerator denominator amountIn : Nat) :
    (amountAfterFee numerator denominator amountIn).value ≤ amountIn :=
  Nat.sub_le amountIn _

theorem amountAfterFee_pos {amountIn : Nat} (h : 0 < amountIn) :
    0 < (amountAfterFee 25 10000 amountIn).value := by
  have hfee := Wrapped.value_mul_le 64 amountIn 25
  simp only [amountAfterFee, Wrapped.value_bind, Wrapped.value_pure]
  omega

section

variable {reserveIn reserveOut amountIn : Nat}

theorem poolAmountOut_eq (hin : reserveIn < 2 ^ 64) (hout : reserveOut < 2 ^ 64)
    (hamount : amountIn < 2 ^ 64) :
    poolAmountOut reserveIn reserveOut amountIn =
      pure (swapOut reserveIn reserveOut amountIn) := by
  have hproduct : reserveOut * amountIn < 2 ^ 128 := by
    calc reserveOut * amountIn < 2 ^ 64 * 2 ^ 64 := Nat.mul_lt_mul'' hout hamount
      _ = 2 ^ 128 := by norm_num
  have htotal : reserveIn + amountIn < 2 ^ 128 := by omega
  have hpaid : swapOut reserveIn reserveOut amountIn < 2 ^ 64 :=
    lt_of_le_of_lt (swapOut_le reserveIn reserveOut amountIn) hout
  rw [poolAmountOut, Wrapped.mul_eq_pure hproduct, Wrapped.pure_bind,
    Wrapped.add_eq_pure htotal, Wrapped.pure_bind]
  exact Wrapped.low_eq_pure hpaid

theorem value_poolAmountOut_le (htotal : reserveIn + amountIn < 2 ^ 128) :
    (poolAmountOut reserveIn reserveOut amountIn).value ≤
      swapOut reserveIn reserveOut amountIn := by
  simp only [poolAmountOut, Wrapped.value_bind, Wrapped.add_eq_pure htotal, Wrapped.value_pure]
  apply le_trans (Wrapped.value_low_le 64 _)
  exact Nat.div_le_div_right (Wrapped.value_mul_le 128 reserveOut amountIn)

end

@[simp] theorem value_withMinAmountOut_fst (slippageBps amountOut : Nat) :
    (withMinAmountOut slippageBps amountOut).value.1 = amountOut := rfl

theorem withMinAmountOut_eq {slippageBps : Nat} (hle : slippageBps ≤ 10000) (amountOut : Nat) :
    withMinAmountOut slippageBps amountOut =
      (Wrapped.mul 64 amountOut (10000 - slippageBps) >>= fun scaled =>
        pure (amountOut, scaled / 10000)) := by
  rw [withMinAmountOut, Wrapped.sub_eq_pure (by norm_num) hle, Wrapped.pure_bind]

theorem exact_withMinAmountOut (slippageBps amountOut : Nat) :
    (withMinAmountOut slippageBps amountOut).exact = true ↔
      slippageBps ≤ 10000 ∧ amountOut * (10000 - slippageBps) < 2 ^ 64 := by
  by_cases hle : slippageBps ≤ 10000
  · rw [withMinAmountOut_eq hle]
    simp [hle]
  · simp [withMinAmountOut, hle]

theorem value_withMinAmountOut_snd {slippageBps amountOut : Nat} (hle : slippageBps ≤ 10000)
    (hlt : amountOut * (10000 - slippageBps) < 2 ^ 64) :
    (withMinAmountOut slippageBps amountOut).value.2 =
      amountOut * (10000 - slippageBps) / 10000 := by
  rw [withMinAmountOut_eq hle, Wrapped.mul_eq_pure hlt, Wrapped.pure_bind, Wrapped.value_pure]

section

variable {reserve0 reserve1 amountIn : Nat} {isBaseIn : Bool}

theorem orientReserves_lt {n : Nat} (h0 : reserve0 < n) (h1 : reserve1 < n)
    (isBaseIn : Bool) :
    (orientReserves reserve0 reserve1 isBaseIn).1 < n ∧
      (orientReserves reserve0 reserve1 isBaseIn).2 < n := by
  cases isBaseIn with
  | true => exact ⟨h0, h1⟩
  | false => exact ⟨h1, h0⟩

theorem RaydiumV4.computeSwapAmount_eq (h0 : reserve0 < 2 ^ 64) (h1 : reserve1 < 2 ^ 64)
    (hamount : amountIn < 2 ^ 64) (slippageBps : Nat) :
    RaydiumV4.computeSwapAmount reserve0 reserve1 isBaseIn amountIn slippageBps =
      (amountAfterFee 25 10000 amountIn >>= fun net =>
        let reserves := orientReserves reserve0 reserve1 isBaseIn
        withMinAmountOut slippageBps
          (if 0 < reserves.1 then swapOut reserves.1 reserves.2 net else 0)) := by
  apply Wrapped.bind_congr
  have hreserves := orientReserves_lt h0 h1 isBaseIn
  have hnet := lt_of_le_of_lt (amountAfterFee_le 25 10000 amountIn) hamount
  simp only [tradeFeeNumerator, tradeFeeDenominator]
  split
  · rw [poolAmountOut_eq hreserves.1 hreserves.2 hnet, Wrapped.pure_bind]
  · rw [Wrapped.pure_bind]

theorem RaydiumCpmm.computeSwapAmount_eq (h0 : reserve0 < 2 ^ 64) (h1 : reserve1 < 2 ^ 64)
    (hamount : amountIn < 2 ^ 64) (slippageBps : Nat) :
    RaydiumCpmm.computeSwapAmount reserve0 reserve1 isBaseIn amountIn slippageBps =
      (amountAfterFee 25 10000 amountIn >>= fun net =>
        let reserves := orientReserves reserve0 reserve1 isBaseIn
        withMinAmountOut slippageBps (swapOut reserves.1 reserves.2 net)) := by
  apply Wrapped.bind_congr
  have hreserves := orientReserves_lt h0 h1 isBaseIn
  have hnet := lt_of_le_of_lt (amountAfterFee_le 25 10000 amountIn) hamount
  have htotal : (orientReserves reserve0 reserve1 isBaseIn).1 +
      (amountAfterFee 25 10000 amountIn).value < 2 ^ 128 := by omega
  simp only [Wrapped.add_eq_pure htotal, Wrapped.pure_bind]
  split
  · rw [poolAmountOut_eq hreserves.1 hreserves.2 hnet, Wrapped.pure_bind]
  · have hzero : (amountAfterFee 25 10000 amountIn).value = 0 := by omega
    rw [hzero, swapOut_zero]

end

/-! ## When every operation is exact -/

structure AmountsSound (slippageBps : Nat) (amounts : Wrapped (Nat × Nat)) : Prop where
  exact : amounts.exact = true
  minAmountOut :
    (amounts.value.2 : ℤ) = (amounts.value.1 : ℤ) * (10000 - slippageBps) / 10000
  le : amounts.value.2 ≤ amounts.value.1

def OutputFits (reserveIn reserveOut amountIn slippageBps : Nat) : Prop :=
  let net := amountIn - amountIn / 400
  slippageBps = 10000 ∨ amountIn = 0 ∨
    reserveOut * net < ((2 ^ 64 - 1) / (10000 - slippageBps) + 1) * (reserveIn + net)

private theorem swapOut_mul_lt_iff {reserveIn reserveOut amountIn slippageBps : Nat}
    (hle : slippageBps ≤ 10000) :
    swapOut reserveIn reserveOut (amountIn - amountIn / 400) * (10000 - slippageBps) < 2 ^ 64 ↔
      OutputFits reserveIn reserveOut amountIn slippageBps := by
  simp only [OutputFits]
  by_cases hnone : slippageBps = 10000
  · simp [hnone]
  by_cases hzero : amountIn = 0
  · simp [hzero]
  simp only [hnone, hzero, false_or]
  have hkept : 0 < 10000 - slippageBps := by omega
  have hnet : 0 < reserveIn + (amountIn - amountIn / 400) := by omega
  rw [← Nat.div_lt_iff_lt_mul hnet, Nat.lt_add_one_iff, Nat.le_div_iff_mul_le hkept, swapOut]
  omega

private theorem amountsSound_withMinAmountOut (slippageBps amountOut : Nat) :
    AmountsSound slippageBps (withMinAmountOut slippageBps amountOut) ↔
      slippageBps ≤ 10000 ∧ amountOut * (10000 - slippageBps) < 2 ^ 64 := by
  constructor
  · intro h
    exact (exact_withMinAmountOut slippageBps amountOut).mp h.exact
  · rintro ⟨hle, hlt⟩
    have hmin := value_withMinAmountOut_snd hle hlt
    refine ⟨(exact_withMinAmountOut slippageBps amountOut).mpr ⟨hle, hlt⟩, ?_, ?_⟩
    · rw [hmin, value_withMinAmountOut_fst]
      push_cast [Nat.cast_sub hle]
      rfl
    · rw [hmin, value_withMinAmountOut_fst]
      apply Nat.div_le_of_le_mul
      rw [Nat.mul_comm 10000]
      exact Nat.mul_le_mul_left amountOut (Nat.sub_le 10000 slippageBps)

private theorem amountsSound_afterFee {amountIn slippageBps : Nat} (amountOut : Nat → Nat) :
    AmountsSound slippageBps (amountAfterFee 25 10000 amountIn >>= fun net =>
        withMinAmountOut slippageBps (amountOut net)) ↔
      amountIn * 25 < 2 ^ 64 ∧ slippageBps ≤ 10000 ∧
        amountOut (amountIn - amountIn / 400) * (10000 - slippageBps) < 2 ^ 64 := by
  by_cases hfee : amountIn * 25 < 2 ^ 64
  · rw [amountAfterFee_eq hfee, Wrapped.pure_bind, amountsSound_withMinAmountOut]
    constructor
    · intro h
      exact ⟨hfee, h⟩
    · intro h
      exact h.2
  · constructor
    · intro h
      have hexact := h.exact
      simp only [Wrapped.exact_bind, Bool.and_eq_true, exact_amountAfterFee] at hexact
      exact absurd hexact.1 hfee
    · intro h
      exact absurd h.1 hfee

theorem swapAmounts_sound_iff {p : Platform} (cfg : ValidSettings p)
    {reserve0 reserve1 amountIn : Nat} (h0 : reserve0 < 2 ^ 64) (h1 : reserve1 < 2 ^ 64)
    (hamount : amountIn < 2 ^ 64) (isBaseIn : Bool) :
    let slippageBps := cfg.val.slippageBps
    let reserves := orientReserves reserve0 reserve1 isBaseIn
    (AmountsSound slippageBps
        (RaydiumV4.computeSwapAmount reserve0 reserve1 isBaseIn amountIn slippageBps) ↔
      amountIn * 25 < 2 ^ 64 ∧ slippageBps ≤ 10000 ∧
        (reserves.1 = 0 ∨ OutputFits reserves.1 reserves.2 amountIn slippageBps)) ∧
    (AmountsSound slippageBps
        (RaydiumCpmm.computeSwapAmount reserve0 reserve1 isBaseIn amountIn slippageBps) ↔
      amountIn * 25 < 2 ^ 64 ∧ slippageBps ≤ 10000 ∧
        OutputFits reserves.1 reserves.2 amountIn slippageBps) := by
  intro slippageBps reserves
  constructor
  · rw [RaydiumV4.computeSwapAmount_eq h0 h1 hamount]
    apply (amountsSound_afterFee _).trans
    apply and_congr_right
    intro _
    apply and_congr_right
    intro hle
    by_cases hempty : reserves.1 = 0
    · simp [reserves, hempty]
    · have hpos : 0 < reserves.1 := Nat.pos_of_ne_zero hempty
      simp only [reserves] at hpos hempty ⊢
      simp only [hpos, if_true, hempty, false_or]
      exact swapOut_mul_lt_iff hle
  · rw [RaydiumCpmm.computeSwapAmount_eq h0 h1 hamount]
    apply (amountsSound_afterFee _).trans
    apply and_congr_right
    intro _
    apply and_congr_right
    intro hle
    exact swapOut_mul_lt_iff hle

theorem swapAmounts_sound_iff_plain :
    let reserves := orientReserves 1000000000 2000000000 true
    (AmountsSound 500 (RaydiumV4.computeSwapAmount 1000000000 2000000000 true 1000000 500) ↔
      1000000 * 25 < 2 ^ 64 ∧ 500 ≤ 10000 ∧
        (reserves.1 = 0 ∨ OutputFits reserves.1 reserves.2 1000000 500)) ∧
    (AmountsSound 500 (RaydiumCpmm.computeSwapAmount 1000000000 2000000000 true 1000000 500) ↔
      1000000 * 25 < 2 ^ 64 ∧ 500 ≤ 10000 ∧ OutputFits reserves.1 reserves.2 1000000 500) :=
  swapAmounts_sound_iff .plain (by norm_num) (by norm_num) (by norm_num) true

theorem Settings.validate_slippageBps (p : Platform) (cfg : Settings) (slippageBps : Nat) :
    { cfg with slippageBps := slippageBps }.validate p = cfg.validate p := rfl

/--
One SOL into a pool of 80 SOL and 10^18 units of a token with nine decimals:
the minimum is computed from a product that wrapped.  And settings whose
slippage exceeds 100% pass validation and wrap the subtraction.
-/
theorem swapAmounts_not_sound :
    ¬ AmountsSound (ValidSettings.plain).val.slippageBps
      (RaydiumV4.computeSwapAmount 80000000000 (10 ^ 18) true 1000000000
        (ValidSettings.plain).val.slippageBps) ∧
    { Settings.plain with slippageBps := 10001 }.validate .plain = .ok () ∧
    ¬ AmountsSound 10001 (RaydiumV4.computeSwapAmount 1000 1000 true 100 10001) := by
  refine ⟨?_, ?_, ?_⟩
  · intro h
    exact absurd h.exact (by decide +kernel)
  · exact (Settings.validate_slippageBps .plain .plain 10001).trans Settings.plain_valid
  · intro h
    exact absurd h.exact (by decide +kernel)

/-! ## The exchange is fair -/

def settledReserves (reserve0 reserve1 : Nat) (isBaseIn : Bool) (amountIn amountOut : Nat) :
    Nat × Nat :=
  if isBaseIn then (reserve0 + amountIn, reserve1 - amountOut)
  else (reserve0 - amountOut, reserve1 + amountIn)

theorem orientReserves_settled (reserve0 reserve1 amountIn amountOut : Nat) (isBaseIn : Bool) :
    let reserves := orientReserves reserve0 reserve1 isBaseIn
    let settled := settledReserves reserve0 reserve1 isBaseIn amountIn amountOut
    orientReserves settled.1 settled.2 (!isBaseIn) =
      (reserves.2 - amountOut, reserves.1 + amountIn) := by
  cases isBaseIn <;> rfl

namespace RaydiumV4

variable {coinReserve pcReserve amountIn : Nat} {isBaseIn : Bool}

def amountOut (coinReserve pcReserve : Nat) (isBaseIn : Bool) (amountIn slippageBps : Nat) : Nat :=
  (computeSwapAmount coinReserve pcReserve isBaseIn amountIn slippageBps).value.1

private theorem amountOut_eq (hcoin : coinReserve < 2 ^ 64) (hpc : pcReserve < 2 ^ 64)
    (hfee : amountIn * 25 < 2 ^ 64)
    (hin : 0 < (orientReserves coinReserve pcReserve isBaseIn).1) (slippageBps : Nat) :
    amountOut coinReserve pcReserve isBaseIn amountIn slippageBps =
      swapOut (orientReserves coinReserve pcReserve isBaseIn).1
        (orientReserves coinReserve pcReserve isBaseIn).2 (amountIn - amountIn / 400) := by
  rw [amountOut, computeSwapAmount_eq hcoin hpc (by omega), amountAfterFee_eq hfee,
    Wrapped.pure_bind]
  simp only [hin, if_true, value_withMinAmountOut_fst]

private theorem amountOut_le_swapOut
    (hsize : (orientReserves coinReserve pcReserve isBaseIn).1 + amountIn < 2 ^ 128)
    (slippageBps : Nat) :
    ∃ net ≤ amountIn, amountOut coinReserve pcReserve isBaseIn amountIn slippageBps ≤
      swapOut (orientReserves coinReserve pcReserve isBaseIn).1
        (orientReserves coinReserve pcReserve isBaseIn).2 net := by
  have hnet := amountAfterFee_le tradeFeeNumerator tradeFeeDenominator amountIn
  refine ⟨_, hnet, ?_⟩
  simp only [amountOut, computeSwapAmount, Wrapped.value_bind]
  split
  · exact value_poolAmountOut_le (by omega)
  · exact Nat.zero_le _

private theorem amountOut_back_le (hcoin : coinReserve < 2 ^ 64) (hpc : pcReserve < 2 ^ 64)
    {net out : Nat} (hnet : net ≤ amountIn)
    (hout : out = swapOut (orientReserves coinReserve pcReserve isBaseIn).1
      (orientReserves coinReserve pcReserve isBaseIn).2 net) (backBps : Nat) :
    let settled := settledReserves coinReserve pcReserve isBaseIn amountIn out
    amountOut settled.1 settled.2 (!isBaseIn) out backBps ≤ amountIn := by
  intro settled
  have hreserves := orientReserves_lt hcoin hpc isBaseIn
  have hle := swapOut_le (orientReserves coinReserve pcReserve isBaseIn).1
    (orientReserves coinReserve pcReserve isBaseIn).2 net
  have horient := orientReserves_settled coinReserve pcReserve amountIn out isBaseIn
  have hsize : (orientReserves settled.1 settled.2 (!isBaseIn)).1 + out < 2 ^ 128 := by
    rw [horient]
    have := hreserves.2
    omega
  obtain ⟨back, hback, hbackOut⟩ := amountOut_le_swapOut hsize backBps
  apply le_trans hbackOut
  rw [horient, hout]
  apply swapOut_back_le hnet
  rw [← hout]
  exact hback

theorem swap_fair (hcoin : coinReserve < 2 ^ 64) (hpc : pcReserve < 2 ^ 64)
    (hfee : amountIn * 25 < 2 ^ 64)
    (hin : 0 < (orientReserves coinReserve pcReserve isBaseIn).1) (slippageBps : Nat) :
    let reserveIn := (orientReserves coinReserve pcReserve isBaseIn).1
    let reserveOut := (orientReserves coinReserve pcReserve isBaseIn).2
    let inAfterFee := (amountAfterFee tradeFeeNumerator tradeFeeDenominator amountIn).value
    let out := amountOut coinReserve pcReserve isBaseIn amountIn slippageBps
    let settled := settledReserves coinReserve pcReserve isBaseIn amountIn out
    (out ≤ reserveOut ∧ (0 < reserveOut → out < reserveOut)) ∧
    (reserveOut * inAfterFee / (reserveIn + inAfterFee) < 2 ^ 64 ∧
      out = reserveOut * inAfterFee / (reserveIn + inAfterFee)) ∧
    reserveIn * reserveOut ≤ (reserveIn + inAfterFee) * (reserveOut - out) ∧
    (∀ more, amountIn ≤ more → more * 25 < 2 ^ 64 →
      out ≤ amountOut coinReserve pcReserve isBaseIn more slippageBps) ∧
    ∀ backBps, amountOut settled.1 settled.2 (!isBaseIn) out backBps ≤ amountIn := by
  intro reserveIn reserveOut inAfterFee out settled
  have hreserves := orientReserves_lt hcoin hpc isBaseIn
  have hnet : inAfterFee = amountIn - amountIn / 400 := by
    simp only [inAfterFee, tradeFeeNumerator, tradeFeeDenominator, amountAfterFee_eq hfee,
      Wrapped.value_pure]
  have hout : out = swapOut reserveIn reserveOut inAfterFee := by
    rw [hnet]
    exact amountOut_eq hcoin hpc hfee hin slippageBps
  have hle := swapOut_le reserveIn reserveOut inAfterFee
  refine ⟨⟨?_, ?_⟩, ⟨?_, hout⟩, ?_, ?_, ?_⟩
  · rw [hout]
    exact hle
  · intro hpos
    rw [hout]
    exact swapOut_lt hin hpos inAfterFee
  · exact lt_of_le_of_lt hle hreserves.2
  · rw [hout]
    exact mul_le_swapped reserveIn reserveOut inAfterFee
  · intro more hmore hmoreFee
    rw [hout, hnet, amountOut_eq hcoin hpc hmoreFee hin]
    apply swapOut_mono hin
    omega
  · exact amountOut_back_le hcoin hpc (hnet.le.trans (Nat.sub_le _ _)) hout

theorem swap_fair_plain :
    let out := amountOut 1000000000 2000000000 true 1000000 500
    let settled := settledReserves 1000000000 2000000000 true 1000000 out
    out < 2000000000 ∧ amountOut settled.1 settled.2 false out 500 ≤ 1000000 := by
  have hfair := @swap_fair 1000000000 2000000000 1000000 true (by norm_num) (by norm_num)
    (by norm_num) (by decide) 500
  exact ⟨hfair.1.2 (by decide), hfair.2.2.2.2 500⟩

end RaydiumV4

/-! ## Two copies of one computation -/

theorem computeSwapAmount_agree_iff {reserve0 reserve1 amountIn : Nat} (h0 : reserve0 < 2 ^ 64)
    (h1 : reserve1 < 2 ^ 64) (hamount : amountIn < 2 ^ 64) (isBaseIn : Bool)
    (slippageBps : Nat) :
    (RaydiumV4.computeSwapAmount reserve0 reserve1 isBaseIn amountIn slippageBps).value =
        (RaydiumCpmm.computeSwapAmount reserve0 reserve1 isBaseIn amountIn slippageBps).value ↔
      0 < (orientReserves reserve0 reserve1 isBaseIn).1 ∨
        (orientReserves reserve0 reserve1 isBaseIn).2 = 0 ∨ amountIn = 0 := by
  rw [RaydiumV4.computeSwapAmount_eq h0 h1 hamount,
    RaydiumCpmm.computeSwapAmount_eq h0 h1 hamount, Wrapped.value_bind, Wrapped.value_bind]
  obtain ⟨reserveIn, reserveOut⟩ := orientReserves reserve0 reserve1 isBaseIn
  by_cases hin : 0 < reserveIn
  · simp [hin]
  obtain rfl : reserveIn = 0 := by omega
  simp only [lt_irrefl, if_false, false_or]
  constructor
  · intro hsame
    have hfst := congrArg Prod.fst hsame
    rw [value_withMinAmountOut_fst, value_withMinAmountOut_fst, swapOut, Nat.zero_add] at hfst
    by_cases hzero : amountIn = 0
    · exact Or.inr hzero
    · rw [Nat.mul_div_cancel _ (amountAfterFee_pos (Nat.pos_of_ne_zero hzero))] at hfst
      exact Or.inl hfst.symm
  · rintro (rfl | rfl)
    · simp [swapOut]
    · have hnet : (amountAfterFee 25 10000 0).value = 0 :=
        Nat.le_zero.mp (amountAfterFee_le 25 10000 0)
      rw [hnet, swapOut_zero]

theorem computeSwapAmount_agree_iff_plain :
    (RaydiumV4.computeSwapAmount 1000 2000 false 10 500).value =
        (RaydiumCpmm.computeSwapAmount 1000 2000 false 10 500).value ↔
      0 < (orientReserves 1000 2000 false).1 ∨ (orientReserves 1000 2000 false).2 = 0 ∨ 10 = 0 :=
  computeSwapAmount_agree_iff (by norm_num) (by norm_num) (by norm_num) false 500

theorem computeSwapAmount_disagree :
    ¬ ∀ (reserve0 reserve1 amountIn slippageBps : Nat) (isBaseIn : Bool),
      reserve0 < 2 ^ 64 → reserve1 < 2 ^ 64 → amountIn < 2 ^ 64 →
      let v4 := RaydiumV4.computeSwapAmount reserve0 reserve1 isBaseIn amountIn slippageBps
      let cpmm := RaydiumCpmm.computeSwapAmount reserve0 reserve1 isBaseIn amountIn slippageBps
      v4.exact = true → cpmm.exact = true → v4.value = cpmm.value := by
  intro h
  have hv4 : RaydiumV4.computeSwapAmount 0 1000 true 1 500 = pure (0, 0) := by decide +kernel
  have hcpmm : RaydiumCpmm.computeSwapAmount 0 1000 true 1 500 = pure (1000, 950) := by
    decide +kernel
  have hsame := h 0 1000 1 500 true (by norm_num) (by norm_num) (by norm_num)
  rw [hv4, hcpmm] at hsame
  exact absurd (hsame rfl rfl) (by decide)

end Girasol
