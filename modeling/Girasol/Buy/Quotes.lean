import Girasol.Buy.Routes
import Girasol.Detect.Shreds
import Girasol.Foundation.ConstantProduct

/-!
# How many tokens a buy asks for

With both amounts of the target known, `buyToken` scales the target's tokens;
without, it works out what the bonding curve sells.  The quote from the curve
never costs more than the SOL spent.  The scaled quote divides by an amount that
a listener may have read from instruction data.
-/

namespace Girasol

open Foundation

/-! ## The quote from the curve -/

namespace CurvePrice

variable (curve : CurvePrice) (solLamports : Nat)

/-- The reserves are `u64`, and there is SOL to exchange against. -/
structure Open : Prop where
  sol_lt : curve.virtualSolReserves < 2 ^ 64
  token_lt : curve.virtualTokenReserves < 2 ^ 64
  sol_pos : 0 < curve.virtualSolReserves

def bought : Nat :=
  min (curve.virtualTokenReserves -
      (curve.virtualSolReserves * curve.virtualTokenReserves /
        (curve.virtualSolReserves + solLamports) + 1))
    curve.realTokenReserves

theorem bought_le_virtual : curve.bought solLamports ≤ curve.virtualTokenReserves :=
  (min_le_left _ _).trans (Nat.sub_le _ _)

theorem bought_le_real : curve.bought solLamports ≤ curve.realTokenReserves :=
  min_le_right _ _

variable {curve}

private theorem bought_keeps_product (hpos : 0 < curve.virtualSolReserves) :
    curve.virtualSolReserves * curve.virtualTokenReserves ≤
      (curve.virtualSolReserves + solLamports) *
        (curve.virtualTokenReserves - curve.bought solLamports) :=
  mul_le_of_le_sub_succ hpos (min_le_left _ _)

variable {solLamports}

private theorem exactTokens_eq (hopen : curve.Open) (hlamports : solLamports < 2 ^ 64) :
    exactTokens curve solLamports = pure (curve.bought solLamports) := by
  obtain ⟨hsol, htoken, hpos⟩ := hopen
  have hproduct : curve.virtualSolReserves * curve.virtualTokenReserves <
      (2 ^ 64 - 1) * 2 ^ 64 := by
    calc curve.virtualSolReserves * curve.virtualTokenReserves
        ≤ (2 ^ 64 - 1) * curve.virtualTokenReserves := Nat.mul_le_mul_right _ (by omega)
      _ < (2 ^ 64 - 1) * 2 ^ 64 := Nat.mul_lt_mul_of_pos_left htoken (by norm_num)
  have hquotient := Nat.div_le_self (curve.virtualSolReserves * curve.virtualTokenReserves)
    (curve.virtualSolReserves + solLamports)
  rw [exactTokens, Wrapped.mul_eq_pure (by omega), Wrapped.pure_bind,
    Wrapped.add_eq_pure (by omega), Wrapped.pure_bind, Wrapped.div_eq_pure (by omega),
    Wrapped.pure_bind, Wrapped.add_eq_pure (by omega), Wrapped.pure_bind]
  apply Wrapped.low_eq_pure
  exact lt_of_le_of_lt (curve.bought_le_virtual solLamports) htoken

end CurvePrice

/--
Every operation of the quote is exact, what it quotes is there to be bought, the
product of the virtual reserves does not fall, and the SOL spent pays for it.
-/
structure CurveQuoteSound (curve : CurvePrice) (solLamports : Nat) (quote : Wrapped Nat) :
    Prop where
  exact : quote.exact = true
  le_real : quote.value ≤ curve.realTokenReserves
  le_virtual : quote.value ≤ curve.virtualTokenReserves
  product_le : curve.virtualSolReserves * curve.virtualTokenReserves ≤
    (curve.virtualSolReserves + solLamports) * (curve.virtualTokenReserves - quote.value)
  le_swapOut : quote.value ≤
    swapOut curve.virtualSolReserves curve.virtualTokenReserves solLamports

/-- Without the target's amounts the quote is nine tenths of a sound one, or 1000. -/
theorem quoteFromCurve_sound (p : Platform) (curve : CurvePrice) (hopen : curve.Open)
    (solAmount : ℚ) (hlamports : curveLamports p solAmount < 2 ^ 64) :
    CurveQuoteSound curve (curveLamports p solAmount)
        (exactTokens curve (curveLamports p solAmount)) ∧
      (quoteFromCurve p solAmount curve).1 =
        safeAmount p (exactTokens curve (curveLamports p solAmount)).value := by
  refine ⟨?_, rfl⟩
  rw [CurvePrice.exactTokens_eq hopen hlamports]
  have hproduct := CurvePrice.bought_keeps_product (curveLamports p solAmount) hopen.sol_pos
  have hvirtual := curve.bought_le_virtual (curveLamports p solAmount)
  exact
    { exact := rfl
      le_real := curve.bought_le_real _
      le_virtual := hvirtual
      product_le := hproduct
      le_swapOut := le_swapOut_of_mul_le hopen.sol_pos hvirtual hproduct }

def CurvePrice.fresh : CurvePrice where
  price := 30 / 1073000000
  virtualSolReserves := 30000000000
  virtualTokenReserves := 1073000000000000
  realTokenReserves := 793100000000000

theorem quoteFromCurve_sound_fresh :
    CurveQuoteSound .fresh (curveLamports .plain 1) (exactTokens .fresh (curveLamports .plain 1)) ∧
      (quoteFromCurve .plain 1 .fresh).1 = 31151612903225 := by
  have hlamports : curveLamports .plain 1 = 1000000000 := by decide +kernel
  have hsound := quoteFromCurve_sound .plain .fresh ⟨by decide, by decide, by decide⟩ 1
    (by rw [hlamports]; norm_num)
  exact ⟨hsound.1, by decide +kernel⟩

/-! ## The quote from the target's amounts -/

section

variable (p : Platform)

/--
Where both amounts of the target are known, the quote divides by something and
asks for at most nine tenths of our share of the target's tokens, or for 1000.
-/
def FastPathSound (req : BuyRequest) (curve : Except String CurvePrice) : Prop :=
  ∀ targetSol ∈ req.targetSolSpent, ∀ targetTokens ∈ req.targetTokenAmount,
    ∃ quote, quoteBuy p req curve = .ok quote ∧ targetSol ≠ 0 ∧
      (quote.1 : ℚ) ≤ max 1000 (9 / 10 * (targetTokens * req.solAmount / targetSol))

end

section

variable (r : Rounding) (solAmount targetSol : ℚ) (targetTokens : Nat)

def roundedShare : Nat := asU64 (r.mul (r.ofU64 targetTokens) (r.div solAmount targetSol))

def roundedTenths (amount : Nat) : ℚ := r.mul (r.ofU64 amount) (r.round (9 / 10))

/-- Rounding carries nine tenths of our share past a whole number above 1000. -/
def RoundsPast : Prop :=
  ∃ n : Nat, 1000 < n ∧ n ≤ u64Max ∧
    9 / 10 * (targetTokens * solAmount / targetSol) < n ∧
    (n : ℚ) ≤ roundedTenths r (roundedShare r solAmount targetSol targetTokens)

/-- Neither of the two products is rounded up. -/
structure NotRoundedUp : Prop where
  share : r.mul (r.ofU64 targetTokens) (r.div solAmount targetSol) ≤
    targetTokens * solAmount / targetSol
  tenths : roundedTenths r (roundedShare r solAmount targetSol targetTokens) ≤
    9 / 10 * roundedShare r solAmount targetSol targetTokens

variable {r solAmount targetSol targetTokens}

theorem notRoundedUp_exact : NotRoundedUp .exact solAmount targetSol targetTokens where
  share := (mul_div_assoc _ _ _).ge
  tenths := (mul_comm _ _).le

theorem NotRoundedUp.not_roundsPast (h : NotRoundedUp r solAmount targetSol targetTokens) :
    ¬RoundsPast r solAmount targetSol targetTokens := by
  rintro ⟨n, hn, -, habove, hbelow⟩
  have hpos : (0 : ℚ) < n := by exact_mod_cast (by omega : 0 < n)
  have htenths : (n : ℚ) ≤ 9 / 10 * roundedShare r solAmount targetSol targetTokens :=
    hbelow.trans h.tenths
  obtain hneg | hnonneg := lt_or_ge (targetTokens * solAmount / targetSol) 0
  · have hzero : roundedShare r solAmount targetSol targetTokens = 0 :=
      asU64_of_nonpos (h.share.trans hneg.le)
    rw [hzero, Nat.cast_zero, mul_zero] at htenths
    exact absurd htenths (not_le.mpr hpos)
  · have hshare : (roundedShare r solAmount targetSol targetTokens : ℚ) ≤
        targetTokens * solAmount / targetSol := by
      have hmono : (roundedShare r solAmount targetSol targetTokens : ℚ) ≤
          asU64 (targetTokens * solAmount / targetSol) := by
        exact_mod_cast asU64_mono h.share
      exact hmono.trans (asU64_le_self hnonneg)
    linarith

private theorem asU64_le_max_iff {x bound : ℚ} :
    (asU64 x : ℚ) ≤ max 1000 bound ↔
      ¬∃ n : Nat, 1000 < n ∧ n ≤ u64Max ∧ bound < n ∧ (n : ℚ) ≤ x := by
  constructor
  · rintro hle ⟨n, hn, hmax, hbound, hx⟩
    have hreached : (n : ℚ) ≤ asU64 x := by
      have hmono := asU64_mono hx
      rw [asU64_natCast hmax] at hmono
      exact_mod_cast hmono
    rcases le_max_iff.mp (hreached.trans hle) with hsmall | hsmall
    · exact absurd hn (not_lt.mpr (by exact_mod_cast hsmall))
    · exact absurd hbound (not_lt.mpr hsmall)
  · intro hnone
    by_contra hlt
    rw [not_le, max_lt_iff] at hlt
    have hpos : 1000 < asU64 x := by exact_mod_cast hlt.1
    have hnonneg : 0 ≤ x := by
      by_contra hneg
      rw [asU64_of_nonpos (not_le.mp hneg).le] at hpos
      omega
    exact hnone ⟨asU64 x, hpos, asU64_le_max x, hlt.2, asU64_le_self hnonneg⟩

private theorem quoteFromTarget_le_iff {p : Platform} (hsol : targetSol ≠ 0) :
    ((quoteFromTarget p solAmount targetSol targetTokens).1 : ℚ) ≤
        max 1000 (9 / 10 * (targetTokens * solAmount / targetSol)) ↔
      ¬RoundsPast p.rounding solAmount targetSol targetTokens := by
  have hscaled : scaledFromTarget p solAmount targetSol targetTokens =
      roundedShare p.rounding solAmount targetSol targetTokens := by
    simp only [scaledFromTarget, if_neg hsol, roundedShare]
  simp only [quoteFromTarget, hscaled, safeAmount, Nat.cast_max, max_le_iff]
  rw [and_iff_left (le_max_of_le_left (by norm_num))]
  exact asU64_le_max_iff

end

/-- The target's tokens cost it nothing, by what the detection tells. -/
def DetectedBuy.Unpriced (detected : DetectedBuy) : Prop :=
  detected.solAmount = some 0 ∧ detected.tokenAmount.isSome

instance (detected : DetectedBuy) : Decidable detected.Unpriced :=
  inferInstanceAs (Decidable (_ ∧ _))

section

variable (p : Platform) (cfg : Settings) (detected : DetectedBuy)
  (curve : Except String CurvePrice)

/--
The fast path is sound for every detection but those that tell of tokens bought
for no SOL and those where rounding carries the amount past a whole number.
-/
theorem fastPathSound_iff :
    (FastPathSound p (buyRequest p cfg detected) curve ↔
      ¬detected.Unpriced ∧
        ∀ targetSol ∈ detected.solAmount, ∀ targetTokens ∈ detected.tokenAmount,
          ¬RoundsPast p.rounding (solToSpend p.rounding cfg detected) targetSol targetTokens) ∧
    ((∀ targetSol ∈ detected.solAmount, ∀ targetTokens ∈ detected.tokenAmount,
        NotRoundedUp p.rounding (solToSpend p.rounding cfg detected) targetSol targetTokens) →
      (FastPathSound p (buyRequest p cfg detected) curve ↔ ¬detected.Unpriced)) := by
  have hiff : FastPathSound p (buyRequest p cfg detected) curve ↔
      ¬detected.Unpriced ∧
        ∀ targetSol ∈ detected.solAmount, ∀ targetTokens ∈ detected.tokenAmount,
          ¬RoundsPast p.rounding (solToSpend p.rounding cfg detected) targetSol targetTokens := by
    constructor
    · intro hsound
      constructor
      · rintro ⟨hsol, htokens⟩
        obtain ⟨targetTokens, htokens⟩ := Option.isSome_iff_exists.mp htokens
        obtain ⟨quote, -, hdivisor, -⟩ := hsound 0 hsol targetTokens htokens
        exact hdivisor rfl
      · intro targetSol hsol targetTokens htokens
        obtain ⟨quote, hquote, hdivisor, hle⟩ := hsound targetSol hsol targetTokens htokens
        have hsame : quoteBuy p (buyRequest p cfg detected) curve =
            .ok (quoteFromTarget p (solToSpend p.rounding cfg detected) targetSol
              targetTokens) := by
          have hsol' : (buyRequest p cfg detected).targetSolSpent = some targetSol := hsol
          have htokens' : (buyRequest p cfg detected).targetTokenAmount = some targetTokens :=
            htokens
          simp only [quoteBuy, hsol', htokens']
          rfl
        rw [hsame, Except.ok.injEq] at hquote
        subst hquote
        exact (quoteFromTarget_le_iff hdivisor).mp hle
    · rintro ⟨hpriced, hrounds⟩ targetSol hsol targetTokens htokens
      have hdivisor : targetSol ≠ 0 := by
        rintro rfl
        exact hpriced ⟨hsol, Option.isSome_iff_exists.mpr ⟨targetTokens, htokens⟩⟩
      refine ⟨quoteFromTarget p (buyRequest p cfg detected).solAmount targetSol targetTokens, ?_,
        hdivisor, (quoteFromTarget_le_iff hdivisor).mpr (hrounds _ hsol _ htokens)⟩
      simp only [Option.mem_def] at hsol htokens
      simp only [quoteBuy, hsol, htokens]
  refine ⟨hiff, fun hdown => hiff.trans (and_iff_left ?_)⟩
  exact fun targetSol hsol targetTokens htokens =>
    (hdown targetSol hsol targetTokens htokens).not_roundsPast

end

theorem fastPathSound_plain : FastPathSound .plain (buyRequest .plain .plain .plain) (.error "") :=
  ((fastPathSound_iff .plain .plain .plain (.error "")).2 fun _ _ _ _ => notRoundedUp_exact).mpr
    (by decide)

def freeBuy : Shreds.VersionedTransaction where
  signatures := [[1]]
  message := .legacy
    [List.replicate 32 1, List.replicate 32 2, (decodeBase58 pumpFunProgram).getD []]
    [{ programIdIndex := 2
       accounts := [0, 0, 1]
       data := buyDiscriminator ++ leBytes 8 100 ++ leBytes 8 0 }]

def freeBuyDetected : DetectedBuy where
  signature := encodeBase58 [1]
  mint := encodeBase58 (List.replicate 32 2)
  dex := .pumpFun
  solAmount := some 0
  tokenAmount := some 100
  slot := some 1
  ammPool := none
  targetPumpAccounts := none

def Platform.roundingBy (r : Rounding) : Platform := { Platform.plain with rounding := r }

/--
However the quote is rounded, the tenth of a SOL of the settings is divided by
zero, and our share is the largest number of tokens there is.
-/
theorem freeBuy_unsound :
    Shreds.handleVtx .plain (encodeBase58 (List.replicate 32 1)) pumpFunProgram 1
        (fun _ _ => none) freeBuy = [⟨.buy freeBuyDetected, none⟩] ∧
      ∀ r : Rounding,
        scaledFromTarget (.roundingBy r) (solToSpend r .plain freeBuyDetected) 0 100 = u64Max ∧
          ¬FastPathSound (.roundingBy r) (buyRequest (.roundingBy r) .plain freeBuyDetected)
            (.error "") := by
  refine ⟨by decide +kernel, fun r => ⟨?_, fun hsound => ?_⟩⟩
  · have hspend : solToSpend r .plain freeBuyDetected = 1 / 10 := by rfl
    rw [scaledFromTarget, if_pos rfl, hspend, if_pos (by norm_num)]
  · obtain ⟨quote, -, hdivisor, -⟩ := hsound 0 rfl 100 rfl
    exact hdivisor rfl

end Girasol
