import Girasol.Buy.Sizing

/-!
# The laws of a replay's size

In exact arithmetic a replay never asks for nothing, respects a cap of at least
one lamport, copies the target one to one, and scales the tokens with the SOL as
far as a `u64` reaches.
-/

namespace Girasol

open Foundation

section

variable {maxPositionSol maxPositionSol' asked asked' : ℚ}

theorem one_le_cappedSol_mul : 1 ≤ cappedSol maxPositionSol asked * 1000000000 := by
  have hfloor : 1 / 1000000000 ≤ cappedSol maxPositionSol asked := le_max_right _ _
  linarith

theorem one_le_toLamports_cappedSol : 1 ≤ toLamports .exact (cappedSol maxPositionSol asked) :=
  one_le_asU64_roundHalfAway one_le_cappedSol_mul

theorem cappedSol_le (hmax : 1 ≤ maxPositionSol * 1000000000) :
    cappedSol maxPositionSol asked ≤ maxPositionSol := by
  have hpos : 0 < maxPositionSol := by linarith
  rw [cappedSol, if_pos hpos]
  exact max_le (min_le_right _ _) (by linarith)

theorem cappedSol_mono_asked (hasked : asked ≤ asked') :
    cappedSol maxPositionSol asked ≤ cappedSol maxPositionSol asked' := by
  apply max_le_max_right
  split
  · exact min_le_min_right _ hasked
  · exact hasked

theorem cappedSol_mono_cap (hpos : 0 < maxPositionSol) (hmax : maxPositionSol ≤ maxPositionSol') :
    cappedSol maxPositionSol asked ≤ cappedSol maxPositionSol' asked := by
  rw [cappedSol, cappedSol, if_pos hpos, if_pos (hpos.trans_le hmax)]
  exact max_le_max_right _ (min_le_min_left _ hmax)

theorem toLamports_mono_of_cappedSol {sol : ℚ} (hle : cappedSol maxPositionSol asked ≤ sol) :
    toLamports .exact (cappedSol maxPositionSol asked) ≤ toLamports .exact sol := by
  apply asU64_roundHalfAway_mono (zero_le_one.trans one_le_cappedSol_mul)
  exact mul_le_mul_of_nonneg_right hle (by norm_num)

end

section

variable {targetSolLamports targetTokenAmount : Nat}
  {mirrorPercent buyAmountSol maxPositionSol : ℚ} {sizeMode : String} {size : ReplaySize}

theorem computeReplaySize_eq_some
    (hsize : computeReplaySize .exact targetSolLamports targetTokenAmount mirrorPercent
      buyAmountSol maxPositionSol sizeMode = some size) :
    targetSolLamports ≠ 0 ∧
      ∃ asked, askedSol .exact (targetSolLamports / 1000000000) mirrorPercent buyAmountSol
          sizeMode = some asked ∧
        size.solLamports = toLamports .exact (cappedSol maxPositionSol asked) ∧
        size.tokenAmount = scaledTokens .exact targetTokenAmount size.solLamports
          targetSolLamports := by
  unfold computeReplaySize at hsize
  split at hsize
  case isTrue => cases hsize
  case isFalse hpos =>
    obtain ⟨asked, hasked, hresult⟩ := Option.bind_eq_some_iff.mp hsize
    cases hresult
    have hone : max (toLamports .exact (cappedSol maxPositionSol asked)) 1 =
        toLamports .exact (cappedSol maxPositionSol asked) :=
      max_eq_left one_le_toLamports_cappedSol
    refine ⟨hpos, asked, hasked, hone, ?_⟩
    change scaledTokens .exact targetTokenAmount (toLamports .exact _) targetSolLamports =
      scaledTokens .exact targetTokenAmount (max (toLamports .exact _) 1) targetSolLamports
    rw [hone]

theorem askedSol_mono {targetSol mirrorPercent' asked asked' : ℚ} (htarget : 0 ≤ targetSol)
    (hpos : 0 < mirrorPercent) (hmirror : mirrorPercent ≤ mirrorPercent')
    (hasked : askedSol .exact targetSol mirrorPercent buyAmountSol sizeMode = some asked)
    (hasked' : askedSol .exact targetSol mirrorPercent' buyAmountSol sizeMode = some asked') :
    asked ≤ asked' := by
  simp only [askedSol, if_pos hpos, if_pos (hpos.trans_le hmirror), Rounding.div, Rounding.mul,
    Rounding.exact, id] at hasked hasked'
  split at hasked
  case isTrue hone =>
    simp only [hone, if_true, Option.some.injEq] at hasked hasked'
    exact (hasked.symm.trans hasked').le
  case isFalse hone =>
    split at hasked
    case isTrue hprop =>
      simp only [hone, hprop, if_true, Option.some.injEq, Bool.false_eq_true, if_false]
        at hasked hasked'
      rw [← hasked, ← hasked']
      gcongr
    case isFalse => cases hasked

private theorem scaledTokens_close (targetTokenAmount ourSolLamports targetSolLamports : Nat) :
    let tokens := scaledTokens .exact targetTokenAmount ourSolLamports targetSolLamports
    let share : ℚ := targetTokenAmount * ourSolLamports / targetSolLamports
    |(tokens : ℚ) - share| < 1 ∨ tokens = 1 ∨ tokens = u64Max ∧ (u64Max : ℚ) < share := by
  intro tokens share
  have htokens : tokens = if targetTokenAmount = 0 then 1
      else max (asU64 (roundHalfAway share)) 1 := rfl
  rw [htokens]
  split
  case isTrue => exact .inr (.inl rfl)
  case isFalse =>
    have hshare : 0 ≤ share := by positivity
    by_cases hone : 1 ≤ asU64 (roundHalfAway share)
    · rw [max_eq_left hone]
      exact (asU64_roundHalfAway_close hshare).imp_right .inr
    · exact .inr (.inl (max_eq_right (by omega)))

end

/--
What holds of a size computed for the target's lamports and tokens.  The share of
the tokens may be too large for a `u64`; then the largest one stands for it.
-/
structure ReplaySize.Lawful (size : ReplaySize) (targetSolLamports targetTokenAmount : Nat)
    (maxPositionSol : ℚ) (sizeMode : String) : Prop where
  sol_pos : 1 ≤ size.solLamports
  token_pos : 1 ≤ size.tokenAmount
  capped : 1 ≤ maxPositionSol * 1000000000 →
    size.solLamports ≤ toLamports .exact maxPositionSol
  copied : sizeMode = "one_to_one" → maxPositionSol ≤ 0 → size.solLamports = targetSolLamports
  scaled : |(size.tokenAmount : ℚ) -
        targetTokenAmount * size.solLamports / targetSolLamports| < 1 ∨
      size.tokenAmount = 1 ∨
      size.tokenAmount = u64Max ∧
        (u64Max : ℚ) < targetTokenAmount * size.solLamports / targetSolLamports

section

variable {targetSolLamports targetTokenAmount : Nat}
  {mirrorPercent mirrorPercent' buyAmountSol maxPositionSol maxPositionSol' : ℚ}
  {sizeMode : String} {size size' : ReplaySize}

private theorem lawful_of_computeReplaySize (htarget : targetSolLamports ≤ u64Max)
    (hsize : computeReplaySize .exact targetSolLamports targetTokenAmount mirrorPercent
      buyAmountSol maxPositionSol sizeMode = some size) :
    size.Lawful targetSolLamports targetTokenAmount maxPositionSol sizeMode := by
  obtain ⟨hpos, asked, hasked, hsol, htokens⟩ := computeReplaySize_eq_some hsize
  constructor
  case sol_pos =>
    rw [hsol]
    exact one_le_toLamports_cappedSol
  case token_pos =>
    rw [htokens, scaledTokens]
    split
    · exact le_rfl
    · exact le_max_right _ _
  case capped =>
    intro hmax
    rw [hsol]
    exact toLamports_mono_of_cappedSol (cappedSol_le hmax)
  case copied =>
    intro hmode huncapped
    have hone : (1 : ℚ) ≤ targetSolLamports := by exact_mod_cast Nat.pos_of_ne_zero hpos
    have hours : cappedSol maxPositionSol asked * 1000000000 = targetSolLamports := by
      have hcopy : (targetSolLamports : ℚ) / 1000000000 = asked := by
        simpa [askedSol, hmode] using hasked
      rw [cappedSol, if_neg (not_lt.mpr huncapped), ← hcopy, max_eq_left (by linarith)]
      exact div_mul_cancel₀ _ (by norm_num)
    rw [hsol]
    change asU64 (roundHalfAway (cappedSol maxPositionSol asked * 1000000000)) = _
    rw [hours, asU64_roundHalfAway_natCast htarget]
  case scaled =>
    rw [htokens]
    exact scaledTokens_close targetTokenAmount size.solLamports targetSolLamports

private theorem solLamports_mono_mirrorPercent (hpos : 0 < mirrorPercent)
    (hmirror : mirrorPercent ≤ mirrorPercent')
    (hsize : computeReplaySize .exact targetSolLamports targetTokenAmount mirrorPercent
      buyAmountSol maxPositionSol sizeMode = some size)
    (hsize' : computeReplaySize .exact targetSolLamports targetTokenAmount mirrorPercent'
      buyAmountSol maxPositionSol sizeMode = some size') :
    size.solLamports ≤ size'.solLamports := by
  obtain ⟨-, asked, hasked, hsol, -⟩ := computeReplaySize_eq_some hsize
  obtain ⟨-, asked', hasked', hsol', -⟩ := computeReplaySize_eq_some hsize'
  rw [hsol, hsol']
  apply toLamports_mono_of_cappedSol
  apply cappedSol_mono_asked
  exact askedSol_mono (by positivity) hpos hmirror hasked hasked'

private theorem solLamports_mono_maxPositionSol (hpos : 0 < maxPositionSol)
    (hmax : maxPositionSol ≤ maxPositionSol')
    (hsize : computeReplaySize .exact targetSolLamports targetTokenAmount mirrorPercent
      buyAmountSol maxPositionSol sizeMode = some size)
    (hsize' : computeReplaySize .exact targetSolLamports targetTokenAmount mirrorPercent
      buyAmountSol maxPositionSol' sizeMode = some size') :
    size.solLamports ≤ size'.solLamports := by
  obtain ⟨-, asked, hasked, hsol, -⟩ := computeReplaySize_eq_some hsize
  obtain ⟨-, asked', hasked', hsol', -⟩ := computeReplaySize_eq_some hsize'
  obtain rfl : asked = asked' := Option.some.inj (hasked.symm.trans hasked')
  rw [hsol, hsol']
  exact toLamports_mono_of_cappedSol (cappedSol_mono_cap hpos hmax)

end

/-- Every size is lawful, and its SOL grows with the mirrored percentage and with the cap. -/
theorem computeReplaySize_lawful (targetSolLamports targetTokenAmount : Nat)
    (htarget : targetSolLamports ≤ u64Max) (buyAmountSol : ℚ) (sizeMode : String) :
    (∀ mirrorPercent maxPositionSol size,
        computeReplaySize .exact targetSolLamports targetTokenAmount mirrorPercent buyAmountSol
          maxPositionSol sizeMode = some size →
        size.Lawful targetSolLamports targetTokenAmount maxPositionSol sizeMode) ∧
      (∀ mirrorPercent mirrorPercent' maxPositionSol size size',
        0 < mirrorPercent → mirrorPercent ≤ mirrorPercent' →
        computeReplaySize .exact targetSolLamports targetTokenAmount mirrorPercent buyAmountSol
          maxPositionSol sizeMode = some size →
        computeReplaySize .exact targetSolLamports targetTokenAmount mirrorPercent' buyAmountSol
          maxPositionSol sizeMode = some size' →
        size.solLamports ≤ size'.solLamports) ∧
      (∀ mirrorPercent maxPositionSol maxPositionSol' size size',
        0 < maxPositionSol → maxPositionSol ≤ maxPositionSol' →
        computeReplaySize .exact targetSolLamports targetTokenAmount mirrorPercent buyAmountSol
          maxPositionSol sizeMode = some size →
        computeReplaySize .exact targetSolLamports targetTokenAmount mirrorPercent buyAmountSol
          maxPositionSol' sizeMode = some size' →
        size.solLamports ≤ size'.solLamports) := by
  refine ⟨?_, ?_, ?_⟩
  · intro mirrorPercent maxPositionSol size hsize
    exact lawful_of_computeReplaySize htarget hsize
  · intro mirrorPercent mirrorPercent' maxPositionSol size size' hpos hmirror hsize hsize'
    exact solLamports_mono_mirrorPercent hpos hmirror hsize hsize'
  · intro mirrorPercent maxPositionSol maxPositionSol' size size' hpos hmax hsize hsize'
    exact solLamports_mono_maxPositionSol hpos hmax hsize hsize'

theorem computeReplaySize_lawful_tenth :
    (ReplaySize.mk 100000000 1000).Lawful 1000000000 10000 0 "proportional" :=
  (computeReplaySize_lawful 1000000000 10000 (by decide) (1 / 4) "proportional").1 10 0 _
    (by decide +kernel)

theorem tokenAmount_saturates :
    ¬ ∀ (targetSolLamports targetTokenAmount : Nat) (mirrorPercent buyAmountSol maxPositionSol : ℚ)
      (sizeMode : String) (size : ReplaySize),
      targetSolLamports ≤ u64Max → targetTokenAmount ≤ u64Max →
      computeReplaySize .exact targetSolLamports targetTokenAmount mirrorPercent buyAmountSol
        maxPositionSol sizeMode = some size →
      |(size.tokenAmount : ℚ) - targetTokenAmount * size.solLamports / targetSolLamports| < 1 ∨
        size.tokenAmount = 1 := by
  intro hscaled
  have hdouble := hscaled 1000000000 u64Max 200 (1 / 4) 0 "proportional" ⟨2000000000, u64Max⟩
    (by decide) le_rfl (by decide +kernel)
  revert hdouble
  decide +kernel

end Girasol
