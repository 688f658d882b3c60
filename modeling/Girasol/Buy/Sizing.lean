import Girasol.Models
import Girasol.Settings

/-!
# The size of a buy

A buy task spends the fixed `buyAmount`, or in replay mode an amount derived
from what the target spent.  Only the derived amount is capped by
`maxPositionSol`, in SOL before it is rounded to lamports.
-/

namespace Girasol

open Foundation

structure ReplaySize where
  solLamports : Nat
  tokenAmount : Nat
  deriving DecidableEq, Repr

/-- `eq_ignore_ascii_case`. -/
def shouldUseReplay (copyMode : String) : Bool :=
  copyMode.toList.map Char.toLower == "replay".toList

section

variable (r : Rounding)

def askedSol (targetSol mirrorPercent buyAmountSol : ℚ) (sizeMode : String) : Option ℚ :=
  if sizeMode == "one_to_one" then some targetSol
  else if sizeMode == "proportional" then
    some (if 0 < mirrorPercent then r.div (r.mul targetSol mirrorPercent) 100 else buyAmountSol)
  else none

def cappedSol (maxPositionSol asked : ℚ) : ℚ :=
  max (if 0 < maxPositionSol then min asked maxPositionSol else asked) (1 / 1000000000)

def scaledTokens (targetTokenAmount ourSolLamports targetSolLamports : Nat) : Nat :=
  if targetTokenAmount = 0 then 1
  else
    let scaled := r.div (r.mul (r.ofU64 targetTokenAmount) (r.ofU64 ourSolLamports))
      (r.ofU64 targetSolLamports)
    max (asU64 (roundHalfAway scaled)) 1

def computeReplaySize (targetSolLamports targetTokenAmount : Nat)
    (mirrorPercent buyAmountSol maxPositionSol : ℚ) (sizeMode : String) : Option ReplaySize :=
  if targetSolLamports = 0 then none
  else do
    let targetSol := r.div (r.ofU64 targetSolLamports) 1000000000
    let asked ← askedSol r targetSol mirrorPercent buyAmountSol sizeMode
    let ourSol := cappedSol maxPositionSol asked
    let ourSolLamports := asU64 (roundHalfAway (r.mul ourSol 1000000000))
    return ⟨max ourSolLamports 1,
      scaledTokens r targetTokenAmount ourSolLamports targetSolLamports⟩

def toLamports (sol : ℚ) : Nat := asU64 (roundHalfAway (r.mul sol 1000000000))

variable (cfg : Settings) (detected : DetectedBuy)

def replaySize : Option ReplaySize :=
  if shouldUseReplay cfg.copyMode then
    match detected.solAmount, detected.tokenAmount with
    | some targetSol, some targetTokens =>
        if 0 < targetSol then
          computeReplaySize r (toLamports r targetSol) targetTokens cfg.mirrorPercent
            cfg.buyAmount cfg.maxPositionSol cfg.replaySizeMode
        else none
    | _, _ => none
  else none

def solToSpend : ℚ :=
  match replaySize r cfg detected with
  | some size => r.div (r.ofU64 size.solLamports) 1000000000
  | none => cfg.buyAmount

end

/-! ## What the settings promise -/

/-- The documented size of a buy: never above the cap, and in mirror mode the capped share. -/
structure Sized (cfg : Settings) (detected : DetectedBuy) (spend : ℚ) : Prop where
  capped : spend ≤ cfg.maxPositionSol
  mirrored : cfg.copyMode = "mirror" → 0 < cfg.mirrorPercent →
    ∀ targetSol, detected.solAmount = some targetSol →
      spend = min (targetSol * cfg.mirrorPercent / 100) cfg.maxPositionSol

section

variable (cfg : Settings) (detected : DetectedBuy)

def Replays (targetSol : ℚ) : Prop :=
  cfg.copyMode = "replay" ∧ detected.solAmount = some targetSol ∧
    detected.tokenAmount.isSome ∧ 1 / 2 ≤ targetSol * 1000000000

def capLamports : Nat := ⌊cfg.maxPositionSol * 1000000000⌋₊

/--
The cap is at least one lamport, and the smaller of cap and requested amount is
less than half a lamport above the whole lamports of the cap.
-/
def ReplayFits (asked : ℚ) : Prop :=
  1 ≤ capLamports cfg ∧
    (min asked cfg.maxPositionSol * 1000000000 < capLamports cfg + 1 / 2 ∨
      u64Max ≤ capLamports cfg)

def FixedFits : Prop :=
  cfg.buyAmount ≤ cfg.maxPositionSol ∧
    (cfg.copyMode = "mirror" → 0 < cfg.mirrorPercent →
      ∀ targetSol, detected.solAmount = some targetSol →
        cfg.buyAmount = min (targetSol * cfg.mirrorPercent / 100) cfg.maxPositionSol)

def replayAsks (targetSol : ℚ) : ℚ :=
  let target : ℚ := toLamports .exact targetSol / 1000000000
  if cfg.replaySizeMode = "one_to_one" then target
  else if 0 < cfg.mirrorPercent then target * cfg.mirrorPercent / 100
  else cfg.buyAmount

def SizeFits : Prop :=
  (∀ targetSol, Replays cfg detected targetSol → ReplayFits cfg (replayAsks cfg targetSol)) ∧
    ((¬ ∃ targetSol, Replays cfg detected targetSol) → FixedFits cfg detected)

end

section

variable {p : Platform}

theorem Settings.validate_modes {s : Settings} (hok : s.validate p = .ok ()) :
    (s.copyMode = "mirror" ∨ s.copyMode = "replay") ∧
      (s.replaySizeMode = "proportional" ∨ s.replaySizeMode = "one_to_one") := by
  simp only [validate, bind_eq_ok, reject_eq_ok] at hok
  obtain ⟨⟨⟩, -, ⟨⟩, -, ⟨⟩, -, ⟨⟩, -, ⟨⟩, -, ⟨⟩, -, ⟨⟩, -, ⟨⟩, hcopy, ⟨⟩, hsize, -⟩ := hok
  simp only [Bool.and_eq_false_iff, bne_eq_false_iff_eq] at hcopy hsize
  exact ⟨hcopy, hsize⟩

theorem Settings.validate_replay {s : Settings} (hok : s.validate p = .ok ()) :
    { s with copyMode := "replay" }.validate p = .ok () := by
  simp only [validate, bind_eq_ok, reject_eq_ok] at hok ⊢
  obtain ⟨⟨⟩, htp, ⟨⟩, hsl, ⟨⟩, hbuy, ⟨⟩, htime, ⟨⟩, hcache, ⟨⟩, hmax, ⟨⟩, hliq, ⟨⟩, -, ⟨⟩, hsize,
    hrest⟩ := hok
  exact ⟨⟨⟩, htp, ⟨⟩, hsl, ⟨⟩, hbuy, ⟨⟩, htime, ⟨⟩, hcache, ⟨⟩, hmax, ⟨⟩, hliq, ⟨⟩, rfl, ⟨⟩,
    hsize, hrest⟩

variable {cfg : Settings} {detected : DetectedBuy} {targetSol : ℚ}

theorem toLamports_eq_zero {sol : ℚ} (hsol : 0 ≤ sol) :
    toLamports .exact sol = 0 ↔ sol * 1000000000 < 1 / 2 := by
  have hnonneg : 0 ≤ sol * 1000000000 := by positivity
  have hle := asU64_roundHalfAway_le_iff hnonneg (n := 0)
  simpa [toLamports, Rounding.mul, Rounding.exact, u64Max] using hle

theorem shouldUseReplay_of_valid
    (hcopy : cfg.copyMode = "mirror" ∨ cfg.copyMode = "replay") :
    shouldUseReplay cfg.copyMode = true ↔ cfg.copyMode = "replay" := by
  obtain h | h := hcopy <;> simp only [h] <;> decide

theorem replaySize_eq_none (hok : cfg.validate p = .ok ())
    (hnone : ¬ ∃ targetSol, Replays cfg detected targetSol) :
    replaySize .exact cfg detected = none := by
  unfold replaySize
  split
  case isFalse => rfl
  case isTrue huse =>
    have hreplay := (shouldUseReplay_of_valid (Settings.validate_modes hok).1).mp huse
    split
    case h_2 => rfl
    case h_1 targetSol tokens hsol htokens =>
      split
      case isFalse => rfl
      case isTrue hpos =>
        have hdust : toLamports .exact targetSol = 0 := by
          rw [toLamports_eq_zero hpos.le]
          by_contra hlarge
          exact hnone ⟨targetSol, hreplay, hsol, by simp [htokens], not_lt.mp hlarge⟩
        simp [computeReplaySize, hdust]

private theorem askedSol_exact (hok : cfg.validate p = .ok ()) (targetSol : ℚ) :
    askedSol .exact (toLamports .exact targetSol / 1000000000) cfg.mirrorPercent cfg.buyAmount
      cfg.replaySizeMode = some (replayAsks cfg targetSol) := by
  obtain h | h := (Settings.validate_modes hok).2 <;>
    simp [askedSol, replayAsks, h, Rounding.div, Rounding.mul, Rounding.exact]

private theorem replaySize_of_replays (hok : cfg.validate p = .ok ())
    (hreplays : Replays cfg detected targetSol) :
    ∃ size, replaySize .exact cfg detected = some size ∧ size.solLamports =
      max (toLamports .exact (cappedSol cfg.maxPositionSol (replayAsks cfg targetSol))) 1 := by
  obtain ⟨hreplay, hsol, htokens, hlarge⟩ := hreplays
  obtain ⟨tokens, htokens⟩ := Option.isSome_iff_exists.mp htokens
  have hpos : 0 < targetSol := by linarith
  have hlamports : toLamports .exact targetSol ≠ 0 := by
    rw [Ne, toLamports_eq_zero hpos.le]
    exact not_lt.mpr hlarge
  have huse := (shouldUseReplay_of_valid (Settings.validate_modes hok).1).mpr hreplay
  have hasked := askedSol_exact hok targetSol
  simp only [replaySize, huse, if_true, hsol, htokens, hpos, computeReplaySize, hlamports,
    if_false]
  simp only [Rounding.div, Rounding.ofU64, Rounding.exact, id] at hasked ⊢
  rw [hasked]
  exact ⟨_, rfl, rfl⟩

private theorem lamports_le_cap_iff (hmax : 0 < cfg.maxPositionSol) {asked : ℚ} :
    ((max (toLamports .exact (cappedSol cfg.maxPositionSol asked)) 1 : Nat) : ℚ) / 1000000000 ≤
        cfg.maxPositionSol ↔ ReplayFits cfg asked := by
  have hcap : 0 ≤ cfg.maxPositionSol * 1000000000 := by positivity
  have hours : cappedSol cfg.maxPositionSol asked * 1000000000 =
      max (min asked cfg.maxPositionSol * 1000000000) 1 := by
    rw [cappedSol, if_pos hmax, max_mul_of_nonneg _ _ (by norm_num)]
    norm_num
  have hle := asU64_roundHalfAway_le_iff (n := capLamports cfg)
    (hours ▸ le_max_of_le_right zero_le_one)
  rw [div_le_iff₀ (by norm_num), ← Nat.le_floor_iff hcap, max_le_iff, ReplayFits, and_comm]
  apply and_congr_right
  intro hone
  have hhalf : (1 : ℚ) < capLamports cfg + 1 / 2 := by
    have : (1 : ℚ) ≤ capLamports cfg := by exact_mod_cast hone
    linarith
  change asU64 (roundHalfAway (cappedSol cfg.maxPositionSol asked * 1000000000)) ≤
    capLamports cfg ↔ _
  rw [hle, hours, max_lt_iff, and_iff_left hhalf]

end

/--
For accepted settings with a cap, and in exact arithmetic, a buy has its
documented size exactly when the fixed amount, or the replay size, fits.
-/
theorem sized_iff (p : Platform) (cfg : ValidSettings p) (hmax : 0 < cfg.val.maxPositionSol)
    (detected : DetectedBuy) :
    Sized cfg.val detected (solToSpend .exact cfg.val detected) ↔ SizeFits cfg.val detected := by
  by_cases hreplays : ∃ targetSol, Replays cfg.val detected targetSol
  · obtain ⟨targetSol, hreplay⟩ := hreplays
    obtain ⟨size, hsize, hlamports⟩ := replaySize_of_replays cfg.property hreplay
    have hspend : solToSpend .exact cfg.val detected = (size.solLamports : ℚ) / 1000000000 := by
      rw [solToSpend, hsize]
      rfl
    rw [hspend, hlamports]
    have hmirror : cfg.val.copyMode ≠ "mirror" := by
      rw [hreplay.1]
      decide
    constructor
    · rintro ⟨hcapped, -⟩
      refine ⟨fun other hother => ?_, fun hnone => absurd ⟨targetSol, hreplay⟩ hnone⟩
      obtain rfl : targetSol = other := Option.some.inj (hreplay.2.1.symm.trans hother.2.1)
      exact (lamports_le_cap_iff hmax).mp hcapped
    · rintro ⟨hfits, -⟩
      exact ⟨(lamports_le_cap_iff hmax).mpr (hfits targetSol hreplay), fun h => absurd h hmirror⟩
  · have hspend : solToSpend .exact cfg.val detected = cfg.val.buyAmount := by
      simp [solToSpend, replaySize_eq_none cfg.property hreplays]
    rw [hspend]
    constructor
    · rintro ⟨hcapped, hmirrored⟩
      exact ⟨fun targetSol h => absurd ⟨targetSol, h⟩ hreplays,
        fun _ => ⟨hcapped, hmirrored⟩⟩
    · rintro ⟨-, hfits⟩
      obtain ⟨hcapped, hmirrored⟩ := hfits hreplays
      exact ⟨hcapped, hmirrored⟩

/-! ## A tenth of the target's spend, capped at a twentieth of a SOL -/

def Settings.capped (copyMode : String) : Settings :=
  { Settings.plain with copyMode := copyMode, mirrorPercent := 10, maxPositionSol := 1 / 20 }

theorem Settings.capped_mirror_valid : (Settings.capped "mirror").validate .plain = .ok () :=
  Settings.plain_valid

theorem Settings.capped_replay_valid : (Settings.capped "replay").validate .plain = .ok () :=
  Settings.validate_replay Settings.capped_mirror_valid

def ValidSettings.cappedReplay : ValidSettings .plain :=
  ⟨.capped "replay", Settings.capped_replay_valid⟩

def ValidSettings.cappedMirror : ValidSettings .plain :=
  ⟨.capped "mirror", Settings.capped_mirror_valid⟩

theorem sized_iff_replay :
    Sized (.capped "replay") .plain (solToSpend .exact (.capped "replay") .plain) := by
  have hcap : capLamports (.capped "replay") = 50000000 := by
    simp only [capLamports, Settings.capped]
    norm_num
  apply (sized_iff .plain .cappedReplay (by decide +kernel) .plain).mpr
  refine ⟨fun targetSol _ => ⟨?_, .inl ?_⟩, fun hnone => absurd ⟨1, ?_⟩ hnone⟩
  · change 1 ≤ capLamports (.capped "replay")
    simp [hcap]
  · have hmin := min_le_right (replayAsks (.capped "replay") targetSol) (1 / 20)
    change min (replayAsks (.capped "replay") targetSol) (1 / 20) * 1000000000 <
      (capLamports (.capped "replay") : ℚ) + 1 / 2
    rw [hcap]
    push_cast
    linarith
  · exact ⟨rfl, rfl, rfl, by norm_num⟩

theorem mirror_ignores_cap :
    ¬ ∀ cfg : ValidSettings .plain, 0 < cfg.val.maxPositionSol →
      ∀ detected, Sized cfg.val detected (solToSpend .exact cfg.val detected) := by
  intro hsized
  have hcapped := (hsized .cappedMirror (by decide +kernel) .plain).capped
  revert hcapped
  decide +kernel

end Girasol
