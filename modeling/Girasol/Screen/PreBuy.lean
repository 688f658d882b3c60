import Girasol.Buy.Routes
import Girasol.Rpc.CurveState
import Girasol.Screen.FeeLimit

/-!
# The check before a buy

The blacklist, the screen of the mint and the gates of safer sniping, as the buy
task runs them between the limit on the positions and the order.  What a
submitted buy has passed is said in full.
-/

namespace Girasol

open Foundation

structure SaferSniping where
  enableSaferSniping : Bool := false
  minTokensThreshold : Nat := 1000000
  maxSolPerToken : ℚ := 1 / 10000
  deriving DecidableEq, Repr

/-! ## The gates -/

def estimatePumpfunLiquiditySol (r : Rounding) (realSolReserves : Nat) : ℚ :=
  r.div (r.ofU64 realSolReserves) 1000000000

section

variable (display : ℚ → String) (cfg : Settings) (gates : SaferSniping) (solAmount : ℚ)
  (tokenAmount : Nat) (liquiditySol : Option ℚ) (price : ℚ)

/-- `display` is the decimal form of an `f64`. -/
def checkSaferSnipingGates : ScreenDecision :=
  if !gates.enableSaferSniping then .allow
  else if 0 < gates.minTokensThreshold ∧ tokenAmount < gates.minTokensThreshold then
    .reject s!"token amount {tokenAmount} is below minimum {gates.minTokensThreshold}"
  else if 0 < gates.maxSolPerToken ∧ gates.maxSolPerToken < price then
    .reject s!"price {display price} SOL per token exceeds maximum {display gates.maxSolPerToken}"
  else
    match liquiditySol with
    | some liquidity =>
        if liquidity < cfg.minLiquiditySol then
          .reject (s!"liquidity {display liquidity} SOL is below minimum " ++
            s!"{display cfg.minLiquiditySol} SOL")
        else if 0 < cfg.maxLiquiditySol ∧ cfg.maxLiquiditySol < liquidity then
          .reject (s!"liquidity {display liquidity} SOL exceeds maximum " ++
            s!"{display cfg.maxLiquiditySol} SOL")
        else if solAmount ≤ 0 then
          .reject s!"SOL amount must be positive, got {display solAmount}"
        else .allow
    | none =>
        if solAmount ≤ 0 then .reject s!"SOL amount must be positive, got {display solAmount}"
        else .warn "liquidity unknown"

structure PassesGates : Prop where
  tokens : gates.minTokensThreshold ≤ tokenAmount
  price : 0 < gates.maxSolPerToken → price ≤ gates.maxSolPerToken
  liquidity : ∀ liquidity ∈ liquiditySol, cfg.minLiquiditySol ≤ liquidity ∧
    (0 < cfg.maxLiquiditySol → liquidity ≤ cfg.maxLiquiditySol)
  amount : 0 < solAmount

end

theorem gates_accept_iff {display : ℚ → String} {cfg : Settings} {gates : SaferSniping}
    {solAmount : ℚ} {tokenAmount : Nat} {liquiditySol : Option ℚ} {price : ℚ} :
    (checkSaferSnipingGates display cfg gates solAmount tokenAmount liquiditySol price).accepts =
        true ↔
      (gates.enableSaferSniping = true →
        PassesGates cfg gates solAmount tokenAmount liquiditySol price) := by
  unfold checkSaferSnipingGates
  cases hon : gates.enableSaferSniping with
  | false => simp [ScreenDecision.accepts]
  | true =>
      simp only [Bool.not_true, Bool.false_eq_true, if_false, forall_const]
      split
      case isTrue htokens =>
        refine iff_of_false (by simp [ScreenDecision.accepts]) fun h => ?_
        exact absurd h.tokens (not_le.mpr htokens.2)
      case isFalse htokens =>
        have htokens' : gates.minTokensThreshold ≤ tokenAmount := by
          by_contra hlt
          exact htokens ⟨by omega, not_le.mp hlt⟩
        split
        case isTrue hprice =>
          refine iff_of_false (by simp [ScreenDecision.accepts]) fun h => ?_
          exact absurd (h.price hprice.1) (not_le.mpr hprice.2)
        case isFalse hprice =>
          have hprice' : 0 < gates.maxSolPerToken → price ≤ gates.maxSolPerToken :=
            fun hmax => not_lt.mp fun hlt => hprice ⟨hmax, hlt⟩
          cases liquiditySol with
          | none =>
              dsimp only
              split
              case isTrue hsol =>
                refine iff_of_false (by simp [ScreenDecision.accepts]) fun h => ?_
                exact absurd h.amount (not_lt.mpr hsol)
              case isFalse hsol =>
                exact iff_of_true rfl ⟨htokens', hprice', by simp, not_le.mp hsol⟩
          | some liquidity =>
              dsimp only
              split
              case isTrue hmin =>
                refine iff_of_false (by simp [ScreenDecision.accepts]) fun h => ?_
                exact absurd (h.liquidity liquidity rfl).1 (not_le.mpr hmin)
              case isFalse hmin =>
                split
                case isTrue hmax =>
                  refine iff_of_false (by simp [ScreenDecision.accepts]) fun h => ?_
                  exact absurd ((h.liquidity liquidity rfl).2 hmax.1) (not_le.mpr hmax.2)
                case isFalse hmax =>
                  split
                  case isTrue hsol =>
                    refine iff_of_false (by simp [ScreenDecision.accepts]) fun h => ?_
                    exact absurd h.amount (not_lt.mpr hsol)
                  case isFalse hsol =>
                    refine iff_of_true rfl ⟨htokens', hprice', ?_, not_le.mp hsol⟩
                    intro other hother
                    cases Option.mem_some_iff.mp hother
                    exact ⟨not_lt.mp hmin, fun hpos => not_lt.mp fun hlt => hmax ⟨hpos, hlt⟩⟩

/-! ## The whole check -/

/-- The blacklist of the process, and how an `f64` is displayed in a message. -/
structure BuyGuard where
  blacklist : List Mint
  display : ℚ → String

/-- `reload_from_file`: a file that cannot be read or parsed leaves the entries as they are. -/
def BuyGuard.reloadFromFile (guard : BuyGuard) (file : Except String (List Mint)) : BuyGuard :=
  match file with
  | .ok entries => { guard with blacklist := entries }
  | .error _ => guard

def BuyGuard.loadFromFile (display : ℚ → String) (file : Except String (List Mint)) : BuyGuard :=
  BuyGuard.reloadFromFile ⟨[], display⟩ file

structure ScreenInputs where
  gates : SaferSniping
  mintInfo : Except FetchError RpcResponse
  metadataInfo : Except FetchError RpcResponse
  curveAccount : Option (List UInt8)

section

variable (p : Platform) (guard : BuyGuard) (cfg : Settings) (inputs : ScreenInputs) (mint : Mint)

def ScreenInputs.liquiditySol : Option ℚ :=
  (inputs.curveAccount.bind fun data => (decodeCurveState data).toOption).map fun state =>
    estimatePumpfunLiquiditySol p.rounding state.realSolReserves

def ScreenInputs.report : Except ReportError TokenSafetyReport :=
  fetchTokenSafetyReport p mint inputs.mintInfo inputs.metadataInfo

def screenBuy (solToSpend : ℚ) (tokenAmount : Nat) (price : ℚ) : Except String Unit :=
  preBuySafetyCheck (guard.blacklist.contains mint) (inputs.report p mint)
    (checkSaferSnipingGates guard.display cfg inputs.gates solToSpend tokenAmount
      (inputs.liquiditySol p) price) cfg

structure Screened (solToSpend : ℚ) (tokenAmount : Nat) (price : ℚ) : Prop where
  allowed : mint ∉ guard.blacklist
  mintAuthority : ∀ report, inputs.report p mint = .ok report →
    cfg.rejectMintAuthority = true → report.mintAuthority = none
  freezeAuthority : ∀ report, inputs.report p mint = .ok report →
    cfg.rejectFreezeAuthority = true → report.freezeAuthority = none
  metadata : ∀ report, inputs.report p mint = .ok report →
    cfg.rejectMutableMetadata = true → report.isMutable ≠ some true
  transferFee : ∀ report, inputs.report p mint = .ok report →
    cfg.rejectTransferFee = true → feeBps report ≤ cfg.maxTransferFeeBps % 2 ^ 16
  gates : ∀ report, inputs.report p mint = .ok report →
    inputs.gates.enableSaferSniping = true →
      PassesGates cfg inputs.gates solToSpend tokenAmount (inputs.liquiditySol p) price

end

private theorem evaluateSafety_accepts_iff {report : TokenSafetyReport} {cfg : Settings} :
    (evaluateSafety report cfg).accepts = true ↔
      ¬EarlierRejects report cfg ∧ ¬FeeRejects report cfg := by
  rcases evaluateSafety_cases report cfg with
    ⟨hearlier, message, -, h⟩ | ⟨hearlier, hfee, h⟩ | ⟨hearlier, hfee, -, h⟩ |
      ⟨hearlier, hfee, -, h⟩
  · simp [h, ScreenDecision.accepts, hearlier]
  · simp [h, ScreenDecision.accepts, hfee]
  · simp [h, ScreenDecision.accepts, hearlier, hfee]
  · simp [h, ScreenDecision.accepts, hearlier, hfee]

private theorem preBuySafetyCheck_ok_iff {blacklisted : Bool}
    {report : Except ReportError TokenSafetyReport} {gates : ScreenDecision} {cfg : Settings} :
    preBuySafetyCheck blacklisted report gates cfg = .ok () ↔
      blacklisted = false ∧ ∀ found, report = .ok found →
        (evaluateSafety found cfg).accepts = true ∧ gates.accepts = true := by
  unfold preBuySafetyCheck
  cases blacklisted with
  | true => simp
  | false =>
      cases report with
      | error e => simp
      | ok found =>
          cases hdecision : evaluateSafety found cfg <;> cases gates <;>
            simp [ScreenDecision.accepts, hdecision]

theorem screenBuy_ok_iff {p : Platform} {guard : BuyGuard} {cfg : Settings}
    {inputs : ScreenInputs} {mint : Mint} {solToSpend : ℚ} {tokenAmount : Nat} {price : ℚ} :
    screenBuy p guard cfg inputs mint solToSpend tokenAmount price = .ok () ↔
      Screened p guard cfg inputs mint solToSpend tokenAmount price := by
  rw [screenBuy, preBuySafetyCheck_ok_iff]
  simp only [evaluateSafety_accepts_iff, gates_accept_iff, EarlierRejects, FeeRejects, not_or,
    not_and, Option.isSome_iff_ne_none, not_not, not_lt]
  constructor
  · rintro ⟨hblack, hreport⟩
    refine ⟨by simpa using hblack, ?_, ?_, ?_, ?_, ?_⟩
    · exact fun report h => (hreport report h).1.1.1
    · exact fun report h => (hreport report h).1.1.2.1
    · exact fun report h => (hreport report h).1.1.2.2
    · exact fun report h => (hreport report h).1.2
    · exact fun report h => (hreport report h).2
  · rintro ⟨hallowed, hmint, hfreeze, hmetadata, hfee, hgates⟩
    refine ⟨by simpa using hallowed, fun report h => ⟨⟨⟨?_, ?_, ?_⟩, ?_⟩, ?_⟩⟩
    · exact hmint report h
    · exact hfreeze report h
    · exact hmetadata report h
    · exact hfee report h
    · exact hgates report h

/-! ## What a routed buy has passed -/

section

variable {p : Platform} {cfg : Settings} {swqosSender : Bool} {keypair : Option Keypair}
  {detected : DetectedBuy} {env : RouteEnv}

theorem routeBuy_screened
    (hsubmits : (routeBuy p cfg swqosSender keypair detected env).trace ≠ []) :
    env.screen (solToSpend p.rounding cfg detected) (detected.tokenAmount.getD 0)
        (entryPrice p.rounding detected) = .ok () ∧
      detected.dex.isExecutionSupported = true := by
  unfold routeBuy at hsubmits
  cases hscreen : env.screen (solToSpend p.rounding cfg detected) (detected.tokenAmount.getD 0)
      (entryPrice p.rounding detected) with
  | error message =>
      rw [hscreen] at hsubmits
      exact absurd rfl hsubmits
  | ok passed =>
      rw [hscreen] at hsubmits
      cases hsupported : detected.dex.isExecutionSupported with
      | false =>
          rw [hsupported] at hsubmits
          exact absurd rfl hsubmits
      | true => exact ⟨rfl, rfl⟩

end

end Girasol
