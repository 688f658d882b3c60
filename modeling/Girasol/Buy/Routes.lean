import Girasol.Bot.Stats
import Girasol.Buy.BuyToken
import Girasol.Buy.Sizing
import Girasol.Sell.SellToken

/-!
# The routes of a buy

What a buy task does in real mode between the check of the limit and the
registration: size the buy, screen the mint, send the buy to the exchange of the
detected trade, and report the position to register.  The safety screen and the
instruction builders of the exchanges belong to the environment.
-/

namespace Girasol

open Foundation

/-- How a buy ends without a position; one that is lost leaves the task at a `?`. -/
inductive BuyFailure where
  | skipped
  | failed (error : SendError)
  | lost (error : SendError)

structure PumpSwapAccounts where
  accounts : List String
  pool : String
  baseMint : String
  quoteMint : String
  tokenAmount : Nat
  solAmount : Nat
  deriving DecidableEq, Repr

structure RouteEnv extends BuyEnv where
  screen : ℚ → Nat → ℚ → Except String Unit
  cachedBlockhash : Option Hash
  raydiumInstructions : DexType → String → ℚ → Pubkey → Except String (List Instruction)
  pumpswapInstructions : PumpSwapAccounts → Pubkey → Except String (List Instruction)
  http : HttpSend

def RouteEnv.curveEnv (env : RouteEnv) : BuyEnv := { env.toBuyEnv with leaderKnown := false }

@[simp]
theorem RouteEnv.curveEnv_curve (env : RouteEnv) : env.curveEnv.curve = env.curve := rfl

section

variable (r : Rounding) (cfg : Settings) (detected : DetectedBuy)

def entryPrice : ℚ :=
  match detected.solAmount with
  | some targetSol =>
      if 0 < detected.tokenAmount.getD 0 then
        r.div targetSol (r.div (r.ofU64 (detected.tokenAmount.getD 1)) 1000000)
      else 0
  | none => 0

def pumpswapSize : Nat × Nat :=
  match replaySize r cfg detected with
  | some size => (size.solLamports, size.tokenAmount)
  | none =>
      let spend := solToSpend r cfg detected
      let tokens := match detected.solAmount, detected.tokenAmount with
        | some targetSol, some targetTokens =>
            if 0 < targetSol ∧ 0 < targetTokens then
              let ratio := r.div spend targetSol
              max (asU64 (r.mul (r.mul (r.ofU64 targetTokens) ratio) (r.round (9 / 10)))) 1
            else 1
        | _, _ => 1
      (asU64 (r.mul spend 1000000000), tokens)

end

def ammHolding (detected : DetectedBuy) (dex pool : String) (decimals : Nat) (cost : ℚ)
    (accounts : Option (List String)) (signature : Option String) (now : Int) : Bought where
  holding :=
    { amount := 0
      originalAmount := 0
      buyPrice := 0
      buyTime := now
      decimals := decimals
      buyCostSol := some cost
      dex := dex
      ammPool := some pool
      targetBuyTokens := detected.tokenAmount
      pumpswapAccounts := accounts
      buySignature := signature }
  amount_eq := rfl
  untouched := ⟨rfl, rfl, rfl, rfl⟩

section

variable (p : Platform) (cfg : Settings) (swqosSender : Bool) (keypair : Option Keypair)
  (detected : DetectedBuy) (env : RouteEnv)

def sendAmmBuy (ixs : List Instruction) (payer : Keypair) : Traced Submission SendError String := do
  let tx ← .lift ((buildSignedTransaction p cfg ixs payer env.cachedBlockhash
    (env.leaderKnown && env.ownLeader) env.attempt).mapError .failed)
  if swqosSender then sendConcurrent cfg env.leaderKnown env.swqos tx
  else do
    .emit (if env.http.takes then [⟨cfg.heliusSenderEndpoint, tx⟩] else [])
    let json ← .lift (env.http.reply.mapError .failed)
    return HttpSend.signature json

def requireKeypair : Except BuyFailure Keypair :=
  match keypair with
  | some payer => .ok payer
  | none => .error .skipped

def buyOnRaydium : Traced Submission BuyFailure Bought := do
  let pool ← .lift (match detected.ammPool with
    | some pool => .ok pool
    | none => .error .skipped)
  let payer ← .lift (requireKeypair keypair)
  let spend := solToSpend p.rounding cfg detected
  let ixs ← .lift ((env.raydiumInstructions detected.dex pool spend payer.pubkey).mapError
    fun e => .failed (.failed e))
  let _ ← (sendAmmBuy p cfg swqosSender env ixs payer).mapError .lost
  let dex := if detected.dex = .raydiumCpmm then "raydium_cpmm" else "raydium_v4"
  return ammHolding detected dex pool 9 spend none none env.now

def buyOnPumpswap : Traced Submission BuyFailure Bought := do
  let accts ← .lift (match detected.targetPumpAccounts with
    | some accts => if 17 ≤ accts.length then .ok accts else .error .skipped
    | none => .error .skipped)
  let payer ← .lift (requireKeypair keypair)
  let pool := detected.ammPool.getD (accts.getD 0 "")
  let (solAmount, tokenAmount) := pumpswapSize p.rounding cfg detected
  let ixs ← .lift ((env.pumpswapInstructions
    { accounts := accts
      pool := pool
      baseMint := accts.getD 3 ""
      quoteMint := accts.getD 4 ""
      tokenAmount := tokenAmount
      solAmount := solAmount } payer.pubkey).mapError fun e => .failed (.failed e))
  let signature ← (sendAmmBuy p cfg swqosSender env ixs payer).mapError .lost
  return ammHolding detected "pumpswap" pool 6 (solToSpend p.rounding cfg detected) (some accts)
    (some signature) env.now

def buyRequest : BuyRequest where
  mint := detected.mint
  solAmount := solToSpend p.rounding cfg detected
  targetSolSpent := detected.solAmount
  targetTokenAmount := detected.tokenAmount
  targetPumpAccounts := detected.targetPumpAccounts

def buyOnCurve : Traced Submission BuyFailure Bought := do
  let payer ← .lift (match keypair with
    | some payer => .ok payer
    | none => .error (.failed (.failed "Keypair required")))
  (buyToken p cfg swqosSender payer (buyRequest p cfg detected) env.curveEnv).mapError .failed

def routeBuy : Traced Submission BuyFailure Bought := do
  .lift ((env.screen (solToSpend p.rounding cfg detected) (detected.tokenAmount.getD 0)
    (entryPrice p.rounding detected)).mapError fun _ => .skipped)
  .lift (if detected.dex.isExecutionSupported then .ok () else .error .skipped)
  match detected.dex with
  | .raydiumV4 | .raydiumCpmm => buyOnRaydium p cfg swqosSender keypair detected env
  | .pumpFunAmm => buyOnPumpswap p cfg swqosSender keypair detected env
  | .pumpFun | .jupiter | .unknown _ => buyOnCurve p cfg swqosSender keypair detected env

end

def BuyOutcome.ofResult : Except BuyFailure Bought → BuyOutcome
  | .ok result => .bought result
  | .error .skipped => .skipped
  | .error (.failed _) | .error (.lost _) => .failed

@[simp] theorem BuyOutcome.ofResult_eq_bought {r : Except BuyFailure Bought} {result : Bought} :
    BuyOutcome.ofResult r = .bought result ↔ r = .ok result := by
  rcases r with (_ | _ | _) | _ <;> simp [BuyOutcome.ofResult]

/-! ## What a routed buy reports -/

section

variable {p : Platform} {cfg : Settings} {swqosSender : Bool} {keypair : Option Keypair}
  {detected : DetectedBuy} {env : RouteEnv} {result : Bought}

private theorem buyOnRaydium_ok
    (hok : (buyOnRaydium p cfg swqosSender keypair detected env).result = .ok result) :
    result.holding.amount = 0 ∧ result.holding.buyPrice = 0 := by
  simp only [buyOnRaydium, Traced.bind_result_eq_ok] at hok
  obtain ⟨pool, -, payer, -, ixs, -, signature, -, hresult⟩ := hok
  cases hresult
  exact ⟨rfl, rfl⟩

private theorem buyOnPumpswap_ok
    (hok : (buyOnPumpswap p cfg swqosSender keypair detected env).result = .ok result) :
    result.holding.amount = 0 ∧ result.holding.buyPrice = 0 := by
  simp only [buyOnPumpswap, Traced.bind_result_eq_ok] at hok
  obtain ⟨accts, -, payer, -, ixs, -, signature, -, hresult⟩ := hok
  cases hresult
  exact ⟨rfl, rfl⟩

theorem routeBuy_amm (hdex : detected.dex ≠ .pumpFun)
    (hok : (routeBuy p cfg swqosSender keypair detected env).result = .ok result) :
    result.holding.amount = 0 ∧ result.holding.buyPrice = 0 := by
  simp only [routeBuy, Traced.bind_result_eq_ok] at hok
  obtain ⟨⟨⟩, -, ⟨⟩, hsupported, hroute⟩ := hok
  cases hcase : detected.dex with
  | pumpFun => exact absurd hcase hdex
  | pumpFunAmm => exact buyOnPumpswap_ok (by simpa only [hcase] using hroute)
  | raydiumV4 => exact buyOnRaydium_ok (by simpa only [hcase] using hroute)
  | raydiumCpmm => exact buyOnRaydium_ok (by simpa only [hcase] using hroute)
  | jupiter | unknown id => simp [hcase, DexType.isExecutionSupported] at hsupported

theorem routeBuy_curve (hdex : detected.dex = .pumpFun)
    (hok : (routeBuy p cfg swqosSender keypair detected env).result = .ok result) :
    ∃ quote, quoteBuy p (buyRequest p cfg detected) env.curve = .ok quote ∧
      result.holding.amount = (reportedBalance p cfg swqosSender env.curveEnv).getD quote.1 ∧
      result.holding.buyPrice = quote.2 := by
  simp only [routeBuy, hdex, Traced.bind_result_eq_ok] at hok
  obtain ⟨-, -, -, -, hroute⟩ := hok
  simp only [buyOnCurve, Traced.bind_result_eq_ok, Traced.mapError_result, mapError_eq_ok]
    at hroute
  obtain ⟨payer, -, hbuy⟩ := hroute
  simpa only [RouteEnv.curveEnv_curve] using buyToken_quote hbuy

end

/-! ## What a routed buy counts -/

structure RoutedBuy where
  cfg : Settings
  swqosSender : Bool
  keypair : Option Keypair
  detected : DetectedBuy
  env : RouteEnv

section

variable (p : Platform) (buy : RoutedBuy) (task : Nat)

def RoutedBuy.result : Except BuyFailure Bought :=
  (routeBuy p buy.cfg buy.swqosSender buy.keypair buy.detected buy.env).result

/-- Only what leaves an AMM route at a `?` is not counted. -/
def RoutedBuy.uncounted : Bool :=
  match buy.result p with
  | .error (.lost _) => true
  | .error .skipped | .error (.failed _) | .ok _ => false

def RoutedBuy.noted : NotedEvent p where
  event := .buyResult task (.ofResult (buy.result p))
  uncounted := buy.uncounted p

def Stats.afterBuy (stats : Stats) : Stats :=
  match buy.result p with
  | .ok _ => stats.addBuy
  | .error .skipped => stats.addSkipped
  | .error (.failed _) => stats.addBuyFailure
  | .error (.lost _) => stats

end

theorem count_routed {p : Platform} (buy : RoutedBuy) (task : Nat) (s s' : Bot p) (stats : Stats) :
    s.count s' (buy.noted p task) stats = stats.afterBuy p buy := by
  unfold Stats.afterBuy RoutedBuy.noted RoutedBuy.uncounted Bot.count
  cases buy.result p with
  | ok result => rfl
  | error e => cases e <;> rfl

end Girasol
