import Girasol.Bot.State
import Girasol.Foundation.Wrapping
import Girasol.Send.Swqos

/-!
# Buying on the bonding curve

`buyToken` in real mode: quote a token amount, send the buy by the configured
method, and report either the amount asked for or a token balance looked up
afterwards.
-/

namespace Girasol

open Foundation

structure CurvePrice where
  price : ℚ
  virtualSolReserves : Nat
  virtualTokenReserves : Nat
  realTokenReserves : Nat
  deriving DecidableEq, Repr

structure BuyRequest where
  mint : Mint
  solAmount : ℚ
  targetSolSpent : Option ℚ
  targetTokenAmount : Option Nat
  targetPumpAccounts : Option (List String)
  deriving DecidableEq, Repr

structure BuyEnv where
  curve : Except String CurvePrice
  now : Int
  blockhash : Except String Hash
  instructions : Nat → Except String (List Instruction)
  preSol : Except String Nat
  attempt : Attempt
  ownLeader : Bool
  leaderKnown : Bool
  swqos : SwqosEnv
  helius : SendEnv
  confirmed : Bool
  rpcSend : SendReply
  token2022 : AccountAnswer
  legacy : AccountAnswer
  balance : BalanceAnswer
  postSol : Except String (Option Nat)

section

variable (p : Platform)

def safeAmount (amount : Nat) : Nat :=
  max (asU64 (p.rounding.mul (p.rounding.ofU64 amount) (p.rounding.round (9 / 10)))) 1000

/--
The target's tokens times our share of its SOL, as `u64`.  No check keeps a zero
away from the divisor: what it gives is infinite, or not a number, and the cast
turns the one into the largest amount and the other into zero.
-/
def scaledFromTarget (solAmount targetSol : ℚ) (targetTokens : Nat) : Nat :=
  let r := p.rounding
  if targetSol = 0 then
    if 0 < targetTokens ∧ 0 < solAmount then u64Max else 0
  else asU64 (r.mul (r.ofU64 targetTokens) (r.div solAmount targetSol))

def quoteFromTarget (solAmount targetSol : ℚ) (targetTokens : Nat) : Nat × ℚ :=
  let r := p.rounding
  let price := if 0 < targetTokens then
    r.div targetSol (r.div (r.ofU64 targetTokens) 1000000) else 0
  (safeAmount p (scaledFromTarget p solAmount targetSol targetTokens), price)

def curveLamports (solAmount : ℚ) : Nat := asU128 (p.rounding.mul solAmount 1000000000)

/-- The constant-product quote in `u128`, and its cast to `u64`. -/
def exactTokens (curve : CurvePrice) (solLamports : Nat) : Wrapped Nat := do
  let n ← Wrapped.mul 128 curve.virtualSolReserves curve.virtualTokenReserves
  let i ← Wrapped.add 128 curve.virtualSolReserves solLamports
  let quotient ← Wrapped.div n i
  let r ← Wrapped.add 128 quotient 1
  let s := curve.virtualTokenReserves - r
  Wrapped.low 64 (min s curve.realTokenReserves)

def quoteFromCurve (solAmount : ℚ) (curve : CurvePrice) : Nat × ℚ :=
  (safeAmount p (exactTokens curve (curveLamports p solAmount)).value, curve.price)

def quoteBuy (req : BuyRequest) (curve : Except String CurvePrice) : Except String (Nat × ℚ) :=
  match req.targetSolSpent, req.targetTokenAmount with
  | some targetSol, some targetTokens =>
      .ok (quoteFromTarget p req.solAmount targetSol targetTokens)
  | _, _ => curve.map (quoteFromCurve p req.solAmount)

def observedBalance (env : BuyEnv) : Except String (Option Nat) :=
  match findTokenAccountOwnedByOwner env.token2022 env.legacy with
  | none => .ok none
  | some acc =>
      match p.parsePubkey acc, env.balance with
      | .error _, _ => .ok none
      | .ok _, .joinFailed e => .error e
      | .ok _, answer => .ok answer.value

end

def boughtHolding (req : BuyRequest) (amount : Nat) (price cost : ℚ) (now : Int)
    (signature : Option String) : Bought where
  holding :=
    { amount := amount
      originalAmount := amount
      buyPrice := price
      buyTime := now
      buyCostSol := some cost
      extraPumpAccount := req.targetPumpAccounts.bind fun accts => accts[16]?
      buySignature := signature }
  amount_eq := rfl
  untouched := ⟨rfl, rfl, rfl, rfl⟩

section

variable (p : Platform) (cfg : Settings) (swqosSender : Bool) (payer : Keypair)
  (req : BuyRequest) (env : BuyEnv)

/--
Send the buy; return the balance to report instead of the amount asked for, and
the signature.
-/
def sendBuy (ixs : List Instruction) (blockhash : Hash) :
    Traced Submission SendError (Option Nat × Option String) :=
  if swqosSender then do
    let tx ← .lift ((buildSignedTransaction p cfg ixs payer (some blockhash)
      (env.leaderKnown && env.ownLeader) env.attempt).mapError .failed)
    let signature ← sendConcurrent cfg env.leaderKnown env.swqos tx
    return (none, some signature)
  else if cfg.heliusSenderEnabled then do
    let signature ← sendTransactionWithRetry p cfg ixs payer (some blockhash) 3 env.helius
    if env.confirmed then
      let observed ← .lift ((observedBalance p env).mapError .failed)
      return (observed.filter fun amount => 0 < amount, some signature)
    else return (none, some signature)
  else do
    let message := Message.new ixs payer.pubkey blockhash
    let tx : VersionedTransaction := ⟨message, [payer.signMessage message]⟩
    .emit (if env.rpcSend.takes then [⟨cfg.solanaRpcUrls.headD "", tx⟩] else [])
    let _ ← .lift (env.rpcSend.reply.mapError .failed)
    let observed ← .lift ((observedBalance p env).mapError .failed)
    return (observed, none)

def buyCost (preSol postSol : Nat) : ℚ :=
  if postSol < preSol then p.rounding.div (p.rounding.ofU64 (preSol - postSol)) 1000000000
  else req.solAmount

/-- `buy_token` in real mode. -/
def buyToken : Traced Submission SendError Bought := do
  let (tokenAmount, price) ← .lift ((quoteBuy p req env.curve).mapError .failed)
  let blockhash ← .lift (env.blockhash.mapError .failed)
  let ixs ← .lift ((env.instructions tokenAmount).mapError .failed)
  let preSol ← .lift (env.preSol.mapError .failed)
  let (observed, signature) ← sendBuy p cfg swqosSender payer env ixs blockhash
  match observed with
  | some exact =>
      let postSol ← .lift (env.postSol.mapError .failed)
      return boughtHolding req exact price (buyCost p req preSol (postSol.getD preSol)) env.now
        signature
  | none => return boughtHolding req tokenAmount price req.solAmount env.now signature

/-! ## What a successful buy reports -/

def reportedBalance : Option Nat :=
  if swqosSender then none
  else if cfg.heliusSenderEnabled then
    if env.confirmed then
      ((observedBalance p env).toOption.join).filter fun amount => 0 < amount
    else none
  else (observedBalance p env).toOption.join

end

variable {p : Platform} {cfg : Settings} {swqosSender : Bool} {payer : Keypair}
  {req : BuyRequest} {env : BuyEnv}

private theorem safeAmount_pos (amount : Nat) : 0 < safeAmount p amount :=
  lt_of_lt_of_le (by norm_num) (le_max_right _ 1000)

theorem quoteBuy_pos {curve : Except String CurvePrice} {quote : Nat × ℚ}
    (hquote : quoteBuy p req curve = .ok quote) : 0 < quote.1 := by
  unfold quoteBuy at hquote
  split at hquote
  · cases hquote
    exact safeAmount_pos _
  · cases curve with
    | error e => cases hquote
    | ok curve =>
        cases hquote
        exact safeAmount_pos _

private theorem sendBuy_ok {ixs : List Instruction} {blockhash : Hash}
    {sent : Option Nat × Option String}
    (hok : (sendBuy p cfg swqosSender payer env ixs blockhash).result = .ok sent) :
    sent.1 = reportedBalance p cfg swqosSender env := by
  unfold sendBuy at hok
  unfold reportedBalance
  split at hok
  case isTrue hswqos =>
    simp only [Traced.bind_result_eq_ok, Traced.pure_result, Except.ok.injEq] at hok
    obtain ⟨-, -, -, -, rfl⟩ := hok
    simp [hswqos]
  case isFalse hswqos =>
    split at hok
    case isTrue hhelius =>
      rw [Traced.bind_result_eq_ok] at hok
      obtain ⟨signature, -, hrest⟩ := hok
      cases hconfirmed : env.confirmed with
      | false =>
          simp only [hconfirmed, Bool.false_eq_true, if_false, Traced.pure_result,
            Except.ok.injEq] at hrest
          subst hrest
          simp [hswqos, hhelius]
      | true =>
          simp only [hconfirmed, if_true, Traced.bind_result_eq_ok, Traced.lift_result,
            mapError_eq_ok, Traced.pure_result, Except.ok.injEq] at hrest
          obtain ⟨observed, hobserved, rfl⟩ := hrest
          simp [hswqos, hhelius, hobserved, Except.toOption]
    case isFalse hhelius =>
      simp only [Traced.bind_result_eq_ok, Traced.lift_result, mapError_eq_ok,
        Traced.pure_result, Except.ok.injEq] at hok
      obtain ⟨-, -, -, -, observed, hobserved, rfl⟩ := hok
      simp [hswqos, hhelius, hobserved, Except.toOption]

theorem buyToken_quote {result : Bought}
    (hok : (buyToken p cfg swqosSender payer req env).result = .ok result) :
    ∃ quote, quoteBuy p req env.curve = .ok quote ∧
      result.holding.amount = (reportedBalance p cfg swqosSender env).getD quote.1 ∧
      result.holding.buyPrice = quote.2 := by
  simp only [buyToken, Traced.bind_result_eq_ok, Traced.lift_result, mapError_eq_ok] at hok
  obtain ⟨quote, hquote, blockhash, -, ixs, -, preSol, -, sent, hsent, hrest⟩ := hok
  refine ⟨quote, hquote, ?_⟩
  rw [← sendBuy_ok hsent]
  obtain ⟨observed, signature⟩ := sent
  cases observed with
  | none =>
      cases hrest
      exact ⟨rfl, rfl⟩
  | some exact =>
      simp only [Traced.bind_result_eq_ok] at hrest
      obtain ⟨postSol, -, hresult⟩ := hrest
      cases hresult
      exact ⟨rfl, rfl⟩

theorem buyToken_amount {result : Bought}
    (hok : (buyToken p cfg swqosSender payer req env).result = .ok result) :
    ∃ quote, quoteBuy p req env.curve = .ok quote ∧
      result.holding.amount = (reportedBalance p cfg swqosSender env).getD quote.1 := by
  obtain ⟨quote, hquote, hamount, -⟩ := buyToken_quote hok
  exact ⟨quote, hquote, hamount⟩

end Girasol
