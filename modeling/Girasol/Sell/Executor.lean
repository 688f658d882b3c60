import Girasol.Bot.Step
import Girasol.Sell.SellToken

/-!
# One order of the sell executor

`handleOrder` routes an order to the exchange of its position; how it ends
decides what the executor books.
-/

namespace Girasol

open Foundation

/-- How an order ends without a sale: dropped, or failed and retried by the monitor. -/
inductive SellFailure where
  | skipped
  | failed (error : SendError)

inductive SellRoute where
  | raydium
  | pumpswap
  | pumpFun
  deriving DecidableEq, Repr

def SellOrder.route (order : SellOrder) : SellRoute :=
  if order.dex == "raydium_v4" || order.dex == "raydium_cpmm" then .raydium
  else if order.dex == "pumpswap" then .pumpswap
  else .pumpFun

section

variable (p : Platform) (cfg : Settings) (mode : BotMode) (order : SellOrder) (env : SaleEnv)

def SellOrder.hasPoolAccounts : Bool :=
  match order.route with
  | .raydium => order.ammPool.isSome
  | .pumpswap =>
      match order.pumpswapAccounts with
      | some accts => 17 ≤ accts.length
      | none => false
  | .pumpFun => true

def sendAmmSale (tx : VersionedTransaction) : Traced Submission SellFailure SellResult :=
  if mode.swqosSender then
    let sent := sendConcurrent cfg env.leaderKnown env.swqos tx
    ⟨sent.trace, match sent.result with
      | .ok _ => .ok ⟨none⟩
      | .error _ => .error .skipped⟩
  else do
    .emit (if env.http.takes then [⟨cfg.heliusSenderEndpoint, tx⟩] else [])
    match env.http.reply with
    -- an answer without a signature counts as sent, under the signature "unknown"
    | .ok _ => return ⟨none⟩
    | .error _ => .lift (.error .skipped)

def sellOnAmm : Traced Submission SellFailure SellResult := do
  .lift (if order.hasPoolAccounts then .ok () else .error .skipped)
  let payer ← .lift (match mode.keypair with
    | some kp => .ok kp
    | none => .error .skipped)
  let ixs ← .lift (env.dexInstructions.mapError fun e => .failed (.failed e))
  if mode.isReal then
    let tx ← .lift ((buildSignedTransaction p cfg ixs payer none
      (env.leaderKnown && env.ownLeader) env.attempt).mapError fun e => .failed (.failed e))
    sendAmmSale cfg mode env tx
  else return ⟨none⟩

def handleOrder : Traced Submission SellFailure SellResult :=
  match order.route with
  | .raydium | .pumpswap => sellOnAmm p cfg mode order env
  | .pumpFun =>
      let sold := sellToken p cfg mode order env
      ⟨sold.trace, sold.result.mapError .failed⟩

def SellOutcome.ofResult : Except SellFailure SellResult → SellOutcome
  | .ok _ => .executed
  | .error .skipped => .skipped
  | .error (.failed _) => .failed

def Positions.afterOrder (positions : Positions) : Positions :=
  if positions.hasPosition order.mint then
    positions.settle order (.ofResult (handleOrder p cfg mode order env).result)
  else positions

end

end Girasol
