import Girasol.Bot.PendingFlag
import Girasol.Sell.Booking

/-!
# The flag after an order

On an AMM route the executor leaves some failures without clearing the flag of
the position: it only logs them and takes the next order.
-/

namespace Girasol

open Foundation

section

variable (p : Platform) (cfg : Settings) (mode : BotMode) (order : SellOrder) (env : SaleEnv)

def SendFails : Prop :=
  mode.isReal ∧ (ammSale p cfg mode order env).isSome ∧
    (if mode.swqosSender then env.swqos.acknowledged cfg env.leaderKnown
      else env.http.reply.isOk) = false

/--
The order goes to an AMM whose accounts are missing, there is no key pair, or
the sending fails.
-/
def Dropped : Prop :=
  order.route ≠ .pumpFun ∧
    (order.hasPoolAccounts = false ∨ mode.keypair.isNone ∨ SendFails p cfg mode order env)

end

section

variable {p : Platform} {cfg : Settings} {mode : BotMode} {order : SellOrder} {env : SaleEnv}

private theorem sendAmmSale_skipped_iff {tx : VersionedTransaction} :
    (sendAmmSale cfg mode env tx).result = .error .skipped ↔
      (if mode.swqosSender then env.swqos.acknowledged cfg env.leaderKnown
        else env.http.reply.isOk) = false := by
  rw [← @sendAmmSale_isOk cfg mode env tx]
  unfold sendAmmSale
  cases mode.swqosSender with
  | true =>
      simp only [if_true]
      cases (sendConcurrent cfg env.leaderKnown env.swqos tx).result <;>
        simp [Except.isOk, Except.toBool]
  | false => cases env.http.reply <;> simp [Except.isOk, Except.toBool]

private theorem sellOnAmm_skipped_iff :
    (sellOnAmm p cfg mode order env).result = .error .skipped ↔
      order.hasPoolAccounts = false ∨ mode.keypair.isNone ∨ SendFails p cfg mode order env := by
  unfold sellOnAmm SendFails ammSale
  cases order.hasPoolAccounts with
  | false => simp
  | true =>
      cases mode.keypair with
      | none => simp
      | some payer =>
          cases env.dexInstructions with
          | error e => simp [Except.mapError, Except.toOption]
          | ok ixs =>
              cases mode.isReal with
              | false => simp [Except.mapError]
              | true =>
                  cases hbuild : buildSignedTransaction p cfg ixs payer none
                      (env.leaderKnown && env.ownLeader) env.attempt with
                  | error e => simp [Except.mapError, Except.toOption, hbuild]
                  | ok tx =>
                      simp [Except.mapError, Except.toOption, hbuild, sendAmmSale_skipped_iff]

private theorem handleOrder_skipped_iff :
    (handleOrder p cfg mode order env).result = .error .skipped ↔
      Dropped p cfg mode order env := by
  unfold handleOrder Dropped
  cases order.route with
  | pumpFun =>
      simp only [ne_eq, not_true_eq_false, false_and, iff_false]
      cases (sellToken p cfg mode order env).result <;> simp [Except.mapError]
  | raydium => simp [sellOnAmm_skipped_iff]
  | pumpswap => simp [sellOnAmm_skipped_iff]

private theorem ofResult_eq_skipped {r : Except SellFailure SellResult} :
    SellOutcome.ofResult r = .skipped ↔ r = .error .skipped := by
  rcases r with (_ | _) | _ <;> simp [SellOutcome.ofResult]

end

/--
After an order the position, if it is still there, is unflagged, unless the
order was dropped and the position was flagged before.
-/
theorem order_unflags_iff (p : Platform) (cfg : Settings) (mode : BotMode) (order : SellOrder)
    (env : SaleEnv) (positions : Positions) :
    (∀ h, (positions.afterOrder p cfg mode order env).lookup order.mint = some h →
      h.pendingSell = false) ↔
      ¬ (Dropped p cfg mode order env ∧ positions.pending order.mint = true) := by
  have hunflagged : (∀ h, (positions.afterOrder p cfg mode order env).lookup order.mint = some h →
      h.pendingSell = false) ↔
        ¬ (positions.afterOrder p cfg mode order env).pending order.mint = true := by
    rw [Positions.pending_eq_true]
    simp
  rw [hunflagged, ← handleOrder_skipped_iff, ← ofResult_eq_skipped]
  unfold Positions.afterOrder
  cases hopen : positions.hasPosition order.mint with
  | false =>
      have hclosed : positions.pending order.mint = false := by
        simp only [Positions.hasPosition, Option.isSome_eq_false_iff, Option.isNone_iff_eq_none]
          at hopen
        simp [Positions.pending, hopen]
      simp [hclosed]
  | true =>
      simp only [if_true]
      by_cases hskipped : SellOutcome.ofResult (handleOrder p cfg mode order env).result = .skipped
      · simp [hskipped, Positions.settle]
      · simp [hskipped, Positions.pending_settle hskipped]

/-! ## A Raydium position whose sale cannot be posted -/

def Holding.raydium : Holding :=
  { Holding.plain with dex := "raydium_v4", ammPool := some "pool", pendingSell := true }

def SellOrder.raydium : SellOrder :=
  .ofHolding "mint" .raydium 50 2 (.takeProfit 100) 0 false

def SaleEnv.unposted : SaleEnv :=
  { SaleEnv.unreachable with
    attempt := { Attempt.unreachable with latestBlockhash := .ok (List.replicate 32 1) }
    dexInstructions := .ok [] }

def Settings.live : Settings := { Settings.plain with dryRun := false }

theorem dropped_order_keeps_flag :
    ¬ ∀ h, ((Positions.addPosition "mint" ∅ .raydium).afterOrder .plain .live .real .raydium
        .unposted).lookup SellOrder.raydium.mint = some h → h.pendingSell = false := by
  intro hunflagged
  have hkept : (((Positions.addPosition "mint" ∅ .raydium).afterOrder .plain .live .real .raydium
      .unposted).lookup SellOrder.raydium.mint).map Holding.pendingSell = some true := by
    decide +kernel
  obtain ⟨h, hopen, hflag⟩ := Option.map_eq_some_iff.mp hkept
  rw [hunflagged h hopen] at hflag
  cases hflag

end Girasol
