import Girasol.Bot.Step
import Girasol.Buy.BuyToken
import Girasol.Foundation.Runs

/-!
# The tracked amount and the wallet's balance

Buys and sells of one mint that execute on chain, with the balance of the
wallet next to the tracked position.
-/

namespace Girasol

open Foundation

structure Account where
  positions : Positions
  wallet : Nat
  wallet_lt : wallet < 2 ^ 64

structure BuyTrade where
  cfg : Settings
  swqosSender : Bool
  payer : Keypair
  detected : DetectedBuy
  req : BuyRequest
  env : BuyEnv

inductive Trade where
  | buy (t : BuyTrade)
  | sell (order : SellOrder)

def Positions.register (r : Rounding) (detected : DetectedBuy) (result : Bought)
    (positions : Positions) : Positions :=
  if positions.hasPosition detected.mint then
    positions.accumulatePosition r detected.mint result.holding.amount
      result.holding.buyPrice result.holding.buyCostSol
  else positions.addPosition detected.mint (Bot.registered detected result)

theorem Bot.positions_of_buyRegister {p : Platform} {s s' : Bot p} {task : Nat}
    {detected : DetectedBuy} {held : Bool} {result : Bought}
    (htask : s.buys[task]? = some ⟨detected, .registering held result⟩)
    (hheld : held = s.positions.hasPosition detected.mint)
    (hstep : s.buyRegister task = some s') :
    s'.positions = s.positions.register p.rounding detected result := by
  unfold Positions.register
  rw [← hheld]
  cases held with
  | true =>
      simp only [Bot.buyRegister, htask, Option.some.injEq] at hstep
      rw [← hstep, if_pos rfl]
  | false =>
      simp only [Bot.buyRegister, htask, Option.some.injEq] at hstep
      rw [← hstep, if_neg Bool.false_ne_true]

namespace Account

variable (p : Platform) (mint : Mint) (s : Account)

def tracked : Nat := ((s.positions.lookup mint).map Holding.amount).getD 0

def Matches : Prop := s.tracked mint = s.wallet

instance : Decidable (s.Matches mint) := inferInstanceAs (Decidable (_ = _))

def buy (t : BuyTrade) : Option Account :=
  match quoteBuy p t.req t.env.curve,
    (buyToken p t.cfg t.swqosSender t.payer t.req t.env).result with
  | .ok quote, .ok result =>
      if hok : s.wallet + quote.1 < 2 ^ 64 ∧ t.detected.mint = mint ∧
          (s.positions.hasPosition mint = true → t.cfg.allowAccumulate = true) then
        some ⟨s.positions.register p.rounding t.detected result, s.wallet + quote.1, hok.1⟩
      else none
  | _, _ => none

def sell (order : SellOrder) : Option Account :=
  if order.mint = mint ∧ s.positions.hasPosition mint = true ∧ order.amount ≤ s.wallet then
    some ⟨s.positions.updateAfterSell mint order.amount order.reason order.levelIndex,
      s.wallet - order.amount, by have := s.wallet_lt; omega⟩
  else none

def step : Trade → Option Account
  | .buy t => s.buy p mint t
  | .sell order => s.sell mint order

end Account

/-- A buy reports no looked-up balance, or one that is just what it bought. -/
def Trade.ReportsPurchase (p : Platform) : Trade → Prop
  | .buy t =>
      ∀ balance ∈ reportedBalance p t.cfg t.swqosSender t.env,
        ∀ quote ∈ (quoteBuy p t.req t.env.curve).toOption, balance = quote.1
  | .sell _ => True

variable {p : Platform} {cfg : Settings} {swqosSender : Bool} {env : BuyEnv}

private theorem observedBalance_lt {n : Nat} (hobserved : observedBalance p env = .ok (some n)) :
    n < 2 ^ 64 := by
  have hvalue : env.balance.value = some n := by
    unfold observedBalance at hobserved
    cases hfind : findTokenAccountOwnedByOwner env.token2022 env.legacy with
    | none => simp [hfind] at hobserved
    | some acc =>
        cases hpk : p.parsePubkey acc with
        | error e => simp [hfind, hpk] at hobserved
        | ok pk =>
            cases hanswer : env.balance <;> simp_all
  exact BalanceAnswer.value_lt hvalue

private theorem reportedBalance_lt {n : Nat} (hn : reportedBalance p cfg swqosSender env = some n) :
    n < 2 ^ 64 := by
  have hobserved : observedBalance p env = .ok (some n) := by
    have hjoin : (observedBalance p env).toOption.join = some n →
        observedBalance p env = .ok (some n) := by
      cases observedBalance p env with
      | error e => simp [Except.toOption]
      | ok observed => simp [Except.toOption]
    unfold reportedBalance at hn
    split at hn
    · cases hn
    · split at hn
      · split at hn
        · exact hjoin (Option.filter_eq_some_iff.mp hn).1
        · cases hn
      · exact hjoin hn
  exact observedBalance_lt hobserved

theorem Positions.amount_register (r : Rounding) (detected : DetectedBuy) (result : Bought)
    (positions : Positions) :
    ((positions.register r detected result).lookup detected.mint).map Holding.amount =
      some (match positions.lookup detected.mint with
        | none => result.holding.amount
        | some h => u64Add h.amount result.holding.amount) := by
  unfold Positions.register
  cases hlook : positions.lookup detected.mint with
  | none => simp [Positions.hasPosition, hlook, Positions.addPosition, Bot.registered]
  | some h =>
      simp [Positions.hasPosition, hlook, Positions.accumulatePosition,
        Store.lookup_update_self, Holding.accumulated]

namespace Account

variable {mint : Mint} {s s' : Account}

private theorem sell_matches {order : SellOrder} (hs : s.Matches mint)
    (hsell : s.sell mint order = some s') : s'.Matches mint := by
  unfold sell at hsell
  split at hsell
  case isFalse => cases hsell
  case isTrue hallowed =>
    obtain ⟨rfl, hopen, hle⟩ := hallowed
    cases hsell
    obtain ⟨h, hlook⟩ := Option.isSome_iff_exists.mp hopen
    have hwallet : h.amount = s.wallet := by
      simpa [Matches, tracked, hlook] using hs
    simp only [Matches, tracked, Positions.updateAfterSell, Store.lookup_update_self, hlook,
      Option.bind_some]
    cases hafter : h.afterSell order.amount order.reason order.levelIndex with
    | none =>
        have hall := Holding.afterSell_eq_none.mp hafter
        simp
        omega
    | some h' =>
        have hleft := Holding.afterSell_amount hafter
        simp
        omega

private theorem buy_matches_iff {t : BuyTrade} (hs : s.Matches mint)
    (hbuy : s.buy p mint t = some s') :
    s'.Matches mint ↔ (Trade.buy t).ReportsPurchase p := by
  unfold buy at hbuy
  split at hbuy
  case h_2 => cases hbuy
  case h_1 quote result hquote hresult =>
    split at hbuy
    case isFalse => cases hbuy
    case isTrue hallowed =>
      cases hbuy
      have hlt := hallowed.1
      obtain rfl := hallowed.2.1
      obtain ⟨quote', hquote', hamount⟩ := buyToken_amount hresult
      obtain rfl : quote = quote' := by simpa [hquote] using hquote'
      have hbound : ∀ balance ∈ reportedBalance p t.cfg t.swqosSender t.env,
          balance < 2 ^ 64 := fun balance hmem => reportedBalance_lt hmem
      have hreports : (Trade.buy t).ReportsPurchase p ↔ result.holding.amount = quote.1 := by
        simp only [Trade.ReportsPurchase, hquote, Except.toOption, hamount]
        cases reportedBalance p t.cfg t.swqosSender t.env <;> simp
      have hfits : result.holding.amount < 2 ^ 64 := by
        rw [hamount]
        cases hreported : reportedBalance p t.cfg t.swqosSender t.env with
        | none => simp; omega
        | some balance => simpa using hbound balance hreported
      rw [hreports]
      unfold Matches tracked at hs ⊢
      rw [Positions.amount_register]
      cases hlook : s.positions.lookup t.detected.mint with
      | none =>
          simp only [hlook, Option.map_none, Option.getD_none] at hs
          simp [← hs]
      | some h =>
          simp only [hlook, Option.map_some, Option.getD_some] at hs
          simp only [Option.getD_some, u64Add]
          omega

private theorem step_matches_iff {trade : Trade} (hs : s.Matches mint)
    (hstep : s.step p mint trade = some s') :
    s'.Matches mint ↔ trade.ReportsPurchase p := by
  cases trade with
  | buy t => exact buy_matches_iff hs hstep
  | sell order => exact iff_of_true (sell_matches hs hstep) trivial

end Account

/--
Over every sequence of trades from an empty wallet, the tracked amount stays the
wallet's balance exactly when every buy reports what it bought.
-/
theorem tracked_matches_iff (p : Platform) (mint : Mint) (positions : Positions)
    (hclosed : positions.lookup mint = none) (trades : List Trade) :
    Along (Account.step p mint) (fun _ _ s' => s'.Matches mint) ⟨positions, 0, by decide⟩ trades ↔
      Along (Account.step p mint) (fun _ trade _ => trade.ReportsPurchase p)
        ⟨positions, 0, by decide⟩ trades := by
  apply along_iff
  · exact fun s trade s' hs hstep => Account.step_matches_iff hs hstep
  · simp [Account.Matches, Account.tracked, hclosed]

/-! ## A second buy that reports the whole balance -/

def BuyEnv.observing (balance : String) : BuyEnv where
  curve := .error "not asked"
  now := 0
  blockhash := .ok (List.replicate 32 1)
  instructions := fun _ => .ok []
  preSol := .ok 1000000000
  attempt := .unreachable
  ownLeader := false
  leaderKnown := false
  swqos := ⟨[], ⟨false, .error "not asked"⟩⟩
  helius := .unreachable
  confirmed := false
  rpcSend := ⟨true, .ok "signature"⟩
  token2022 := .ok ⟨some (.array [.object
    [("pubkey", .string "So11111111111111111111111111111111111111112")]]), none⟩
  legacy := .error .allFailed
  balance := .amount balance
  postSol := .ok (some 900000000)

def BuyTrade.observing (balance : String) : BuyTrade where
  cfg := { Settings.plain with allowAccumulate := true }
  swqosSender := false
  payer := .plain
  detected := .plain
  req := ⟨"mint", 1, some 1, some 10000, none⟩
  env := .observing balance

def twoBuys : List Trade := [.buy (.observing "9000"), .buy (.observing "18000")]

theorem tracked_matches_iff_two :
    Along (Account.step .plain "mint") (fun _ _ s' => s'.Matches "mint") ⟨∅, 0, by decide⟩
        twoBuys ↔
      Along (Account.step .plain "mint") (fun _ trade _ => trade.ReportsPurchase .plain)
        ⟨∅, 0, by decide⟩ twoBuys :=
  tracked_matches_iff .plain "mint" ∅ (by decide) twoBuys

theorem tracked_exceeds_balance :
    ¬ Along (Account.step .plain "mint") (fun _ _ s' => s'.Matches "mint")
      ⟨∅, 0, by decide⟩ twoBuys := by
  decide +kernel

end Girasol
