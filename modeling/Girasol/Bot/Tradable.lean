import Girasol.Bot.Entries
import Girasol.Bot.Registration
import Girasol.Buy.Accounting
import Girasol.Buy.Routes
import Girasol.Sell.Pending

/-!
# Positions the monitor can sell

The monitor passes over a position without an amount or a price.  A buy on the
bonding curve registers both, a buy on an AMM neither.
-/

namespace Girasol

open Foundation

namespace Holding

/-- The monitor and the mirror sells have something to go by. -/
def Tradable (h : Holding) : Prop := 0 < h.amount ∧ 0 < h.buyPrice

theorem afterSell_buyPrice {sold : Nat} {reason : SellReason} {i : Nat} {h h' : Holding}
    (heq : h.afterSell sold reason i = some h') : h'.buyPrice = h.buyPrice := by
  obtain ⟨-, rfl⟩ := afterSell_inv heq
  cases reason <;> rfl

theorem afterSell_highWatermark {sold : Nat} {reason : SellReason} {i : Nat} {h h' : Holding}
    (heq : h.afterSell sold reason i = some h') : h'.highWatermark = h.highWatermark := by
  obtain ⟨-, rfl⟩ := afterSell_inv heq
  cases reason <;> rfl

theorem Tradable.afterSell {sold : Nat} {reason : SellReason} {i : Nat} {h h' : Holding}
    (hh : h.Tradable) (heq : h.afterSell sold reason i = some h') : h'.Tradable := by
  constructor
  · rw [afterSell_amount heq]
    exact Nat.sub_pos_of_lt (afterSell_inv heq).1
  · rw [afterSell_buyPrice heq]
    exact hh.2

theorem Tradable.accumulated {r : Rounding} (hr : r.Accurate) {amount : Nat} {price : ℚ}
    {cost : Option ℚ} {h : Holding} (hh : h.Tradable) (hprice : 0 ≤ price)
    (hsum : u64Add h.amount amount ≠ 0) (hlarge : 2 ^ 68 * f64MinPositive ≤ h.buyPrice) :
    (h.accumulated r amount price cost).Tradable := by
  have htiny := f64MinPositive_pos
  have hcombined : 0 < u64Add h.amount amount := Nat.pos_of_ne_zero hsum
  refine ⟨hcombined, ?_⟩
  have hold : h.buyPrice / 4 ≤ r.mul (r.ofU64 h.amount) h.buyPrice := by
    have hhalf : h.buyPrice / 2 ≤ r.ofU64 h.amount * h.buyPrice := by
      have := mul_le_mul_of_nonneg_right (hr.half_le_ofU64 hh.1) hh.2.le
      linarith
    have := hr.half_le _ (le_trans (by linarith) hhalf)
    exact le_trans (by linarith) this
  have hnew : 0 ≤ r.mul (r.ofU64 amount) price :=
    hr.nonneg _ (mul_nonneg (hr.nonneg _ (Nat.cast_nonneg amount)) hprice)
  have htotal : h.buyPrice / 8 ≤
      r.add (r.mul (r.ofU64 h.amount) h.buyPrice) (r.mul (r.ofU64 amount) price) := by
    have := hr.half_le (r.mul (r.ofU64 h.amount) h.buyPrice + r.mul (r.ofU64 amount) price)
      (by linarith)
    exact le_trans (by linarith) this
  have hcount : r.ofU64 (u64Add h.amount amount) ≤ 2 ^ 65 :=
    hr.ofU64_le hcombined (Nat.mod_lt _ (by norm_num))
  have hcountPos : 0 < r.ofU64 (u64Add h.amount amount) :=
    lt_of_lt_of_le (by norm_num) (hr.half_le_ofU64 hcombined)
  have haverage : f64MinPositive ≤
      r.add (r.mul (r.ofU64 h.amount) h.buyPrice) (r.mul (r.ofU64 amount) price) /
        r.ofU64 (u64Add h.amount amount) := by
    rw [le_div_iff₀ hcountPos]
    calc f64MinPositive * r.ofU64 (u64Add h.amount amount)
        ≤ f64MinPositive * 2 ^ 65 := by gcongr
      _ ≤ h.buyPrice / 8 := by linarith
      _ ≤ _ := htotal
  have := hr.half_le _ haverage
  simp only [Holding.accumulated, hcombined, if_true]
  exact lt_of_lt_of_le (by linarith) this

end Holding

/-! ## Runs of the bot in real mode -/

variable {p : Platform}

structure LiveBuy (p : Platform) where
  cfg : ValidSettings p
  swqosSender : Bool
  keypair : Keypair
  env : RouteEnv

namespace LiveBuy

variable (b : LiveBuy p) (detected : DetectedBuy)

def outcome : BuyOutcome :=
  .ofResult (routeBuy p b.cfg.val b.swqosSender (some b.keypair) detected b.env).result

def quote : Except String (Nat × ℚ) :=
  quoteBuy p (buyRequest p b.cfg.val detected) b.env.curve

def OpensTradable : Prop :=
  detected.dex = .pumpFun ∧ (∀ quote ∈ (b.quote detected).toOption, 0 < quote.2) ∧
    reportedBalance p b.cfg.val b.swqosSender b.env.curveEnv ≠ some 0

def AddsTradable : Prop :=
  detected.dex = .pumpFun → ∀ quote ∈ (b.quote detected).toOption, 0 ≤ quote.2

instance : Decidable (b.OpensTradable detected) := inferInstanceAs (Decidable (_ ∧ _ ∧ _))

instance : Decidable (b.AddsTradable detected) := inferInstanceAs (Decidable (_ → _))

variable {b detected} {result : Bought}

theorem quote_eq {quote : Nat × ℚ}
    (hquote : quoteBuy p (buyRequest p b.cfg.val detected) b.env.curve = .ok quote) :
    (b.quote detected).toOption = some quote := by
  rw [LiveBuy.quote, hquote]
  rfl

theorem outcome_eq_bought (hbought : b.outcome detected = .bought result) :
    (routeBuy p b.cfg.val b.swqosSender (some b.keypair) detected b.env).result = .ok result :=
  BuyOutcome.ofResult_eq_bought.mp hbought

theorem OpensTradable.tradable (hopens : b.OpensTradable detected)
    (hbought : b.outcome detected = .bought result) : result.holding.Tradable := by
  obtain ⟨hdex, hprice, hbalance⟩ := hopens
  obtain ⟨quote, hquote, hamount, hprice'⟩ :=
    routeBuy_curve hdex (outcome_eq_bought hbought)
  constructor
  · rw [hamount]
    cases hreported : reportedBalance p b.cfg.val b.swqosSender b.env.curveEnv with
    | some balance =>
        have hne : balance ≠ 0 := by
          rintro rfl
          exact hbalance hreported
        simpa using Nat.pos_of_ne_zero hne
    | none => exact quoteBuy_pos hquote
  · rw [hprice']
    exact hprice quote (by simp [quote_eq hquote])

theorem AddsTradable.price_nonneg (hadds : b.AddsTradable detected)
    (hbought : b.outcome detected = .bought result) : 0 ≤ result.holding.buyPrice := by
  by_cases hdex : detected.dex = .pumpFun
  · obtain ⟨quote, hquote, -, hprice⟩ := routeBuy_curve hdex (outcome_eq_bought hbought)
    rw [hprice]
    exact hadds hdex quote (by simp [quote_eq hquote])
  · rw [(routeBuy_amm hdex (outcome_eq_bought hbought)).2]

end LiveBuy

inductive LiveEvent (p : Platform) where
  | other (e : Event p)
  | buy (task : Nat) (b : LiveBuy p)

namespace Bot

def liveStep (s : Bot p) : LiveEvent p → Option (Bot p)
  | .other (.buyResult _ _) => none
  | .other e => s.step e
  | .buy i b => s.buys[i]?.bind fun task => s.step (.buyResult i (b.outcome task.detected))

def boughtFor (s : Bot p) (i : Nat) (b : LiveBuy p) : Option (DetectedBuy × Bool) :=
  match s.buys[i]? with
  | some ⟨detected, .buying held⟩ =>
      match b.outcome detected with
      | .bought _ => some (detected, held)
      | _ => none
  | _ => none

/--
A buy of a mint that is not held opens a tradable position, and one of a mint
that is held leaves its position tradable.
-/
def BuysTradable (s : Bot p) : LiveEvent p → Prop
  | .buy i b => ∀ buy ∈ s.boughtFor i b,
      (buy.2 = false → b.OpensTradable buy.1) ∧ (buy.2 = true → b.AddsTradable buy.1)
  | .other e => ∀ r ∈ s.registration e, r.alreadyHolding = true →
      ∀ h ∈ s.positions.lookup r.detected.mint,
        u64Add h.amount r.result.holding.amount ≠ 0 ∧ 2 ^ 68 * f64MinPositive ≤ h.buyPrice

instance (s : Bot p) (e : LiveEvent p) : Decidable (s.BuysTradable e) := by
  induction e using LiveEvent.casesOn with
  | buy i b => exact inferInstanceAs (Decidable (∀ buy ∈ s.boughtFor i b, _))
  | other e => exact inferInstanceAs (Decidable (∀ r ∈ s.registration e, _))

def Registers (held : Bool) (result : Bought) : Prop :=
  if held then 0 ≤ result.holding.buyPrice else result.holding.Tradable

structure TradeInv (s : Bot p) : Prop where
  positions : Store.All Holding.Tradable s.positions
  results : ∀ (i : Nat) (detected : DetectedBuy) (held : Bool) (result : Bought),
    s.buys[i]? = some ⟨detected, .registering held result⟩ → Registers held result

variable {s s' : Bot p}

theorem step_of_liveStep {e : Event p} (hlive : s.liveStep (.other e) = some s') :
    s.step e = some s' := by
  cases e with
  | buyResult i outcome => cases hlive
  | _ => exact hlive

private theorem tradable_outside {e : Event p} (hs : Store.All Holding.Tradable s.positions)
    (hstep : s.step e = some s') (htask : e.task = none) :
    Store.All Holding.Tradable s'.positions := by
  intro mint h' hlook'
  have hentry := step_entry hstep mint
  rw [hlook'] at hentry
  generalize hlook : s.positions.lookup mint = before at hentry
  generalize hafter : some h' = after at hentry
  cases hentry with
  | kept => exact hs mint h' (hlook.trans hafter.symm)
  | removed => cases hafter
  | noted e h migrated pendingSell liquidity hbefore =>
      cases hafter
      exact hs mint h (hlook.trans hbefore)
  | evaluated h seen cfg rest price now hbefore =>
      cases hafter
      exact hs mint h (hlook.trans hbefore)
  | sold h queued hbefore => exact (hs mint h (hlook.trans hbefore)).afterSell hafter.symm
  | accumulated => cases htask
  | opened => cases htask

namespace TradeInv

private theorem outside {e : Event p} (hs : s.TradeInv) (hstep : s.step e = some s')
    (htask : e.task = none) : s'.TradeInv := by
  refine ⟨tradable_outside hs.positions hstep htask, fun i detected held result hbuy => ?_⟩
  rcases (step_outside hstep htask).getElem? i with heq | ⟨-, other, hspawned⟩
  · exact hs.results i detected held result (heq ▸ hbuy)
  · rw [hspawned] at hbuy
    cases hbuy

private theorem results_task {i : Nat} {phase : BuyPhase p} (hs : s.TradeInv)
    (hbuys : s'.buys = (s.setPhase i phase).buys)
    (hphase : ∀ held result, phase = .registering held result → Registers held result)
    (j : Nat) (detected : DetectedBuy) (held : Bool) (result : Bought)
    (hbuy : s'.buys[j]? = some ⟨detected, .registering held result⟩) :
    Registers held result := by
  rw [hbuys, getElem?_setPhase] at hbuy
  split at hbuy
  case isFalse => exact hs.results j detected held result hbuy
  case isTrue =>
    obtain ⟨task, -, heq⟩ := Option.map_eq_some_iff.mp hbuy
    cases heq
    exact hphase held result rfl

private theorem task {i : Nat} {detected : DetectedBuy} {e : Event p} {phase phase' : BuyPhase p}
    (hr : p.rounding.Accurate) (hs : s.TradeInv) (htask : s.buys[i]? = some ⟨detected, phase⟩)
    (hmove : BuyStep s i detected e phase phase' s')
    (hbought : ∀ held result, e = .buyResult i (.bought result) → phase = .buying held →
      Registers held result)
    (hregister : s.BuysTradable (.other e)) : s'.TradeInv := by
  refine ⟨?_, hs.results_task hmove.buys fun held result hphase => ?_⟩
  · cases hmove with
    | accumulated result =>
        have hprice : 0 ≤ result.holding.buyPrice := hs.results i detected true result htask
        refine hs.positions.update fun h h' hopen heq => ?_
        cases heq
        have hreg : s.registration (.buyRegister i) = some ⟨detected, true, result⟩ := by
          simp [registration, htask]
        obtain ⟨hsum, hlarge⟩ := hregister _ hreg rfl h hopen
        exact (hs.positions detected.mint h hopen).accumulated hr hprice hsum hlarge
    | opened result =>
        exact hs.positions.insert (hs.results i detected false result htask)
    | _ => exact hs.positions
  · cases hmove with
    | bought held result =>
        cases hphase
        exact hbought _ _ rfl rfl
    | _ => cases hphase

private theorem step {e : LiveEvent p} (hr : p.rounding.Accurate) (hok : s.BuysTradable e)
    (hlive : s.liveStep e = some s') (hs : s.TradeInv) : s'.TradeInv := by
  cases e with
  | other e =>
      have hstep := step_of_liveStep hlive
      cases htask : e.task with
      | none => exact hs.outside hstep htask
      | some i =>
          obtain ⟨⟨detected, phase⟩, phase', hbuy, hmove⟩ := step_task hstep htask
          refine hs.task hr hbuy hmove (fun held result heq => ?_) hok
          subst heq
          cases hlive
  | buy i b =>
      obtain ⟨task, hbuy, hstep⟩ := Option.bind_eq_some_iff.mp hlive
      obtain ⟨⟨detected, phase⟩, phase', hbuy', hmove⟩ := step_task hstep rfl
      cases hbuy.symm.trans hbuy'
      refine hs.task hr hbuy' hmove (fun held result heq hphase => ?_)
        (by simp [BuysTradable, registration])
      have houtcome : b.outcome detected = .bought result := by injection heq
      have hmade : s.boughtFor i b = some (detected, held) := by
        simp only [hphase] at hbuy'
        simp [boughtFor, hbuy', houtcome]
      obtain ⟨hopens, hadds⟩ := hok _ hmade
      cases held with
      | true => exact (hadds rfl).price_nonneg houtcome
      | false => exact (hopens rfl).tradable houtcome

end TradeInv

/--
From tradable positions, if buys open positions on the bonding curve only, at a
positive price, then every position stays tradable.
-/
theorem positions_tradable (hr : p.rounding.Accurate) (settings : ValidSettings p)
    (loaded : Positions) (hloaded : Store.All Holding.Tradable loaded)
    (es : List (LiveEvent p)) (t : Bot p)
    (hrun : Run liveStep BuysTradable (start settings true loaded) es t) (mint : Mint)
    (h : Holding) (hopen : t.positions.lookup mint = some h) : h.Tradable := by
  have hstart : (start settings true loaded).TradeInv := ⟨hloaded, by simp [start]⟩
  have hinv : t.TradeInv :=
    hrun.invariant (fun _ _ _ hok hlive hs => hs.step hr hok hlive) hstart
  exact hinv.positions mint h hopen

/-! ## One buy in real mode -/

theorem live_valid : Settings.live.validate .plain = .ok () := Settings.plain_valid

def live : ValidSettings .plain := ⟨.live, live_valid⟩

def acceptedBuy : LiveBuy .plain where
  cfg := live
  swqosSender := false
  keypair := .plain
  env :=
    { BuyEnv.observing "9000" with
      screen := fun _ _ _ => .ok ()
      cachedBlockhash := some (List.replicate 32 1)
      raydiumInstructions := fun _ _ _ _ => .ok []
      pumpswapInstructions := fun _ _ => .ok []
      http := ⟨true, .ok (.object [("result", .string "signature")])⟩ }

def buyLive (detected : DetectedBuy) : List (LiveEvent .plain) :=
  [.other (.detectBuy detected 0), .other (.buyConfigure 0), .other (.buyAcquire 0),
    .other (.buyLook 0), .other (.buyCount 0), .buy 0 acceptedBuy, .other (.buyRegister 0)]

def holds (mint : Mint) (amount : Nat) (price : ℚ) (t : Bot .plain) : Bool :=
  (t.positions.lookup mint).map (fun h => (h.amount, h.buyPrice)) == some (amount, price)

theorem holds_iff {mint : Mint} {amount : Nat} {price : ℚ} {t : Bot .plain} :
    holds mint amount price t = true ↔
      ∃ h, t.positions.lookup mint = some h ∧ h.amount = amount ∧ h.buyPrice = price := by
  simp [holds]

theorem positions_tradable_curve :
    ∃ t h, Run liveStep BuysTradable (start live true ∅) (buyLive .plain) t ∧
      t.positions.lookup "mint" = some h ∧ h.Tradable := by
  have hexec : (exec liveStep BuysTradable (start live true ∅) (buyLive .plain)).map
      (holds "mint" 9000 10000) = some true := by
    decide +kernel
  obtain ⟨t, hrun, hcheck⟩ := exists_run_of_exec hexec
  obtain ⟨h, hopen, -⟩ := holds_iff.mp hcheck
  have hloaded : Store.All Holding.Tradable (∅ : Positions) := by simp [Store.All]
  exact ⟨t, h, hrun, hopen, positions_tradable Rounding.exact_accurate live ∅ hloaded
    (buyLive .plain) t hrun "mint" h hopen⟩

def raydiumBuy : DetectedBuy :=
  { DetectedBuy.plain with dex := .raydiumV4, ammPool := some "pool" }

theorem raydium_untradable :
    ∃ t h, Run liveStep (fun _ _ => True) (start live true ∅) (buyLive raydiumBuy) t ∧
      t.positions.lookup "mint" = some h ∧ ¬ h.Tradable := by
  have hexec : (exec liveStep (fun _ _ => True) (start live true ∅) (buyLive raydiumBuy)).map
      (holds "mint" 0 0) = some true := by
    decide +kernel
  obtain ⟨t, hrun, hcheck⟩ := exists_run_of_exec hexec
  obtain ⟨h, hopen, hamount, -⟩ := holds_iff.mp hcheck
  refine ⟨t, h, hrun, hopen, ?_⟩
  rintro ⟨hpos, -⟩
  omega

end Bot

end Girasol
