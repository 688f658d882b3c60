import Girasol.Bot.Step
import Girasol.Foundation.Scan

/-!
# Which order a tick makes

The body of the monitor's loop asks four questions about a position and a price.
In exact arithmetic its orders are those of the most urgent decision that is due.
-/

namespace Girasol

open Foundation

/-! ## The loop body -/

section

variable (r : Rounding) (cfg : Settings) (mint : Mint) (h : Holding) (price : ℚ) (now : Int)
  (liquidity : Option ℚ)

def watchedRugOrder : Option SellOrder :=
  if rugDetectorWatches cfg h now then rugOrder r cfg mint h price liquidity else none

/-- The orders for one position; a full exit leaves the body before the levels. -/
def tickOrders : List SellOrder :=
  match (trailingStopOrder r cfg mint h price).or
      (watchedRugOrder r cfg mint h price now liquidity) with
  | some order => [order]
  | none => levelOrders r cfg mint h price

end

namespace Bot

variable {p : Platform} {s s' : Bot p} {cfg : ValidSettings p} {mint : Mint} {h : Holding}
  {rest : List (Mint × Holding)} {price : ℚ} {now : Int}

theorem tickPrice_passes {reading : PriceReading}
    (hticking : s.monitor = .ticking cfg ((mint, h) :: rest))
    (hskip : ∀ price, reading = .price price → price ≤ 0 ∨ h.buyPrice ≤ 0)
    (hstep : s.tickPrice reading now = some s') :
    ∃ positions, (positions = s.positions ∨ positions = s.positions.markMigrated mint) ∧
      s' = { s with positions := positions, monitor := .proceed cfg rest } := by
  simp only [tickPrice, hticking] at hstep
  cases reading with
  | error text =>
      cases hstep
      refine ⟨_, ?_, rfl⟩
      split
      · exact .inr rfl
      · exact .inl rfl
  | price price =>
      simp only at hstep
      split at hstep
      case isTrue =>
        cases hstep
        exact ⟨_, .inr rfl, rfl⟩
      case isFalse hprice =>
        rw [if_pos ((hskip price rfl).resolve_left hprice)] at hstep
        cases hstep
        exact ⟨s.positions, .inl rfl, rfl⟩

theorem tickPrice_evaluates (hticking : s.monitor = .ticking cfg ((mint, h) :: rest))
    (hprice : 0 < price) (hbuy : 0 < h.buyPrice)
    (hstep : s.tickPrice (.price price) now = some s') :
    ∃ monitor, s' = { s with
        positions := s.positions.setHighWatermark mint (h.watermarkAt price)
        monitor := monitor } ∧
      (monitor = .probing cfg mint h price rest ∧
          trailingStopOrder p.rounding cfg.val mint h price = none ∧
          rugDetectorWatches cfg.val h now = true ∨
        ∀ liquidity, monitor =
          .emit cfg rest (tickOrders p.rounding cfg.val mint h price now liquidity)) := by
  simp only [tickPrice, hticking, not_le.mpr hprice, not_le.mpr hbuy, if_false] at hstep
  cases htrailing : trailingStopOrder p.rounding cfg.val mint h price with
  | some order =>
      simp only [htrailing] at hstep
      cases hstep
      refine ⟨_, rfl, .inr fun liquidity => ?_⟩
      simp [tickOrders, htrailing, Monitor.emit]
  | none =>
      simp only [htrailing] at hstep
      split at hstep
      case isTrue hwatches =>
        cases hstep
        exact ⟨_, rfl, .inl ⟨rfl, rfl, hwatches⟩⟩
      case isFalse hwatches =>
        cases hstep
        refine ⟨_, rfl, .inr fun liquidity => ?_⟩
        simp [tickOrders, watchedRugOrder, htrailing, hwatches]

theorem tickCurve_emits {liquidity : Option ℚ} (hstep : s.tickCurve liquidity = some s') :
    ∃ cfg mint seen price rest orders, s.monitor = .probing cfg mint seen price rest ∧
      s' = { s with
        positions := s.positions.noteLiquidity mint seen liquidity
        monitor := .emit cfg rest orders } ∧
      ∀ o ∈ orders, rugOrder p.rounding cfg.val mint seen price liquidity = some o ∨
        o ∈ levelOrders p.rounding cfg.val mint seen price := by
  simp only [tickCurve] at hstep
  split at hstep
  case h_2 => cases hstep
  case h_1 cfg mint seen price rest hprobing =>
    split at hstep <;> cases hstep
    case h_1 order hrug =>
      refine ⟨cfg, mint, seen, price, rest, [order], hprobing, rfl, ?_⟩
      intro o ho
      rw [List.mem_singleton.mp ho]
      exact .inl hrug
    case h_2 => exact ⟨cfg, mint, seen, price, rest, _, hprobing, rfl, fun o ho => .inr ho⟩

theorem tickCurve_evaluates {liquidity : Option ℚ}
    (hprobing : s.monitor = .probing cfg mint h price rest)
    (htrailing : trailingStopOrder p.rounding cfg.val mint h price = none)
    (hwatches : rugDetectorWatches cfg.val h now = true)
    (hstep : s.tickCurve liquidity = some s') :
    s' = { s with
      positions := s.positions.noteLiquidity mint h liquidity
      monitor := .emit cfg rest (tickOrders p.rounding cfg.val mint h price now liquidity) } := by
  simp only [tickCurve, hprobing] at hstep
  cases hrug : rugOrder p.rounding cfg.val mint h price liquidity with
  | some order =>
      simp only [hrug] at hstep
      cases hstep
      simp [tickOrders, watchedRugOrder, htrailing, hwatches, hrug, Monitor.emit]
  | none =>
      simp only [hrug] at hstep
      cases hstep
      simp [tickOrders, watchedRugOrder, htrailing, hwatches, hrug]

end Bot

/-! ## Decisions -/

inductive Decision where
  | trailingStop
  | rugDetected
  | takeProfit (index : Nat)
  | stopLoss (index : Nat)
  deriving DecidableEq

def Decision.Precedes : Decision → Decision → Prop
  | .trailingStop, .trailingStop => False
  | .trailingStop, _ => True
  | .rugDetected, .takeProfit _ => True
  | .rugDetected, .stopLoss _ => True
  | .takeProfit j, .takeProfit i => j < i
  | .stopLoss j, .stopLoss i => j < i
  | _, _ => False

namespace Holding

variable (h : Holding)

def pnl (price : ℚ) : ℚ := (price - h.buyPrice) / h.buyPrice * 100

def share (sellPercent : ℚ) : ℚ := sellPercent / 100 * h.originalAmount

def LevelDue (reached : ℚ → Bool) (marked : List Nat) (levels : List (ℚ × ℚ)) (i : Nat) : Prop :=
  ∃ level ∈ levels[i]?, i ∉ marked ∧ reached level.1 = true ∧ 1 ≤ h.share level.2

def levelSale (mint : Mint) (price : ℚ) (reason : SellReason) (levels : List (ℚ × ℚ)) (i : Nat) :
    Option SellOrder :=
  levels[i]?.map fun level =>
    .ofHolding mint h (min ⌊h.share level.2⌋₊ h.amount) price reason i
      (h.amount ≤ ⌊h.share level.2⌋₊)

end Holding

def Settings.tpPairs (cfg : Settings) : List (ℚ × ℚ) :=
  cfg.tpLevels.map fun l => (l.triggerPercent, l.sellPercent)

def Settings.slPairs (cfg : Settings) : List (ℚ × ℚ) :=
  cfg.slLevels.map fun l => (l.triggerPercent, l.sellPercent)

namespace Decision

section

variable (cfg : Settings) (mint : Mint) (h : Holding) (price : ℚ) (now : Int)
  (liquidity : Option ℚ)

/-- The condition of a decision, over the rationals. -/
def Due : Decision → Prop
  | .trailingStop =>
      0 < cfg.trailingStopBps ∧ h.buyPrice < h.watermarkAt price ∧
        price ≤ h.watermarkAt price * (1 - cfg.trailingStopBps / 10000)
  | .rugDetected =>
      rugDetectorWatches cfg h now = true ∧
        ((cfg.rugPriceDropBps : ℚ) ≤
            drawdownBps .exact (max (h.watermarkAt price) h.buyPrice) price ∨
          (cfg.rugLiquidityDropBps : ℚ) ≤ liquidityDrop .exact h liquidity ∧
            0 < (h.liquidityBaseline liquidity).getD 0)
  | .takeProfit i =>
      h.LevelDue (fun trigger => trigger ≤ h.pnl price) h.triggeredTpLevels cfg.tpPairs i
  | .stopLoss i =>
      h.LevelDue (fun trigger => h.pnl price ≤ trigger) h.triggeredSlLevels cfg.slPairs i

/-- Due, and nothing that comes before it is. -/
def Chosen (d : Decision) : Prop :=
  d.Due cfg h price now liquidity ∧ ∀ e : Decision, e.Precedes d → ¬e.Due cfg h price now liquidity

/-- The order that carries out a decision. -/
def order : Decision → Option SellOrder
  | .trailingStop =>
      some (.ofHolding mint h h.amount price
        (.trailingStop (-drawdownBps .exact (h.watermarkAt price) price / 100)) 0 true)
  | .rugDetected =>
      some (.ofHolding mint h h.amount price
        (.rugDetected (-max (drawdownBps .exact (max (h.watermarkAt price) h.buyPrice) price)
          (liquidityDrop .exact h liquidity) / 100)) 0 true)
  | .takeProfit i => h.levelSale mint price (.takeProfit (h.pnl price)) cfg.tpPairs i
  | .stopLoss i => h.levelSale mint price (.stopLoss (h.pnl price)) cfg.slPairs i

end

end Decision

/-! ## Each question of the body asks for one decision -/

section

variable {cfg : Settings} {mint : Mint} {h : Holding} {price : ℚ} {now : Int}
  {liquidity : Option ℚ}

theorem trailingStopTriggered_exact_iff {watermark buyPrice : ℚ} (hbuy : 0 < buyPrice)
    (bps : Nat) :
    trailingStopTriggered .exact watermark buyPrice price bps = true ↔
      0 < bps ∧ buyPrice < watermark ∧ price ≤ watermark * (1 - bps / 10000) := by
  have hbound : Rounding.exact.mul watermark (Rounding.exact.sub 1
      (Rounding.exact.div (Rounding.exact.ofU64 bps) 10000)) = watermark * (1 - bps / 10000) := rfl
  unfold trailingStopTriggered
  split
  case isTrue hoff =>
    simp only [Bool.false_eq_true, false_iff]
    rintro ⟨hbps, harmed, -⟩
    obtain hzero | hbelow | hnone := hoff
    · omega
    · exact absurd harmed (not_lt.mpr hbelow)
    · linarith
  case isFalse hon =>
    simp only [not_or, not_le] at hon
    obtain ⟨hbps, harmed, -⟩ := hon
    rw [hbound, decide_eq_true_eq, and_iff_right (Nat.pos_of_ne_zero hbps), and_iff_right harmed]

theorem mem_trailingStopOrder_iff (hbuy : 0 < h.buyPrice) {o : SellOrder} :
    o ∈ trailingStopOrder .exact cfg mint h price ↔
      Decision.trailingStop.Due cfg h price now liquidity ∧
        Decision.trailingStop.order cfg mint h price liquidity = some o := by
  simp only [trailingStopOrder, Option.mem_def, Option.ite_none_right_eq_some,
    trailingStopTriggered_exact_iff hbuy]
  rfl

theorem mem_watchedRugOrder_iff {o : SellOrder} :
    o ∈ watchedRugOrder .exact cfg mint h price now liquidity ↔
      Decision.rugDetected.Due cfg h price now liquidity ∧
        Decision.rugDetected.order cfg mint h price liquidity = some o := by
  simp only [watchedRugOrder, rugOrder, rugDrop, Option.mem_def, Option.ite_none_right_eq_some,
    Option.map_eq_some_iff, Decision.Due, Decision.order, and_assoc, Option.some.injEq]
  apply and_congr_right
  intro hwatches
  constructor
  · rintro ⟨drop, hdrop, rfl, rfl⟩
    exact ⟨hdrop, rfl⟩
  · rintro ⟨hdrop, rfl⟩
    exact ⟨_, hdrop, rfl, rfl⟩

theorem percentage_le {percent : ℚ} (hpercent : percent ≤ 100) (amount : Nat) :
    percent / 100 * amount ≤ amount := by
  calc percent / 100 * amount ≤ 100 / 100 * amount := by gcongr
    _ = amount := by rw [div_self (by norm_num), one_mul]

private theorem levelAmount_exact (hsize : h.originalAmount ≤ u64Max) {sellPercent : ℚ}
    (hpercent : sellPercent ≤ 100) :
    levelAmount .exact h sellPercent =
      if 1 ≤ h.share sellPercent then some (min ⌊h.share sellPercent⌋₊ h.amount) else none := by
  have hshare : h.share sellPercent ≤ u64Max := by
    calc h.share sellPercent ≤ h.originalAmount := percentage_le hpercent h.originalAmount
      _ ≤ u64Max := by exact_mod_cast hsize
  have hamount : asU64 (h.share sellPercent) = ⌊h.share sellPercent⌋₊ := by
    apply min_eq_left
    exact Nat.floor_le_of_le hshare
  change (if asU64 (h.share sellPercent) = 0 then none
    else some (min (asU64 (h.share sellPercent)) h.amount)) = _
  simp only [hamount, Nat.floor_eq_zero, ← not_le, ite_not]

section

variable {reached : ℚ → Bool} {marked : List Nat} {levels : List (ℚ × ℚ)} {reason : SellReason}

private theorem levelBody_eq_some_iff (hsize : h.originalAmount ≤ u64Max)
    (hpercent : ∀ level ∈ levels, level.2 ≤ 100) {i : Nat} {level : ℚ × ℚ}
    (hlevel : levels[i]? = some level) {found : Nat × Nat} :
    (if marked.contains i || !reached level.1 then none
      else (levelAmount .exact h level.2).map fun amount => (i, amount)) = some found ↔
      h.LevelDue reached marked levels i ∧ (i, min ⌊h.share level.2⌋₊ h.amount) = found := by
  rw [levelAmount_exact hsize (hpercent level (List.mem_of_getElem? hlevel))]
  simp only [Holding.LevelDue, hlevel, Option.mem_some_iff, exists_eq_left', Bool.or_eq_true,
    List.contains_iff_mem, Bool.not_eq_true', Option.ite_none_left_eq_some, not_or,
    Bool.not_eq_false, Option.map_eq_some_iff, Option.ite_none_right_eq_some,
    Option.some.injEq, and_assoc, exists_and_left]

private theorem firstLevel_eq_some_iff (hsize : h.originalAmount ≤ u64Max)
    (hpercent : ∀ level ∈ levels, level.2 ≤ 100) {i amount : Nat} :
    firstLevel .exact h reached marked levels = some (i, amount) ↔
      h.LevelDue reached marked levels i ∧ (∀ j < i, ¬h.LevelDue reached marked levels j) ∧
        ∃ level, levels[i]? = some level ∧ min ⌊h.share level.2⌋₊ h.amount = amount := by
  rw [firstLevel, findSome?_zipIdx_eq_some_iff]
  constructor
  · rintro ⟨k, level, hlevel, hfound, hearlier⟩
    obtain ⟨hdue, hpair⟩ := (levelBody_eq_some_iff hsize hpercent hlevel).mp hfound
    obtain ⟨rfl, hamount⟩ := Prod.mk.inj hpair
    refine ⟨hdue, ?_, level, hlevel, hamount⟩
    intro j hj hdue'
    obtain ⟨level', hlevel', -⟩ := id hdue'
    have hsome := (levelBody_eq_some_iff hsize hpercent hlevel').mpr ⟨hdue', rfl⟩
    cases hsome.symm.trans (hearlier j hj level' hlevel')
  · rintro ⟨hdue, hfirst, level, hlevel, hamount⟩
    refine ⟨i, level, hlevel,
      (levelBody_eq_some_iff hsize hpercent hlevel).mpr ⟨hdue, by rw [hamount]⟩, ?_⟩
    intro j hj level' hlevel'
    apply Option.eq_none_iff_forall_ne_some.mpr
    intro found hfound
    exact hfirst j hj ((levelBody_eq_some_iff hsize hpercent hlevel').mp hfound).1

theorem mem_levelOrder_iff (hsize : h.originalAmount ≤ u64Max)
    (hpercent : ∀ level ∈ levels, level.2 ≤ 100) {o : SellOrder} :
    o ∈ levelOrder .exact mint h price reason reached marked levels ↔
      ∃ i, h.LevelDue reached marked levels i ∧
        (∀ j < i, ¬h.LevelDue reached marked levels j) ∧
        h.levelSale mint price reason levels i = some o := by
  have hfinal (share : Nat) :
      (h.amount - min share h.amount == 0) = decide (h.amount ≤ share) := by
    rw [Bool.eq_iff_iff, beq_iff_eq, decide_eq_true_eq]
    omega
  simp only [levelOrder, Option.mem_def, Option.map_eq_some_iff, Prod.exists,
    firstLevel_eq_some_iff hsize hpercent, Holding.levelSale]
  constructor
  · rintro ⟨i, amount, ⟨hdue, hfirst, trigger, percent, hlevel, rfl⟩, rfl⟩
    exact ⟨i, hdue, hfirst, trigger, percent, hlevel, by rw [hfinal]⟩
  · rintro ⟨i, hdue, hfirst, trigger, percent, hlevel, rfl⟩
    exact ⟨i, _, ⟨hdue, hfirst, trigger, percent, hlevel, rfl⟩, by rw [hfinal]⟩

end

end

/-! ## The body as a whole -/

section

variable {p : Platform} (cfg : ValidSettings p) {mint : Mint} {h : Holding} {price : ℚ}
  {now : Int} {liquidity : Option ℚ}

theorem mem_takeProfitOrder_iff (now : Int) (liquidity : Option ℚ)
    (hsize : h.originalAmount ≤ u64Max) {o : SellOrder} :
    o ∈ takeProfitOrder .exact cfg.val mint h price ↔
      ∃ i, (Decision.takeProfit i).Due cfg.val h price now liquidity ∧
        (∀ j < i, ¬(Decision.takeProfit j).Due cfg.val h price now liquidity) ∧
        (Decision.takeProfit i).order cfg.val mint h price liquidity = some o := by
  apply mem_levelOrder_iff hsize
  intro level hmem
  obtain ⟨tp, htp, rfl⟩ := List.mem_map.mp hmem
  exact (cfg.tpLevel_checked htp).2.2

theorem mem_stopLossOrder_iff (now : Int) (liquidity : Option ℚ)
    (hsize : h.originalAmount ≤ u64Max) {o : SellOrder} :
    o ∈ stopLossOrder .exact cfg.val mint h price ↔
      ∃ i, (Decision.stopLoss i).Due cfg.val h price now liquidity ∧
        (∀ j < i, ¬(Decision.stopLoss j).Due cfg.val h price now liquidity) ∧
        (Decision.stopLoss i).order cfg.val mint h price liquidity = some o := by
  apply mem_levelOrder_iff hsize
  intro level hmem
  obtain ⟨sl, hsl, rfl⟩ := List.mem_map.mp hmem
  exact (cfg.slLevel_checked hsl).2.2

end

namespace Decision

variable {cfg : Settings} {h : Holding} {price : ℚ} {now : Int} {liquidity : Option ℚ}

theorem chosen_of_trailingStop (hdue : trailingStop.Due cfg h price now liquidity) (d : Decision) :
    d.Chosen cfg h price now liquidity ↔ d = .trailingStop := by
  constructor
  · rintro ⟨-, hfirst⟩
    cases d with
    | trailingStop => rfl
    | rugDetected | takeProfit _ | stopLoss _ => exact absurd hdue (hfirst .trailingStop trivial)
  · rintro rfl
    refine ⟨hdue, ?_⟩
    intro e he
    cases e <;> exact he.elim

theorem chosen_of_rugDetected (hcalm : ¬trailingStop.Due cfg h price now liquidity)
    (hdue : rugDetected.Due cfg h price now liquidity) (d : Decision) :
    d.Chosen cfg h price now liquidity ↔ d = .rugDetected := by
  constructor
  · rintro ⟨hdue', hfirst⟩
    cases d with
    | trailingStop => exact absurd hdue' hcalm
    | rugDetected => rfl
    | takeProfit _ | stopLoss _ => exact absurd hdue (hfirst .rugDetected trivial)
  · rintro rfl
    refine ⟨hdue, ?_⟩
    intro e he
    cases e with
    | trailingStop => exact hcalm
    | rugDetected | takeProfit _ | stopLoss _ => exact he.elim

section

variable (hcalm : ¬trailingStop.Due cfg h price now liquidity)
  (hsound : ¬rugDetected.Due cfg h price now liquidity) (i : Nat)

include hcalm hsound

theorem chosen_takeProfit_iff :
    (takeProfit i).Chosen cfg h price now liquidity ↔
      (takeProfit i).Due cfg h price now liquidity ∧
        ∀ j < i, ¬(takeProfit j).Due cfg h price now liquidity := by
  apply and_congr_right
  intro
  constructor
  · intro hfirst j hj
    exact hfirst (.takeProfit j) hj
  · intro hfirst e he
    cases e with
    | trailingStop => exact hcalm
    | rugDetected => exact hsound
    | takeProfit j => exact hfirst j he
    | stopLoss _ => exact he.elim

theorem chosen_stopLoss_iff :
    (stopLoss i).Chosen cfg h price now liquidity ↔
      (stopLoss i).Due cfg h price now liquidity ∧
        ∀ j < i, ¬(stopLoss j).Due cfg h price now liquidity := by
  apply and_congr_right
  intro
  constructor
  · intro hfirst j hj
    exact hfirst (.stopLoss j) hj
  · intro hfirst e he
    cases e with
    | trailingStop => exact hcalm
    | rugDetected => exact hsound
    | takeProfit _ => exact he.elim
    | stopLoss j => exact hfirst j he

end

theorem exists_chosen {d : Decision} (hdue : d.Due cfg h price now liquidity) :
    ∃ e : Decision, e.Chosen cfg h price now liquidity := by
  classical
  by_cases htrailing : trailingStop.Due cfg h price now liquidity
  · exact ⟨_, (chosen_of_trailingStop htrailing _).mpr rfl⟩
  by_cases hrug : rugDetected.Due cfg h price now liquidity
  · exact ⟨_, (chosen_of_rugDetected htrailing hrug _).mpr rfl⟩
  cases d with
  | trailingStop => exact absurd hdue htrailing
  | rugDetected => exact absurd hdue hrug
  | takeProfit i =>
      have hsome : ∃ j, (takeProfit j).Due cfg h price now liquidity := ⟨i, hdue⟩
      exact ⟨_, (chosen_takeProfit_iff htrailing hrug (Nat.find hsome)).mpr
        ⟨Nat.find_spec hsome, fun j => Nat.find_min hsome⟩⟩
  | stopLoss i =>
      have hsome : ∃ j, (stopLoss j).Due cfg h price now liquidity := ⟨i, hdue⟩
      exact ⟨_, (chosen_stopLoss_iff htrailing hrug (Nat.find hsome)).mpr
        ⟨Nat.find_spec hsome, fun j => Nat.find_min hsome⟩⟩

theorem exists_order (mint : Mint) {d : Decision} (hdue : d.Due cfg h price now liquidity) :
    ∃ o, d.order cfg mint h price liquidity = some o := by
  cases d with
  | trailingStop | rugDetected => exact ⟨_, rfl⟩
  | takeProfit i | stopLoss i =>
      obtain ⟨level, hlevel, -⟩ := hdue
      exact ⟨_, Option.map_eq_some_iff.mpr ⟨level, hlevel, rfl⟩⟩

private theorem levelSale_sizes {mint : Mint} (hamount : 0 < h.amount) {reached : ℚ → Bool}
    {marked : List Nat} {levels : List (ℚ × ℚ)} {reason : SellReason} {i : Nat} {o : SellOrder}
    (hdue : h.LevelDue reached marked levels i)
    (horder : h.levelSale mint price reason levels i = some o) :
    o.mint = mint ∧ 0 < o.amount ∧ o.fits h := by
  obtain ⟨level, hget, -, -, hshare⟩ := hdue
  obtain ⟨level', hget', rfl⟩ := Option.map_eq_some_iff.mp horder
  obtain rfl : level = level' := Option.some.inj (hget.symm.trans hget')
  have hpos : 0 < ⌊h.share level.2⌋₊ := Nat.floor_pos.mpr hshare
  refine ⟨rfl, lt_min hpos hamount, min_le_right _ _, ?_⟩
  simp only [SellOrder.ofHolding, decide_eq_true_eq]
  omega

private theorem order_sizes {mint : Mint} (hamount : 0 < h.amount) {d : Decision} {o : SellOrder}
    (hdue : d.Due cfg h price now liquidity)
    (horder : d.order cfg mint h price liquidity = some o) :
    o.mint = mint ∧ 0 < o.amount ∧ o.fits h := by
  cases d with
  | trailingStop | rugDetected =>
      obtain rfl := Option.some.inj horder
      exact ⟨rfl, hamount, le_rfl, by simp [SellOrder.ofHolding]⟩
  | takeProfit i =>
      simp only [Due] at hdue
      exact levelSale_sizes hamount hdue horder
  | stopLoss i =>
      simp only [Due] at hdue
      exact levelSale_sizes hamount hdue horder

end Decision

section

variable {p : Platform} (cfg : ValidSettings p) {mint : Mint} {h : Holding} {price : ℚ}
  {now : Int} {liquidity : Option ℚ}

private theorem mem_tickOrders_iff (hsize : h.originalAmount ≤ u64Max) (hbuy : 0 < h.buyPrice)
    {o : SellOrder} :
    o ∈ tickOrders .exact cfg.val mint h price now liquidity ↔
      ∃ d : Decision, d.Chosen cfg.val h price now liquidity ∧
        d.order cfg.val mint h price liquidity = some o := by
  by_cases htrailing : Decision.trailingStop.Due cfg.val h price now liquidity
  · obtain ⟨first, hfirst⟩ := Decision.exists_order mint htrailing
    have hfound : trailingStopOrder .exact cfg.val mint h price = some first :=
      (mem_trailingStopOrder_iff hbuy).mpr ⟨htrailing, hfirst⟩
    simp [tickOrders, hfound, Decision.chosen_of_trailingStop htrailing, hfirst, eq_comm]
  have hcalm : trailingStopOrder .exact cfg.val mint h price = none := by
    apply Option.eq_none_iff_forall_ne_some.mpr
    intro found hfound
    exact htrailing ((mem_trailingStopOrder_iff hbuy).mp hfound).1
  by_cases hrug : Decision.rugDetected.Due cfg.val h price now liquidity
  · obtain ⟨first, hfirst⟩ := Decision.exists_order mint hrug
    have hfound : watchedRugOrder .exact cfg.val mint h price now liquidity = some first :=
      mem_watchedRugOrder_iff.mpr ⟨hrug, hfirst⟩
    simp [tickOrders, hcalm, hfound, Decision.chosen_of_rugDetected htrailing hrug, hfirst,
      eq_comm]
  have hsound : watchedRugOrder .exact cfg.val mint h price now liquidity = none := by
    apply Option.eq_none_iff_forall_ne_some.mpr
    intro found hfound
    exact hrug (mem_watchedRugOrder_iff.mp hfound).1
  simp only [tickOrders, hcalm, hsound, Option.or_none, levelOrders, List.mem_append,
    Option.mem_toList, ← Option.mem_def, mem_takeProfitOrder_iff cfg now liquidity hsize,
    mem_stopLossOrder_iff cfg now liquidity hsize]
  constructor
  · rintro (⟨i, hdue, hfirst, horder⟩ | ⟨i, hdue, hfirst, horder⟩)
    · exact ⟨_, (Decision.chosen_takeProfit_iff htrailing hrug i).mpr ⟨hdue, hfirst⟩, horder⟩
    · exact ⟨_, (Decision.chosen_stopLoss_iff htrailing hrug i).mpr ⟨hdue, hfirst⟩, horder⟩
  · rintro ⟨d, hchosen, horder⟩
    cases d with
    | trailingStop => exact absurd hchosen.1 htrailing
    | rugDetected => exact absurd hchosen.1 hrug
    | takeProfit i =>
        obtain ⟨hdue, hfirst⟩ := (Decision.chosen_takeProfit_iff htrailing hrug i).mp hchosen
        exact .inl ⟨i, hdue, hfirst, horder⟩
    | stopLoss i =>
        obtain ⟨hdue, hfirst⟩ := (Decision.chosen_stopLoss_iff htrailing hrug i).mp hchosen
        exact .inr ⟨i, hdue, hfirst, horder⟩

private theorem tickOrders_length_le (r : Rounding) :
    (tickOrders r cfg.val mint h price now liquidity).length ≤ 1 := by
  unfold tickOrders
  split
  · simp
  · exact levelOrders_length_le cfg mint h price

end

/--
For accepted settings and a position with tokens and a price, a tick makes at
most one order.  It sells some of the position, it is final when it sells all,
and it is the order of the most urgent decision that is due.
-/
theorem tickOrders_decided (p : Platform) (cfg : ValidSettings p) (mint : Mint) (h : Holding)
    (hsize : h.originalAmount ≤ u64Max) (hamount : 0 < h.amount) (hbuy : 0 < h.buyPrice)
    (price : ℚ) (now : Int) (liquidity : Option ℚ) :
    (tickOrders .exact cfg.val mint h price now liquidity).length ≤ 1 ∧
      (∀ o ∈ tickOrders .exact cfg.val mint h price now liquidity,
        o.mint = mint ∧ 0 < o.amount ∧ o.amount ≤ h.amount ∧
          (o.isFinal = true ↔ o.amount = h.amount)) ∧
      (∀ o, o ∈ tickOrders .exact cfg.val mint h price now liquidity ↔
        ∃ d : Decision, d.Chosen cfg.val h price now liquidity ∧
          d.order cfg.val mint h price liquidity = some o) ∧
      (tickOrders .exact cfg.val mint h price now liquidity = [] ↔
        ∀ d : Decision, ¬d.Due cfg.val h price now liquidity) := by
  have hmem (o : SellOrder) : o ∈ tickOrders .exact cfg.val mint h price now liquidity ↔
      ∃ d : Decision, d.Chosen cfg.val h price now liquidity ∧
        d.order cfg.val mint h price liquidity = some o := mem_tickOrders_iff cfg hsize hbuy
  refine ⟨tickOrders_length_le cfg .exact, ?_, hmem, ?_⟩
  · intro o ho
    obtain ⟨d, hchosen, horder⟩ := (hmem o).mp ho
    exact Decision.order_sizes hamount hchosen.1 horder
  · rw [List.eq_nil_iff_forall_not_mem]
    constructor
    · intro hnone d hdue
      obtain ⟨e, hchosen⟩ := Decision.exists_chosen hdue
      obtain ⟨o, horder⟩ := Decision.exists_order mint hchosen.1
      exact hnone o ((hmem o).mpr ⟨e, hchosen, horder⟩)
    · intro hnone o ho
      obtain ⟨d, hchosen, -⟩ := (hmem o).mp ho
      exact hnone d hchosen.1

theorem tickOrders_decided_half :
    (tickOrders .exact ValidSettings.plain.val "mint" .plain 2 0 none).length ≤ 1 :=
  (tickOrders_decided .plain .plain "mint" .plain (by decide) (by decide) (by decide) 2 0 none).1

end Girasol
