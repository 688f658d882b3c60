import Girasol.PositionMonitor.Operations
import Girasol.Settings

/-!
# The decisions of one monitor tick

What the monitor orders for one position of its snapshot at one price:
trailing stop, then rug detector, then take-profit and stop-loss levels.
-/

namespace Girasol

open Foundation

/-! ## Trailing stop and rug detector -/

def trailingStopTriggered (r : Rounding) (highWatermark buyPrice currentPrice : ℚ)
    (trailingStopBps : Nat) : Bool :=
  if trailingStopBps = 0 ∨ highWatermark ≤ buyPrice ∨ highWatermark ≤ 0 then false
  else
    currentPrice ≤
      r.mul highWatermark (r.sub 1 (r.div (r.ofU64 trailingStopBps) 10000))

def drawdownBps (r : Rounding) (referencePrice currentPrice : ℚ) : ℚ :=
  if referencePrice ≤ 0 ∨ referencePrice ≤ currentPrice then 0
  else r.mul (r.div (r.sub referencePrice currentPrice) referencePrice) 10000

def asI64 (n : Nat) : Int := if n < 2 ^ 63 then n else (n : Int) - 2 ^ 64

def withinRugWindow (ageSecs : Int) (windowSecs : Nat) : Bool :=
  0 ≤ ageSecs ∧ ageSecs ≤ asI64 windowSecs

def ageSecs (now buyTime : Int) : Int := (now - buyTime).tdiv 1000000000

def pnlPercent (r : Rounding) (h : Holding) (currentPrice : ℚ) : ℚ :=
  r.mul (r.div (r.sub currentPrice h.buyPrice) h.buyPrice) 100

def Holding.watermarkAt (h : Holding) (currentPrice : ℚ) : ℚ :=
  max (h.highWatermark.getD currentPrice) currentPrice

def trailingStopOrder (r : Rounding) (cfg : Settings) (mint : Mint) (h : Holding)
    (currentPrice : ℚ) : Option SellOrder :=
  let watermark := h.watermarkAt currentPrice
  if trailingStopTriggered r watermark h.buyPrice currentPrice cfg.trailingStopBps then
    let dropPercent := r.div (-drawdownBps r watermark currentPrice) 100
    some (.ofHolding mint h h.amount currentPrice (.trailingStop dropPercent) 0 true)
  else none

def rugDetectorWatches (cfg : Settings) (h : Holding) (now : Int) : Bool :=
  cfg.rugDetectorEnabled && withinRugWindow (ageSecs now h.buyTime) cfg.rugWindowSecs

def Holding.liquidityBaseline (h : Holding) (reading : Option ℚ) : Option ℚ :=
  h.entryLiquiditySol <|> reading

def liquidityDrop (r : Rounding) (h : Holding) (currentLiquidity : Option ℚ) : ℚ :=
  match h.liquidityBaseline currentLiquidity, currentLiquidity with
  | some entry, some current => drawdownBps r entry current
  | _, _ => 0

def rugDrop (r : Rounding) (cfg : Settings) (h : Holding) (currentPrice : ℚ)
    (currentLiquidity : Option ℚ) : Option ℚ :=
  let referencePrice := max (h.watermarkAt currentPrice) h.buyPrice
  let priceDrop := drawdownBps r referencePrice currentPrice
  let liqDrop := liquidityDrop r h currentLiquidity
  if r.ofU64 cfg.rugPriceDropBps ≤ priceDrop ∨
      (r.ofU64 cfg.rugLiquidityDropBps ≤ liqDrop ∧
        0 < (h.liquidityBaseline currentLiquidity).getD 0) then
    some (r.div (-max priceDrop liqDrop) 100)
  else none

def rugOrder (r : Rounding) (cfg : Settings) (mint : Mint) (h : Holding)
    (currentPrice : ℚ) (currentLiquidity : Option ℚ) : Option SellOrder :=
  (rugDrop r cfg h currentPrice currentLiquidity).map fun dropPercent =>
    .ofHolding mint h h.amount currentPrice (.rugDetected dropPercent) 0 true

/-! ## Take-profit and stop-loss levels -/

def levelAmount (r : Rounding) (h : Holding) (sellPercent : ℚ) : Option Nat :=
  let sellAmount := asU64 (r.mul (r.div sellPercent 100) (r.ofU64 h.originalAmount))
  if sellAmount = 0 then none else some (min sellAmount h.amount)

/--
The first level that is not marked yet, that the PnL has reached and whose size
is not zero, with the amount it sells.
-/
def firstLevel (r : Rounding) (h : Holding) (reached : ℚ → Bool) (marked : List Nat)
    (levels : List (ℚ × ℚ)) : Option (Nat × Nat) :=
  levels.zipIdx.findSome? fun (level, i) =>
    if marked.contains i || !reached level.1 then none
    else (levelAmount r h level.2).map fun amount => (i, amount)

def levelOrder (r : Rounding) (mint : Mint) (h : Holding) (currentPrice : ℚ)
    (reason : SellReason) (reached : ℚ → Bool) (marked : List Nat)
    (levels : List (ℚ × ℚ)) : Option SellOrder :=
  (firstLevel r h reached marked levels).map fun (i, amount) =>
    .ofHolding mint h amount currentPrice reason i (h.amount - amount == 0)

def takeProfitOrder (r : Rounding) (cfg : Settings) (mint : Mint) (h : Holding)
    (currentPrice : ℚ) : Option SellOrder :=
  let pnl := pnlPercent r h currentPrice
  levelOrder r mint h currentPrice (.takeProfit pnl)
    (fun trigger => trigger ≤ pnl) h.triggeredTpLevels
    (cfg.tpLevels.map fun l => (l.triggerPercent, l.sellPercent))

def stopLossOrder (r : Rounding) (cfg : Settings) (mint : Mint) (h : Holding)
    (currentPrice : ℚ) : Option SellOrder :=
  let pnl := pnlPercent r h currentPrice
  levelOrder r mint h currentPrice (.stopLoss pnl)
    (fun trigger => pnl ≤ trigger) h.triggeredSlLevels
    (cfg.slLevels.map fun l => (l.triggerPercent, l.sellPercent))

def levelOrders (r : Rounding) (cfg : Settings) (mint : Mint) (h : Holding)
    (currentPrice : ℚ) : List SellOrder :=
  (takeProfitOrder r cfg mint h currentPrice).toList ++
    (stopLossOrder r cfg mint h currentPrice).toList

/-! ## What every monitor order satisfies -/

def SellOrder.fits (o : SellOrder) (h : Holding) : Prop :=
  o.amount ≤ h.amount ∧ (o.isFinal = true ↔ o.amount = h.amount)

structure SellOrder.BuiltFrom (o : SellOrder) (mint : Mint) (h : Holding) : Prop where
  mint_eq : o.mint = mint
  fits : o.fits h
  unmarked : ∀ l, o.level = some l → ¬ h.marked l
  notMirror : o.reason ≠ .mirrorSell

theorem fullExit_builtFrom (mint : Mint) (h : Holding) (price : ℚ)
    {reason : SellReason}
    (hreason : (∃ x, reason = .trailingStop x) ∨ ∃ x, reason = .rugDetected x) :
    (SellOrder.ofHolding mint h h.amount price reason 0 true).BuiltFrom mint h := by
  refine ⟨rfl, ⟨le_refl _, by simp [SellOrder.ofHolding]⟩, ?_, ?_⟩ <;>
    rcases hreason with ⟨x, rfl⟩ | ⟨x, rfl⟩ <;>
    simp [SellOrder.level, SellOrder.ofHolding]

theorem trailingStopOrder_builtFrom {r : Rounding} {cfg : Settings} {mint : Mint}
    {h : Holding} {price : ℚ} {o : SellOrder}
    (ho : trailingStopOrder r cfg mint h price = some o) : o.BuiltFrom mint h := by
  simp only [trailingStopOrder, Option.ite_none_right_eq_some] at ho
  rw [← Option.some.inj ho.2]
  exact fullExit_builtFrom mint h price (.inl ⟨_, rfl⟩)

theorem rugOrder_builtFrom {r : Rounding} {cfg : Settings} {mint : Mint}
    {h : Holding} {price : ℚ} {liquidity : Option ℚ} {o : SellOrder}
    (ho : rugOrder r cfg mint h price liquidity = some o) : o.BuiltFrom mint h := by
  obtain ⟨drop, -, rfl⟩ := Option.map_eq_some_iff.mp ho
  exact fullExit_builtFrom mint h price (.inr ⟨drop, rfl⟩)

private theorem levelAmount_le {r : Rounding} {h : Holding} {pct : ℚ} {amount : Nat}
    (ha : levelAmount r h pct = some amount) : amount ≤ h.amount := by
  simp only [levelAmount] at ha
  split at ha
  · cases ha
  · cases ha
    exact Nat.min_le_right _ _

private theorem firstLevel_spec {r : Rounding} {h : Holding} {reached : ℚ → Bool}
    {marked : List Nat} {levels : List (ℚ × ℚ)} {i amount : Nat}
    (hfind : firstLevel r h reached marked levels = some (i, amount)) :
    ∃ level ∈ levels, i ∉ marked ∧ reached level.1 = true ∧
      levelAmount r h level.2 = some amount := by
  obtain ⟨⟨level, j⟩, hmem, hbody⟩ := List.exists_of_findSome?_eq_some hfind
  have hlevel : level ∈ levels := by
    obtain ⟨_, _, hget⟩ := List.mem_zipIdx hmem
    exact hget ▸ List.getElem_mem _
  simp only at hbody
  split at hbody
  case isTrue => cases hbody
  case isFalse hcheck =>
    obtain ⟨amount', hamount, heq⟩ := Option.map_eq_some_iff.mp hbody
    cases heq
    simp only [Bool.or_eq_true, List.contains_iff_mem, Bool.not_eq_true',
      not_or, Bool.not_eq_false] at hcheck
    exact ⟨level, hlevel, hcheck.1, hcheck.2, hamount⟩

theorem levelOrder_spec {r : Rounding} {mint : Mint} {h : Holding} {price : ℚ}
    {reason : SellReason} {reached : ℚ → Bool} {marked : List Nat}
    {levels : List (ℚ × ℚ)} {o : SellOrder}
    (ho : levelOrder r mint h price reason reached marked levels = some o) :
    o.mint = mint ∧ o.fits h ∧ o.reason = reason ∧ o.levelIndex ∉ marked ∧
      ∃ level ∈ levels, reached level.1 = true := by
  obtain ⟨⟨i, amount⟩, hfind, rfl⟩ := Option.map_eq_some_iff.mp ho
  obtain ⟨level, hmem, hmarked, hreached, hamount⟩ := firstLevel_spec hfind
  have hle := levelAmount_le hamount
  refine ⟨rfl, ⟨hle, ?_⟩, rfl, hmarked, level, hmem, hreached⟩
  simp only [SellOrder.ofHolding, beq_iff_eq]
  omega

private theorem takeProfitOrder_builtFrom {r : Rounding} {cfg : Settings} {mint : Mint}
    {h : Holding} {price : ℚ} {o : SellOrder}
    (ho : takeProfitOrder r cfg mint h price = some o) : o.BuiltFrom mint h := by
  obtain ⟨hmint, hfits, hreason, hmarked, -⟩ := levelOrder_spec ho
  refine ⟨hmint, hfits, ?_, by simp [hreason]⟩
  rintro l hl
  simp only [SellOrder.level, hreason, Option.some.injEq] at hl
  exact hl ▸ hmarked

private theorem stopLossOrder_builtFrom {r : Rounding} {cfg : Settings} {mint : Mint}
    {h : Holding} {price : ℚ} {o : SellOrder}
    (ho : stopLossOrder r cfg mint h price = some o) : o.BuiltFrom mint h := by
  obtain ⟨hmint, hfits, hreason, hmarked, -⟩ := levelOrder_spec ho
  refine ⟨hmint, hfits, ?_, by simp [hreason]⟩
  rintro l hl
  simp only [SellOrder.level, hreason, Option.some.injEq] at hl
  exact hl ▸ hmarked

theorem levelOrders_builtFrom {r : Rounding} {cfg : Settings} {mint : Mint}
    {h : Holding} {price : ℚ} {o : SellOrder}
    (ho : o ∈ levelOrders r cfg mint h price) : o.BuiltFrom mint h := by
  simp only [levelOrders, List.mem_append, Option.mem_toList] at ho
  rcases ho with ho | ho
  · exact takeProfitOrder_builtFrom ho
  · exact stopLossOrder_builtFrom ho

theorem levelOrders_length_le {p : Platform} (cfg : ValidSettings p) (mint : Mint)
    (h : Holding) (price : ℚ) {r : Rounding} :
    (levelOrders r cfg.val mint h price).length ≤ 1 := by
  unfold levelOrders
  cases htp : takeProfitOrder r cfg.val mint h price with
  | none =>
      cases stopLossOrder r cfg.val mint h price <;> simp
  | some tp =>
      cases hsl : stopLossOrder r cfg.val mint h price with
      | none => simp
      | some sl =>
          obtain ⟨-, -, -, -, level, hmem, hreached⟩ := levelOrder_spec htp
          obtain ⟨-, -, -, -, level', hmem', hreached'⟩ := levelOrder_spec hsl
          obtain ⟨up, hup, rfl⟩ := List.mem_map.mp hmem
          obtain ⟨down, hdown, rfl⟩ := List.mem_map.mp hmem'
          have hpos := cfg.tpTrigger_pos hup
          have hneg := cfg.slTrigger_neg hdown
          simp only [decide_eq_true_eq] at hreached hreached'
          linarith

end Girasol
