import Girasol.Models

/-!
# Operations on the open positions

Every operation takes the write lock once and touches the entry of one mint.
-/

namespace Girasol.Positions

open Foundation

variable (mint : Mint) (positions : Positions)

def hasPosition : Bool := (positions.lookup mint).isSome

def addPosition (holding : Holding) : Positions := AList.insert mint holding positions

def removePosition : Positions := AList.erase mint positions

def clearPendingSell : Positions :=
  Store.update mint (fun h => some { h with pendingSell := false }) positions

def setPendingSell : Positions :=
  Store.update mint (fun h => some { h with pendingSell := true }) positions

def markMigrated : Positions :=
  Store.update mint (fun h => some { h with migrated := true }) positions

def setHighWatermark (watermark : ℚ) : Positions :=
  Store.update mint (fun h => some { h with highWatermark := some watermark }) positions

def setEntryLiquidity (liquidity : ℚ) : Positions :=
  Store.update mint (fun h => some { h with entryLiquiditySol := some liquidity }) positions

end Positions

def pushLevel (index : Nat) (levels : List Nat) : List Nat :=
  if levels.contains index then levels else levels ++ [index]

namespace Holding

open Foundation

def markLevel (reason : SellReason) (levelIndex : Nat) (h : Holding) : Holding :=
  match reason with
  | .takeProfit _ =>
      { h with triggeredTpLevels := pushLevel levelIndex h.triggeredTpLevels }
  | .stopLoss _ =>
      { h with triggeredSlLevels := pushLevel levelIndex h.triggeredSlLevels }
  | .trailingStop _ | .rugDetected _ | .mirrorSell => h

def afterSell (soldAmount : Nat) (reason : SellReason) (levelIndex : Nat)
    (h : Holding) : Option Holding :=
  let reduced := ({ h with
    pendingSell := false
    amount := h.amount - soldAmount }).markLevel reason levelIndex
  if reduced.amount = 0 then none else some reduced

def accumulated (r : Rounding) (additionalAmount : Nat) (newBuyPrice : ℚ)
    (additionalCost : Option ℚ) (h : Holding) : Holding :=
  let oldTotal := r.mul (r.ofU64 h.amount) h.buyPrice
  let newTotal := r.mul (r.ofU64 additionalAmount) newBuyPrice
  let combinedAmount := u64Add h.amount additionalAmount
  { h with
    buyPrice :=
      if 0 < combinedAmount then
        r.div (r.add oldTotal newTotal) (r.ofU64 combinedAmount)
      else h.buyPrice
    amount := combinedAmount
    originalAmount := combinedAmount
    buyCostSol :=
      match additionalCost with
      | some cost => some (r.add (h.buyCostSol.getD 0) cost)
      | none => h.buyCostSol }

end Holding

namespace Positions

open Foundation

/-- Reduce a position after a sale, mark the level, drop it when nothing is left. -/
def updateAfterSell (mint : Mint) (soldAmount : Nat) (reason : SellReason)
    (levelIndex : Nat) (positions : Positions) : Positions :=
  Store.update mint (Holding.afterSell soldAmount reason levelIndex) positions

def accumulatePosition (r : Rounding) (mint : Mint) (additionalAmount : Nat)
    (newBuyPrice : ℚ) (additionalCost : Option ℚ) (positions : Positions) :
    Positions :=
  Store.update mint
    (fun h => some (h.accumulated r additionalAmount newBuyPrice additionalCost))
    positions

end Positions

/-! ## What an executed sale does to the entry -/

@[simp] theorem mem_pushLevel {i j : Nat} {levels : List Nat} :
    i ∈ pushLevel j levels ↔ i ∈ levels ∨ i = j := by
  unfold pushLevel
  split
  case isTrue h =>
    constructor
    · exact Or.inl
    · rintro (hi | rfl)
      · exact hi
      · simpa using h
  case isFalse => simp

namespace Holding

@[simp]
theorem markLevel_amount (reason : SellReason) (i : Nat) (h : Holding) :
    (h.markLevel reason i).amount = h.amount := by
  cases reason <;> rfl

@[simp]
theorem markLevel_pendingSell (reason : SellReason) (i : Nat) (h : Holding) :
    (h.markLevel reason i).pendingSell = h.pendingSell := by
  cases reason <;> rfl

@[simp]
theorem markLevel_targetBuyTokens (reason : SellReason) (i : Nat) (h : Holding) :
    (h.markLevel reason i).targetBuyTokens = h.targetBuyTokens := by
  cases reason <;> rfl

@[simp] theorem afterSell_eq_none {sold : Nat} {reason : SellReason} {i : Nat} {h : Holding} :
    h.afterSell sold reason i = none ↔ h.amount ≤ sold := by
  simp [afterSell, Nat.sub_eq_zero_iff_le]

theorem afterSell_inv {sold : Nat} {reason : SellReason} {i : Nat} {h h' : Holding}
    (heq : h.afterSell sold reason i = some h') :
    sold < h.amount ∧
      h' = ({ h with pendingSell := false, amount := h.amount - sold }).markLevel reason i := by
  simp only [afterSell] at heq
  split at heq
  case isTrue => cases heq
  case isFalse hleft =>
    refine ⟨?_, (Option.some.inj heq).symm⟩
    simp only [markLevel_amount] at hleft
    omega

section

variable {sold : Nat} {reason : SellReason} {i : Nat} {h h' : Holding}

theorem afterSell_amount (heq : h.afterSell sold reason i = some h') :
    h'.amount = h.amount - sold := by
  obtain ⟨-, rfl⟩ := afterSell_inv heq
  exact markLevel_amount reason i _

theorem afterSell_pendingSell (heq : h.afterSell sold reason i = some h') :
    h'.pendingSell = false := by
  obtain ⟨-, rfl⟩ := afterSell_inv heq
  exact markLevel_pendingSell reason i _

theorem afterSell_targetBuyTokens (heq : h.afterSell sold reason i = some h') :
    h'.targetBuyTokens = h.targetBuyTokens := by
  obtain ⟨-, rfl⟩ := afterSell_inv heq
  exact markLevel_targetBuyTokens reason i _

end

end Holding

theorem SellOrder.marked_afterSell {o : SellOrder} {h h' : Holding} {l : Level}
    (heq : h.afterSell o.amount o.reason o.levelIndex = some h') :
    h'.marked l ↔ h.marked l ∨ o.level = some l := by
  obtain ⟨-, rfl⟩ := Holding.afterSell_inv heq
  cases hr : o.reason <;> cases l <;>
    simp [Holding.markLevel, Holding.marked, SellOrder.level, hr, mem_pushLevel, eq_comm]

end Girasol
