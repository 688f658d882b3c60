import Girasol.Foundation.Runs
import Girasol.PositionMonitor.Operations

/-!
# What every reachable map of positions satisfies

The operations of the buy tasks and the sell executor, in any order.  A new
position is for all that was bought, and no buy adds more than a `u64` holds.
-/

namespace Girasol

open Foundation

inductive PositionOp where
  | addPosition (mint : Mint) (holding : Holding)
  | accumulatePosition (mint : Mint) (additionalAmount : Nat) (newBuyPrice : ℚ)
      (additionalCost : Option ℚ)
  | updateAfterSell (mint : Mint) (soldAmount : Nat) (reason : SellReason) (levelIndex : Nat)
  | clearPendingSell (mint : Mint)
  | removePosition (mint : Mint)

def PositionOp.mint : PositionOp → Mint
  | addPosition mint _ | accumulatePosition mint _ _ _ | updateAfterSell mint _ _ _
  | clearPendingSell mint | removePosition mint => mint

structure Holding.WellFormed (h : Holding) : Prop where
  amount_le : h.amount ≤ h.originalAmount
  tpLevels : h.triggeredTpLevels.Nodup
  slLevels : h.triggeredSlLevels.Nodup

namespace Positions

def apply (r : Rounding) (positions : Positions) : PositionOp → Positions
  | .addPosition mint holding => positions.addPosition mint holding
  | .accumulatePosition mint amount price cost =>
      positions.accumulatePosition r mint amount price cost
  | .updateAfterSell mint sold reason index => positions.updateAfterSell mint sold reason index
  | .clearPendingSell mint => positions.clearPendingSell mint
  | .removePosition mint => positions.removePosition mint

/-- The callers pass new positions with equal amounts and no level marked twice. -/
def Allows (positions : Positions) : PositionOp → Prop
  | .addPosition _ holding =>
      holding.amount = holding.originalAmount ∧ holding.triggeredTpLevels.Nodup ∧
        holding.triggeredSlLevels.Nodup
  | .accumulatePosition mint amount _ _ =>
      ∀ h, positions.lookup mint = some h → h.amount + amount < 2 ^ 64
  | _ => True

def step (r : Rounding) (positions : Positions) (op : PositionOp) : Option Positions :=
  some (positions.apply r op)

end Positions

/-! ## What one operation keeps -/

private theorem nodup_pushLevel {i : Nat} {levels : List Nat} (h : levels.Nodup) :
    (pushLevel i levels).Nodup := by
  unfold pushLevel
  split
  case isTrue => exact h
  case isFalse hnew =>
    rw [List.contains_iff_mem] at hnew
    rw [List.nodup_append]
    refine ⟨h, List.nodup_singleton i, ?_⟩
    rintro j hj _ hi rfl
    exact hnew (List.mem_singleton.mp hi ▸ hj)

namespace Holding

variable {h h' : Holding}

theorem WellFormed.markLevel (hw : h.WellFormed) (reason : SellReason) (i : Nat) :
    (h.markLevel reason i).WellFormed := by
  obtain ⟨hle, htp, hsl⟩ := hw
  cases reason with
  | takeProfit pnl => exact ⟨hle, nodup_pushLevel htp, hsl⟩
  | stopLoss pnl => exact ⟨hle, htp, nodup_pushLevel hsl⟩
  | trailingStop drop => exact ⟨hle, htp, hsl⟩
  | rugDetected drop => exact ⟨hle, htp, hsl⟩
  | mirrorSell => exact ⟨hle, htp, hsl⟩

theorem WellFormed.afterSell (hw : h.WellFormed) {sold : Nat} {reason : SellReason} {i : Nat}
    (heq : h.afterSell sold reason i = some h') : h'.WellFormed := by
  have hreduced : ({ h with pendingSell := false, amount := h.amount - sold }).WellFormed :=
    ⟨(Nat.sub_le _ _).trans hw.amount_le, hw.tpLevels, hw.slLevels⟩
  obtain ⟨-, rfl⟩ := afterSell_inv heq
  exact hreduced.markLevel reason i

theorem WellFormed.accumulated (hw : h.WellFormed) (r : Rounding) (amount : Nat) (price : ℚ)
    (cost : Option ℚ) : (h.accumulated r amount price cost).WellFormed :=
  ⟨le_refl _, hw.tpLevels, hw.slLevels⟩

end Holding

namespace Positions

variable {r : Rounding} {positions : Positions}

private theorem wellFormed_apply {op : PositionOp} (hs : Store.All Holding.WellFormed positions)
    (hallows : positions.Allows op) :
    Store.All Holding.WellFormed (positions.apply r op) := by
  cases op with
  | addPosition mint holding =>
      obtain ⟨hamount, htp, hsl⟩ := hallows
      exact hs.insert ⟨hamount.le, htp, hsl⟩
  | accumulatePosition mint amount price cost =>
      apply hs.update
      intro h h' hopen heq
      cases heq
      exact (hs mint h hopen).accumulated r amount price cost
  | updateAfterSell mint sold reason index =>
      apply hs.update
      intro h h' hopen heq
      exact (hs mint h hopen).afterSell heq
  | clearPendingSell mint =>
      apply hs.update
      intro h h' hopen heq
      cases heq
      exact ⟨(hs mint h hopen).amount_le, (hs mint h hopen).tpLevels, (hs mint h hopen).slLevels⟩
  | removePosition mint => exact hs.erase

private theorem lookup_apply_ne (op : PositionOp) {mint : Mint} (hne : mint ≠ op.mint) :
    (positions.apply r op).lookup mint = positions.lookup mint := by
  cases op with
  | addPosition mint' holding => exact AList.lookup_insert_ne hne
  | accumulatePosition mint' amount price cost => exact Store.lookup_update_ne hne _ _
  | updateAfterSell mint' sold reason index => exact Store.lookup_update_ne hne _ _
  | clearPendingSell mint' => exact Store.lookup_update_ne hne _ _
  | removePosition mint' => exact AList.lookup_erase_ne hne

private theorem lookup_updateAfterSell_eq_none {mint : Mint} {h : Holding}
    (hopen : positions.lookup mint = some h) (sold : Nat) (reason : SellReason) (index : Nat) :
    (positions.updateAfterSell mint sold reason index).lookup mint = none ↔ h.amount ≤ sold := by
  rw [updateAfterSell, Store.lookup_update_self, hopen, Option.bind_some, Holding.afterSell_eq_none]

/-- From no positions on, whatever the order of the operations. -/
theorem reachable_sound (r : Rounding) (ops : List PositionOp) (positions : Positions)
    (hrun : Run (step r) Allows ∅ ops positions) :
    (∀ mint h, positions.lookup mint = some h →
      h.amount ≤ h.originalAmount ∧ h.triggeredTpLevels.Nodup ∧ h.triggeredSlLevels.Nodup) ∧
    (∀ op mint, mint ≠ op.mint →
      (positions.apply r op).lookup mint = positions.lookup mint) ∧
    ∀ mint h, positions.lookup mint = some h → ∀ sold reason index,
      ((positions.updateAfterSell mint sold reason index).lookup mint = none ↔
        h.amount ≤ sold) := by
  have hinv : Store.All Holding.WellFormed positions := by
    refine hrun.invariant (fun s op s' hallows hstep hs => ?_) ?_
    · cases hstep
      exact wellFormed_apply hs hallows
    · intro mint h hopen
      cases hopen
  refine ⟨fun mint h hopen => ?_, fun op _ => lookup_apply_ne op, fun mint h hopen => ?_⟩
  · obtain ⟨hle, htp, hsl⟩ := hinv mint h hopen
    exact ⟨hle, htp, hsl⟩
  · exact lookup_updateAfterSell_eq_none hopen

def halfSold : List PositionOp :=
  [.addPosition "mint" .plain, .updateAfterSell "mint" 50 (.takeProfit 30) 0]

theorem reachable_sound_halfSold :
    ∃ positions, Run (step .exact) Allows ∅ halfSold positions ∧
      (positions.lookup "mint").isSome = true ∧
      ∀ h, positions.lookup "mint" = some h → h.amount ≤ h.originalAmount := by
  have hrun : Run (step .exact) Allows ∅ halfSold _ :=
    .cons ⟨rfl, List.nodup_nil, List.nodup_nil⟩ rfl (.cons trivial rfl (.nil _))
  refine ⟨_, hrun, by decide +kernel, fun h hopen => ?_⟩
  exact ((reachable_sound .exact halfSold _ hrun).1 "mint" h hopen).1

end Positions

end Girasol
