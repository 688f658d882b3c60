import Girasol.Foundation.SavedState
import Girasol.PositionMonitor.Validation

/-!
# The positions and their file

The methods of the monitor as programs of lock sections.  Some save under the
write lock, others give it back and take the read lock to save.
-/

namespace Girasol

open Foundation

variable {p : Platform}

structure SavedHolding where
  amount : Nat
  originalAmount : Nat
  buyPrice : ℚ
  triggeredTpLevels : List Nat
  triggeredSlLevels : List Nat
  deriving DecidableEq

def Holding.saved (h : Holding) : SavedHolding where
  amount := h.amount
  originalAmount := h.originalAmount
  buyPrice := h.buyPrice
  triggeredTpLevels := h.triggeredTpLevels
  triggeredSlLevels := h.triggeredSlLevels

def Positions.saved (positions : Positions) (mint : Mint) : Option SavedHolding :=
  (positions.lookup mint).map Holding.saved

/-! ## The methods -/

namespace PositionMonitor

def persist : Program Positions := .save .done

def addPosition (mint : Mint) (holding : Holding) : Program Positions :=
  .change (fun positions => positions.addPosition mint holding) fun _ => persist

def removePosition (mint : Mint) : Program Positions :=
  .change (Positions.removePosition mint) fun positions =>
    if positions.hasPosition mint then persist else .done

def updateAfterSell (mint : Mint) (soldAmount : Nat) (reason : SellReason)
    (levelIndex : Nat) : Program Positions :=
  .changeAndSave (Positions.updateAfterSell mint soldAmount reason levelIndex) .done

def accumulatePosition (r : Rounding) (mint : Mint) (additionalAmount : Nat)
    (newBuyPrice : ℚ) (additionalCost : Option ℚ) : Program Positions :=
  .changeAndSave
    (Positions.accumulatePosition r mint additionalAmount newBuyPrice additionalCost) .done

def touch (f : Positions → Positions) : Program Positions := .change f fun _ => .done

def removeStale (stale : Mint → Bool) : List Mint → Program Positions
  | [] => persist
  | mint :: rest =>
      if stale mint then
        .change (Positions.removePosition mint) fun _ => removeStale stale rest
      else removeStale stale rest

def revalidate (p : Platform) (hash : HashOrder) (cfg : Settings)
    (check : Mint → TokenCheck) : Program Positions :=
  .read fun positions =>
    if positions.keys.isEmpty then .done
    else
      removeStale (fun mint => (check mint).removes p cfg)
        ((hash.order positions.keys).filter fun mint =>
          (positions.lookup mint).any fun h => !h.pendingSell)

def validatePositionsOnStartup (p : Platform) (hash : HashOrder) (cfg : Mint → Settings)
    (check : Mint → TokenCheck) : Program Positions :=
  .read fun positions =>
    if positions.keys.isEmpty then .done
    else removeStale (fun mint => (check mint).removes p (cfg mint)) (hash.order positions.keys)

end PositionMonitor

inductive Operation (p : Platform) where
  | addPosition (mint : Mint) (holding : Holding)
  | removePosition (mint : Mint)
  | updateAfterSell (mint : Mint) (soldAmount : Nat) (reason : SellReason) (levelIndex : Nat)
  | accumulatePosition (mint : Mint) (additionalAmount : Nat) (newBuyPrice : ℚ)
      (additionalCost : Option ℚ)
  | revalidate (hash : HashOrder) (cfg : ValidSettings p) (check : Mint → TokenCheck)
  | validateOnStartup (hash : HashOrder) (cfg : Mint → ValidSettings p)
      (check : Mint → TokenCheck)
  | clearPendingSell (mint : Mint)
  | setPendingSell (mint : Mint)
  | markMigrated (mint : Mint)
  | setHighWatermark (mint : Mint) (watermark : ℚ)
  | setEntryLiquidity (mint : Mint) (liquidity : ℚ)

def Operation.program : Operation p → Program Positions
  | .addPosition mint holding => PositionMonitor.addPosition mint holding
  | .removePosition mint => PositionMonitor.removePosition mint
  | .updateAfterSell mint soldAmount reason levelIndex =>
      PositionMonitor.updateAfterSell mint soldAmount reason levelIndex
  | .accumulatePosition mint additionalAmount newBuyPrice additionalCost =>
      PositionMonitor.accumulatePosition p.rounding mint additionalAmount newBuyPrice
        additionalCost
  | .revalidate hash cfg check => PositionMonitor.revalidate p hash cfg.val check
  | .validateOnStartup hash cfg check =>
      PositionMonitor.validatePositionsOnStartup p hash (fun mint => (cfg mint).val) check
  | .clearPendingSell mint => PositionMonitor.touch (Positions.clearPendingSell mint)
  | .setPendingSell mint => PositionMonitor.touch (Positions.setPendingSell mint)
  | .markMigrated mint => PositionMonitor.touch (Positions.markMigrated mint)
  | .setHighWatermark mint watermark =>
      PositionMonitor.touch fun positions => positions.setHighWatermark mint watermark
  | .setEntryLiquidity mint liquidity =>
      PositionMonitor.touch fun positions => positions.setEntryLiquidity mint liquidity

/-! ## What each method saves -/

namespace Positions

theorem saved_update {f : Holding → Holding} (hf : ∀ h, (f h).saved = h.saved)
    (mint : Mint) (positions : Positions) :
    saved (Store.update mint (fun h => some (f h)) positions) = positions.saved := by
  funext other
  rw [saved, Store.lookup_update, saved]
  split
  · cases positions.lookup other with
    | none => rfl
    | some h => exact congrArg some (hf h)
  · rfl

private theorem saved_removePosition {mint : Mint} {positions : Positions}
    (hclosed : positions.hasPosition mint = false) :
    (positions.removePosition mint).saved = positions.saved := by
  funext other
  rw [saved, removePosition, Store.lookup_erase_eq, saved]
  split
  case isTrue heq =>
    have hnone : positions.lookup mint = none := by
      simpa [hasPosition] using hclosed
    rw [heq, hnone]
  case isFalse => rfl

end Positions

namespace PositionMonitor

theorem settles_touch {f : Positions → Positions}
    (hf : ∀ positions : Positions, (f positions).saved = positions.saved) :
    (touch f).Settles Positions.saved false :=
  fun positions => ⟨rfl, fun hne => absurd (hf positions) hne⟩

private theorem settles_removePosition (mint : Mint) :
    (removePosition mint).Settles Positions.saved false := by
  intro positions
  dsimp only
  cases hopen : positions.hasPosition mint with
  | true => exact ⟨rfl, fun _ => rfl⟩
  | false =>
      refine ⟨rfl, fun hne => ?_⟩
      exact absurd (Positions.saved_removePosition hopen) hne

private theorem settles_removeStale (stale : Mint → Bool) (mints : List Mint) (owed : Bool) :
    (removeStale stale mints).Settles Positions.saved owed := by
  induction mints generalizing owed with
  | nil => exact rfl
  | cons mint rest ih =>
      rw [removeStale]
      split
      · exact fun _ => ⟨ih owed, fun _ => ih true⟩
      · exact ih owed

private theorem settles_ifAny {b : Bool} {program : Program Positions}
    (hprogram : program.Settles Positions.saved false) :
    (if b then .done else program : Program Positions).Settles Positions.saved false := by
  cases b with
  | true => exact rfl
  | false => exact hprogram

end PositionMonitor

theorem Operation.settles_program (op : Operation p) :
    op.program.Settles Positions.saved false := by
  cases op with
  | addPosition mint holding => exact fun _ => ⟨rfl, fun _ => rfl⟩
  | removePosition mint => exact PositionMonitor.settles_removePosition mint
  | updateAfterSell mint soldAmount reason levelIndex => exact rfl
  | accumulatePosition mint additionalAmount newBuyPrice additionalCost => exact rfl
  | revalidate hash cfg check =>
      exact fun _ => PositionMonitor.settles_ifAny (PositionMonitor.settles_removeStale _ _ _)
  | validateOnStartup hash cfg check =>
      exact fun _ => PositionMonitor.settles_ifAny (PositionMonitor.settles_removeStale _ _ _)
  | clearPendingSell mint =>
      exact PositionMonitor.settles_touch (Positions.saved_update
        (f := fun h => { h with pendingSell := false }) (fun _ => rfl) mint)
  | setPendingSell mint =>
      exact PositionMonitor.settles_touch (Positions.saved_update
        (f := fun h => { h with pendingSell := true }) (fun _ => rfl) mint)
  | markMigrated mint =>
      exact PositionMonitor.settles_touch (Positions.saved_update
        (f := fun h => { h with migrated := true }) (fun _ => rfl) mint)
  | setHighWatermark mint watermark =>
      exact PositionMonitor.settles_touch (Positions.saved_update
        (f := fun h => { h with highWatermark := some watermark }) (fun _ => rfl) mint)
  | setEntryLiquidity mint liquidity =>
      exact PositionMonitor.settles_touch (Positions.saved_update
        (f := fun h => { h with entryLiquiditySol := some liquidity }) (fun _ => rfl) mint)

/-! ## All interleavings -/

theorem file_agrees_when_done (loaded : Positions) (events : List (SavingEvent (Operation p)))
    (t : SavedState Positions)
    (hrun : Run (SavedState.step Operation.program) (fun _ _ => True) (.start loaded) events t)
    (hdone : t.allDone = true) (mint : Mint) :
    (t.file.lookup mint).map Holding.saved = (t.shared.lookup mint).map Holding.saved :=
  congrFun (SavedState.file_eq_of_run Operation.settles_program hrun hdone) mint

def buyAroundSale : List (SavingEvent (Operation .plain)) :=
  [.spawn (.addPosition "other" .plain),
    .spawn (.updateAfterSell "mint" 40 (.takeProfit 30) 0),
    .advance 0, .advance 1, .advance 1, .advance 0, .advance 0]

theorem file_agrees_buyAroundSale :
    ∃ t, Run (SavedState.step Operation.program) (fun _ _ => True) (.start .single)
        buyAroundSale t ∧
      t.allDone = true ∧
      ∀ mint, (t.file.lookup mint).map Holding.saved =
        (t.shared.lookup mint).map Holding.saved := by
  have hexec : (exec (SavedState.step Operation.program) (fun _ _ => True)
      (.start .single) buyAroundSale).map SavedState.allDone = some true := by
    decide +kernel
  obtain ⟨t, hrun, hdone⟩ := exists_run_of_exec hexec
  exact ⟨t, hrun, hdone, file_agrees_when_done .single buyAroundSale t hrun hdone⟩

end Girasol
