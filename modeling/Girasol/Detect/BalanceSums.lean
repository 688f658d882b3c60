import Girasol.Detect.MintOrder

/-!
# Balances spread over several accounts of a mint

The target may hold one mint in several token accounts.  The parsers insert each
balance into a map by its mint, so that the last entry of a mint is all they see
of it.
-/

namespace Girasol

open Foundation

def amountsOf (entries : List (String × Nat)) (mint : String) : List Nat :=
  (entries.filter fun entry => entry.1 = mint).map Prod.snd

def totalOf (entries : List (String × Nat)) (mint : String) : Nat :=
  (amountsOf entries mint).sum

def overwritten (entries : List (String × Nat)) (mint : String) : Nat :=
  (amountsOf entries mint).dropLast.sum

private theorem amountsOf_concat (entries : List (String × Nat)) (entry : String × Nat)
    (mint : String) :
    amountsOf (entries ++ [entry]) mint =
      amountsOf entries mint ++ if entry.1 = mint then [entry.2] else [] := by
  unfold amountsOf
  rw [List.filter_append, List.map_append]
  by_cases hmint : entry.1 = mint
  · simp [hmint]
  · simp [hmint]

private theorem amountOf_concat (entries : List (String × Nat)) (entry : String × Nat)
    (mint : String) :
    amountOf (entries ++ [entry]) mint =
      if entry.1 = mint then entry.2 else amountOf entries mint := by
  obtain ⟨name, amount⟩ := entry
  unfold amountOf
  rw [List.reverse_append, List.reverse_singleton, List.singleton_append, List.lookup_cons]
  by_cases hmint : name = mint
  · simp [hmint]
  · have hne : (mint == name) = false := beq_eq_false_iff_ne.mpr (Ne.symm hmint)
    simp [hmint, hne]

private theorem totalOf_eq (entries : List (String × Nat)) (mint : String) :
    totalOf entries mint = overwritten entries mint + amountOf entries mint := by
  induction entries using List.reverseRecOn with
  | nil => rfl
  | append_singleton entries entry ih =>
      unfold totalOf overwritten at ih ⊢
      rw [amountsOf_concat, amountOf_concat]
      by_cases hmint : entry.1 = mint
      · simp [hmint]
      · simpa [hmint] using ih

/--
What the map loses of a mint is the same before and after, or its change is the
opposite of twice the change that is seen.
-/
def LossCancels (pre post : List (String × Nat)) (mint : String) : Prop :=
  overwritten pre mint = overwritten post mint ∨
    overwritten post mint + 2 * amountOf post mint = overwritten pre mint + 2 * amountOf pre mint

def moved (pre post : List (String × Nat)) (mint : String) : Nat :=
  ((totalOf post mint : Int) - totalOf pre mint).natAbs

theorem moved_eq_iff {pre post : List (String × Nat)} {mint : String} :
    ((amountOf post mint : Int) - amountOf pre mint).natAbs = moved pre post mint ↔
      LossCancels pre post mint := by
  unfold moved LossCancels
  rw [totalOf_eq, totalOf_eq, Int.natAbs_eq_natAbs_iff]
  push_cast
  omega

private theorem movement_of_ne {pre post : Nat} (h : pre ≠ post) :
    movement pre post = some (decide (pre < post), ((post : Int) - pre).natAbs) := by
  unfold movement
  by_cases hgained : pre < post
  · have habs : ((post : Int) - pre).natAbs = post - pre := by omega
    simp [hgained, habs]
  · have hlost : post < pre := by omega
    have habs : ((post : Int) - pre).natAbs = pre - post := by omega
    simp [hgained, hlost, habs]

/-! ## The WebSocket listener -/

namespace CopyEngine

section

variable (p : Platform) (result : Json) (keys : List String) (targetWallet : String)
  (ammPool : Option String)

/-- Whatever mint comes first, the reported amount is the move over all entries. -/
def SumsReported : Prop :=
  ∀ balances, targetBalances result keys targetWallet = some balances →
    ∀ hash, ∀ report ∈ (tryParseRaydiumSwap p hash result keys targetWallet ammPool).swapReport,
      report.tokenAmount = some (moved balances.1 balances.2 report.mint)

theorem sumsReported_iff :
    SumsReported p result keys targetWallet ammPool ↔
      ∀ balances, targetBalances result keys targetWallet = some balances →
        ∀ mint, amountOf balances.1 mint ≠ amountOf balances.2 mint →
          LossCancels balances.1 balances.2 mint := by
  unfold SumsReported
  apply forall_congr'
  rintro ⟨pre, post⟩
  apply imp_congr_right
  intro hbalances
  simp only [swapReport_tryParseRaydiumSwap, hbalances, Option.bind_some]
  apply (forall_orders_found_iff ((pre ++ post).map Prod.fst).dedup
    (fun report : SwapReport =>
      report.tokenAmount = some (moved pre post report.mint)) ?_).trans
  · apply forall_congr'
    intro mint
    by_cases hsame : amountOf pre mint = amountOf post mint
    · simp [hsame, movement]
    · simp [hsame, movement_of_ne, reportMove, moved_eq_iff]
  · intro mint hmint
    exact mem_allMints_of_movement .listed (mt Option.map_eq_none_iff.mpr hmint)

end

end CopyEngine

/-! ## The Geyser listener -/

namespace Geyser

section

variable (p : Platform) (ids : ProgramIds) (targetBytes : List UInt8) (sellTx : Bool)
  (slot : Nat) (info : SubscribeUpdateTransactionInfo)

private theorem tokenAmount_swapSignals_iff (dex : DexType) (ammPool : Option String)
    {received spent : ℚ} (mint : String) (pre post : Nat) (good : String → Option Nat → Prop) :
    (∀ signals ∈ swapSignals sellTx slot info dex ammPool received spent mint pre post,
        ∀ signal ∈ signals, good signal.report.mint signal.report.tokenAmount) ↔
      ((pre < post ∧ 0 < spent) ∨ (post < pre ∧ 0 < received ∧ sellTx = true) →
        good mint (some ((post : Int) - pre).natAbs)) := by
  unfold swapSignals
  by_cases hbuy : pre < post ∧ 0 < spent
  · have habs : ((post : Int) - pre).natAbs = post - pre := by omega
    simp [hbuy, Signal.report, habs]
  · by_cases hsell : post < pre ∧ 0 < received
    · have habs : ((post : Int) - pre).natAbs = pre - post := by omega
      cases sellTx <;> simp [hbuy, hsell, Signal.report, habs]
    · have hnone : ¬(post < pre ∧ 0 < received ∧ sellTx = true) :=
        fun h => hsell ⟨h.1, h.2.1⟩
      simp [hbuy, hsell, hnone]

private theorem scan_sums_iff (dex : DexType) (ammPool : Option String) (received spent : ℚ)
    (pre post : List (String × Nat)) :
    (∀ hash : HashOrder, ∀ signal ∈ ((allMints hash pre post).findSome? fun mint =>
        swapSignals sellTx slot info dex ammPool received spent mint (amountOf pre mint)
          (amountOf post mint)).getD [],
        signal.report.tokenAmount = some (moved pre post signal.report.mint)) ↔
      ∀ mint, (amountOf pre mint < amountOf post mint ∧ 0 < spent) ∨
          (amountOf post mint < amountOf pre mint ∧ 0 < received ∧ sellTx = true) →
        LossCancels pre post mint := by
  have hgetD (found : Option (List Signal)) (ok : Signal → Prop) :
      (∀ signal ∈ found.getD [], ok signal) ↔ ∀ signals ∈ found, ∀ signal ∈ signals, ok signal := by
    cases found <;> simp
  simp only [hgetD]
  apply (forall_orders_found_iff ((pre ++ post).map Prod.fst).dedup
    (fun signals : List Signal => ∀ signal ∈ signals,
      signal.report.tokenAmount = some (moved pre post signal.report.mint))
    fun _ => mem_allMints_of_swapSignals .listed).trans
  apply forall_congr'
  intro mint
  rw [tokenAmount_swapSignals_iff sellTx slot info dex ammPool mint _ _
    fun name amount => amount = some (moved pre post name)]
  rw [Option.some.injEq, moved_eq_iff]

/-- Whatever mint comes first, the reported amount is the move over all entries. -/
def SumsReported (keys : List (List UInt8)) (dex : DexType) : Prop :=
  ∀ status, info.meta = some status →
    ∀ hash, ∀ signal ∈ parseRaydiumFromProto p hash ids targetBytes sellTx slot info keys dex,
      signal.report.tokenAmount =
        some (moved (tokenAmounts (encodeBase58 targetBytes) status.preTokenBalances)
          (tokenAmounts (encodeBase58 targetBytes) status.postTokenBalances) signal.report.mint)

private theorem sumsReported_iff (keys : List (List UInt8)) (dex : DexType) :
    SumsReported p ids targetBytes sellTx slot info keys dex ↔
      ∀ status, info.meta = some status → ∀ received spent,
        computeSolDelta p.rounding info keys targetBytes = some (received, spent) →
          (raydiumProgram ids dex).isSome = true →
            let pre := tokenAmounts (encodeBase58 targetBytes) status.preTokenBalances
            let post := tokenAmounts (encodeBase58 targetBytes) status.postTokenBalances
            ∀ mint, (amountOf pre mint < amountOf post mint ∧ 0 < spent) ∨
                (amountOf post mint < amountOf pre mint ∧ 0 < received ∧ sellTx = true) →
              LossCancels pre post mint := by
  unfold SumsReported parseRaydiumFromProto
  apply forall_congr'
  intro status
  apply imp_congr_right
  intro hstatus
  rw [hstatus]
  cases computeSolDelta p.rounding info keys targetBytes with
  | none => simp
  | some delta =>
      obtain ⟨received, spent⟩ := delta
      cases raydiumProgram ids dex with
      | none => simp
      | some program =>
          simpa using scan_sums_iff sellTx slot info dex (extractAmmPool info keys program)
            received spent (tokenAmounts (encodeBase58 targetBytes) status.preTokenBalances)
            (tokenAmounts (encodeBase58 targetBytes) status.postTokenBalances)

end

end Geyser

/-! ## Both listeners -/

/--
The reported amount is the move over all accounts of the mint exactly if, for
every mint that may be reported, what the maps lose of it cancels.
-/
theorem raydium_amount_sums_iff (p : Platform) :
    (∀ (result : Json) (keys : List String) (targetWallet : String) (ammPool : Option String),
      CopyEngine.SumsReported p result keys targetWallet ammPool ↔
        ∀ balances, CopyEngine.targetBalances result keys targetWallet = some balances →
          ∀ mint, amountOf balances.1 mint ≠ amountOf balances.2 mint →
            LossCancels balances.1 balances.2 mint) ∧
      ∀ (ids : Geyser.ProgramIds) (targetBytes : List UInt8) (sellTx : Bool) (slot : Nat)
        (info : Geyser.SubscribeUpdateTransactionInfo) (keys : List (List UInt8))
        (dex : DexType),
        Geyser.SumsReported p ids targetBytes sellTx slot info keys dex ↔
          ∀ status, info.meta = some status → ∀ received spent,
            Geyser.computeSolDelta p.rounding info keys targetBytes = some (received, spent) →
              (Geyser.raydiumProgram ids dex).isSome = true →
                let wallet := encodeBase58 targetBytes
                let pre := Geyser.tokenAmounts wallet status.preTokenBalances
                let post := Geyser.tokenAmounts wallet status.postTokenBalances
                ∀ mint, (amountOf pre mint < amountOf post mint ∧ 0 < spent) ∨
                    (amountOf post mint < amountOf pre mint ∧ 0 < received ∧ sellTx = true) →
                  LossCancels pre post mint :=
  ⟨CopyEngine.sumsReported_iff p, fun ids targetBytes sellTx slot info =>
    Geyser.sumsReported_iff p ids targetBytes sellTx slot info⟩

namespace PairedSwap

def heldTwice : Geyser.TransactionStatusMeta where
  err := none
  preBalances := [1000000000, 0, 0, 0]
  postBalances := [500000000, 0, 0, 0]
  innerInstructions := []
  loadedWritableAddresses := []
  loadedReadonlyAddresses := []
  preTokenBalances :=
    [{ mint := "token", owner := sampleWallet, uiTokenAmount := some "100" },
      { mint := "token", owner := sampleWallet, uiTokenAmount := some "20" }]
  postTokenBalances :=
    [{ mint := "token", owner := sampleWallet, uiTokenAmount := some "150" },
      { mint := "token", owner := sampleWallet, uiTokenAmount := some "30" }]

def heldTwiceMessage : Geyser.TransactionMessage where
  accountKeys := sampleKeys
  instructions := [sampleInstruction]

theorem raydium_amount_of_last_account :
    ¬CopyEngine.SumsReported .plain (swapJson 3 heldTwiceMessage heldTwice)
        (sampleKeys.map encodeBase58) sampleWallet none ∧
      ¬Geyser.SumsReported .plain Geyser.programIds (List.replicate 32 1) true 1
        { signature := [1]
          transaction := some { message := some heldTwiceMessage }
          «meta» := some heldTwice } sampleKeys .raydiumV4 := by
  constructor
  · intro hsums
    have hten := hsums ([("token", 100), ("token", 20)], [("token", 150), ("token", 30)])
      (by decide +kernel) .listed
      { isBuy := true, mint := "token", tokenAmount := some 10, ammPool := none }
      (by decide +kernel)
    exact absurd hten (by decide +kernel)
  · intro hsums
    have hten := hsums heldTwice rfl .listed
      (.buy
        { signature := encodeBase58 [1]
          mint := "token"
          dex := .raydiumV4
          solAmount := some (1 / 2)
          tokenAmount := some 10
          slot := some 1
          ammPool := some (encodeBase58 (List.replicate 32 2))
          targetPumpAccounts := none })
      (by decide +kernel)
    exact absurd hten (by decide +kernel)

end PairedSwap

end Girasol
