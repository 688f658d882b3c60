import Girasol.Foundation.Machine
import Girasol.Foundation.Store

/-!
# Data model

The records that travel between the listeners, the buy tasks, the position
monitor and the sell executor.  Log-only fields (timings, off-chain metadata)
are left out.
-/

namespace Girasol

abbrev Mint := String

inductive DexType where
  | pumpFun
  | pumpFunAmm
  | raydiumV4
  | raydiumCpmm
  | jupiter
  | unknown (id : String)
  deriving DecidableEq, Repr

def DexType.isExecutionSupported : DexType → Bool
  | .pumpFun | .pumpFunAmm | .raydiumV4 | .raydiumCpmm => true
  | .jupiter | .unknown _ => false

structure DetectedBuy where
  signature : String
  mint : Mint
  dex : DexType
  solAmount : Option ℚ
  tokenAmount : Option Nat
  slot : Option Nat
  ammPool : Option String
  targetPumpAccounts : Option (List String)
  deriving DecidableEq, Repr

structure DetectedSell where
  signature : String
  mint : Mint
  dex : DexType
  solReceived : Option ℚ
  tokenAmount : Option Nat
  slot : Option Nat
  ammPool : Option String
  deriving DecidableEq, Repr

/-- An open position, as `positions.json` stores it. -/
structure Holding where
  amount : Nat
  originalAmount : Nat
  buyPrice : ℚ
  buyTime : Int
  highWatermark : Option ℚ := none
  entryLiquiditySol : Option ℚ := none
  decimals : Nat := 6
  buyCostSol : Option ℚ := none
  triggeredTpLevels : List Nat := []
  triggeredSlLevels : List Nat := []
  migrated : Bool := false
  pendingSell : Bool := false
  dex : String := "pumpfun"
  ammPool : Option String := none
  targetBuyTokens : Option Nat := none
  extraPumpAccount : Option String := none
  pumpswapAccounts : Option (List String) := none
  buySignature : Option String := none
  deriving DecidableEq, Repr

def Holding.plain : Holding where
  amount := 100
  originalAmount := 100
  buyPrice := 1
  buyTime := 0
  targetBuyTokens := some 100

def DetectedBuy.plain : DetectedBuy where
  signature := "buy"
  mint := "mint"
  dex := .pumpFun
  solAmount := some 1
  tokenAmount := some 100
  slot := none
  ammPool := none
  targetPumpAccounts := none

def DetectedSell.plain (signature : String) (tokenAmount : Nat) : DetectedSell where
  signature := signature
  mint := "mint"
  dex := .pumpFun
  solReceived := none
  tokenAmount := some tokenAmount
  slot := none
  ammPool := none

inductive SellReason where
  | takeProfit (pnlPercent : ℚ)
  | stopLoss (pnlPercent : ℚ)
  | trailingStop (dropPercent : ℚ)
  | rugDetected (dropPercent : ℚ)
  | mirrorSell
  deriving DecidableEq, Repr

structure SellOrder where
  mint : Mint
  amount : Nat
  currentPrice : ℚ
  decimals : Nat
  reason : SellReason
  levelIndex : Nat
  isFinal : Bool
  dex : String
  ammPool : Option String
  extraPumpAccount : Option String
  pumpswapAccounts : Option (List String)
  deriving DecidableEq, Repr

def SellOrder.ofHolding (mint : Mint) (h : Holding) (amount : Nat)
    (currentPrice : ℚ) (reason : SellReason) (levelIndex : Nat)
    (isFinal : Bool) : SellOrder where
  mint := mint
  amount := amount
  currentPrice := currentPrice
  decimals := h.decimals
  reason := reason
  levelIndex := levelIndex
  isFinal := isFinal
  dex := h.dex
  ammPool := h.ammPool
  extraPumpAccount := h.extraPumpAccount
  pumpswapAccounts := h.pumpswapAccounts

inductive Level where
  | takeProfit (index : Nat)
  | stopLoss (index : Nat)
  deriving DecidableEq, Repr

def SellOrder.level (o : SellOrder) : Option Level :=
  match o.reason with
  | .takeProfit _ => some (.takeProfit o.levelIndex)
  | .stopLoss _ => some (.stopLoss o.levelIndex)
  | _ => none

def Holding.marked (h : Holding) : Level → Prop
  | .takeProfit i => i ∈ h.triggeredTpLevels
  | .stopLoss i => i ∈ h.triggeredSlLevels

abbrev Positions := Foundation.Store Mint Holding

/-- An order in which a hash set may be iterated. -/
structure HashOrder where
  order : List String → List String
  perm : ∀ items, (order items).Perm items

def HashOrder.listed : HashOrder := ⟨id, fun _ => .rfl⟩

end Girasol
