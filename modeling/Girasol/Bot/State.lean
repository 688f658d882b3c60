import Girasol.PositionMonitor.Tick
import Girasol.PositionMonitor.Validation

/-!
# State of the running bot

One state holds what the concurrent tasks share (settings, positions, channels)
and where each task stands between two of its `await` points: the position
monitor, the sell executor, the main loop, the buy tasks and the startup
validation.  The `log` is for the statements only; no step reads it.
-/

namespace Girasol

open Foundation

def channelCapacity : Nat := 100

/-- An order in the channel; a mirror order carries the signature it answers to. -/
structure QueuedOrder where
  order : SellOrder
  signature : Option String
  deriving DecidableEq

inductive SellOutcome where
  | executed
  | failed
  | skipped
  deriving DecidableEq

/-! ## The tasks -/

/-- The monitor: idle, inside a tick, or inside a revalidation. -/
inductive Monitor (p : Platform) where
  | idle
  | ticking (cfg : ValidSettings p) (rest : List (Mint × Holding))
  | probing (cfg : ValidSettings p) (mint : Mint) (h : Holding) (price : ℚ)
      (rest : List (Mint × Holding))
  | sending (cfg : ValidSettings p) (order : SellOrder) (later : List SellOrder)
      (rest : List (Mint × Holding))
  | marking (cfg : ValidSettings p) (mint : Mint) (later : List SellOrder)
      (rest : List (Mint × Holding))
  | revalidating (cfg : ValidSettings p) (rest : List Mint)

inductive Executor where
  | idle
  | checking (queued : QueuedOrder)
  | selling (queued : QueuedOrder)
  deriving DecidableEq

/--
A detected sell in the mirror-sell channel, with the number of buy tasks that
had been dispatched when it was detected.
-/
structure MirrorSell where
  sell : DetectedSell
  dispatched : Nat
  deriving DecidableEq

/-- The main loop; `armed` is the guard of the mirror-sell arm when `select!` was entered. -/
inductive MainLoop where
  | selecting (armed : Bool)
  | gotSell (mirror : MirrorSell)
  | holdsMint (mirror : MirrorSell)
  | sendingOrder (mirror : MirrorSell) (order : SellOrder)
  deriving DecidableEq

structure Bought where
  holding : Holding
  amount_eq : holding.amount = holding.originalAmount
  untouched : holding.triggeredTpLevels = [] ∧ holding.triggeredSlLevels = [] ∧
    holding.migrated = false ∧ holding.pendingSell = false

def Bought.plain : Bought := ⟨.plain, rfl, ⟨rfl, rfl, rfl, rfl⟩⟩

inductive BuyOutcome where
  | skipped
  | failed
  | bought (result : Bought)

inductive BuyPhase (p : Platform) where
  | spawned
  | configured (cfg : ValidSettings p)
  | acquired (cfg : ValidSettings p)
  | counting (cfg : ValidSettings p)
  | buying (alreadyHolding : Bool)
  | registering (alreadyHolding : Bool) (result : Bought)
  | persisting
  | releasing (registered : Bool)
  | done (registered : Bool)

structure BuyTask (p : Platform) where
  detected : DetectedBuy
  phase : BuyPhase p

inductive StartupValidation where
  | waiting
  | checking (rest : List Mint)
  | done
  deriving DecidableEq

/-! ## History -/

inductive LogEntry where
  | opened (mint : Mint)
  | accumulated (mint : Mint)
  | mirrorHandled (mirror : MirrorSell) (queued : Bool)
  | started (queued : QueuedOrder)
  | finished (queued : QueuedOrder) (outcome : SellOutcome)
  deriving DecidableEq

/-! ## The bot -/

structure Bot (p : Platform) where
  settings : ValidSettings p
  hasPayer : Bool
  positions : Positions
  disk : Positions
  pendingBuys : List Mint
  seenSigs : Store String Nat
  seenSigsCleanupCounter : Nat
  orders : List QueuedOrder
  mirrorOpen : Bool
  mirrorSells : List MirrorSell
  monitor : Monitor p
  executor : Executor
  main : MainLoop
  buys : List (BuyTask p)
  validation : StartupValidation
  log : List LogEntry

namespace Bot

variable {p : Platform}

/-- The bot right after startup, with the positions loaded from disk. -/
def start (settings : ValidSettings p) (hasPayer : Bool) (loaded : Positions) : Bot p where
  settings := settings
  hasPayer := hasPayer
  positions := loaded
  disk := loaded
  pendingBuys := []
  seenSigs := ∅
  seenSigsCleanupCounter := 0
  orders := []
  mirrorOpen := settings.val.mirrorSells
  mirrorSells := []
  monitor := .idle
  executor := .idle
  main := .selecting settings.val.mirrorSells
  buys := []
  validation := if hasPayer then .waiting else .done
  log := []

end Bot

inductive PriceReading where
  | price (value : ℚ)
  | error (text : String)
  deriving DecidableEq

/-- One step of one task, with what the environment decides in it. -/
inductive Event (p : Platform) where
  | reload (cfg : ValidSettings p)
  | listenerSell (sell : DetectedSell)
  | detectBuy (detected : DetectedBuy) (now : Nat)
  | mirrorRecv
  | mirrorCheck
  | mirrorLoad
  | mirrorSend
  | buyConfigure (task : Nat)
  | buyAcquire (task : Nat)
  | buyLook (task : Nat)
  | buyCount (task : Nat)
  | buyResult (task : Nat) (outcome : BuyOutcome)
  | buyRegister (task : Nat)
  | buyPersist (task : Nat)
  | buyRelease (task : Nat)
  | tickStart (order : List Mint)
  | tickPrice (reading : PriceReading) (now : Int)
  | tickCurve (liquidity : Option ℚ)
  | tickSend
  | tickMark
  | revalidateStart (order : List Mint)
  | revalidateCheck (check : TokenCheck)
  | revalidateEnd
  | validateStart (order : List Mint)
  | validateCheck (check : TokenCheck)
  | validateEnd
  | execRecv
  | execCheck
  | execFinish (outcome : SellOutcome)

end Girasol
