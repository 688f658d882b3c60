import Girasol.Bot.State

/-!
# Steps of the running bot

One function per event, each a lock section or channel operation of the source
with the local computation around it.  A step that is not possible in a state
returns `none`.
-/

namespace Girasol

open Foundation

variable {p : Platform}

def Positions.snapshot (order : List Mint) (positions : Positions) : List (Mint × Holding) :=
  order.filterMap fun mint => (positions.lookup mint).map fun h => (mint, h)

namespace Monitor

def proceed (cfg : ValidSettings p) : List (Mint × Holding) → Monitor p
  | [] => .idle
  | entry :: rest => .ticking cfg (entry :: rest)

def emit (cfg : ValidSettings p) (rest : List (Mint × Holding)) : List SellOrder → Monitor p
  | [] => proceed cfg rest
  | order :: later => .sending cfg order later rest

end Monitor

def signalsMigration (text : String) : Bool :=
  ["complete", "migrated", "reserves", "not found", "no data"].any (containsText text)

def mirrorAmount (r : Rounding) (sell : DetectedSell) (h : Holding) : Nat :=
  match sell.tokenAmount, h.targetBuyTokens with
  | some targetSold, some targetBought =>
      if 0 < targetBought then
        let ratio := min (r.div (r.ofU64 targetSold) (r.ofU64 targetBought)) 1
        let amount := asU64 (r.mul (r.ofU64 h.amount) ratio)
        min (max amount 1) h.amount
      else h.amount
  | _, _ => h.amount

def mirrorOrder (r : Rounding) (sell : DetectedSell) (h : Holding) : SellOrder :=
  let amount := mirrorAmount r sell h
  .ofHolding sell.mint h amount h.buyPrice .mirrorSell 0 (h.amount ≤ amount)

def Positions.noteLiquidity (mint : Mint) (h : Holding) (liquidity : Option ℚ)
    (positions : Positions) : Positions :=
  match h.entryLiquiditySol, liquidity with
  | none, some current => positions.setEntryLiquidity mint current
  | _, _ => positions

def Positions.settle (order : SellOrder) (outcome : SellOutcome)
    (positions : Positions) : Positions :=
  match outcome with
  | .executed => positions.updateAfterSell order.mint order.amount order.reason order.levelIndex
  | .failed => positions.clearPendingSell order.mint
  | .skipped => positions

namespace Bot

/-! ## Settings and listeners -/

def reload (s : Bot p) (cfg : ValidSettings p) : Option (Bot p) :=
  some { s with settings := cfg }

def listenerSell (s : Bot p) (sell : DetectedSell) : Option (Bot p) :=
  if s.mirrorOpen ∧ s.mirrorSells.length < channelCapacity then
    some { s with mirrorSells := s.mirrorSells ++ [MirrorSell.mk sell s.buys.length] }
  else none

/-! ## The main loop -/

def seenSigTtl : Nat := 120 * 10 ^ 9

def cleanSeenSigs (now counter : Nat) (seen : Store String Nat) : Store String Nat × Nat :=
  if 100 < counter then
    (Store.eraseIf (fun sig =>
      match seen.lookup sig with
      | some seenAt => seenSigTtl ≤ now - seenAt
      | none => false) seen.keys seen, 0)
  else (seen, counter)

def detectBuy (s : Bot p) (detected : DetectedBuy) (now : Nat) : Option (Bot p) :=
  match s.main with
  | .selecting _ =>
      let seen := AList.insert detected.signature now s.seenSigs
      let entered := MainLoop.selecting s.settings.val.mirrorSells
      if (s.seenSigs.lookup detected.signature).isSome then
        some { s with seenSigs := seen, main := entered }
      else
        let (kept, counter) := cleanSeenSigs now (s.seenSigsCleanupCounter + 1) seen
        some { s with
          seenSigs := kept
          seenSigsCleanupCounter := counter
          buys := s.buys ++ [BuyTask.mk detected .spawned]
          main := entered }
  | _ => none

def mirrorRecv (s : Bot p) : Option (Bot p) :=
  match s.main, s.mirrorSells with
  | .selecting true, mirror :: rest =>
      some { s with mirrorSells := rest, main := .gotSell mirror }
  | _, _ => none

/-- The arm is done with a sell; `select!` is entered again. -/
def mirrorDone (s : Bot p) (mirror : MirrorSell) (queued : Bool) : Bot p :=
  { s with
    main := .selecting s.settings.val.mirrorSells
    log := .mirrorHandled mirror queued :: s.log }

def mirrorCheck (s : Bot p) : Option (Bot p) :=
  match s.main with
  | .gotSell mirror =>
      if s.positions.hasPosition mirror.sell.mint then
        some { s with main := .holdsMint mirror }
      else some (s.mirrorDone mirror false)
  | _ => none

def mirrorLoad (s : Bot p) : Option (Bot p) :=
  match s.main with
  | .holdsMint mirror =>
      match s.positions.lookup mirror.sell.mint with
      | some h =>
          some { s with
            main := .sendingOrder mirror (mirrorOrder p.rounding mirror.sell h) }
      | none => some (s.mirrorDone mirror false)
  | _ => none

def mirrorSend (s : Bot p) : Option (Bot p) :=
  match s.main with
  | .sendingOrder mirror order =>
      if s.orders.length < channelCapacity then
        let sent :=
          { s with orders := s.orders ++ [QueuedOrder.mk order (some mirror.sell.signature)] }
        some (sent.mirrorDone mirror true)
      else none
  | _ => none

/-! ## Buy tasks -/

def setPhase (s : Bot p) (task : Nat) (phase : BuyPhase p) : Bot p :=
  { s with buys := s.buys.modify task fun t => { t with phase := phase } }

def buyConfigure (s : Bot p) (task : Nat) : Option (Bot p) :=
  match s.buys[task]? with
  | some ⟨_, .spawned⟩ => some (s.setPhase task (.configured s.settings))
  | _ => none

/-- `try_acquire_buy`: the check and the reservation under one mutex. -/
def buyAcquire (s : Bot p) (task : Nat) : Option (Bot p) :=
  match s.buys[task]? with
  | some ⟨detected, .configured cfg⟩ =>
      if s.positions.hasPosition detected.mint && !cfg.val.allowAccumulate then
        some (s.setPhase task (.done false))
      else if s.pendingBuys.contains detected.mint then
        some (s.setPhase task (.done false))
      else
        some { s.setPhase task (.acquired cfg) with
          pendingBuys := detected.mint :: s.pendingBuys }
  | _ => none

def buyLook (s : Bot p) (task : Nat) : Option (Bot p) :=
  match s.buys[task]? with
  | some ⟨detected, .acquired cfg⟩ =>
      if s.positions.hasPosition detected.mint then
        some (s.setPhase task (.buying true))
      else some (s.setPhase task (.counting cfg))
  | _ => none

def buyCount (s : Bot p) (task : Nat) : Option (Bot p) :=
  match s.buys[task]? with
  | some ⟨_, .counting cfg⟩ =>
      if cfg.val.maxHoldedCoins ≤ s.positions.keys.length then
        some (s.setPhase task (.releasing false))
      else some (s.setPhase task (.buying false))
  | _ => none

def buyResult (s : Bot p) (task : Nat) (outcome : BuyOutcome) : Option (Bot p) :=
  match s.buys[task]? with
  | some ⟨_, .buying alreadyHolding⟩ =>
      match outcome with
      | .skipped | .failed => some (s.setPhase task (.releasing false))
      | .bought result => some (s.setPhase task (.registering alreadyHolding result))
  | _ => none

def registered (detected : DetectedBuy) (result : Bought) : Holding :=
  { result.holding with
    targetBuyTokens := result.holding.targetBuyTokens <|> detected.tokenAmount }

def buyRegister (s : Bot p) (task : Nat) : Option (Bot p) :=
  match s.buys[task]? with
  | some ⟨detected, .registering true result⟩ =>
      let h := result.holding
      let positions := s.positions.accumulatePosition p.rounding detected.mint
        h.amount h.buyPrice h.buyCostSol
      some { s.setPhase task (.releasing true) with
        positions := positions
        disk := positions
        log := .accumulated detected.mint :: s.log }
  | some ⟨detected, .registering false result⟩ =>
      some { s.setPhase task .persisting with
        positions := s.positions.addPosition detected.mint (registered detected result)
        log := .opened detected.mint :: s.log }
  | _ => none

def buyPersist (s : Bot p) (task : Nat) : Option (Bot p) :=
  match s.buys[task]? with
  | some ⟨_, .persisting⟩ =>
      some { s.setPhase task (.releasing true) with disk := s.positions }
  | _ => none

def buyRelease (s : Bot p) (task : Nat) : Option (Bot p) :=
  match s.buys[task]? with
  | some ⟨detected, .releasing registered⟩ =>
      some { s.setPhase task (.done registered) with
        pendingBuys := s.pendingBuys.erase detected.mint }
  | _ => none

/-! ## The position monitor -/

def tickStart (s : Bot p) (order : List Mint) : Option (Bot p) :=
  match s.monitor with
  | .idle =>
      if order.Perm s.positions.keys then
        let watched := (s.positions.snapshot order).filter fun (_, h) =>
          !h.migrated && !h.pendingSell
        some { s with monitor := .proceed s.settings watched }
      else none
  | _ => none

def tickPrice (s : Bot p) (reading : PriceReading) (now : Int) : Option (Bot p) :=
  match s.monitor with
  | .ticking cfg ((mint, h) :: rest) =>
      match reading with
      | .error text =>
          some { s with
            positions :=
              if signalsMigration text then s.positions.markMigrated mint else s.positions
            monitor := .proceed cfg rest }
      | .price price =>
          if price ≤ 0 then
            some { s with
              positions := s.positions.markMigrated mint
              monitor := .proceed cfg rest }
          else if h.buyPrice ≤ 0 then some { s with monitor := .proceed cfg rest }
          else
            let marked := { s with
              positions := s.positions.setHighWatermark mint (h.watermarkAt price) }
            match trailingStopOrder p.rounding cfg.val mint h price with
            | some order => some { marked with monitor := .sending cfg order [] rest }
            | none =>
                if rugDetectorWatches cfg.val h now then
                  some { marked with monitor := .probing cfg mint h price rest }
                else
                  some { marked with
                    monitor := .emit cfg rest (levelOrders p.rounding cfg.val mint h price) }
  | _ => none

def tickCurve (s : Bot p) (liquidity : Option ℚ) : Option (Bot p) :=
  match s.monitor with
  | .probing cfg mint h price rest =>
      let positions := s.positions.noteLiquidity mint h liquidity
      match rugOrder p.rounding cfg.val mint h price liquidity with
      | some order =>
          some { s with positions := positions, monitor := .sending cfg order [] rest }
      | none =>
          some { s with
            positions := positions
            monitor := .emit cfg rest (levelOrders p.rounding cfg.val mint h price) }
  | _ => none

def tickSend (s : Bot p) : Option (Bot p) :=
  match s.monitor with
  | .sending cfg order later rest =>
      if s.orders.length < channelCapacity then
        some { s with
          orders := s.orders ++ [QueuedOrder.mk order none]
          monitor := .marking cfg order.mint later rest }
      else none
  | _ => none

def tickMark (s : Bot p) : Option (Bot p) :=
  match s.monitor with
  | .marking cfg mint later rest =>
      some { s with
        positions := s.positions.setPendingSell mint
        monitor := .emit cfg rest later }
  | _ => none

/-! ## The validations -/

def revalidateStart (s : Bot p) (order : List Mint) : Option (Bot p) :=
  match s.monitor with
  | .idle =>
      if s.hasPayer ∧ order.Perm s.positions.keys then
        if order = [] then some s
        else
          let checked := (s.positions.snapshot order).filter fun (_, h) => !h.pendingSell
          some { s with monitor := .revalidating s.settings (checked.map Prod.fst) }
      else none
  | _ => none

def applyCheck (cfg : Settings) (check : TokenCheck) (mint : Mint)
    (s : Bot p) : Bot p :=
  { s with
    positions :=
      if check.removes p cfg then s.positions.removePosition mint else s.positions }

def revalidateCheck (s : Bot p) (check : TokenCheck) : Option (Bot p) :=
  match s.monitor with
  | .revalidating cfg (mint :: rest) =>
      some { s.applyCheck cfg.val check mint with monitor := .revalidating cfg rest }
  | _ => none

def revalidateEnd (s : Bot p) : Option (Bot p) :=
  match s.monitor with
  | .revalidating _ [] => some { s with disk := s.positions, monitor := .idle }
  | _ => none

def validateStart (s : Bot p) (order : List Mint) : Option (Bot p) :=
  match s.validation with
  | .waiting =>
      if order.Perm s.positions.keys then
        some { s with validation := if order = [] then .done else .checking order }
      else none
  | _ => none

def validateCheck (s : Bot p) (check : TokenCheck) : Option (Bot p) :=
  match s.validation with
  | .checking (mint :: rest) =>
      some { s.applyCheck s.settings.val check mint with validation := .checking rest }
  | _ => none

def validateEnd (s : Bot p) : Option (Bot p) :=
  match s.validation with
  | .checking [] => some { s with disk := s.positions, validation := .done }
  | _ => none

/-! ## The sell executor -/

def execRecv (s : Bot p) : Option (Bot p) :=
  match s.executor, s.orders with
  | .idle, queued :: rest => some { s with orders := rest, executor := .checking queued }
  | _, _ => none

def execCheck (s : Bot p) : Option (Bot p) :=
  match s.executor with
  | .checking queued =>
      if s.positions.hasPosition queued.order.mint then
        some { s with executor := .selling queued, log := .started queued :: s.log }
      else some { s with executor := .idle }
  | _ => none

def execFinish (s : Bot p) (outcome : SellOutcome) : Option (Bot p) :=
  match s.executor with
  | .selling queued =>
      let positions := s.positions.settle queued.order outcome
      some { s with
        positions := positions
        disk := if outcome = .executed then positions else s.disk
        executor := .idle
        log := .finished queued outcome :: s.log }
  | _ => none

/-! ## The transition function -/

def step (s : Bot p) : Event p → Option (Bot p)
  | .reload cfg => s.reload cfg
  | .listenerSell sell => s.listenerSell sell
  | .detectBuy detected now => s.detectBuy detected now
  | .mirrorRecv => s.mirrorRecv
  | .mirrorCheck => s.mirrorCheck
  | .mirrorLoad => s.mirrorLoad
  | .mirrorSend => s.mirrorSend
  | .buyConfigure task => s.buyConfigure task
  | .buyAcquire task => s.buyAcquire task
  | .buyLook task => s.buyLook task
  | .buyCount task => s.buyCount task
  | .buyResult task outcome => s.buyResult task outcome
  | .buyRegister task => s.buyRegister task
  | .buyPersist task => s.buyPersist task
  | .buyRelease task => s.buyRelease task
  | .tickStart order => s.tickStart order
  | .tickPrice reading now => s.tickPrice reading now
  | .tickCurve liquidity => s.tickCurve liquidity
  | .tickSend => s.tickSend
  | .tickMark => s.tickMark
  | .revalidateStart order => s.revalidateStart order
  | .revalidateCheck check => s.revalidateCheck check
  | .revalidateEnd => s.revalidateEnd
  | .validateStart order => s.validateStart order
  | .validateCheck check => s.validateCheck check
  | .validateEnd => s.validateEnd
  | .execRecv => s.execRecv
  | .execCheck => s.execCheck
  | .execFinish outcome => s.execFinish outcome

/-! ## A small instance -/

def plain : Bot .plain := start .plain false .single

def mirrorSell (signature : String) (tokenAmount : Nat) : List (Event .plain) :=
  [.listenerSell (.plain signature tokenAmount), .mirrorRecv, .mirrorCheck, .mirrorLoad,
    .mirrorSend]

def executeOne : List (Event .plain) := [.execRecv, .execCheck, .execFinish .executed]

end Bot

end Girasol
