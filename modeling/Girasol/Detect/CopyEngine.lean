import Girasol.Detect.Signal
import Girasol.Foundation.Json
import Girasol.Settings

/-!
# The WebSocket listener

A log notification that looks like a trade makes the copy engine fetch the whole
transaction as JSON and parse its instructions, top-level and inner.
-/

namespace Girasol.CopyEngine

open Foundation

structure ParsedBuy where
  mint : String
  solAmount : Option ℚ
  tokenAmount : Option Nat
  ammPool : Option String
  targetPumpAccounts : Option (List String)
  deriving DecidableEq, Repr

structure ParsedSell where
  mint : String
  tokenAmount : Option Nat
  solReceived : Option ℚ
  ammPool : Option String
  deriving DecidableEq, Repr

structure PumpSwapAccounts where
  accounts : List String
  pool : String
  baseMint : String
  quoteMint : String
  tokenAmount : Nat
  solAmount : Nat
  deriving DecidableEq, Repr

structure LogsNotification where
  signature : String
  slot : Option Nat
  err : Option Json
  logs : List String

/-! ## Notifications -/

def path (keys : List String) (v : Json) : Option Json := keys.foldlM Json.get? v

def strings (items : List Json) : List String := items.filterMap Json.asStr

def parseLogsNotification (value : Json) : Option LogsNotification := do
  let notif ← path ["params", "result", "value"] value
  let signature := ((notif.get? "signature").bind Json.asStr).getD ""
  if signature.isEmpty then none
  else return {
    signature := signature
    slot := (path ["params", "result", "context", "slot"] value).bind Json.asU64
    err := (notif.get? "err").filter fun err => !err.isNull
    logs := (((notif.get? "logs").bind Json.asArray).map strings).getD [] }

def mentionsBuy (log : String) : Bool :=
  containsText log "Instruction: Buy" || containsText log "Instruction: buy"

def mentionsSell (log : String) : Bool :=
  containsText log "Instruction: Sell" || containsText log "Instruction: sell"

def dexOfLog (log : String) : Option DexType :=
  if containsText log pumpFunProgram && mentionsBuy log then some .pumpFun
  else if containsText log pumpFunAmm then some .pumpFunAmm
  else if containsText log raydiumV4 then some .raydiumV4
  else if containsText log raydiumCpmm then some .raydiumCpmm
  else if containsText log jupiterV6 then some .jupiter
  else none

def detectDex (logs : List String) : DexType :=
  match logs.findSome? dexOfLog with
  | some dex => dex
  | none =>
      if logs.any fun log => containsText log pumpFunProgram then .pumpFun
      else .unknown "none"

def isPotentialTrade (dex : DexType) (logs : List String) : Bool :=
  match dex with
  | .pumpFun => logs.any fun log => mentionsBuy log || mentionsSell log
  | .pumpFunAmm | .raydiumV4 | .raydiumCpmm | .jupiter => true
  | .unknown _ => false

def accepted (notif : LogsNotification) : Bool :=
  let dex := detectDex notif.logs
  notif.err.isNone && isPotentialTrade dex notif.logs && dex != .jupiter

/-! ## Fetching -/

inductive HttpReply where
  | sendFailed (error : String)
  | tooManyRequests
  | badBody (error : String)
  | body (json : Json)

section

variable (render : Json → String)

def transactionResult : HttpReply → Except String Json
  | .sendFailed e => .error e
  | .tooManyRequests => .error "429 Too many requests"
  | .badBody e => .error e
  | .body json =>
      match json.get? "error" with
      | some err => .error ("RPC error: " ++ render err)
      | none =>
          match json.get? "result" with
          | some result =>
              if result.isNull then .error "Transaction not found (null result)" else .ok result
          | none => .error "Transaction not found (null result)"

def isRateLimit (e : String) : Bool :=
  containsText e "429" || containsText e "Too many requests" ||
    containsText e "too many requests" || containsText e "rate limit"

def fetchWithRetry : List HttpReply → Except String Json
  | [] => .error "Retry exhausted"
  | [reply] => transactionResult render reply
  | reply :: rest =>
      match transactionResult render reply with
      | .ok result => .ok result
      | .error e => if isRateLimit e then fetchWithRetry rest else .error e

end

/-! ## Instructions -/

def extractAccountKeys (result : Json) : List String :=
  let listed (keys : List Json) : List String := keys.filterMap fun key =>
    key.asStr.or ((key.get? "pubkey").bind Json.asStr)
  let loaded (field : String) : List String :=
    (((path ["meta", "loadedAddresses", field] result).bind Json.asArray).map strings).getD []
  (((path ["transaction", "message", "accountKeys"] result).bind Json.asArray).map listed).getD
    [] ++ loaded "writable" ++ loaded "readonly"

def computeSolDelta (r : Rounding) (result : Json) (keys : List String)
    (targetWallet : String) : Option (ℚ × ℚ) := do
  let targetIdx ← keys.idxOf? targetWallet
  let preBalances ← (path ["meta", "preBalances"] result).bind Json.asArray
  let postBalances ← (path ["meta", "postBalances"] result).bind Json.asArray
  let pre ← (← preBalances[targetIdx]?).asU64
  let post ← (← postBalances[targetIdx]?).asU64
  return solDelta r pre post

def allInstructions (result : Json) : List Json :=
  ((path ["transaction", "message", "instructions"] result).bind Json.asArray).getD [] ++
    (((path ["meta", "innerInstructions"] result).bind Json.asArray).getD []).flatMap fun group =>
      ((group.get? "instructions").bind Json.asArray).getD []

def programIdIndex (instr : Json) : Nat :=
  ((instr.get? "programIdIndex").bind Json.asU64).getD u64Max

def accountIndices (instr : Json) : List Nat :=
  (((instr.get? "accounts").bind Json.asArray).getD []).filterMap Json.asU64

def accountKey (keys : List String) (index : Nat) (instr : Json) : Option String :=
  (accountIndices instr)[index]?.bind fun i => keys[i]?

section

variable (p : Platform) (keys : List String)

def pumpInstruction (discriminator : List UInt8) (pumpIdx : Nat) (instr : Json) :
    Option (List UInt8 × String) := do
  if programIdIndex instr != pumpIdx then none
  else
    let dataStr ← (instr.get? "data").bind Json.asStr
    let data ← decodeBase58 dataStr
    if !hasDiscriminator discriminator data then none
    else
      let mint ← accountKey keys 2 instr
      let _ ← (p.parsePubkey mint).toOption
      return (data, mint)

def tryParsePumpBuyInstruction (pumpIdx : Nat) (instr : Json) : Option ParsedBuy :=
  (pumpInstruction p keys buyDiscriminator pumpIdx instr).map fun (data, mint) =>
    { mint := mint
      solAmount := (u64At 16 data).map (lamportsToSol p.rounding)
      tokenAmount := u64At 8 data
      ammPool := none
      targetPumpAccounts :=
        atLeast 17 ((accountIndices instr).filterMap fun i => keys[i]?) }

def tryParsePumpSellInstruction (pumpIdx : Nat) (instr : Json) : Option ParsedSell :=
  (pumpInstruction p keys sellDiscriminator pumpIdx instr).map fun (data, mint) =>
    { mint := mint
      tokenAmount := u64At 8 data
      solReceived := none
      ammPool := none }

def pumpswapData (dataStr : String) : Option (List UInt8) :=
  ((decodeBase64 dataStr).filter fun data => 24 ≤ data.length).or (decodeBase58 dataStr)

def parsePumpswapInstruction (pumpswapIdx : Nat) (instr : Json) :
    Option (Bool × PumpSwapAccounts) := do
  let programIdIdx ← (instr.get? "programIdIndex").bind Json.asU64
  if programIdIdx != pumpswapIdx then none
  else
    let data ← ((instr.get? "data").bind Json.asStr).bind pumpswapData
    let isBuy := hasDiscriminator buyDiscriminator data
    let isSell := hasDiscriminator sellDiscriminator data
    let amount1 ← u64At 8 data
    let amount2 ← u64At 16 data
    if !isBuy && !isSell then none
    else
      let _ ← atLeast 17 (accountIndices instr)
      let accounts ← atLeast 17 ((accountIndices instr).filterMap fun i => keys[i]?)
      let pool ← accountKey keys 0 instr
      let baseMint ← accountKey keys 3 instr
      let quoteMint ← accountKey keys 4 instr
      return (isBuy, ⟨accounts, pool, baseMint, quoteMint, amount1, amount2⟩)

end

/-! ## Transactions -/

structure Found (α : Type) where
  parsed : α
  trader : Option String
  deriving DecidableEq, Repr

structure ParsedTransaction where
  buy : Option (Found ParsedBuy)
  sell : Option (Found ParsedSell)
  deriving DecidableEq, Repr

section

variable (p : Platform) (result : Json) (keys : List String) (targetWallet : String)

def withSpent (parsed : ParsedBuy) : ParsedBuy :=
  match computeSolDelta p.rounding result keys targetWallet with
  | some (_, spent) => if 0 < spent then { parsed with solAmount := some spent } else parsed
  | none => parsed

def withReceived (parsed : ParsedSell) : ParsedSell :=
  match computeSolDelta p.rounding result keys targetWallet with
  | some (received, _) =>
      if 0 < received then { parsed with solReceived := some received } else parsed
  | none => parsed

def parsePump : ParsedTransaction :=
  match keys.idxOf? pumpFunProgram with
  | none => ⟨none, none⟩
  | some pumpIdx =>
      let found := scanBoth (tryParsePumpBuyInstruction p keys pumpIdx)
        (tryParsePumpSellInstruction p keys pumpIdx) none none (allInstructions result)
      { buy := found.1.map fun (instr, parsed) =>
          ⟨withSpent p result keys targetWallet parsed, accountKey keys pumpFunUser instr⟩
        sell := found.2.map fun (instr, parsed) =>
          ⟨withReceived p result keys targetWallet parsed, accountKey keys pumpFunUser instr⟩ }

def pumpswapTrade (instr : Json) (isBuy : Bool) (parsed : PumpSwapAccounts) :
    ParsedTransaction :=
  let delta := computeSolDelta p.rounding result keys targetWallet
  let trader := accountKey keys pumpSwapUser instr
  if isBuy then
    let spent := (delta.map Prod.snd).filter fun spent => 0 < spent
    { buy := some
        { parsed :=
            { mint := parsed.baseMint
              solAmount := spent.or
                (if 0 < parsed.solAmount then some (lamportsToSol p.rounding parsed.solAmount)
                  else none)
              tokenAmount := some parsed.tokenAmount
              ammPool := some parsed.pool
              targetPumpAccounts := atLeast 17 parsed.accounts }
          trader := trader }
      sell := none }
  else
    { buy := none
      sell := some
        { parsed :=
            { mint := parsed.baseMint
              tokenAmount := some parsed.tokenAmount
              solReceived := (delta.map Prod.fst).filter fun received => 0 < received
              ammPool := some parsed.pool }
          trader := trader } }

def parsePumpswap : ParsedTransaction :=
  match keys.idxOf? pumpFunAmm with
  | none => ⟨none, none⟩
  | some ammIdx =>
      match firstHit (parsePumpswapInstruction keys ammIdx) (allInstructions result) with
      | some (instr, isBuy, parsed) =>
          pumpswapTrade p result keys targetWallet instr isBuy parsed
      | none => ⟨none, none⟩

def parseTrades : ParsedTransaction :=
  let pump := parsePump p result keys targetWallet
  if pump.buy.isNone && pump.sell.isNone then parsePumpswap p result keys targetWallet
  else pump

end

/-! ## Signals -/

section

variable (p : Platform) (targetWallet : String) (sellDetect : Bool)

def signals (notif : LogsNotification) (trades : ParsedTransaction) : List (Emission String) :=
  let dex := detectDex notif.logs
  (trades.buy.toList.map fun found =>
    { signal := .buy
        { signature := notif.signature
          mint := found.parsed.mint
          dex := dex
          solAmount := found.parsed.solAmount
          tokenAmount := found.parsed.tokenAmount
          slot := notif.slot
          ammPool := found.parsed.ammPool
          targetPumpAccounts := found.parsed.targetPumpAccounts }
      trader := found.trader }) ++
  if sellDetect then
    trades.sell.toList.map fun found =>
      { signal := .sell
          { signature := notif.signature
            mint := found.parsed.mint
            dex := dex
            solReceived := found.parsed.solReceived
            tokenAmount := found.parsed.tokenAmount
            slot := notif.slot
            ammPool := found.parsed.ammPool }
        trader := found.trader }
  else []

def fetched (render : Json → String) (replies : List HttpReply) : Option (Json × List String) :=
  match fetchWithRetry render replies with
  | .error _ => none
  | .ok result =>
      let keys := extractAccountKeys result
      if keys.isEmpty then none else some (result, keys)

/--
The pump.fun and PumpSwap signals for one WebSocket message.  The Raydium
parser, which reads the token balances of the target, runs when there are none.
-/
def handleMessage (render : Json → String) (message : Json) (replies : List HttpReply) :
    List (Emission String) :=
  match parseLogsNotification message with
  | none => []
  | some notif =>
      if accepted notif then
        match fetched render replies with
        | some (result, keys) =>
            signals sellDetect notif (parseTrades p result keys targetWallet)
        | none => []
      else []

end

end Girasol.CopyEngine
