import Girasol.Detect.CopyEngine
import Girasol.Detect.Geyser
import Girasol.Foundation.Text

/-!
# Raydium swaps

Raydium swaps have no discriminator.  Both listeners read the direction, the
mint and the amount from the token balances of the target before and after.
-/

namespace Girasol

open Foundation

def wsolMint : String := "So11111111111111111111111111111111111111112"

def parseAmount (text : Option String) : Nat :=
  (text.bind fun text => (parseUnsigned (2 ^ 64) text).toOption).getD 0

/-- What a map holds for a mint after these insertions. -/
def amountOf (entries : List (String × Nat)) (mint : String) : Nat :=
  (entries.reverse.lookup mint).getD 0

def allMints (hash : HashOrder) (pre post : List (String × Nat)) : List String :=
  hash.order ((pre ++ post).map Prod.fst).dedup

private theorem mem_of_amountOf {entries : List (String × Nat)} {mint : String}
    (h : amountOf entries mint ≠ 0) : mint ∈ entries.map Prod.fst := by
  unfold amountOf at h
  cases hlookup : entries.reverse.lookup mint with
  | none => simp [hlookup] at h
  | some amount =>
      obtain ⟨before, after, hsplit, -⟩ := List.lookup_eq_some_iff.mp hlookup
      have hmem : (mint, amount) ∈ entries.reverse := by simp [hsplit]
      exact List.mem_map_of_mem (List.mem_reverse.mp hmem)

theorem mem_allMints {hash : HashOrder} {pre post : List (String × Nat)} {mint : String}
    (h : amountOf pre mint ≠ amountOf post mint) : mint ∈ allMints hash pre post := by
  rw [allMints, (hash.perm _).mem_iff, List.mem_dedup, List.map_append, List.mem_append]
  by_cases hpre : amountOf pre mint = 0
  · exact .inr (mem_of_amountOf fun hpost => h (hpre.trans hpost.symm))
  · exact .inl (mem_of_amountOf hpre)

/-! ## The Geyser listener -/

namespace Geyser

def tokenAmounts (wallet : String) (entries : List TokenBalance) : List (String × Nat) :=
  entries.filterMap fun entry =>
    if entry.owner != wallet || entry.mint == wsolMint then none
    else some (entry.mint, parseAmount entry.uiTokenAmount)

def topLevel (info : SubscribeUpdateTransactionInfo) : List CompiledInstruction :=
  ((info.transaction.bind Transaction.message).map TransactionMessage.instructions).getD []

def extractAmmPool (info : SubscribeUpdateTransactionInfo) (keys : List (List UInt8))
    (raydiumProgram : List UInt8) : Option String := do
  let programIdx ← keys.idxOf? raydiumProgram
  (topLevel info).findSome? fun ix =>
    if ix.programIdIndex = programIdx then (accountKey keys 1 ix).map encodeBase58 else none

section

variable (p : Platform) (hash : HashOrder) (ids : ProgramIds) (targetBytes : List UInt8)
  (sellTx : Bool) (slot : Nat) (info : SubscribeUpdateTransactionInfo)
  (keys : List (List UInt8))

def raydiumProgram : DexType → Option (List UInt8)
  | .raydiumV4 => some ids.raydiumV4
  | .raydiumCpmm => some ids.raydiumCpmm
  | _ => none

def swapSignals (dex : DexType) (ammPool : Option String) (received spent : ℚ) (mint : String)
    (preAmount postAmount : Nat) : Option (List Signal) :=
  if preAmount < postAmount ∧ 0 < spent then some
    [.buy
      { signature := signatureOf info
        mint := mint
        dex := dex
        solAmount := some spent
        tokenAmount := some (postAmount - preAmount)
        slot := some slot
        ammPool := ammPool
        targetPumpAccounts := none }]
  else if postAmount < preAmount ∧ 0 < received then some
    (if sellTx then
      [.sell
        { signature := signatureOf info
          mint := mint
          dex := dex
          solReceived := some received
          tokenAmount := some (preAmount - postAmount)
          slot := some slot
          ammPool := ammPool }]
    else [])
  else none

def parseRaydiumFromProto (dex : DexType) : List Signal :=
  match info.meta, computeSolDelta p.rounding info keys targetBytes, raydiumProgram ids dex with
  | some status, some (received, spent), some program =>
      let ammPool := extractAmmPool info keys program
      let pre := tokenAmounts (encodeBase58 targetBytes) status.preTokenBalances
      let post := tokenAmounts (encodeBase58 targetBytes) status.postTokenBalances
      ((allMints hash pre post).findSome? fun mint =>
        swapSignals sellTx slot info dex ammPool received spent mint (amountOf pre mint)
          (amountOf post mint)).getD []
  | _, _, _ => []

def signalsOf (dex : DexType) : List Signal :=
  match dex with
  | .pumpFun =>
      (parsePumpFromProto p ids targetBytes sellTx slot info keys).map Emission.signal
  | .pumpFunAmm =>
      (parsePumpswapFromProto p ids targetBytes sellTx slot info keys).map Emission.signal
  | .raydiumV4 | .raydiumCpmm =>
      parseRaydiumFromProto p hash ids targetBytes sellTx slot info keys dex
  | .jupiter | .unknown _ => []

/-- One parser runs: that of the program whose key comes first. -/
def detectSignals : List Signal :=
  signalsOf p hash ids targetBytes sellTx slot info keys (ids.detectDex keys)

theorem detectSignals_eq (hkeys : keysOf info = some keys)
    (hraydium : raydiumProgram ids (ids.detectDex keys) = none) :
    detectSignals p hash ids targetBytes sellTx slot info keys =
      (handleTransaction p sellTx ids targetBytes slot info).map Emission.signal := by
  unfold detectSignals handleTransaction
  rw [hkeys]
  cases hdex : ids.detectDex keys <;> simp_all [signalsOf, raydiumProgram]

end

section

variable {sellTx : Bool} {slot : Nat} {info : SubscribeUpdateTransactionInfo} {dex : DexType}
  {ammPool : Option String} {received spent : ℚ} {mint : String}

theorem solDelta_one_sided {r : Rounding} {keys : List (List UInt8)} {targetBytes : List UInt8}
    (h : computeSolDelta r info keys targetBytes = some (received, spent)) :
    received = 0 ∨ spent = 0 := by
  simp only [computeSolDelta, Option.bind_eq_bind, Option.bind_eq_some_iff] at h
  obtain ⟨_, -, _, -, hdelta⟩ := h
  unfold solDelta at hdelta
  split at hdelta
  · cases hdelta
    exact .inl rfl
  · cases hdelta
    exact .inr rfl

theorem swapSignals_ne_none_iff {pre post : Nat} :
    swapSignals sellTx slot info dex ammPool received spent mint pre post ≠ none ↔
      (pre < post ∧ 0 < spent) ∨ (post < pre ∧ 0 < received) := by
  unfold swapSignals
  by_cases hbuy : pre < post ∧ 0 < spent
  · simp [hbuy]
  · by_cases hsell : post < pre ∧ 0 < received
    · simp [hbuy, hsell]
    · simp [hbuy, hsell]

theorem swapSignals_cases {pre post : Nat} {sent : List Signal}
    (h : swapSignals sellTx slot info dex ammPool received spent mint pre post = some sent) :
    ((pre < post ∧ 0 < spent) ∧ ∃ buy : DetectedBuy, sent = [.buy buy] ∧
      buy.dex = dex ∧ buy.mint = mint ∧ buy.tokenAmount = some (post - pre)) ∨
    ((post < pre ∧ 0 < received) ∧ ∃ sell : DetectedSell,
      sent = (if sellTx then [.sell sell] else []) ∧
      sell.dex = dex ∧ sell.mint = mint ∧ sell.tokenAmount = some (pre - post)) := by
  unfold swapSignals at h
  split at h
  case isTrue hgained =>
    cases h
    exact .inl ⟨hgained, _, rfl, rfl, rfl, rfl⟩
  case isFalse =>
    split at h
    case isTrue hlost =>
      cases h
      exact .inr ⟨hlost, _, rfl, rfl, rfl, rfl⟩
    case isFalse => cases h

theorem mem_allMints_of_swapSignals (hash : HashOrder) {pre post : List (String × Nat)}
    (h : swapSignals sellTx slot info dex ammPool received spent mint (amountOf pre mint)
      (amountOf post mint) ≠ none) : mint ∈ allMints hash pre post := by
  apply mem_allMints
  obtain ⟨hgained, -⟩ | ⟨hlost, -⟩ := swapSignals_ne_none_iff.mp h
  · exact hgained.ne
  · exact hlost.ne'

end

end Geyser

/-! ## The WebSocket listener -/

namespace CopyEngine

section

variable (keys : List String) (targetWallet : String)

def ownedByTarget (entry : Json) : Bool :=
  ((entry.get? "owner").bind Json.asStr).getD "" == targetWallet ||
    keys[((entry.get? "accountIndex").bind Json.asU64).getD u64Max]? == some targetWallet

def tokenAmounts (entries : List Json) : List (String × Nat) :=
  entries.filterMap fun entry =>
    if ownedByTarget keys targetWallet entry then
      (((entry.get? "mint").bind Json.asStr).filter (· != wsolMint)).map fun mint =>
        (mint, parseAmount ((path ["uiTokenAmount", "amount"] entry).bind Json.asStr))
    else none

def extractRaydiumAmmPool (programIdx : Nat) : List Json → Option String
  | [] => none
  | instr :: rest => do
      let pid ← (instr.get? "programIdIndex").bind Json.asU64
      if pid != programIdx then extractRaydiumAmmPool programIdx rest
      else
        let accounts ← (instr.get? "accounts").bind Json.asArray
        match accounts[1]? with
        | none => extractRaydiumAmmPool programIdx rest
        | some account =>
            let ammIdx ← account.asU64
            match keys[ammIdx]? with
            | some pool => some pool
            | none => extractRaydiumAmmPool programIdx rest

def raydiumProgram : Option (DexType × String) :=
  if raydiumV4 ∈ keys then some (.raydiumV4, raydiumV4)
  else if raydiumCpmm ∈ keys then some (.raydiumCpmm, raydiumCpmm)
  else none

end

section

variable (p : Platform) (hash : HashOrder) (result : Json) (keys : List String)
  (targetWallet : String)

/-- The balances of the target before and after, when the target is among the keys. -/
def targetBalances : Option (List (String × Nat) × List (String × Nat)) := do
  let _ ← keys.idxOf? targetWallet
  let pre ← (path ["meta", "preTokenBalances"] result).bind Json.asArray
  let post ← (path ["meta", "postTokenBalances"] result).bind Json.asArray
  return (tokenAmounts keys targetWallet pre, tokenAmounts keys targetWallet post)

/-- No instruction is read, so a swap has no account that trades. -/
def tryParseRaydiumSwap (ammPool : Option String) : ParsedTransaction :=
  match targetBalances result keys targetWallet with
  | none => ⟨none, none⟩
  | some (pre, post) =>
      let delta := computeSolDelta p.rounding result keys targetWallet
      let swap := (allMints hash pre post).findSome? fun mint =>
        let preAmount := amountOf pre mint
        let postAmount := amountOf post mint
        if preAmount < postAmount then some
          { buy := some
              { parsed :=
                  { mint := mint
                    solAmount := (delta.map Prod.snd).filter fun spent => 0 < spent
                    tokenAmount := some (postAmount - preAmount)
                    ammPool := ammPool
                    targetPumpAccounts := none }
                trader := none }
            sell := none }
        else if postAmount < preAmount then some
          { buy := none
            sell := some
              { parsed :=
                  { mint := mint
                    tokenAmount := some (preAmount - postAmount)
                    solReceived := (delta.map Prod.fst).filter fun received => 0 < received
                    ammPool := ammPool }
                trader := none } }
        else none
      swap.getD ⟨none, none⟩

def parseRaydium : ParsedTransaction :=
  match raydiumProgram keys with
  | none => ⟨none, none⟩
  | some (_, program) =>
      let ammPool := (keys.idxOf? program).bind fun programIdx =>
        extractRaydiumAmmPool keys programIdx (allInstructions result)
      tryParseRaydiumSwap p hash result keys targetWallet ammPool

/--
The three passes of `fetch_and_parse_transaction`, with the exchange whose
instructions or balance changes were read.
-/
def parseTransaction : DexType × ParsedTransaction :=
  let pump := parsePump p result keys targetWallet
  if pump.buy.isSome || pump.sell.isSome then (.pumpFun, pump)
  else
    let swap := parsePumpswap p result keys targetWallet
    if swap.buy.isSome || swap.sell.isSome then (.pumpFunAmm, swap)
    else (((raydiumProgram keys).map Prod.fst).getD (.unknown "none"),
      parseRaydium p hash result keys targetWallet)

end

/-- The signals for one message, each with the exchange it was parsed from. -/
def detectSignals (p : Platform) (hash : HashOrder) (targetWallet : String) (sellDetect : Bool)
    (render : Json → String) (message : Json) (replies : List HttpReply) :
    List (DexType × Signal) :=
  match parseLogsNotification message with
  | none => []
  | some notif =>
      if accepted notif then
        match fetched render replies with
        | some (result, keys) =>
            let (source, trades) := parseTransaction p hash result keys targetWallet
            (signals sellDetect notif trades).map fun e => (source, e.signal)
        | none => []
      else []

end CopyEngine

end Girasol
