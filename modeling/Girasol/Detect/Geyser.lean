import Girasol.Detect.Signal
import Girasol.Settings

/-!
# The Geyser listener

Transactions arrive as protocol buffers and are parsed without a request.  Keys
are raw bytes.
-/

namespace Girasol.Geyser

open Foundation

/-! ## Updates -/

structure CompiledInstruction where
  programIdIndex : Nat
  accounts : List UInt8
  data : List UInt8
  deriving DecidableEq

structure TokenBalance where
  mint : String
  owner : String
  uiTokenAmount : Option String
  deriving DecidableEq

structure TransactionStatusMeta where
  err : Option (List UInt8)
  preBalances : List Nat
  postBalances : List Nat
  innerInstructions : List (List CompiledInstruction)
  loadedWritableAddresses : List (List UInt8)
  loadedReadonlyAddresses : List (List UInt8)
  preTokenBalances : List TokenBalance := []
  postTokenBalances : List TokenBalance := []

structure TransactionMessage where
  accountKeys : List (List UInt8)
  instructions : List CompiledInstruction

structure Transaction where
  message : Option TransactionMessage

structure SubscribeUpdateTransactionInfo where
  signature : List UInt8
  transaction : Option Transaction
  «meta» : Option TransactionStatusMeta

structure SubscribeUpdateTransaction where
  transaction : Option SubscribeUpdateTransactionInfo
  slot : Nat

structure SubscribeUpdate where
  slot : Option Nat
  transaction : Option SubscribeUpdateTransaction
  pong : Option Int

/-! ## Programs -/

structure ProgramIds where
  pumpFun : List UInt8
  pumpFunAmm : List UInt8
  raydiumV4 : List UInt8
  raydiumCpmm : List UInt8
  deriving DecidableEq

namespace ProgramIds

def new : Option ProgramIds := do
  return {
    pumpFun := ← decodeBase58 pumpFunProgram
    pumpFunAmm := ← decodeBase58 Girasol.pumpFunAmm
    raydiumV4 := ← decodeBase58 Girasol.raydiumV4
    raydiumCpmm := ← decodeBase58 Girasol.raydiumCpmm }

def detectDex (ids : ProgramIds) (keys : List (List UInt8)) : DexType :=
  (keys.findSome? fun key =>
    if key = ids.pumpFun then some DexType.pumpFun
    else if key = ids.pumpFunAmm then some .pumpFunAmm
    else if key = ids.raydiumV4 then some .raydiumV4
    else if key = ids.raydiumCpmm then some .raydiumCpmm
    else none).getD (.unknown "none")

end ProgramIds

def programIds : ProgramIds where
  pumpFun := (decodeBase58 pumpFunProgram).getD []
  pumpFunAmm := (decodeBase58 pumpFunAmm).getD []
  raydiumV4 := (decodeBase58 raydiumV4).getD []
  raydiumCpmm := (decodeBase58 raydiumCpmm).getD []

theorem new_eq_programIds : ProgramIds.new = some programIds := by
  decide +kernel

/-! ## Instructions -/

def accountKey (keys : List (List UInt8)) (index : Nat) (ix : CompiledInstruction) :
    Option (List UInt8) :=
  ix.accounts[index]?.bind fun i => keys[i.toNat]?

def accountStrings (keys : List (List UInt8)) (ix : CompiledInstruction) : List String :=
  (ix.accounts.filterMap fun i => keys[i.toNat]?).map encodeBase58

structure FoundBuy where
  mint : String
  tokenAmount : Option Nat
  solAmount : Option ℚ
  pool : Option String
  accounts : List String
  deriving DecidableEq

structure FoundSell where
  mint : String
  tokenAmount : Option Nat
  solReceived : Option ℚ
  deriving DecidableEq

section

variable (r : Rounding) (keys : List (List UInt8)) (delta : Option (ℚ × ℚ))

def spent : Option ℚ := (delta.map Prod.snd).filter fun spent => 0 < spent

def received : Option ℚ := (delta.map Prod.fst).filter fun received => 0 < received

/-- `check_instruction` of `parse_pump_from_proto`. -/
def checkInstruction (pumpIdx : Nat) (ix : CompiledInstruction) :
    Option FoundBuy × Option FoundSell :=
  if ix.programIdIndex ≠ pumpIdx then (none, none)
  else if hasDiscriminator buyDiscriminator ix.data && 3 ≤ ix.accounts.length then
    ((accountKey keys 2 ix).map fun mint =>
      { mint := encodeBase58 mint
        tokenAmount := u64At 8 ix.data
        solAmount := (spent delta).or ((u64At 16 ix.data).map (lamportsToSol r))
        pool := none
        accounts := accountStrings keys ix }, none)
  else if hasDiscriminator sellDiscriminator ix.data && 3 ≤ ix.accounts.length then
    (none, (accountKey keys 2 ix).map fun mint =>
      { mint := encodeBase58 mint
        tokenAmount := u64At 8 ix.data
        solReceived := received delta })
  else (none, none)

def checkPumpswapIx (ammIdx : Nat) (ix : CompiledInstruction) :
    Option FoundBuy × Option FoundSell :=
  if ix.programIdIndex ≠ ammIdx || ix.data.length < 24 || ix.accounts.length < 17 then
    (none, none)
  else
    let isBuy := hasDiscriminator buyDiscriminator ix.data
    let isSell := hasDiscriminator sellDiscriminator ix.data
    if !isBuy && !isSell then (none, none)
    else
      match accountKey keys 3 ix with
      | none => (none, none)
      | some mint =>
          let pool := ((accountKey keys 0 ix).map encodeBase58).getD ""
          let amount1 := (u64At 8 ix.data).getD 0
          let amount2 := (u64At 16 ix.data).getD 0
          if isBuy then
            (some
              { mint := encodeBase58 mint
                tokenAmount := some amount1
                solAmount := (spent delta).or (some (lamportsToSol r amount2))
                pool := some pool
                accounts := accountStrings keys ix }, none)
          else
            (none, some
              { mint := encodeBase58 mint
                tokenAmount := some amount1
                solReceived := (received delta).or (some (lamportsToSol r amount2)) })

end

/-! ## Transactions -/

def buildAccountKeys (info : SubscribeUpdateTransactionInfo) : Option (List (List UInt8)) := do
  let msg ← (← info.transaction).message
  let loaded ← info.meta
  return msg.accountKeys ++ loaded.loadedWritableAddresses ++ loaded.loadedReadonlyAddresses

def computeSolDelta (r : Rounding) (info : SubscribeUpdateTransactionInfo)
    (keys : List (List UInt8)) (targetBytes : List UInt8) : Option (ℚ × ℚ) := do
  let targetIdx ← keys.idxOf? targetBytes
  let balances ← info.meta
  return solDelta r (balances.preBalances[targetIdx]?.getD 0)
    (balances.postBalances[targetIdx]?.getD 0)

def allInstructions (info : SubscribeUpdateTransactionInfo) : List CompiledInstruction :=
  ((info.transaction.bind Transaction.message).map TransactionMessage.instructions).getD [] ++
    ((info.meta.map TransactionStatusMeta.innerInstructions).getD []).flatten

def signatureOf (info : SubscribeUpdateTransactionInfo) : String :=
  if info.signature.isEmpty then "unknown" else encodeBase58 info.signature

section

variable (p : Platform) (ids : ProgramIds) (targetBytes : List UInt8) (sellTx : Bool)
  (slot : Nat) (info : SubscribeUpdateTransactionInfo) (keys : List (List UInt8))

def sendFirsts (dex : DexType) (user : Nat)
    (check : CompiledInstruction → Option FoundBuy × Option FoundSell) :
    List (Emission (List UInt8)) :=
  (emitFirsts check false false (allInstructions info)).filterMap fun (ix, found) =>
    match found with
    | .inl buy => some
        { signal := .buy
            { signature := signatureOf info
              mint := buy.mint
              dex := dex
              solAmount := buy.solAmount
              tokenAmount := buy.tokenAmount
              slot := some slot
              ammPool := buy.pool
              targetPumpAccounts := atLeast 17 buy.accounts }
          trader := accountKey keys user ix }
    | .inr sell =>
        if sellTx then some
          { signal := .sell
              { signature := signatureOf info
                mint := sell.mint
                dex := dex
                solReceived := sell.solReceived
                tokenAmount := sell.tokenAmount
                slot := some slot
                ammPool := none }
            trader := accountKey keys user ix }
        else none

def parsePumpFromProto : List (Emission (List UInt8)) :=
  match keys.idxOf? ids.pumpFun with
  | none => []
  | some pumpIdx =>
      sendFirsts sellTx slot info keys .pumpFun pumpFunUser
        (checkInstruction p.rounding keys (computeSolDelta p.rounding info keys targetBytes)
          pumpIdx)

def parsePumpswapFromProto : List (Emission (List UInt8)) :=
  match keys.idxOf? ids.pumpFunAmm with
  | none => []
  | some ammIdx =>
      sendFirsts sellTx slot info keys .pumpFunAmm pumpSwapUser
        (checkPumpswapIx p.rounding keys (computeSolDelta p.rounding info keys targetBytes)
          ammIdx)

end

def keysOf (info : SubscribeUpdateTransactionInfo) : Option (List (List UInt8)) :=
  if (info.meta.bind TransactionStatusMeta.err).isSome then none else buildAccountKeys info

section

variable (p : Platform) (targetWallet : String) (sellTx : Bool)

def handleTransaction (ids : ProgramIds) (targetBytes : List UInt8) (slot : Nat)
    (info : SubscribeUpdateTransactionInfo) : List (Emission (List UInt8)) :=
  match keysOf info with
  | none => []
  | some keys =>
      match ids.detectDex keys with
      | .pumpFun => parsePumpFromProto p ids targetBytes sellTx slot info keys
      | .pumpFunAmm => parsePumpswapFromProto p ids targetBytes sellTx slot info keys
      | _ => []

def transactionOf (update : SubscribeUpdate) : Option (Nat × SubscribeUpdateTransactionInfo) :=
  if update.pong.isSome || update.slot.isSome then none
  else do
    let tx ← update.transaction
    let info ← tx.transaction
    return (tx.slot, info)

def handleUpdate (update : SubscribeUpdate) : List (Emission (List UInt8)) :=
  match decodeBase58 targetWallet, ProgramIds.new, transactionOf update with
  | some targetBytes, some ids, some (slot, info) =>
      handleTransaction p sellTx ids targetBytes slot info
  | _, _, _ => []

end

end Girasol.Geyser
