import Girasol.Foundation.Json
import Girasol.Foundation.Traced
import Girasol.Send.Transaction

/-!
# Sending through Helius

`sendTransactionViaHelius` draws a tip, a compute budget and a blockhash, signs
the transaction, posts it to the parallel endpoints without waiting for them,
and answers what the primary endpoint answers.  `sendTransactionWithRetry`
calls it again after an error.
-/

namespace Girasol

open Foundation

def zeroslotStakedAccounts : List String :=
  ["Eb2KpSC8uMt9GmzyAEm5Eb1AAAgTjRaXWFjKyFXHZxF3",
    "FCjUJZ1qozm1e8romw216qyfQMaaWKxWsuySnumVCCNe",
    "ENxTEjSQ1YabmUpXAdCgevnHQ9MHdLv8tzFiuiYJqa13",
    "6rYLG55Q9RpsPGvqdPNJs4z5WTxJVatMB8zV3WJhs5EK",
    "Cix2bHfqPcKcM233mzxbLk14kSggUUiz2A87fJtGivXr"]

def tipAccounts : List String :=
  ["4ACfpUFoaSD9bfPdeu6DBt89gB6ENTeHBXCAi87NhDEE",
    "D2L6yPZ2FmmmTKPgzaMKdhu6EWZcTpLy1Vhx8uvZe7NZ",
    "9bnz4RShgq1hAnLnZbP8kbgBg1kEmcJBYQq3gQbmnSta",
    "5VY91ws6B2hMmBFRsXkoAAdsPHBJwRfBht4DXox3xkwn",
    "2nyhqdwKcJZR2vcqCyrYsaPVdAnFoJjiksCXJ7hfEYgD",
    "2q5pghRs6arqVjRvT5gfgWfWcHWmw1ZuCzphgd5KfWGJ",
    "wyvPkWjVZz1M8fHQnMMCDTQDbkManefNNhweYk5WkcF",
    "3KCKozbAaF75qEU33jtzozcJ29yJuaLJTy2jFdzUY8bT",
    "4vieeGHPYPG2MmyPRcYjdiDmmhN3ww7hsFNap8pVN3Ey",
    "4TQLFNWK8AovT1gFvda5jfw2oJeRMKEmw7aH6MGBJ3or"]

inductive SendError where
  | failed (message : String)
  | rejected (error : Json)

structure Attempt where
  blockHeight : Except String Nat
  jitoTipFloor : Except String Json
  tipChoice : Fin tipAccounts.length
  simulation : Except String (Option Nat)
  priorityFeeReply : Except String Json
  stakedChoice : Fin zeroslotStakedAccounts.length
  latestBlockhash : Except String Hash
  accepts : String → Bool
  primaryReply : Except String Json

structure Submission where
  endpoint : String
  transaction : VersionedTransaction
  deriving DecidableEq

/-! ## Tips and fees -/

def Settings.getEffectiveMinTipSol (cfg : Settings) : ℚ :=
  if cfg.heliusUseSwqosOnly then max cfg.heliusMinTipSol (5 / 1000000)
  else max cfg.heliusMinTipSol (1 / 1000)

section

variable (p : Platform) (cfg : Settings)

def fetchJitoTipFloor (reply : Except String Json) : Except String ℚ := do
  let data ← reply
  let tip75th := do
    let first ← (← data.asArray).head?
    (← first.get? "landed_tips_75th_percentile").asF64 p.rounding
  match tip75th with
  | some tip => .ok tip
  | none => .error "Invalid response format from Jito API"

def getDynamicTipAmount (jitoTipFloor : Except String Json) : ℚ :=
  if !cfg.heliusUseDynamicTips || cfg.heliusUseSwqosOnly then cfg.getEffectiveMinTipSol
  else match fetchJitoTipFloor p jitoTipFloor with
    | .ok tip75th => max tip75th cfg.getEffectiveMinTipSol
    | .error _ => cfg.getEffectiveMinTipSol

def tipLamports (tipSol : ℚ) : UInt64 :=
  (asU64 (p.rounding.mul tipSol 1000000000)).toUInt64

def getRandomTipAccount (choice : Fin tipAccounts.length) : Except String Pubkey :=
  p.parsePubkey (tipAccounts.get choice)

def getPriorityFeeEstimate (reply : Except String Json) : Except String UInt64 := do
  let json ← reply
  let estimate := do
    let result ← json.get? "result"
    (← result.get? "priorityFeeEstimate").asF64 p.rounding
  match estimate with
  | some fee =>
      .ok (asU64 ⌈p.rounding.mul fee cfg.heliusPriorityFeeMultiplier⌉).toUInt64
  | none => .ok 50000

def skipSim : Bool := cfg.skipSimulation && !cfg.dryRun

def unitsWithMargin : Option Nat → UInt32
  | some units =>
      (max (asU32 ⌈p.rounding.mul (p.rounding.ofU64 units) (p.rounding.round (6 / 5))⌉)
        200000).toUInt32
  | none => 200000

def computeBudget (ixs : List Instruction) (payer : Keypair) (tip : Instruction)
    (attempt : Attempt) : Except String (UInt32 × UInt64) :=
  if skipSim cfg then .ok (250000, 50000)
  else do
    let test := Instruction.setComputeUnitLimit 1400000 :: ixs ++ [tip]
    discard <| VersionedTransaction.tryNew
      (Message.new test payer.pubkey (List.replicate 32 0)) payer
    let units ← attempt.simulation
    let fee ← getPriorityFeeEstimate p cfg attempt.priorityFeeReply
    return (unitsWithMargin p units, fee)

def nonemptyKey (key : Option String) : Option String := key.filter fun k => !k.isEmpty

def stakedRecipient (choice : Fin zeroslotStakedAccounts.length) : Option Pubkey :=
  (nonemptyKey cfg.zeroslotApiKey).bind fun _ =>
    (p.parsePubkey (zeroslotStakedAccounts.get choice)).toOption

def stakedTransfer (payer : Pubkey) (recipient : Pubkey) : Instruction :=
  .transfer payer recipient (max cfg.zeroslotStakedConnLamports 1000000).toUInt64

end

def sanitizeInstructions (ixs : List Instruction) (payer : Pubkey) : List Instruction :=
  ixs.map fun ix =>
    { ix with
      accounts := ix.accounts.map fun am =>
        if am.isSigner && am.pubkey != payer then { am with isSigner := false } else am }

/-! ## One attempt -/

section

variable (p : Platform) (cfg : Settings) (ixs : List Instruction) (payer : Keypair)
  (cachedBlockhash : Option Hash)

def signFinal (tipAccount : Pubkey) (lamports : UInt64) (computeUnits : UInt32)
    (priorityFee : UInt64) (attempt : Attempt) : Except String VersionedTransaction := do
  let finalInstructions :=
    [.setComputeUnitLimit computeUnits, .setComputeUnitPrice priorityFee] ++ ixs ++
      [.transfer payer.pubkey tipAccount lamports] ++
        (stakedRecipient p cfg attempt.stakedChoice).toList.map
          (stakedTransfer cfg payer.pubkey)
  let message := Message.new (sanitizeInstructions finalInstructions payer.pubkey)
    payer.pubkey (List.replicate 32 0)
  let tx ← VersionedTransaction.tryNew message payer
  let blockhash ← match cachedBlockhash with
    | some bh => pure bh
    | none => attempt.latestBlockhash
  return tx.resign payer blockhash

def buildTransaction (attempt : Attempt) : Except String VersionedTransaction := do
  let lamports := tipLamports p (getDynamicTipAmount p cfg attempt.jitoTipFloor)
  let tipAccount ← getRandomTipAccount p attempt.tipChoice
  let (computeUnits, priorityFee) ← computeBudget p cfg ixs payer
    (.transfer payer.pubkey tipAccount lamports) attempt
  signFinal p cfg ixs payer cachedBlockhash tipAccount lamports computeUnits priorityFee attempt

def applyOwnLeaderMultipliers (baseTipSol : ℚ) (basePriorityFee : UInt64)
    (isOwnLeader : Bool) : ℚ × UInt64 :=
  if !cfg.ownLeaderStrategyEnabled || !isOwnLeader then (baseTipSol, basePriorityFee)
  else
    let multipliedPriority := asU64 (max ⌈p.rounding.mul
      (p.rounding.ofU64 basePriorityFee.toNat) cfg.ownLeaderPriorityMultiplier⌉ 1)
    (max (p.rounding.mul baseTipSol cfg.ownLeaderTipMultiplier) cfg.getEffectiveMinTipSol,
      (max multipliedPriority 1).toUInt64)

def buildSignedTransaction (isOwnLeader : Bool) (attempt : Attempt) :
    Except String VersionedTransaction := do
  let tipSol := getDynamicTipAmount p cfg attempt.jitoTipFloor
  let tipAccount ← getRandomTipAccount p attempt.tipChoice
  let (computeUnits, priorityFee) ← computeBudget p cfg ixs payer
    (.transfer payer.pubkey tipAccount (tipLamports p tipSol)) attempt
  let (effectiveTipSol, effectivePriorityFee) :=
    applyOwnLeaderMultipliers p cfg tipSol priorityFee isOwnLeader
  signFinal p cfg ixs payer cachedBlockhash tipAccount (tipLamports p effectiveTipSol)
    computeUnits effectivePriorityFee attempt

def primaryEndpoint : String :=
  let params := (if cfg.heliusUseSwqosOnly then ["swqos_only=true"] else []) ++
    cfg.heliusApiKey.toList.map fun key => s!"api-key={key}"
  if params.isEmpty then cfg.heliusSenderEndpoint
  else
    let separator := if containsText cfg.heliusSenderEndpoint "?" then "&" else "?"
    cfg.heliusSenderEndpoint ++ separator ++ "&".intercalate params

def zeroslotEndpoints : List String :=
  if cfg.zeroslotEndpoints.isEmpty then ["http://de1.0slot.trade", "http://de2.0slot.trade"]
  else cfg.zeroslotEndpoints

def parallelEndpoints : List String :=
  (match nonemptyKey cfg.zeroslotApiKey with
    | some _ => (zeroslotEndpoints cfg).map fun ep => s!"{ep}/api/v1/transactions"
    | none => []) ++
  (nonemptyKey cfg.nozomiApiKey).toList.map fun key =>
    s!"https://fra2.nozomi.temporal.xyz/?c={key}"

def endpoints : List String := parallelEndpoints cfg ++ [primaryEndpoint cfg]

def primarySignature (reply : Except String Json) : Except SendError String := do
  let json ← reply.mapError .failed
  match json.get? "error" with
  | some error => .error (.rejected error)
  | none =>
      match (json.get? "result").bind Json.asStr with
      | some sig => .ok sig
      | none => .error (.failed "Invalid response from Helius Sender")

def Attempt.takes (attempt : Attempt) (ep : String) : Bool :=
  attempt.accepts ep ||
    (ep == primaryEndpoint cfg && (primarySignature attempt.primaryReply).isOk)

def sendTransactionViaHelius (attempt : Attempt) : Traced Submission SendError String :=
  if !cfg.heliusSenderEnabled then
    .lift (.error (.failed "Helius Sender is not enabled in settings"))
  else do
    let tx ← .lift ((buildTransaction p cfg ixs payer cachedBlockhash attempt).mapError .failed)
    .emit (((endpoints cfg).filter (attempt.takes cfg)).map fun ep => ⟨ep, tx⟩)
    .lift (primarySignature attempt.primaryReply)

/-! ## Retries -/

def isBlockhashValid (lastValidBlockHeight : Nat) (attempt : Attempt) : Except String Bool :=
  attempt.blockHeight.map fun current => decide (current ≤ lastValidBlockHeight)

def sendAttempts (lastValidBlockHeight : Nat) :
    Option SendError → List Attempt → Traced Submission SendError String
  | lastError, [] =>
      .lift (.error (lastError.getD (.failed "All retry attempts failed")))
  | _, attempt :: rest =>
      match isBlockhashValid lastValidBlockHeight attempt with
      | .ok false => .lift (.error (.failed "Blockhash expired before send attempt"))
      | .ok true | .error _ =>
          let sent := sendTransactionViaHelius p cfg ixs payer cachedBlockhash attempt
          match sent.result with
          | .ok _ => sent
          | .error e => (sendAttempts lastValidBlockHeight (some e) rest).after sent.trace

structure SendEnv where
  initialHeight : Except String Nat
  attempt : Nat → Attempt

/-- Up to which height the blockhash is valid; a cached one is good for 150 blocks. -/
def lastValidBlockHeight (initialHeight : Except String Nat) : Except String Nat :=
  match cachedBlockhash with
  | some _ =>
      match initialHeight with
      | .ok height => .ok (u64Add height 150)
      | .error _ => .ok u64Max
  | none => initialHeight

def sendTransactionWithRetry (maxRetries : Nat) (env : SendEnv) :
    Traced Submission SendError String := do
  let lastValid ← .lift
    ((lastValidBlockHeight cachedBlockhash env.initialHeight).mapError .failed)
  sendAttempts p cfg ixs payer cachedBlockhash lastValid none
    ((List.range maxRetries).map env.attempt)

end

def Attempt.unreachable : Attempt where
  blockHeight := .error "connection refused"
  jitoTipFloor := .error "connection refused"
  tipChoice := ⟨0, by decide⟩
  simulation := .error "connection refused"
  priorityFeeReply := .error "connection refused"
  stakedChoice := ⟨0, by decide⟩
  latestBlockhash := .error "connection refused"
  accepts := fun _ => false
  primaryReply := .error "connection refused"

def SendEnv.unreachable : SendEnv := ⟨.error "connection refused", fun _ => .unreachable⟩

end Girasol
