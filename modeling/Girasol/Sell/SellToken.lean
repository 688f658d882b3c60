import Girasol.Models
import Girasol.Rpc.TokenAccount
import Girasol.Send.Retry
import Girasol.Send.Swqos

/-!
# Selling on the bonding curve

`sellToken` looks up the wallet's token balance, sends the sale by the
configured method, and asks for the SOL balance before and after.  What the
network does during one order is a `SaleEnv`.
-/

namespace Girasol

open Foundation

structure SellResult where
  solBalanceChange : Option ℚ
  deriving DecidableEq, Repr

structure HttpSend where
  accepts : Bool
  reply : Except String Json

def HttpSend.signature (json : Json) : String :=
  ((json.get? "result").bind Json.asStr).getD "unknown"

def HttpSend.takes (h : HttpSend) : Bool :=
  h.accepts ||
    match h.reply with
    | .ok json => ((json.get? "result").bind Json.asStr).isSome
    | .error _ => false

/--
What the network, the random generator and the SDK's address derivations give
while one order is handled.
-/
structure SaleEnv where
  feeRecipient : Except String Pubkey
  creator : Option Pubkey
  tokenProgram : Pubkey
  ata : Pubkey
  sellAccounts : List AccountMeta
  createAta : Instruction
  ataInfo : Except FetchError RpcResponse
  ataBalance : Except String String
  token2022 : AccountAnswer
  legacy : AccountAnswer
  accountBalance : Pubkey → Except String String
  preBalance : Except String Nat
  attempt : Attempt
  swqos : SwqosEnv
  helius : SendEnv
  latestBlockhash : Except String Hash
  rpcSend : SendReply
  postBalance : Except String Nat
  dryRunBuild : Except String Unit
  dexInstructions : Except String (List Instruction)
  ownLeader : Bool
  leaderKnown : Bool
  http : HttpSend

structure BotMode where
  isReal : Bool
  keypair : Option Keypair
  swqosSender : Bool

/-! ## The balance before the sale -/

section

variable (p : Platform) (env : SaleEnv)

def balanceText : Except String String → Option Nat
  | .ok text => (parseUnsigned (2 ^ 64) text).toOption
  | .error _ => none

def foundBalance : Option Nat := do
  let acc ← findTokenAccountOwnedByOwner env.token2022 env.legacy
  let pk ← (p.parsePubkey acc).toOption
  balanceText (env.accountBalance pk)

def preSellBalance : Nat :=
  match env.ataBalance with
  | .ok text => (balanceText (.ok text)).getD 0
  | .error _ => (foundBalance p env).getD 0

def balanceKnown : Bool :=
  match env.ataBalance with
  | .ok text => (balanceText (.ok text)).isSome
  | .error _ =>
      (foundBalance p env).isSome || (env.token2022.saysNone && env.legacy.saysNone)

theorem preSellBalance_of_unknown {p : Platform} {env : SaleEnv}
    (h : balanceKnown p env = false) : preSellBalance p env = 0 := by
  unfold balanceKnown at h
  unfold preSellBalance
  cases hata : env.ataBalance with
  | ok text =>
      cases hbalance : balanceText (.ok text) <;> simp_all
  | error e =>
      cases hfound : foundBalance p env <;> simp_all

end

/-! ## The instructions of the sale -/

section

variable (p : Platform) (cfg : Settings) (order : SellOrder) (env : SaleEnv)

def minSolWithSlippage : Nat :=
  let r := p.rounding
  let tokenDivisor := r.round (10 ^ order.decimals)
  let expectedSol := asU64 (r.mul (r.mul (r.div (r.ofU64 order.amount) tokenDivisor)
    order.currentPrice) 1000000000)
  asU64 (r.mul (r.ofU64 expectedSol)
    (r.sub 1 (r.div (r.ofU64 cfg.slippageBps) 10000)))

def sellInstruction (pumpProgram : Pubkey) : Instruction where
  programId := pumpProgram
  accounts := env.sellAccounts ++
    (order.extraPumpAccount.bind fun extra => (p.parsePubkey extra).toOption).toList.map
      fun pk => ⟨pk, false, false⟩
  data := [0x33, 0xe6, 0x85, 0xa4, 0x01, 0x7f, 0x83, 0xad] ++ leBytes 8 order.amount ++
    leBytes 8 (minSolWithSlippage p cfg order)

def ataExists : Bool :=
  match env.ataInfo with
  | .ok info => ((info.result.bind fun r => r.get? "value").map fun v => !v.isNull).getD false
  | .error _ => false

/-- `CloseAccount`, which works for both token programs. -/
def closeAtaInstruction (user : Pubkey) : Instruction where
  programId := env.tokenProgram
  accounts := [⟨env.ata, false, true⟩, ⟨user, false, true⟩, ⟨user, true, false⟩]
  data := [9]

def saleInstructions (pumpProgram user : Pubkey) : List Instruction :=
  (if ataExists env then [] else [env.createAta]) ++
    [sellInstruction p cfg order env pumpProgram] ++
    if order.isFinal then [closeAtaInstruction env user] else []

end

/-! ## Sending the sale -/

section

variable (p : Platform) (cfg : Settings) (swqosSender : Bool) (ixs : List Instruction)
  (payer : Keypair) (env : SaleEnv)

def rpcUrl : String := cfg.solanaRpcUrls.headD ""

def sendSale : Traced Submission SendError String :=
  if swqosSender then do
    let tx ← .lift ((buildSignedTransaction p cfg ixs payer none false env.attempt).mapError
      .failed)
    sendConcurrent cfg false env.swqos tx
  else if cfg.heliusSenderEnabled then
    sendTransactionWithRetry p cfg ixs payer none 3 env.helius
  else do
    let blockhash ← .lift (env.latestBlockhash.mapError .failed)
    let message := Message.new ixs payer.pubkey blockhash
    let tx : VersionedTransaction := ⟨message, [payer.signMessage message]⟩
    .emit (if env.rpcSend.takes then [⟨rpcUrl cfg, tx⟩] else [])
    .lift (env.rpcSend.reply.mapError .failed)

def sellAndAccount : Traced Submission SendError SellResult :=
  if preSellBalance p env = 0 then return ⟨some 0⟩
  else do
    let preSol ← .lift (env.preBalance.mapError .failed)
    let _ ← sendSale p cfg swqosSender ixs payer env
    let postSol ← .lift (env.postBalance.mapError .failed)
    let delta : Int := postSol - preSol
    return ⟨some (p.rounding.div (p.rounding.round delta) 1000000000)⟩

end

section

variable (p : Platform) (cfg : Settings) (mode : BotMode) (order : SellOrder) (env : SaleEnv)

def prepareSale : Except String (Keypair × Pubkey) := do
  let payer ← match mode.keypair with
    | some kp => pure kp
    | none => .error "Keypair required"
  let _ ← p.parsePubkey order.mint
  let pumpProgram ← p.parsePubkey cfg.pumpFunProgram
  let _ ← match env.creator with
    | some creator => pure creator
    | none => .error "Creator required for sell"
  return (payer, pumpProgram)

def sellToken : Traced Submission SendError SellResult := do
  let _ ← .lift (env.feeRecipient.mapError .failed)
  if mode.isReal then
    let (payer, pumpProgram) ← .lift ((prepareSale p cfg mode order env).mapError .failed)
    sellAndAccount p cfg mode.swqosSender
      (saleInstructions p cfg order env pumpProgram payer.pubkey) payer env
  else
    .lift (env.dryRunBuild.mapError .failed)
    return ⟨none⟩

end

end Girasol
