import Girasol.Build.Derivation
import Girasol.Detect.CopyEngine

/-!
# The PumpSwap builders

A trade on a PumpSwap pool repeats the accounts of the target's instruction and
puts the wallet's own accounts in the places of the target's.
-/

namespace Girasol.PumpSwap

open Foundation
open CopyEngine (PumpSwapAccounts)

variable (d : Derivation) (target : PumpSwapAccounts) (payer : Pubkey)

structure TradeAccounts where
  baseMint : Pubkey
  quoteMint : Pubkey
  baseTokenProgram : Pubkey
  quoteTokenProgram : Pubkey
  accounts : List AccountMeta

def extraAccounts (accounts : List String) : List AccountMeta :=
  (accounts.drop 17).filterMap fun acct =>
    (parsePubkeyBytes acct).toOption.map fun pk => .readonly pk false

/-- The part `build_buy_instructions` and `build_sell_instructions` share. -/
def tradeAccounts (side : String) : Except String TradeAccounts := do
  if target.accounts.length < 17 then
    .error s!"PumpSwap {side} needs 17 accounts, got {target.accounts.length}"
  else
    let account (i : Nat) := parsePubkeyBytes (target.accounts.getD i "")
    let baseMint ← parsePubkeyBytes target.baseMint
    let quoteMint ← parsePubkeyBytes target.quoteMint
    let baseTokenProgram ← account 11
    let quoteTokenProgram ← account 12
    let ourBaseAta := d.associatedTokenAddress payer baseMint baseTokenProgram
    let ourQuoteAta := d.associatedTokenAddress payer quoteMint quoteTokenProgram
    let pool ← account 0
    let globalConfig ← account 2
    let poolBaseTokenAccount ← account 7
    let poolQuoteTokenAccount ← account 8
    let protocolFeeRecipient ← account 9
    let protocolFeeRecipientTokenAccount ← account 10
    let eventAuthority ← account 15
    return {
      baseMint := baseMint
      quoteMint := quoteMint
      baseTokenProgram := baseTokenProgram
      quoteTokenProgram := quoteTokenProgram
      accounts := [
        .readonly pool false,
        .writable payer true,
        .readonly globalConfig false,
        .readonly baseMint false,
        .readonly quoteMint false,
        .writable ourBaseAta false,
        .writable ourQuoteAta false,
        .writable poolBaseTokenAccount false,
        .writable poolQuoteTokenAccount false,
        .readonly protocolFeeRecipient false,
        .writable protocolFeeRecipientTokenAccount false,
        .readonly baseTokenProgram false,
        .readonly quoteTokenProgram false,
        .readonly (keyOf systemProgram) false,
        .readonly (keyOf associatedTokenProgram) false,
        .readonly eventAuthority false,
        .readonly (keyOf pumpFunAmm) false] ++ extraAccounts target.accounts }

def maxQuoteIn (solLamports slippageBps : UInt64) : UInt64 :=
  solLamports + solLamports * slippageBps / 10000

/-- The arguments of `buy` and of `sell`: an amount of the token, then a bound in SOL. -/
def tradeArgs (tokenAmount solBound : UInt64) : List UInt8 :=
  leBytes 8 tokenAmount.toNat ++ leBytes 8 solBound.toNat

def buildBuyInstructions (ourSolLamports ourTokenAmount slippageBps : UInt64) :
    Except String (List Instruction) := do
  let trade ← tradeAccounts d target payer "buy"
  let buyIx : Instruction := {
    programId := keyOf pumpFunAmm
    accounts := trade.accounts
    data := buyDiscriminator ++ tradeArgs ourTokenAmount (maxQuoteIn ourSolLamports slippageBps) }
  return [
    d.createAssociatedTokenAccountIdempotent payer payer trade.baseMint trade.baseTokenProgram,
    d.createAssociatedTokenAccountIdempotent payer payer trade.quoteMint trade.quoteTokenProgram,
    buyIx]

def buildSellInstructions (tokenAmount minSolOut : UInt64) : Except String (List Instruction) := do
  let trade ← tradeAccounts d target payer "sell"
  let sellIx : Instruction := {
    programId := keyOf pumpFunAmm
    accounts := trade.accounts
    data := sellDiscriminator ++ tradeArgs tokenAmount minSolOut }
  return [sellIx]

end Girasol.PumpSwap
