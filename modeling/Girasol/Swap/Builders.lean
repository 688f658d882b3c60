import Girasol.Build.Derivation
import Girasol.Buy.Sizing
import Girasol.Detect.Raydium
import Girasol.Swap.PoolState
import Girasol.Swap.Raydium

/-!
# The Raydium builders

A buy wraps SOL, swaps and closes the account of the wrapped SOL; a sell swaps
and closes.  The accounts of the swap name an input and an output, and the
builders decide which side of the pool is which.
-/

namespace Girasol

open Foundation

namespace Instruction

/-- `spl_token::instruction::sync_native`. -/
def syncNative (tokenProgram account : Pubkey) : Instruction where
  programId := tokenProgram
  accounts := [.writable account false]
  data := [17]

/-- `spl_token::instruction::close_account` for an owner that signs alone. -/
def closeAccount (tokenProgram account destination owner : Pubkey) : Instruction where
  programId := tokenProgram
  accounts := [.writable account false, .writable destination false, .readonly owner true]
  data := [9]

end Instruction

structure PoolReplies where
  account : Except String Json
  balance : Pubkey → Except String Json

/-- The address of the wrapped SOL that the builders wrap, swap and close. -/
def wsol : Pubkey := keyOf wsolMint

def splToken : Pubkey := keyOf tokenProgram

def parseKey (s : String) : Except PoolError Pubkey := (parsePubkeyBytes s).mapError .message

def lamportsIn (r : Rounding) (solAmount : ℚ) : Nat := asU64 (r.mul solAmount 1000000000)

/-! ## Raydium V4 -/

namespace RaydiumV4

def authority : String := "5Q544fKrFoe6tsEbD7S8EmxGTJYAKtTVhAW5Q5pge4j1"

def swapBaseIn : UInt8 := 9

section

variable (d : Derivation) (r : Rounding) (amm : Pubkey) (ammInfo : AmmInfo)

def buildSwapBaseInInstruction (userSourceAta userDestAta user : Pubkey)
    (amountIn minAmountOut : Nat) : Instruction where
  programId := keyOf raydiumV4
  accounts := [
    .readonly splToken false,
    .writable amm false,
    .readonly (keyOf authority) false,
    .writable amm false,
    .writable ammInfo.tokenCoin.val false,
    .writable ammInfo.tokenPc.val false] ++ List.replicate 8 (.writable amm false) ++ [
    .writable userSourceAta false,
    .writable userDestAta false,
    .writable user true]
  data := swapBaseIn :: (leBytes 8 amountIn ++ leBytes 8 minAmountOut)

end

section

variable (d : Derivation) (r : Rounding) (ammAddress mint : String) (slippageBps : Nat)
  (payer : Pubkey) (replies : PoolReplies)

structure LoadedAmm where
  amm : Pubkey
  mintPk : Pubkey
  ammInfo : AmmInfo
  coinReserve : Nat
  pcReserve : Nat

def loadAmm : Except PoolError LoadedAmm := do
  let amm ← parseKey ammAddress
  let mintPk ← parseKey mint
  let ammInfo ← fetchAmmInfo replies.account
  let coinReserve ← fetchTokenBalance (replies.balance ammInfo.tokenCoin)
  let pcReserve ← fetchTokenBalance (replies.balance ammInfo.tokenPc)
  return ⟨amm, mintPk, ammInfo, coinReserve, pcReserve⟩

def buyOn (pool : LoadedAmm) (solAmount : ℚ) : List Instruction :=
  let isBaseIn := pool.ammInfo.coinMint.val == wsol
  let amountIn := lamportsIn r solAmount
  let (_, minAmountOut) :=
    (computeSwapAmount pool.coinReserve pool.pcReserve isBaseIn amountIn slippageBps).value
  let userWsolAta := d.associatedTokenAddress payer wsol splToken
  let userTokenAta := d.associatedTokenAddress payer pool.mintPk splToken
  let (userSource, userDest) :=
    if isBaseIn then (userWsolAta, userTokenAta) else (userTokenAta, userWsolAta)
  [ d.createAssociatedTokenAccountIdempotent payer payer wsol splToken,
    .transfer payer userWsolAta amountIn.toUInt64,
    .syncNative splToken userWsolAta,
    d.createAssociatedTokenAccountIdempotent payer payer pool.mintPk splToken,
    buildSwapBaseInInstruction pool.amm pool.ammInfo userSource userDest payer amountIn
      minAmountOut,
    .closeAccount splToken userWsolAta payer payer]

def buildBuyInstructions (solAmount : ℚ) : Except PoolError (List Instruction) :=
  (loadAmm ammAddress mint replies).map fun pool => buyOn d r slippageBps payer pool solAmount

def sellOn (pool : LoadedAmm) (tokenAmount : Nat) : List Instruction :=
  let isBaseIn := pool.ammInfo.coinMint.val == pool.mintPk
  let (_, minAmountOut) :=
    (computeSwapAmount pool.coinReserve pool.pcReserve isBaseIn tokenAmount slippageBps).value
  let userWsolAta := d.associatedTokenAddress payer wsol splToken
  let userTokenAta := d.associatedTokenAddress payer pool.mintPk splToken
  -- both branches of the source name the same accounts
  [ d.createAssociatedTokenAccountIdempotent payer payer wsol splToken,
    d.createAssociatedTokenAccountIdempotent payer payer pool.mintPk splToken,
    buildSwapBaseInInstruction pool.amm pool.ammInfo userTokenAta userWsolAta payer tokenAmount
      minAmountOut,
    .closeAccount splToken userWsolAta payer payer]

def buildSellInstructions (tokenAmount : Nat) : Except PoolError (List Instruction) :=
  (loadAmm ammAddress mint replies).map fun pool => sellOn d slippageBps payer pool tokenAmount

end

end RaydiumV4

/-! ## Raydium CPMM -/

namespace RaydiumCpmm

def authority : String := "GpMZbSM2GgvTKHJirzeGfMFoaZ8UR2X7F4v8vHTvxFbL"

def swapBaseInDiscriminator : List UInt8 := [143, 190, 90, 218, 196, 30, 51, 222]

structure SwapSide where
  userAta : Pubkey
  vault : Pubkey
  tokenProgram : Pubkey
  mint : Pubkey
  deriving DecidableEq

def buildSwapInstruction (poolAddress : Pubkey) (pool : CpmmPoolState) (payer : Pubkey)
    (input output : SwapSide) (amountIn minAmountOut : Nat) : Instruction where
  programId := keyOf raydiumCpmm
  accounts := [
    .writable payer true,
    .readonly (keyOf authority) false,
    .writable pool.ammConfig.val false,
    .writable poolAddress false,
    .writable input.userAta false,
    .writable output.userAta false,
    .writable input.vault false,
    .writable output.vault false,
    .readonly input.tokenProgram false,
    .readonly output.tokenProgram false,
    .readonly input.mint false,
    .readonly output.mint false,
    .writable pool.observationKey.val false]
  data := swapBaseInDiscriminator ++ leBytes 8 amountIn ++ leBytes 8 minAmountOut

section

variable (d : Derivation) (r : Rounding) (poolAddress mint : String) (slippageBps : Nat)
  (payer : Pubkey) (replies : PoolReplies)

structure LoadedPool where
  poolPk : Pubkey
  mintPk : Pubkey
  pool : CpmmPoolState
  reserve0 : Nat
  reserve1 : Nat

def loadPool : Except PoolError LoadedPool := do
  let poolPk ← parseKey poolAddress
  let mintPk ← parseKey mint
  let pool ← fetchPoolState replies.account
  let reserve0 ← fetchTokenBalance (replies.balance pool.token0Vault)
  let reserve1 ← fetchTokenBalance (replies.balance pool.token1Vault)
  return ⟨poolPk, mintPk, pool, reserve0, reserve1⟩

def buyOn (loaded : LoadedPool) (solAmount : ℚ) : List Instruction :=
  let pool := loaded.pool
  let isBaseIn := pool.token0Mint.val == wsol
  let amountIn := lamportsIn r solAmount
  let (_, minAmountOut) :=
    (computeSwapAmount loaded.reserve0 loaded.reserve1 isBaseIn amountIn slippageBps).value
  let userWsolAta := d.associatedTokenAddress payer wsol splToken
  let userTokenAta := d.associatedTokenAddress payer loaded.mintPk
    (if isBaseIn then pool.token1Program.val else pool.token0Program.val)
  let (inputVault, outputVault) :=
    if isBaseIn then (pool.token0Vault.val, pool.token1Vault.val)
    else (pool.token1Vault.val, pool.token0Vault.val)
  let (inputTokenProgram, outputTokenProgram) :=
    if isBaseIn then (splToken, pool.token1Program.val)
    else (pool.token0Program.val, splToken)
  [ d.createAssociatedTokenAccountIdempotent payer payer wsol splToken,
    .transfer payer userWsolAta amountIn.toUInt64,
    .syncNative splToken userWsolAta,
    d.createAssociatedTokenAccountIdempotent payer payer loaded.mintPk outputTokenProgram,
    buildSwapInstruction loaded.poolPk pool payer
      ⟨userWsolAta, inputVault, inputTokenProgram, wsol⟩
      ⟨userTokenAta, outputVault, outputTokenProgram, loaded.mintPk⟩ amountIn minAmountOut,
    .closeAccount splToken userWsolAta payer payer]

def buildBuyInstructions (solAmount : ℚ) : Except PoolError (List Instruction) :=
  (loadPool poolAddress mint replies).map fun loaded =>
    buyOn d r slippageBps payer loaded solAmount

def sellOn (loaded : LoadedPool) (tokenAmount : Nat) : List Instruction :=
  let pool := loaded.pool
  let isBaseIn := pool.token0Mint.val == loaded.mintPk
  let (_, minAmountOut) :=
    (computeSwapAmount loaded.reserve0 loaded.reserve1 isBaseIn tokenAmount slippageBps).value
  let mintTokenProgram := if isBaseIn then pool.token0Program.val else pool.token1Program.val
  let userTokenAta := d.associatedTokenAddress payer loaded.mintPk mintTokenProgram
  let userWsolAta := d.associatedTokenAddress payer wsol splToken
  let (inputVault, outputVault) :=
    if isBaseIn then (pool.token0Vault.val, pool.token1Vault.val)
    else (pool.token1Vault.val, pool.token0Vault.val)
  let (inputTokenProgram, outputTokenProgram) :=
    if isBaseIn then (pool.token0Program.val, splToken)
    else (pool.token1Program.val, splToken)
  [ d.createAssociatedTokenAccountIdempotent payer payer wsol splToken,
    buildSwapInstruction loaded.poolPk pool payer
      ⟨userTokenAta, inputVault, inputTokenProgram, loaded.mintPk⟩
      ⟨userWsolAta, outputVault, outputTokenProgram, wsol⟩ tokenAmount minAmountOut,
    .closeAccount splToken userWsolAta payer payer]

def buildSellInstructions (tokenAmount : Nat) : Except PoolError (List Instruction) :=
  (loadPool poolAddress mint replies).map fun loaded =>
    sellOn d slippageBps payer loaded tokenAmount

end

end RaydiumCpmm

end Girasol
