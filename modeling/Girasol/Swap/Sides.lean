import Girasol.Swap.Builders

/-!
# The sides of a Raydium swap

A swap is right when what it calls its input and its output are the wallet's
accounts, the pool's vaults and the token programs of the mints it is meant to
trade, and the least it accepts follows from the reserves of these sides.
-/

namespace Girasol

open Foundation

def callsOf (program : Pubkey) (ixs : List Instruction) : List Instruction :=
  ixs.filter fun ix => ix.programId == program

/-! The programs that the instructions around a swap call. -/

@[simp] theorem programId_createAssociatedTokenAccount (d : Derivation)
    (funder wallet mint tokenProgram : Pubkey) :
    (d.createAssociatedTokenAccountIdempotent funder wallet mint tokenProgram).programId =
      keyOf associatedTokenProgram := by
  rw [Derivation.createAssociatedTokenAccountIdempotent]

@[simp] theorem programId_transfer (fromKey toKey : Pubkey) (lamports : UInt64) :
    (Instruction.transfer fromKey toKey lamports).programId = List.replicate 32 0 := rfl

@[simp] theorem programId_syncNative (tokenProgram account : Pubkey) :
    (Instruction.syncNative tokenProgram account).programId = tokenProgram := rfl

@[simp] theorem programId_closeAccount (tokenProgram account destination owner : Pubkey) :
    (Instruction.closeAccount tokenProgram account destination owner).programId =
      tokenProgram := rfl

def filledKey (byte : UInt8) : PoolKey := ⟨List.replicate 32 byte, List.length_replicate⟩

/-! ## Raydium V4 -/

namespace RaydiumV4

theorem other_programs : keyOf associatedTokenProgram ≠ keyOf raydiumV4 ∧
    List.replicate 32 0 ≠ keyOf raydiumV4 ∧ splToken ≠ keyOf raydiumV4 := by
  decide +kernel

section

variable (d : Derivation) (slippageBps : Nat) (payer : Pubkey) (replies : PoolReplies)

/-- The pool as the network serves it, with the balances of its two vaults. -/
structure Serves (ammInfo : AmmInfo) (coinReserve pcReserve : Nat) : Prop where
  account : ∃ data, poolAccountData ammAccount.missing replies.account = .ok data ∧
    ammAccount.Holds data ammInfo
  coin : fetchTokenBalance (replies.balance ammInfo.tokenCoin) = .ok coinReserve
  pc : fetchTokenBalance (replies.balance ammInfo.tokenPc) = .ok pcReserve

/-- The least a swap of one mint accepts, given the reserves of the coin and the pc side. -/
def leastOut (ammInfo : AmmInfo) (coinReserve pcReserve : Nat) (input : Pubkey)
    (amountIn : Nat) : Nat :=
  let (reserveIn, reserveOut) :=
    if ammInfo.coinMint.val = input then (coinReserve, pcReserve) else (pcReserve, coinReserve)
  (computeSwapAmount reserveIn reserveOut true amountIn slippageBps).value.2

variable (amm : Pubkey) (ammInfo : AmmInfo) (input output : Pubkey) (amountIn leastOut : Nat)
  (ixs : List Instruction)

/-- The instructions swap once, on this pool, between the wallet's accounts of two mints. -/
def Swaps : Prop :=
  callsOf (keyOf raydiumV4) ixs =
    [buildSwapBaseInInstruction amm ammInfo (d.associatedTokenAddress payer input splToken)
      (d.associatedTokenAddress payer output splToken) payer amountIn leastOut]

/-- SOL is wrapped before anything else. -/
def Wraps : Prop :=
  [d.createAssociatedTokenAccountIdempotent payer payer wsol splToken,
    .transfer payer (d.associatedTokenAddress payer wsol splToken) amountIn.toUInt64,
    .syncNative splToken (d.associatedTokenAddress payer wsol splToken)] <+: ixs

/--
The instructions swap once between the accounts of the two mints; they create
the account they swap into, wrap the SOL they swap and unwrap what is left.
-/
structure Sound : Prop where
  created : d.createAssociatedTokenAccountIdempotent payer payer output splToken ∈ ixs
  wrapped : input = wsol → Wraps d payer amountIn ixs
  swap : Swaps d payer amm ammInfo input output amountIn leastOut ixs
  unwrapped : ixs.getLast? =
    some (.closeAccount splToken (d.associatedTokenAddress payer wsol splToken) payer payer)

end

variable {d : Derivation} {r : Rounding} {ammAddress mint : String} {slippageBps : Nat}
  {payer : Pubkey} {replies : PoolReplies} {pool : LoadedAmm}

theorem loadAmm_eq (hamm : parseKey ammAddress = .ok pool.amm)
    (hmint : parseKey mint = .ok pool.mintPk)
    (hserves : Serves replies pool.ammInfo pool.coinReserve pool.pcReserve) :
    loadAmm ammAddress mint replies = .ok pool := by
  have hfetch : fetchAmmInfo replies.account = .ok pool.ammInfo :=
    PoolAccount.fetch_eq_ok_iff.mpr hserves.account
  simp only [loadAmm, hamm, hmint, hfetch, hserves.coin, hserves.pc, bind, Except.bind]
  rfl

@[simp] theorem programId_swap (amm : Pubkey) (ammInfo : AmmInfo) (source dest user : Pubkey)
    (amountIn minAmountOut : Nat) :
    (buildSwapBaseInInstruction amm ammInfo source dest user amountIn minAmountOut).programId =
      keyOf raydiumV4 := by
  rw [buildSwapBaseInInstruction]

theorem source_swap (amm : Pubkey) (ammInfo : AmmInfo) (source dest user : Pubkey)
    (amountIn minAmountOut : Nat) :
    (buildSwapBaseInInstruction amm ammInfo source dest user amountIn minAmountOut).accounts[14]? =
      some (.writable source false) := rfl

theorem swaps_buyOn (solAmount : ℚ) :
    Swaps d payer pool.amm pool.ammInfo
      (if pool.ammInfo.coinMint.val = wsol then wsol else pool.mintPk)
      (if pool.ammInfo.coinMint.val = wsol then pool.mintPk else wsol) (lamportsIn r solAmount)
      (leastOut slippageBps pool.ammInfo pool.coinReserve pool.pcReserve wsol
        (lamportsIn r solAmount)) (buyOn d r slippageBps payer pool solAmount) := by
  obtain ⟨hata, hsystem, htoken⟩ := other_programs
  simp only [Swaps, callsOf, buyOn, List.filter_cons, programId_createAssociatedTokenAccount,
    programId_transfer, programId_syncNative, programId_closeAccount, programId_swap, beq_iff_eq,
    hata, hsystem, htoken, if_false, if_true, List.filter_nil, leastOut]
  by_cases hbase : pool.ammInfo.coinMint.val = wsol
  · simp only [hbase, beq_self_eq_true, if_true]
  · have hbeq : (pool.ammInfo.coinMint.val == wsol) = false := beq_false_of_ne hbase
    simp only [hbase, hbeq, if_false]
    rfl

private theorem swaps_sellOn (tokenAmount : Nat) :
    Swaps d payer pool.amm pool.ammInfo pool.mintPk wsol tokenAmount
      (leastOut slippageBps pool.ammInfo pool.coinReserve pool.pcReserve pool.mintPk tokenAmount)
      (sellOn d slippageBps payer pool tokenAmount) := by
  obtain ⟨hata, -, htoken⟩ := other_programs
  simp only [Swaps, callsOf, sellOn, List.filter_cons, programId_createAssociatedTokenAccount,
    programId_closeAccount, programId_swap, beq_iff_eq, hata, htoken, if_false, if_true,
    List.filter_nil, leastOut]
  by_cases hbase : pool.ammInfo.coinMint.val = pool.mintPk
  · simp only [hbase, beq_self_eq_true, if_true]
  · have hbeq : (pool.ammInfo.coinMint.val == pool.mintPk) = false := beq_false_of_ne hbase
    simp only [hbase, hbeq, if_false]
    rfl

theorem wraps_buyOn (solAmount : ℚ) :
    Wraps d payer (lamportsIn r solAmount) (buyOn d r slippageBps payer pool solAmount) :=
  ⟨_, rfl⟩

private theorem sound_buyOn_iff (hatas : d.associatedTokenAddress payer wsol splToken ≠
      d.associatedTokenAddress payer pool.mintPk splToken) (solAmount : ℚ) :
    Sound d payer pool.amm pool.ammInfo wsol pool.mintPk (lamportsIn r solAmount)
        (leastOut slippageBps pool.ammInfo pool.coinReserve pool.pcReserve wsol
          (lamportsIn r solAmount)) (buyOn d r slippageBps payer pool solAmount) ↔
      pool.ammInfo.coinMint.val = wsol := by
  constructor
  · intro hsound
    have hcalls := (swaps_buyOn solAmount).symm.trans hsound.swap
    rw [List.singleton_inj] at hcalls
    have hsource := congrArg (fun ix => ix.accounts[14]?) hcalls
    simp only [source_swap, Option.some.injEq, AccountMeta.writable, AccountMeta.mk.injEq,
      and_true] at hsource
    by_contra hbase
    rw [if_neg hbase] at hsource
    exact hatas hsource.symm
  · intro hbase
    refine ⟨by simp [buyOn], fun _ => wraps_buyOn solAmount, ?_, rfl⟩
    have hswaps : Swaps d payer pool.amm pool.ammInfo _ _ _ _
        (buyOn d r slippageBps payer pool solAmount) := swaps_buyOn solAmount
    rwa [if_pos hbase, if_pos hbase] at hswaps

private theorem sound_sellOn (hne : pool.mintPk ≠ wsol) (tokenAmount : Nat) :
    Sound d payer pool.amm pool.ammInfo pool.mintPk wsol tokenAmount
      (leastOut slippageBps pool.ammInfo pool.coinReserve pool.pcReserve pool.mintPk tokenAmount)
      (sellOn d slippageBps payer pool tokenAmount) :=
  ⟨by simp [sellOn], fun heq => absurd heq hne, swaps_sellOn tokenAmount, rfl⟩

def AmmInfo.pairing (coinMint pcMint : PoolKey) : AmmInfo where
  status := 6
  nonce := 254
  orderNum := 7
  depth := 3
  coinDecimals := 6
  pcDecimals := 9
  state := 2
  resetFlag := 0
  minSize := 1
  volMaxCutRatio := 500
  amountWave := 0
  coinLotSize := 1
  pcLotSize := 1
  minPriceMultiplier := 1
  maxPriceMultiplier := 1000000000
  sysDecimalValue := 1000000000
  fees := ⟨5, 10000, 25, 10000, 12, 100, 25, 10000⟩
  outPut := ⟨0, 0, 0, 0, 0, 0, 0, 0, 0, 0, 0, 0, 0, 0⟩
  tokenCoin := filledKey 1
  tokenPc := filledKey 2
  coinMint := coinMint
  pcMint := pcMint
  lpMint := filledKey 3
  openOrders := filledKey 4
  market := filledKey 5
  serumDex := filledKey 6
  targetOrders := filledKey 7
  withdrawQueue := filledKey 8
  tokenTempLp := filledKey 9
  ammOwner := filledKey 10
  lpAmount := 0
  clientOrderId := 0
  padding := ⟨[0, 0], rfl⟩

def tokenFirst : AmmInfo :=
  .pairing ⟨keyOf systemProgram, by decide +kernel⟩ ⟨wsol, by decide +kernel⟩

def servedPool (data : List UInt8) : PoolReplies where
  account := poolReply data
  balance := fun _ => .ok (.object [("result", .object [("value", .object [
    ("amount", .string "1000000000")])])])

private theorem servedPool_tokenFirst :
    Serves (servedPool (AmmInfo.layout.bytes tokenFirst)) tokenFirst 1000000000 1000000000 where
  account := ⟨_, poolAccountData_poolReply _ _, [], [], rfl, by simp [ammAccount]⟩
  coin := by decide +kernel
  pc := by decide +kernel

/-- On this pool the buy is the wrong way round. -/
example : tokenFirst.coinMint.val ≠ wsol := by decide +kernel

end RaydiumV4

/-! ## Raydium CPMM -/

namespace RaydiumCpmm

theorem other_programs : keyOf associatedTokenProgram ≠ keyOf raydiumCpmm ∧
    List.replicate 32 0 ≠ keyOf raydiumCpmm ∧ splToken ≠ keyOf raydiumCpmm := by
  decide +kernel

section

variable (d : Derivation) (slippageBps : Nat) (payer : Pubkey) (replies : PoolReplies)
  (pool : CpmmPoolState)

/-- The pool as the network serves it, with the balances of its two vaults. -/
structure Serves (reserve0 reserve1 : Nat) : Prop where
  account : ∃ data, poolAccountData poolAccount.missing replies.account = .ok data ∧
    poolAccount.Holds data pool
  vault0 : fetchTokenBalance (replies.balance pool.token0Vault) = .ok reserve0
  vault1 : fetchTokenBalance (replies.balance pool.token1Vault) = .ok reserve1

/-- The pool trades wrapped SOL, which the SPL token program keeps, for a mint. -/
def TradesWsol (mint : Pubkey) : Prop :=
  mint ≠ wsol ∧
    (pool.token0Mint.val = wsol ∧ pool.token0Program.val = splToken ∧
        pool.token1Mint.val = mint ∨
      pool.token0Mint.val = mint ∧ pool.token1Mint.val = wsol ∧
        pool.token1Program.val = splToken)

def sideOf (mint : Pubkey) : SwapSide :=
  if pool.token0Mint.val = mint then
    ⟨d.associatedTokenAddress payer mint pool.token0Program, pool.token0Vault, pool.token0Program,
      mint⟩
  else
    ⟨d.associatedTokenAddress payer mint pool.token1Program, pool.token1Vault, pool.token1Program,
      mint⟩

def leastOut (reserve0 reserve1 : Nat) (input : Pubkey) (amountIn : Nat) : Nat :=
  let (reserveIn, reserveOut) :=
    if pool.token0Mint.val = input then (reserve0, reserve1) else (reserve1, reserve0)
  (computeSwapAmount reserveIn reserveOut true amountIn slippageBps).value.2

/-- The instructions swap once, between the two sides, and create the account they swap into. -/
structure Sound (poolPk input output : Pubkey) (amountIn leastOut : Nat)
    (ixs : List Instruction) : Prop where
  created : d.createAssociatedTokenAccountIdempotent payer payer output
    (sideOf d payer pool output).tokenProgram ∈ ixs
  swap : callsOf (keyOf raydiumCpmm) ixs =
    [buildSwapInstruction poolPk pool payer (sideOf d payer pool input)
      (sideOf d payer pool output) amountIn leastOut]

end

variable {d : Derivation} {r : Rounding} {poolAddress mint : String} {slippageBps : Nat}
  {payer : Pubkey} {replies : PoolReplies} {loaded : LoadedPool}

theorem loadPool_eq (hpool : parseKey poolAddress = .ok loaded.poolPk)
    (hmint : parseKey mint = .ok loaded.mintPk)
    (hserves : Serves replies loaded.pool loaded.reserve0 loaded.reserve1) :
    loadPool poolAddress mint replies = .ok loaded := by
  have hfetch : fetchPoolState replies.account = .ok loaded.pool :=
    PoolAccount.fetch_eq_ok_iff.mpr hserves.account
  simp only [loadPool, hpool, hmint, hfetch, hserves.vault0, hserves.vault1, bind, Except.bind]
  rfl

@[simp] theorem programId_swap (poolPk : Pubkey) (pool : CpmmPoolState) (payer : Pubkey)
    (input output : SwapSide) (amountIn minAmountOut : Nat) :
    (buildSwapInstruction poolPk pool payer input output amountIn minAmountOut).programId =
      keyOf raydiumCpmm := by
  rw [buildSwapInstruction]

private theorem callsOf_buyOn (hpair : TradesWsol loaded.pool loaded.mintPk) (solAmount : ℚ) :
    callsOf (keyOf raydiumCpmm) (buyOn d r slippageBps payer loaded solAmount) =
      [buildSwapInstruction loaded.poolPk loaded.pool payer
        { sideOf d payer loaded.pool wsol with
          tokenProgram :=
            if loaded.pool.token0Mint.val = wsol then splToken else loaded.pool.token0Program }
        { sideOf d payer loaded.pool loaded.mintPk with
          tokenProgram :=
            if loaded.pool.token0Mint.val = wsol then loaded.pool.token1Program else splToken }
        (lamportsIn r solAmount)
        (leastOut slippageBps loaded.pool loaded.reserve0 loaded.reserve1 wsol
          (lamportsIn r solAmount))] := by
  obtain ⟨hata, hsystem, htoken⟩ := other_programs
  simp only [callsOf, buyOn, List.filter_cons, programId_createAssociatedTokenAccount,
    programId_transfer, programId_syncNative, programId_closeAccount, programId_swap, beq_iff_eq,
    hata, hsystem, htoken, if_false, if_true, List.filter_nil, leastOut, sideOf]
  obtain ⟨hne, ⟨hzero, hprogram, hone⟩ | ⟨hzero, hone, hprogram⟩⟩ := hpair
  · simp only [hzero, hprogram, beq_self_eq_true, if_true, hne.symm, if_false]
  · have hbeq : (loaded.mintPk == wsol) = false := beq_false_of_ne hne
    simp only [hzero, hprogram, hbeq, if_true, hne, if_false]
    rfl

private theorem callsOf_sellOn (hpair : TradesWsol loaded.pool loaded.mintPk) (tokenAmount : Nat) :
    callsOf (keyOf raydiumCpmm) (sellOn d slippageBps payer loaded tokenAmount) =
      [buildSwapInstruction loaded.poolPk loaded.pool payer
        (sideOf d payer loaded.pool loaded.mintPk) (sideOf d payer loaded.pool wsol) tokenAmount
        (leastOut slippageBps loaded.pool loaded.reserve0 loaded.reserve1 loaded.mintPk
          tokenAmount)] := by
  obtain ⟨hata, -, htoken⟩ := other_programs
  simp only [callsOf, sellOn, List.filter_cons, programId_createAssociatedTokenAccount,
    programId_closeAccount, programId_swap, beq_iff_eq, hata, htoken, if_false, if_true,
    List.filter_nil, leastOut, sideOf]
  obtain ⟨hne, ⟨hzero, hprogram, hone⟩ | ⟨hzero, hone, hprogram⟩⟩ := hpair
  · have hbeq : (wsol == loaded.mintPk) = false := beq_false_of_ne hne.symm
    simp only [hzero, hprogram, hbeq, if_true, hne.symm, if_false]
    rfl
  · simp only [hzero, hprogram, beq_self_eq_true, if_true, hne, if_false]

theorem inputProgram_swap (poolPk : Pubkey) (pool : CpmmPoolState) (payer : Pubkey)
    (input output : SwapSide) (amountIn minAmountOut : Nat) :
    (buildSwapInstruction poolPk pool payer input output amountIn minAmountOut).accounts[8]? =
      some (.readonly input.tokenProgram false) := rfl

private theorem sound_buyOn_iff (hpair : TradesWsol loaded.pool loaded.mintPk) (solAmount : ℚ) :
    Sound d payer loaded.pool loaded.poolPk wsol loaded.mintPk (lamportsIn r solAmount)
        (leastOut slippageBps loaded.pool loaded.reserve0 loaded.reserve1 wsol
          (lamportsIn r solAmount)) (buyOn d r slippageBps payer loaded solAmount) ↔
      loaded.pool.token0Mint.val = wsol ∨ loaded.pool.token0Program.val = splToken := by
  have hcalls : callsOf (keyOf raydiumCpmm) (buyOn d r slippageBps payer loaded solAmount) = _ :=
    callsOf_buyOn hpair solAmount
  obtain ⟨hne, ⟨hzero, hprogram, hone⟩ | ⟨hzero, hone, hprogram⟩⟩ := hpair
  · refine iff_of_true ⟨?_, ?_⟩ (.inl hzero)
    · simp [buyOn, sideOf, hzero, hne.symm]
    · rw [hcalls]
      simp [sideOf, hzero, hprogram, hne.symm]
  · have hother : loaded.pool.token0Mint.val ≠ wsol := hzero ▸ hne
    constructor
    · rintro ⟨-, hswap⟩
      rw [hcalls, List.singleton_inj] at hswap
      have haccount := congrArg (fun ix => ix.accounts[8]?) hswap
      simp only [inputProgram_swap, hother, if_false, sideOf, hprogram, Option.some.injEq,
        AccountMeta.readonly, AccountMeta.mk.injEq, and_true] at haccount
      exact .inr haccount
    · rintro (hfirst | hspl)
      · exact absurd hfirst hother
      · refine ⟨?_, ?_⟩
        · simp [buyOn, sideOf, hzero, hne, hspl]
        · rw [hcalls]
          simp [sideOf, hzero, hprogram, hne, hspl]

private theorem sound_sellOn (hpair : TradesWsol loaded.pool loaded.mintPk) (tokenAmount : Nat) :
    Sound d payer loaded.pool loaded.poolPk loaded.mintPk wsol tokenAmount
      (leastOut slippageBps loaded.pool loaded.reserve0 loaded.reserve1 loaded.mintPk tokenAmount)
      (sellOn d slippageBps payer loaded tokenAmount) := by
  refine ⟨?_, callsOf_sellOn hpair tokenAmount⟩
  have hprogram : (sideOf d payer loaded.pool wsol).tokenProgram = splToken := by
    obtain ⟨hne, ⟨hzero, hprogram, -⟩ | ⟨hzero, -, hprogram⟩⟩ := hpair
    · simp only [sideOf, hzero, if_true, hprogram]
    · simp only [sideOf, hzero, hne, if_false, hprogram]
  rw [hprogram]
  exact List.mem_cons_self

def token2022First : CpmmPoolState where
  ammConfig := filledKey 1
  poolCreator := filledKey 2
  token0Vault := filledKey 3
  token1Vault := filledKey 4
  lpMint := filledKey 5
  token0Mint := ⟨keyOf systemProgram, by decide +kernel⟩
  token1Mint := ⟨wsol, by decide +kernel⟩
  token0Program := ⟨keyOf token2022Program, by decide +kernel⟩
  token1Program := ⟨splToken, by decide +kernel⟩
  observationKey := filledKey 6
  authBump := 253
  status := 0
  lpMintDecimals := 9
  mint0Decimals := 6
  mint1Decimals := 9
  lpSupply := 1000
  protocolFeesToken0 := 0
  protocolFeesToken1 := 0
  fundFeesToken0 := 0
  fundFeesToken1 := 0
  openTime := 0
  recentEpoch := 700
  padding := ⟨List.replicate 31 0, rfl⟩

def servedPool : PoolReplies :=
  RaydiumV4.servedPool (List.replicate 8 0 ++ CpmmPoolState.layout.bytes token2022First)

private theorem servedPool_token2022First :
    Serves servedPool token2022First 1000000000 1000000000 where
  account := ⟨_, poolAccountData_poolReply _ _, List.replicate 8 0, [], rfl,
    by simp [poolAccount]⟩
  vault0 := by decide +kernel
  vault1 := by decide +kernel

private theorem tradesWsol_token2022First : TradesWsol token2022First (keyOf systemProgram) :=
  ⟨by decide +kernel, .inr ⟨rfl, rfl, rfl⟩⟩

/-- On this pool the buy names the wrong token programs. -/
example : token2022First.token0Mint.val ≠ wsol ∧
    token2022First.token0Program.val ≠ splToken := by
  decide +kernel

end RaydiumCpmm

end Girasol
