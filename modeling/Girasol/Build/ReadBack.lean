import Girasol.Build.BuyTemplate
import Girasol.Build.PumpSwap
import Girasol.Detect.PairedTransaction

/-!
# The bot's own trades as its listeners read them

A built instruction is compiled against a table of keys and parsed again.  The
parsers find in it what the builders put there.
-/

namespace Girasol

open Foundation

/-! ## Compiled instructions -/

structure KeyTable (ix : Instruction) where
  keys : List Pubkey
  known : ∀ key ∈ ix.keys, key ∈ keys
  length_le : keys.length ≤ 256

namespace KeyTable

variable {ix : Instruction} (table : KeyTable ix)

def compiled : Geyser.CompiledInstruction :=
  let compiled := Message.compileInstruction table.keys ix
  ⟨compiled.programIdIndex, compiled.accounts.map Nat.toUInt8, compiled.data⟩

@[simp] theorem compiled_programIdIndex :
    table.compiled.programIdIndex = table.keys.idxOf ix.programId := rfl

@[simp] theorem compiled_data : table.compiled.data = ix.data := rfl

theorem length_compiled_accounts : table.compiled.accounts.length = ix.accounts.length := by
  simp [compiled, Message.compileInstruction]

theorem pubkey_mem {am : AccountMeta} (ham : am ∈ ix.accounts) : am.pubkey ∈ table.keys := by
  apply table.known
  exact List.mem_cons_of_mem _ (List.mem_map_of_mem ham)

theorem getElem?_toUInt8 {key : Pubkey} (hkey : key ∈ table.keys) :
    table.keys[(table.keys.idxOf key).toUInt8.toNat]? = some key := by
  have hlt := List.idxOf_lt_length_iff.mpr hkey
  have hle := table.length_le
  have hindex : (table.keys.idxOf key).toUInt8.toNat = table.keys.idxOf key := by
    simp only [Nat.toUInt8, UInt8.toNat_ofNat']
    omega
  rw [hindex, List.getElem?_eq_getElem hlt, List.getElem_idxOf]

theorem accountKey_compiled (index : Nat) :
    Geyser.accountKey table.keys index table.compiled =
      ix.accounts[index]?.map AccountMeta.pubkey := by
  simp only [Geyser.accountKey, compiled, Message.compileInstruction, List.getElem?_map]
  cases hmeta : ix.accounts[index]? with
  | none => rfl
  | some am =>
      have hmem := table.pubkey_mem (List.mem_of_getElem? hmeta)
      simpa using table.getElem?_toUInt8 hmem

theorem accountStrings_compiled :
    Geyser.accountStrings table.keys table.compiled =
      ix.accounts.map fun am => encodeBase58 am.pubkey := by
  have hfound : ix.accounts.filterMap
      (fun am => table.keys[(table.keys.idxOf am.pubkey).toUInt8.toNat]?) =
        ix.accounts.map AccountMeta.pubkey := by
    rw [← List.filterMap_eq_map]
    apply List.filterMap_congr
    intro am ham
    exact table.getElem?_toUInt8 (table.pubkey_mem ham)
  simp only [Geyser.accountStrings, compiled, Message.compileInstruction, List.map_map,
    List.filterMap_map]
  exact (congrArg (List.map encodeBase58) hfound).trans (List.map_map)

end KeyTable

/-! ## The data of a trade -/

section

variable {discriminator rest : List UInt8} {amount limit : Nat}

def tradeData (discriminator : List UInt8) (amount limit : Nat) (rest : List UInt8) : List UInt8 :=
  discriminator ++ (leBytes 8 amount ++ (leBytes 8 limit ++ rest))

theorem hasDiscriminator_tradeData (hlength : discriminator.length = 8)
    (other : List UInt8) :
    hasDiscriminator other (tradeData discriminator amount limit rest) =
      (discriminator == other) := by
  simp [hasDiscriminator, tradeData, hlength]

@[simp] theorem length_tradeData (hlength : discriminator.length = 8) :
    (tradeData discriminator amount limit rest).length = 24 + rest.length := by
  simp only [tradeData, List.length_append, length_leBytes, hlength]
  omega

theorem u64At_amount (hlength : discriminator.length = 8) (hamount : amount < 2 ^ 64) :
    u64At 8 (tradeData discriminator amount limit rest) = some amount := by
  rw [u64At_of_le (by rw [length_tradeData hlength]; omega), tradeData, ← hlength,
    List.drop_left, hlength, List.take_append_of_le_length (by simp),
    List.take_of_length_le (by simp), leValue_leBytes, Nat.mod_eq_of_lt (by simpa using hamount)]

theorem u64At_limit (hlength : discriminator.length = 8) (hlimit : limit < 2 ^ 64) :
    u64At 16 (tradeData discriminator amount limit rest) = some limit := by
  have hheader : (discriminator ++ leBytes 8 amount).length = 16 := by simp [hlength]
  rw [u64At_of_le (by rw [length_tradeData hlength]; omega), tradeData, ← List.append_assoc,
    ← hheader, List.drop_left, List.take_append_of_le_length (by simp),
    List.take_of_length_le (by simp), leValue_leBytes, Nat.mod_eq_of_lt (by simpa using hlimit)]

end

/-! ## The parsers on compiled trades -/

namespace KeyTable

variable {ix : Instruction} (table : KeyTable ix) {amount limit : Nat} {rest : List UInt8}
  {mint pool : Pubkey}

theorem accountKey_eq {index : Nat} {key : Pubkey}
    (hkey : (ix.accounts.map AccountMeta.pubkey)[index]? = some key) :
    Geyser.accountKey table.keys index table.compiled = some key := by
  rw [accountKey_compiled, ← List.getElem?_map, hkey]

theorem checkInstruction_buy (hdata : ix.data = tradeData buyDiscriminator amount limit rest)
    (hamount : amount < 2 ^ 64) (hlimit : limit < 2 ^ 64)
    (hmint : (ix.accounts.map AccountMeta.pubkey)[2]? = some mint) :
    Geyser.checkInstruction .exact table.keys none (table.keys.idxOf ix.programId)
        table.compiled =
      (some {
        mint := encodeBase58 mint
        tokenAmount := some amount
        solAmount := some (limit / 1000000000)
        pool := none
        accounts := ix.accounts.map fun am => encodeBase58 am.pubkey }, none) := by
  have hlength : 3 ≤ table.compiled.accounts.length := by
    obtain ⟨hlt, -⟩ := List.getElem?_eq_some_iff.mp hmint
    rw [List.length_map] at hlt
    rw [length_compiled_accounts]
    omega
  unfold Geyser.checkInstruction
  rw [compiled_data, hdata, hasDiscriminator_tradeData rfl, u64At_amount rfl hamount,
    u64At_limit rfl hlimit, accountKey_eq table hmint, accountStrings_compiled]
  simp [compiled_programIdIndex, hlength, Geyser.spent, lamportsToSol, Rounding.div,
    Rounding.ofU64, Rounding.exact]

theorem checkPumpswapIx_trade {discriminator : List UInt8} {isBuy : Bool}
    (hside : discriminator = if isBuy then buyDiscriminator else sellDiscriminator)
    (hdata : ix.data = tradeData discriminator amount limit rest)
    (hamount : amount < 2 ^ 64) (hlimit : limit < 2 ^ 64) (haccounts : 17 ≤ ix.accounts.length)
    (hpool : (ix.accounts.map AccountMeta.pubkey)[0]? = some pool)
    (hmint : (ix.accounts.map AccountMeta.pubkey)[3]? = some mint) :
    Geyser.checkPumpswapIx .exact table.keys none (table.keys.idxOf ix.programId)
        table.compiled =
      if isBuy then
        (some {
          mint := encodeBase58 mint
          tokenAmount := some amount
          solAmount := some (limit / 1000000000)
          pool := some (encodeBase58 pool)
          accounts := ix.accounts.map fun am => encodeBase58 am.pubkey }, none)
      else
        (none, some {
          mint := encodeBase58 mint
          tokenAmount := some amount
          solReceived := some (limit / 1000000000) }) := by
  have hlength : discriminator.length = 8 := by
    subst hside
    cases isBuy <;> rfl
  have hlong : ¬ (ix.data.length < 24 ∨ table.compiled.accounts.length < 17) := by
    rw [hdata, length_tradeData hlength, length_compiled_accounts]
    omega
  unfold Geyser.checkPumpswapIx
  rw [compiled_data, hdata, hasDiscriminator_tradeData hlength,
    hasDiscriminator_tradeData hlength, u64At_amount hlength hamount,
    u64At_limit hlength hlimit, accountKey_eq table hmint, accountKey_eq table hpool,
    accountStrings_compiled, ← hdata]
  subst hside
  cases isBuy <;>
    simp [compiled_programIdIndex, hlong, Geyser.spent, Geyser.received, lamportsToSol,
      Rounding.div, Rounding.ofU64, Rounding.exact, buyDiscriminator, sellDiscriminator]

end KeyTable

private theorem pumpswapData_encodeBase58 {discriminator : List UInt8} {isBuy : Bool}
    {amount limit : Nat}
    (hside : discriminator = if isBuy then buyDiscriminator else sellDiscriminator) :
    CopyEngine.pumpswapData (encodeBase58 (tradeData discriminator amount limit [])) =
      some (tradeData discriminator amount limit []) := by
  have hnone : decodeBase64 (encodeBase58 (tradeData discriminator amount limit [])) = none := by
    subst hside
    cases isBuy with
    | true => exact @decodeBase64_encodeBase58 102 _ 32 (by simp) (by simp) (by norm_num)
    | false => exact @decodeBase64_encodeBase58 51 _ 32 (by simp) (by simp) (by norm_num)
  rw [CopyEngine.pumpswapData, hnone, decodeBase58_encodeBase58]
  rfl

namespace KeyTable

variable {ix : Instruction} (table : KeyTable ix) {amount limit : Nat} {mint pool : Pubkey}

theorem parsePumpswapInstruction_trade {discriminator : List UInt8} {isBuy : Bool} {instr : Json}
    {quoteMint : Pubkey} (hjson : InstructionJson instr table.compiled)
    (hside : discriminator = if isBuy then buyDiscriminator else sellDiscriminator)
    (hdata : ix.data = tradeData discriminator amount limit [])
    (hamount : amount < 2 ^ 64) (hlimit : limit < 2 ^ 64) (haccounts : 17 ≤ ix.accounts.length)
    (hpool : (ix.accounts.map AccountMeta.pubkey)[0]? = some pool)
    (hmint : (ix.accounts.map AccountMeta.pubkey)[3]? = some mint)
    (hquote : (ix.accounts.map AccountMeta.pubkey)[4]? = some quoteMint) :
    CopyEngine.parsePumpswapInstruction (table.keys.map encodeBase58)
        (table.keys.idxOf ix.programId) instr =
      some (isBuy, {
        accounts := ix.accounts.map fun am => encodeBase58 am.pubkey
        pool := encodeBase58 pool
        baseMint := encodeBase58 mint
        quoteMint := encodeBase58 quoteMint
        tokenAmount := amount
        solAmount := limit }) := by
  have hlength : discriminator.length = 8 := by
    subst hside
    cases isBuy <;> rfl
  have hindices : (CopyEngine.accountIndices instr).length = ix.accounts.length := by
    rw [PairedTransaction.accountIndices_json hjson, List.length_map, length_compiled_accounts]
  unfold CopyEngine.parsePumpswapInstruction
  rw [hjson.programIdIndex, hjson.data, PairedTransaction.knownAccounts_json hjson,
    PairedTransaction.accountKey_json hjson, PairedTransaction.accountKey_json hjson,
    PairedTransaction.accountKey_json hjson, accountKey_eq table hpool, accountKey_eq table hmint,
    accountKey_eq table hquote, accountStrings_compiled, atLeast_of_le (hindices ▸ haccounts),
    atLeast_of_le (by simpa using haccounts), compiled_data, hdata]
  simp only [Json.asStr, Option.bind_eq_bind, Option.bind_some, pumpswapData_encodeBase58 hside,
    hasDiscriminator_tradeData hlength, u64At_amount hlength hamount, u64At_limit hlength hlimit]
  subst hside
  cases isBuy <;> simp [compiled_programIdIndex, Json.asU64, buyDiscriminator, sellDiscriminator]

theorem tryParsePumpBuyInstruction_buy {p : Platform} {instr : Json} {rest : List UInt8}
    (hp : PairedTransaction.AcceptsKeys p) (hexact : p.rounding = .exact)
    (hjson : InstructionJson instr table.compiled)
    (hdata : ix.data = tradeData buyDiscriminator amount limit rest)
    (hamount : amount < 2 ^ 64) (hlimit : limit < 2 ^ 64) (hlength : mint.length = 32)
    (hmint : (ix.accounts.map AccountMeta.pubkey)[2]? = some mint) :
    CopyEngine.tryParsePumpBuyInstruction p (table.keys.map encodeBase58)
        (table.keys.idxOf ix.programId) instr =
      some {
        mint := encodeBase58 mint
        solAmount := some (limit / 1000000000)
        tokenAmount := some amount
        ammPool := none
        targetPumpAccounts :=
          atLeast 17 (ix.accounts.map fun am => encodeBase58 am.pubkey) } := by
  obtain ⟨pubkey, hpubkey⟩ := Option.isSome_iff_exists.mp (hp mint hlength)
  have hheader := @hasDiscriminator_tradeData buyDiscriminator rest amount limit rfl
    buyDiscriminator
  have hinstr : CopyEngine.pumpInstruction p (table.keys.map encodeBase58) buyDiscriminator
      (table.keys.idxOf ix.programId) instr = some (ix.data, encodeBase58 mint) := by
    unfold CopyEngine.pumpInstruction
    rw [PairedTransaction.programIdIndex_json hjson, hjson.data,
      PairedTransaction.accountKey_json hjson, accountKey_eq table hmint, compiled_data]
    simp [compiled_programIdIndex, Json.asStr, decodeBase58_encodeBase58, hpubkey, hdata,
      hheader]
  unfold CopyEngine.tryParsePumpBuyInstruction
  rw [hinstr, Option.map_some, PairedTransaction.knownAccounts_json hjson, accountStrings_compiled,
    hdata]
  dsimp only
  rw [u64At_amount rfl hamount, u64At_limit rfl hlimit, hexact]
  simp [lamportsToSol, Rounding.div, Rounding.ofU64, Rounding.exact]

end KeyTable

/-! ## The built trades -/

theorem asU64_lt (x : ℚ) : asU64 x < 2 ^ 64 := by
  have hle := asU64_le_max x
  simp only [u64Max] at hle
  omega

namespace BuyTemplate

variable {d : Derivation} {idls : List (String × SimpleIdl)}
  {payer normal mayhem mint creatorPk : Pubkey} {cfg : Settings} {isMayhem : Bool}
  {t : BuyTemplate} {data : List UInt8}

theorem buyDiscriminator_pumpFunIdl :
    pumpFunIdl.getInstructionDiscriminator d "buy" = .ok Girasol.buyDiscriminator := rfl

theorem new_eq_ok_of_idl (hbuy : d.anchorDiscriminator "buy" = Girasol.buyDiscriminator)
    (hidl : idls.lookup "pumpfun" = some pumpFunIdl ∨
      ∀ key ∈ preferredIdls, idls.lookup key = none)
    (hnew : new d idls payer cfg normal mayhem = .ok t) :
    t.buyDiscriminator = Girasol.buyDiscriminator ∧
      (t.idl = none ∨ t.idl = some pumpFunIdl) := by
  unfold new at hnew
  obtain ⟨program, -, hfields⟩ := bind_eq_ok.mp hnew
  cases hfields
  rcases hidl with hidl | hnone
  · dsimp only
    rw [best_pumpFunIdl hidl]
    exact ⟨by simp [buyDiscriminator_pumpFunIdl, Except.toOption], Or.inr rfl⟩
  · have hbest : (preferredIdls.findSome? fun key =>
        (idls.lookup key).map fun idl => (key, idl)) = none := by
      rw [List.findSome?_eq_none_iff]
      intro key hkey
      rw [hnone key hkey, Option.map_none]
    dsimp only
    rw [hbest]
    exact ⟨hbuy, Or.inl rfl⟩

theorem buildBuyInstruction_eq_ok (hidl : t.idl = none ∨ t.idl = some pumpFunIdl) :
    ∃ ix, t.buildBuyInstruction d mint isMayhem (some creatorPk) data = .ok ix ∧
      ix.data = data ∧ (ix.accounts.map AccountMeta.pubkey)[2]? = some mint := by
  unfold buildBuyInstruction
  rcases hidl with hidl | hidl
  · rw [hidl]
    exact ⟨_, rfl, rfl, rfl⟩
  · rw [hidl]
    dsimp only
    rw [buildAccountsFor_context_some]
    exact ⟨_, rfl, rfl, rfl⟩

end BuyTemplate

namespace PumpSwap

open CopyEngine (PumpSwapAccounts)

/-- A target's accounts that the builders can use. -/
structure ValidTarget (target : PumpSwapAccounts) : Prop where
  length_le : 17 ≤ target.accounts.length
  accounts : ∀ acct ∈ target.accounts, ∃ key, parsePubkeyBytes acct = .ok key
  baseMint : ∃ key, parsePubkeyBytes target.baseMint = .ok key
  quoteMint : ∃ key, parsePubkeyBytes target.quoteMint = .ok key

variable {d : Derivation} {target : PumpSwapAccounts} {payer : Pubkey}

private theorem encodeBase58_of_parse {s : String} {key : Pubkey}
    (h : parsePubkeyBytes s = .ok key) :
    encodeBase58 key = s := by
  apply encodeBase58_of_decodeBase58
  unfold parsePubkeyBytes at h
  split at h
  case h_1 bytes hdecode =>
    split_ifs at h
    cases h
    exact hdecode
  case h_2 => cases h

theorem ValidTarget.account (h : ValidTarget target) {i : Nat} (hi : i < 17) :
    ∃ key, parsePubkeyBytes (target.accounts.getD i "") = .ok key := by
  have hlt : i < target.accounts.length := hi.trans_le h.length_le
  rw [List.getD_eq_getElem?_getD, List.getElem?_eq_getElem hlt, Option.getD_some]
  exact h.accounts _ (List.getElem_mem hlt)

theorem tradeAccounts_eq_ok (h : ValidTarget target) (side : String) :
    ∃ trade pool, tradeAccounts d target payer side = .ok trade ∧
      17 ≤ trade.accounts.length ∧
      (trade.accounts.map AccountMeta.pubkey)[0]? = some pool ∧
      (trade.accounts.map AccountMeta.pubkey)[3]? = some trade.baseMint ∧
      (trade.accounts.map AccountMeta.pubkey)[4]? = some trade.quoteMint ∧
      encodeBase58 pool = target.accounts.getD 0 "" ∧
      encodeBase58 trade.baseMint = target.baseMint ∧
      encodeBase58 trade.quoteMint = target.quoteMint := by
  obtain ⟨baseMint, hbase⟩ := h.baseMint
  obtain ⟨quoteMint, hquote⟩ := h.quoteMint
  obtain ⟨_, h0⟩ := h.account (i := 0) (by omega)
  obtain ⟨_, h2⟩ := h.account (i := 2) (by omega)
  obtain ⟨_, h7⟩ := h.account (i := 7) (by omega)
  obtain ⟨_, h8⟩ := h.account (i := 8) (by omega)
  obtain ⟨_, h9⟩ := h.account (i := 9) (by omega)
  obtain ⟨_, h10⟩ := h.account (i := 10) (by omega)
  obtain ⟨_, h11⟩ := h.account (i := 11) (by omega)
  obtain ⟨_, h12⟩ := h.account (i := 12) (by omega)
  obtain ⟨_, h15⟩ := h.account (i := 15) (by omega)
  unfold tradeAccounts
  rw [if_neg (by have hle := h.length_le; omega)]
  simp only [hbase, hquote, h0, h2, h7, h8, h9, h10, h11, h12, h15, bind, Except.bind]
  refine ⟨_, _, rfl, ?_, rfl, rfl, rfl, encodeBase58_of_parse h0, encodeBase58_of_parse hbase,
    encodeBase58_of_parse hquote⟩
  simp

end PumpSwap

/-! ## Reading them back -/

/-- Both listeners read a buy of this mint, with the amount and the limit of its data. -/
def ReadsAsPumpBuy (p : Platform) (ix : Instruction) (mint : Pubkey) (tokenAmount limit : Nat) :
    Prop :=
  ∀ table : KeyTable ix,
    let pumpIdx := table.keys.idxOf ix.programId
    let accounts := ix.accounts.map fun am => encodeBase58 am.pubkey
    Geyser.checkInstruction .exact table.keys none pumpIdx table.compiled =
      (some {
        mint := encodeBase58 mint
        tokenAmount := some tokenAmount
        solAmount := some (limit / 1000000000)
        pool := none
        accounts := accounts }, none) ∧
    ∀ instr, InstructionJson instr table.compiled →
      CopyEngine.tryParsePumpBuyInstruction p (table.keys.map encodeBase58) pumpIdx instr =
        some {
          mint := encodeBase58 mint
          solAmount := some (limit / 1000000000)
          tokenAmount := some tokenAmount
          ammPool := none
          targetPumpAccounts := atLeast 17 accounts }

/-- Both listeners read a trade on the target's pool; only one reports the pool of a sale. -/
def ReadsAsPumpSwap (ix : Instruction) (isBuy : Bool) (target : CopyEngine.PumpSwapAccounts)
    (tokenAmount limit : Nat) : Prop :=
  ∀ table : KeyTable ix, ∃ ammIdx,
    (table.keys.map encodeBase58).idxOf? pumpFunAmm = some ammIdx ∧
    (∀ instr, InstructionJson instr table.compiled →
      CopyEngine.parsePumpswapInstruction (table.keys.map encodeBase58) ammIdx instr =
        some (isBuy, {
          accounts := ix.accounts.map fun am => encodeBase58 am.pubkey
          pool := target.accounts.getD 0 ""
          baseMint := target.baseMint
          quoteMint := target.quoteMint
          tokenAmount := tokenAmount
          solAmount := limit })) ∧
    Geyser.checkPumpswapIx .exact table.keys none ammIdx table.compiled =
      if isBuy then
        (some {
          mint := target.baseMint
          tokenAmount := some tokenAmount
          solAmount := some (limit / 1000000000)
          pool := some (target.accounts.getD 0 "")
          accounts := ix.accounts.map fun am => encodeBase58 am.pubkey }, none)
      else
        (none, some {
          mint := target.baseMint
          tokenAmount := some tokenAmount
          solReceived := some (limit / 1000000000) })

private theorem decode_pumpFunAmm : decodeBase58 pumpFunAmm = some (keyOf pumpFunAmm) := by
  decide +kernel

theorem KeyTable.idxOf?_pumpFunAmm {ix : Instruction} (table : KeyTable ix)
    (hprogram : ix.programId = keyOf pumpFunAmm) :
    (table.keys.map encodeBase58).idxOf? pumpFunAmm = some (table.keys.idxOf ix.programId) := by
  rw [PairedTransaction.idxOf?_map_encodeBase58 decode_pumpFunAmm, ← hprogram]
  have hmem : ix.programId ∈ table.keys := table.known _ List.mem_cons_self
  have hindex := List.idxOf_eq_getD_idxOf? ix.programId table.keys
  cases hfound : table.keys.idxOf? ix.programId with
  | none => exact absurd hmem (List.idxOf?_eq_none_iff.mp hfound)
  | some i =>
      rw [hfound] at hindex
      rw [hindex]
      rfl

theorem PumpSwap.readsAsPumpSwap {d : Derivation} {target : CopyEngine.PumpSwapAccounts}
    {payer : Pubkey} {side : String} {trade : PumpSwap.TradeAccounts} {discriminator : List UInt8}
    {isBuy : Bool} {tokenAmount limit : UInt64} (htarget : PumpSwap.ValidTarget target)
    (hside : discriminator = if isBuy then buyDiscriminator else sellDiscriminator)
    (htrade : PumpSwap.tradeAccounts d target payer side = .ok trade) :
    ReadsAsPumpSwap
      { programId := keyOf pumpFunAmm
        accounts := trade.accounts
        data := discriminator ++ PumpSwap.tradeArgs tokenAmount limit } isBuy target
      tokenAmount.toNat limit.toNat := by
  obtain ⟨trade', pool, htrade', haccounts, hpool, hmint, hquote, hpoolText, hmintText,
    hquoteText⟩ := @PumpSwap.tradeAccounts_eq_ok d target payer htarget side
  rw [htrade] at htrade'
  cases htrade'
  have hdata : discriminator ++ PumpSwap.tradeArgs tokenAmount limit =
      tradeData discriminator tokenAmount.toNat limit.toNat [] := by
    simp [PumpSwap.tradeArgs, tradeData]
  intro table
  refine ⟨_, table.idxOf?_pumpFunAmm rfl, fun instr hjson => ?_, ?_⟩
  · rw [← hpoolText, ← hmintText, ← hquoteText]
    exact table.parsePumpswapInstruction_trade hjson hside hdata tokenAmount.toNat_lt
      limit.toNat_lt haccounts hpool hmint hquote
  · rw [← hpoolText, ← hmintText]
    exact table.checkPumpswapIx_trade hside hdata tokenAmount.toNat_lt limit.toNat_lt haccounts
      hpool hmint

section

variable {p : Platform} {d : Derivation} {idls : List (String × SimpleIdl)} {cfg : Settings}
  {payer normal mayhem mint : Pubkey} {t : BuyTemplate} {target : CopyEngine.PumpSwapAccounts}

theorem BuyTemplate.readsAsPumpBuy (hp : PairedTransaction.AcceptsKeys p)
    (hexact : p.rounding = .exact) (hmint : mint.length = 32)
    (hdiscriminator : t.buyDiscriminator = Girasol.buyDiscriminator)
    (hidl : t.idl = none ∨ t.idl = some pumpFunIdl) (r : Rounding) (isMayhem : Bool)
    (creator : Pubkey) (tokenAmount : UInt64) (solAmount : ℚ) (slippageBps : Nat) :
    ∃ createAta ix,
      t.buildBuyInstructions d mint isMayhem (some creator) r tokenAmount.toNat solAmount
        slippageBps = .ok [createAta, ix] ∧
      ReadsAsPumpBuy p ix mint tokenAmount.toNat (maxSolCost r solAmount slippageBps) := by
  obtain ⟨ix, hix, hdata, haccount⟩ := @buildBuyInstruction_eq_ok d mint creator isMayhem t
    (t.buyDiscriminator ++ buyArgs tokenAmount.toNat (maxSolCost r solAmount slippageBps)) hidl
  refine ⟨_, ix, bind_eq_ok.mpr ⟨ix, hix, rfl⟩, fun table => ?_⟩
  have htrade : ix.data = tradeData Girasol.buyDiscriminator tokenAmount.toNat
      (maxSolCost r solAmount slippageBps) [0] := by
    rw [hdata, hdiscriminator]
    simp [buyArgs, tradeData]
  have hlimit : maxSolCost r solAmount slippageBps < 2 ^ 64 := asU64_lt _
  constructor
  · exact table.checkInstruction_buy htrade tokenAmount.toNat_lt hlimit haccount
  · intro instr hjson
    exact table.tryParsePumpBuyInstruction_buy hp hexact hjson htrade tokenAmount.toNat_lt hlimit
      hmint haccount

/-- The bot's own trades, read back by its own parsers. -/
theorem built_trades_read_back (hp : PairedTransaction.AcceptsKeys p)
    (hexact : p.rounding = .exact)
    (hbuy : d.anchorDiscriminator "buy" = buyDiscriminator)
    (hidl : idls.lookup "pumpfun" = some pumpFunIdl ∨
      ∀ key ∈ preferredIdls, idls.lookup key = none)
    (hnew : BuyTemplate.new d idls payer cfg normal mayhem = .ok t)
    (hmint : mint.length = 32) (htarget : PumpSwap.ValidTarget target)
    (r : Rounding) (isMayhem : Bool) (creator : Pubkey) (solAmount : ℚ) (slippageBps : Nat)
    (tokenAmount solLamports ammSlippageBps minSolOut : UInt64) :
    (∃ createAta ix,
      t.buildBuyInstructions d mint isMayhem (some creator) r tokenAmount.toNat solAmount
        slippageBps = .ok [createAta, ix] ∧
      ReadsAsPumpBuy p ix mint tokenAmount.toNat
        (BuyTemplate.maxSolCost r solAmount slippageBps)) ∧
    (∃ createBase createQuote ix,
      PumpSwap.buildBuyInstructions d target payer solLamports tokenAmount ammSlippageBps =
        .ok [createBase, createQuote, ix] ∧
      ReadsAsPumpSwap ix true target tokenAmount.toNat
        (PumpSwap.maxQuoteIn solLamports ammSlippageBps).toNat) ∧
    ∃ ix,
      PumpSwap.buildSellInstructions d target payer tokenAmount minSolOut = .ok [ix] ∧
      ReadsAsPumpSwap ix false target tokenAmount.toNat minSolOut.toNat := by
  obtain ⟨hdiscriminator, hloaded⟩ := BuyTemplate.new_eq_ok_of_idl hbuy hidl hnew
  obtain ⟨buyTrade, _, hbuyTrade, -⟩ := @PumpSwap.tradeAccounts_eq_ok d target payer htarget "buy"
  obtain ⟨sellTrade, _, hsellTrade, -⟩ :=
    @PumpSwap.tradeAccounts_eq_ok d target payer htarget "sell"
  refine ⟨BuyTemplate.readsAsPumpBuy hp hexact hmint hdiscriminator hloaded r isMayhem creator
    tokenAmount solAmount slippageBps, ?_, ?_⟩
  · exact ⟨_, _, _, bind_eq_ok.mpr ⟨buyTrade, hbuyTrade, rfl⟩,
      PumpSwap.readsAsPumpSwap htarget rfl hbuyTrade⟩
  · exact ⟨_, bind_eq_ok.mpr ⟨sellTrade, hsellTrade, rfl⟩,
      PumpSwap.readsAsPumpSwap htarget rfl hsellTrade⟩

end

def PumpSwap.wrappedSol : String := "So11111111111111111111111111111111111111112"

def PumpSwap.plainTarget : CopyEngine.PumpSwapAccounts where
  accounts := List.replicate 17 wrappedSol
  pool := wrappedSol
  baseMint := wrappedSol
  quoteMint := wrappedSol
  tokenAmount := 0
  solAmount := 0

theorem PumpSwap.validTarget_plain : ValidTarget plainTarget := by
  have hparse : parsePubkeyBytes wrappedSol = .ok (keyOf wrappedSol) := by
    decide +kernel
  refine ⟨le_refl _, fun acct hacct => ?_, ⟨_, hparse⟩, ⟨_, hparse⟩⟩
  rw [List.eq_of_mem_replicate hacct]
  exact ⟨_, hparse⟩

theorem built_trades_read_back_plain :
    ∃ t, BuyTemplate.new .transcript [("pumpfun", pumpFunIdl)] (sampleKey 7) .plain (sampleKey 1)
        (sampleKey 2) = .ok t ∧
      (∃ createAta ix,
        t.buildBuyInstructions .transcript (sampleKey 5) false (some (sampleKey 9)) .exact 1000
          (1 / 10) 500 = .ok [createAta, ix] ∧
        ReadsAsPumpBuy .plain ix (sampleKey 5) 1000
          (BuyTemplate.maxSolCost .exact (1 / 10) 500)) ∧
      (∃ createBase createQuote ix,
        PumpSwap.buildBuyInstructions .transcript PumpSwap.plainTarget (sampleKey 7) 100 1000 500 =
          .ok [createBase, createQuote, ix] ∧
        ReadsAsPumpSwap ix true PumpSwap.plainTarget 1000 (PumpSwap.maxQuoteIn 100 500).toNat) ∧
      ∃ ix,
        PumpSwap.buildSellInstructions .transcript PumpSwap.plainTarget (sampleKey 7) 1000 90 =
          .ok [ix] ∧
        ReadsAsPumpSwap ix false PumpSwap.plainTarget 1000 90 := by
  obtain ⟨t, hnew⟩ := BuyTemplate.exists_new .transcript [("pumpfun", pumpFunIdl)] (sampleKey 7)
    (sampleKey 1) (sampleKey 2) parse_plain_pumpFunProgram
  exact ⟨t, hnew, built_trades_read_back acceptsKeys_plain rfl rfl (Or.inl rfl) hnew
    List.length_replicate PumpSwap.validTarget_plain .exact false (sampleKey 9) (1 / 10) 500 1000
    100 500 90⟩

end Girasol
