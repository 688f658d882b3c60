import Girasol.Detect.Raydium
import Girasol.Detect.TopLevel
import Girasol.Foundation.Renumber
import Mathlib.Data.List.Forall2

/-!
# The order of the key table

Instructions refer to keys by index, so a transaction stays the same when its
key table is permuted and every index is renumbered.  The Geyser listener picks
one parser by the program key it meets first.
-/

namespace Girasol.Geyser

open Foundation

def innerInstructions (info : SubscribeUpdateTransactionInfo) : List (List CompiledInstruction) :=
  (info.meta.map TransactionStatusMeta.innerInstructions).getD []

/-- A transaction the listener parses, with one entry for each key and indices in a byte. -/
structure KeyedTransaction where
  info : SubscribeUpdateTransactionInfo
  keys : List (List UInt8)
  built : keysOf info = some keys
  nodup : keys.Nodup
  length_le : keys.length ≤ 256

structure ReindexedInstruction (σ : Equiv.Perm Nat) (ix ix' : CompiledInstruction) : Prop where
  programIdIndex : ix'.programIdIndex = σ ix.programIdIndex
  accounts : ix'.accounts.map UInt8.toNat = ix.accounts.map fun i => σ i.toNat
  data : ix'.data = ix.data

def balanceAt (balances : TransactionStatusMeta → List Nat)
    (info : SubscribeUpdateTransactionInfo) (i : Nat) : Nat :=
  ((info.meta.map balances).getD []).getD i 0

structure Reindexed (σ : Equiv.Perm Nat) (tx tx' : KeyedTransaction) : Prop where
  keys : Renumbered σ tx.keys tx'.keys
  instructions : List.Forall₂ (ReindexedInstruction σ) (topLevel tx.info) (topLevel tx'.info)
  inner : List.Forall₂ (List.Forall₂ (ReindexedInstruction σ)) (innerInstructions tx.info)
    (innerInstructions tx'.info)
  preBalance : ∀ i, balanceAt (·.preBalances) tx'.info (σ i) = balanceAt (·.preBalances) tx.info i
  postBalance : ∀ i,
    balanceAt (·.postBalances) tx'.info (σ i) = balanceAt (·.postBalances) tx.info i
  signature : tx'.info.signature = tx.info.signature
  preTokens : tx'.info.meta.map (·.preTokenBalances) = tx.info.meta.map (·.preTokenBalances)
  postTokens : tx'.info.meta.map (·.postTokenBalances) = tx.info.meta.map (·.postTokenBalances)

/-! ## Parsers do not see the order -/

section

variable {σ : Equiv.Perm Nat} {keys keys' : List (List UInt8)} {ix ix' : CompiledInstruction}

theorem accountKey_reindexed (hkeys : Renumbered σ keys keys')
    (h : ReindexedInstruction σ ix ix') (index : Nat) :
    accountKey keys' index ix' = accountKey keys index ix := by
  have hindex := congrArg (fun indices : List Nat => indices[index]?) h.accounts
  simp only [List.getElem?_map] at hindex
  unfold accountKey
  cases hi : ix.accounts[index]? with
  | none => simp_all
  | some i =>
      cases hi' : ix'.accounts[index]? with
      | none => simp [hi, hi'] at hindex
      | some i' =>
          have heq : i'.toNat = σ i.toNat := by simpa [hi, hi'] using hindex
          simp [heq, hkeys i.toNat]

theorem accountStrings_reindexed (hkeys : Renumbered σ keys keys')
    (h : ReindexedInstruction σ ix ix') : accountStrings keys' ix' = accountStrings keys ix := by
  have hlookup (accounts : List UInt8) (table : List (List UInt8)) :
      (accounts.filterMap fun i => table[i.toNat]?) =
        (accounts.map UInt8.toNat).filterMap fun i => table[i]? := by
    rw [List.filterMap_map]
    rfl
  have hmoved : (ix.accounts.map fun i => σ i.toNat) = (ix.accounts.map UInt8.toNat).map σ := by
    simp
  rw [accountStrings, accountStrings, hlookup, hlookup, h.accounts, hmoved, List.filterMap_map]
  congr 2
  funext i
  exact hkeys i

theorem length_reindexed (h : ReindexedInstruction σ ix ix') :
    ix'.accounts.length = ix.accounts.length := by
  simpa using congrArg List.length h.accounts

theorem checkInstruction_reindexed (hkeys : Renumbered σ keys keys')
    (h : ReindexedInstruction σ ix ix') (r : Rounding) (delta : Option (ℚ × ℚ)) (pumpIdx : Nat) :
    checkInstruction r keys' delta (σ pumpIdx) ix' = checkInstruction r keys delta pumpIdx ix := by
  simp only [checkInstruction, h.programIdIndex, h.data, length_reindexed h,
    accountKey_reindexed hkeys h, accountStrings_reindexed hkeys h, ne_eq, σ.injective.eq_iff]

theorem checkPumpswapIx_reindexed (hkeys : Renumbered σ keys keys')
    (h : ReindexedInstruction σ ix ix') (r : Rounding) (delta : Option (ℚ × ℚ)) (ammIdx : Nat) :
    checkPumpswapIx r keys' delta (σ ammIdx) ix' = checkPumpswapIx r keys delta ammIdx ix := by
  simp only [checkPumpswapIx, h.programIdIndex, h.data, length_reindexed h,
    accountKey_reindexed hkeys h, accountStrings_reindexed hkeys h, ne_eq, σ.injective.eq_iff]

end

section

variable {σ : Equiv.Perm Nat} {tx tx' : KeyedTransaction}

theorem allInstructions_reindexed (h : Reindexed σ tx tx') :
    List.Forall₂ (ReindexedInstruction σ) (allInstructions tx.info) (allInstructions tx'.info) :=
  List.rel_append h.instructions (List.rel_flatten h.inner)

theorem keysOf_eq_some {info : SubscribeUpdateTransactionInfo} {keys : List (List UInt8)}
    (h : keysOf info = some keys) :
    ∃ message status, info.transaction = some ⟨some message⟩ ∧ info.meta = some status ∧
      status.err = none ∧
      keys = message.accountKeys ++ status.loadedWritableAddresses ++
        status.loadedReadonlyAddresses := by
  unfold keysOf at h
  split at h
  · cases h
  case isFalse herr =>
    simp only [buildAccountKeys, Option.bind_eq_bind, Option.bind_eq_some_iff] at h
    obtain ⟨transaction, htransaction, message, hmessage, status, hstatus, h⟩ := h
    cases h
    refine ⟨message, status, ?_, hstatus, ?_, rfl⟩
    · rw [htransaction, ← hmessage]
    · simpa [hstatus] using herr

theorem meta_of_built (tx : KeyedTransaction) : ∃ status, tx.info.meta = some status := by
  obtain ⟨_, status, -, hstatus, -⟩ := keysOf_eq_some tx.built
  exact ⟨status, hstatus⟩

private theorem computeSolDelta_eq (r : Rounding) (tx : KeyedTransaction)
    (targetBytes : List UInt8) :
    computeSolDelta r tx.info tx.keys targetBytes =
      (tx.keys.idxOf? targetBytes).map fun i =>
        solDelta r (balanceAt (·.preBalances) tx.info i) (balanceAt (·.postBalances) tx.info i) := by
  obtain ⟨status, hstatus⟩ := meta_of_built tx
  unfold computeSolDelta balanceAt
  rw [hstatus]
  cases tx.keys.idxOf? targetBytes <;> simp [List.getD_eq_getElem?_getD]

theorem computeSolDelta_reindexed (h : Reindexed σ tx tx') (r : Rounding)
    (targetBytes : List UInt8) :
    computeSolDelta r tx'.info tx'.keys targetBytes =
      computeSolDelta r tx.info tx.keys targetBytes := by
  rw [computeSolDelta_eq, computeSolDelta_eq, h.keys.idxOf? tx'.nodup, Option.map_map]
  simp only [Function.comp_def, h.preBalance, h.postBalance]

def signalOf (sellTx : Bool) (slot : Nat) (info : SubscribeUpdateTransactionInfo)
    (dex : DexType) : FoundBuy ⊕ FoundSell → Option Signal
  | .inl buy => some (.buy (detectedBuy slot info dex buy))
  | .inr sell => if sellTx then some (.sell (detectedSell slot info dex sell)) else none

theorem signals_of_sendFirsts (sellTx : Bool) (slot : Nat) (info : SubscribeUpdateTransactionInfo)
    (keys : List (List UInt8)) (dex : DexType) (user : Nat)
    (check : CompiledInstruction → Option FoundBuy × Option FoundSell) :
    (sendFirsts sellTx slot info keys dex user check).map Emission.signal =
      ((emitFirsts check false false (allInstructions info)).map Prod.snd).filterMap
        (signalOf sellTx slot info dex) := by
  rw [sendFirsts, List.map_filterMap, List.filterMap_map]
  congr 1
  funext found
  obtain ⟨ix, found⟩ := found
  cases found with
  | inl buy => rfl
  | inr sell => cases sellTx <;> rfl

private theorem signalOf_reindexed (h : Reindexed σ tx tx') (sellTx : Bool) (slot : Nat)
    (dex : DexType) :
    signalOf sellTx slot tx'.info dex = signalOf sellTx slot tx.info dex := by
  have hsignature : signatureOf tx'.info = signatureOf tx.info := by
    simp only [signatureOf, h.signature]
  funext found
  cases found <;> simp only [signalOf, detectedBuy, detectedSell, hsignature]

private theorem sendFirsts_reindexed (h : Reindexed σ tx tx') (sellTx : Bool) (slot : Nat)
    (dex : DexType) (user : Nat)
    {check check' : CompiledInstruction → Option FoundBuy × Option FoundSell}
    (hcheck : ∀ ix ix', ReindexedInstruction σ ix ix' → check' ix' = check ix) :
    (sendFirsts sellTx slot tx'.info tx'.keys dex user check').map Emission.signal =
      (sendFirsts sellTx slot tx.info tx.keys dex user check).map Emission.signal := by
  rw [signals_of_sendFirsts, signals_of_sendFirsts, signalOf_reindexed h,
    emitFirsts_forall₂ hcheck (allInstructions_reindexed h)]

private theorem extractAmmPool_reindexed (h : Reindexed σ tx tx') (program : List UInt8) :
    extractAmmPool tx'.info tx'.keys program = extractAmmPool tx.info tx.keys program := by
  unfold extractAmmPool
  rw [h.keys.idxOf? tx'.nodup]
  cases tx.keys.idxOf? program with
  | none => rfl
  | some programIdx =>
      simp only [Option.map_some, Option.bind_eq_bind, Option.bind_some]
      refine findSome?_forall₂ (fun ix ix' hix => ?_) h.instructions
      simp only [hix.programIdIndex, σ.injective.eq_iff, accountKey_reindexed h.keys hix]

private theorem parseRaydium_reindexed (h : Reindexed σ tx tx') (p : Platform) (hash : HashOrder)
    (targetBytes : List UInt8) (sellTx : Bool) (slot : Nat) (dex : DexType) :
    parseRaydiumFromProto p hash programIds targetBytes sellTx slot tx'.info tx'.keys dex =
      parseRaydiumFromProto p hash programIds targetBytes sellTx slot tx.info tx.keys dex := by
  obtain ⟨status, hstatus⟩ := meta_of_built tx
  obtain ⟨status', hstatus'⟩ := meta_of_built tx'
  have hpre : status'.preTokenBalances = status.preTokenBalances := by
    simpa [hstatus, hstatus'] using h.preTokens
  have hpost : status'.postTokenBalances = status.postTokenBalances := by
    simpa [hstatus, hstatus'] using h.postTokens
  have hsignature : signatureOf tx'.info = signatureOf tx.info := by
    simp only [signatureOf, h.signature]
  unfold parseRaydiumFromProto
  simp only [swapSignals, hstatus, hstatus', hsignature, extractAmmPool_reindexed h,
    computeSolDelta_reindexed h p.rounding targetBytes]
  cases computeSolDelta p.rounding tx.info tx.keys targetBytes with
  | none => rfl
  | some delta =>
      cases raydiumProgram programIds dex with
      | none => rfl
      | some program => simp only [hpre, hpost]

theorem signalsOf_reindexed (h : Reindexed σ tx tx') (p : Platform) (hash : HashOrder)
    (targetBytes : List UInt8) (sellTx : Bool) (slot : Nat) (dex : DexType) :
    signalsOf p hash programIds targetBytes sellTx slot tx'.info tx'.keys dex =
      signalsOf p hash programIds targetBytes sellTx slot tx.info tx.keys dex := by
  have hdelta := computeSolDelta_reindexed h p.rounding targetBytes
  cases dex with
  | pumpFun =>
      simp only [signalsOf, parsePumpFromProto, h.keys.idxOf? tx'.nodup, hdelta]
      cases tx.keys.idxOf? programIds.pumpFun with
      | none => rfl
      | some pumpIdx =>
          exact sendFirsts_reindexed h sellTx slot .pumpFun pumpFunUser fun ix ix' hix =>
            checkInstruction_reindexed h.keys hix p.rounding _ pumpIdx
  | pumpFunAmm =>
      simp only [signalsOf, parsePumpswapFromProto, h.keys.idxOf? tx'.nodup, hdelta]
      cases tx.keys.idxOf? programIds.pumpFunAmm with
      | none => rfl
      | some ammIdx =>
          exact sendFirsts_reindexed h sellTx slot .pumpFunAmm pumpSwapUser fun ix ix' hix =>
            checkPumpswapIx_reindexed h.keys hix p.rounding _ ammIdx
  | raydiumV4 => exact parseRaydium_reindexed h p hash targetBytes sellTx slot .raydiumV4
  | raydiumCpmm => exact parseRaydium_reindexed h p hash targetBytes sellTx slot .raydiumCpmm
  | jupiter => rfl
  | unknown id => rfl

end

/-! ## Every permutation can be made -/

section

variable (σ : Equiv.Perm Nat)

def reindex (ix : CompiledInstruction) : CompiledInstruction where
  programIdIndex := σ ix.programIdIndex
  accounts := ix.accounts.map fun i => (σ i.toNat).toUInt8
  data := ix.data

theorem reindex_reindexed {n : Nat} (hn : n ≤ 256) (hσ : ∀ i, n ≤ i → σ i = i)
    (ix : CompiledInstruction) : ReindexedInstruction σ ix (reindex σ ix) where
  programIdIndex := rfl
  accounts := by
    rw [reindex, List.map_map]
    refine List.map_congr_left fun i _ => ?_
    have hbyte : σ i.toNat < 256 := by
      by_cases hi : i.toNat < n
      · exact (lt_of_fixed σ hσ hi).trans_le hn
      · rw [hσ _ (Nat.le_of_not_lt hi)]
        exact i.toNat_lt
    simp [Nat.mod_eq_of_lt hbyte]
  data := rfl

def reindexBalances (n : Nat) (balances : List Nat) : List Nat :=
  renumber σ (max n balances.length) 0 balances

private theorem getD_reindexBalances {n : Nat} (hσ : ∀ i, n ≤ i → σ i = i) (balances : List Nat)
    (i : Nat) : (reindexBalances σ n balances).getD (σ i) 0 = balances.getD i 0 :=
  getD_renumber σ 0 (fun i hi => hσ i (le_of_max_le_left hi)) (le_max_right _ _) i

def reindexInfo (n : Nat) (message : TransactionMessage) (status : TransactionStatusMeta)
    (info : SubscribeUpdateTransactionInfo) : SubscribeUpdateTransactionInfo :=
  let keys := renumber σ n []
    (message.accountKeys ++ status.loadedWritableAddresses ++ status.loadedReadonlyAddresses)
  let loaded := keys.drop message.accountKeys.length
  { signature := info.signature
    transaction := some
      { message := some
          { accountKeys := keys.take message.accountKeys.length
            instructions := message.instructions.map (reindex σ) } }
    «meta» := some
      { status with
        preBalances := reindexBalances σ n status.preBalances
        postBalances := reindexBalances σ n status.postBalances
        innerInstructions := status.innerInstructions.map (List.map (reindex σ))
        loadedWritableAddresses := loaded.take status.loadedWritableAddresses.length
        loadedReadonlyAddresses := loaded.drop status.loadedWritableAddresses.length } }

private theorem forall₂_reindex {n : Nat} (hn : n ≤ 256) (hσ : ∀ i, n ≤ i → σ i = i)
    (ixs : List CompiledInstruction) :
    List.Forall₂ (ReindexedInstruction σ) ixs (ixs.map (reindex σ)) := by
  induction ixs with
  | nil => exact .nil
  | cons ix ixs ih => exact .cons (reindex_reindexed σ hn hσ ix) ih

theorem exists_reindexed (tx : KeyedTransaction) (hσ : ∀ i, tx.keys.length ≤ i → σ i = i) :
    ∃ tx', Reindexed σ tx tx' := by
  obtain ⟨message, status, htransaction, hstatus, herr, hkeys⟩ := keysOf_eq_some tx.built
  have hrenumbered : Renumbered σ tx.keys (renumber σ tx.keys.length [] tx.keys) :=
    renumbered_renumber σ [] hσ
  have hbuilt : keysOf (reindexInfo σ tx.keys.length message status tx.info) =
      some (renumber σ tx.keys.length [] tx.keys) := by
    simp [keysOf, buildAccountKeys, reindexInfo, herr, ← hkeys]
  refine ⟨⟨reindexInfo σ tx.keys.length message status tx.info, _, hbuilt,
    hrenumbered.nodup tx.nodup, by simpa [renumber] using tx.length_le⟩, ?_⟩
  exact {
    keys := hrenumbered
    instructions := by
      simpa [topLevel, htransaction, reindexInfo] using
        forall₂_reindex σ tx.length_le hσ message.instructions
    inner := by
      simp only [innerInstructions, hstatus, reindexInfo, Option.map_some, Option.getD_some]
      induction status.innerInstructions with
      | nil => exact .nil
      | cons ixs groups ih => exact .cons (forall₂_reindex σ tx.length_le hσ ixs) ih
    preBalance := by
      intro i
      simpa [balanceAt, hstatus, reindexInfo] using
        getD_reindexBalances σ hσ status.preBalances i
    postBalance := by
      intro i
      simpa [balanceAt, hstatus, reindexInfo] using
        getD_reindexBalances σ hσ status.postBalances i
    signature := rfl
    preTokens := by simp [hstatus, reindexInfo]
    postTokens := by simp [hstatus, reindexInfo] }

end

/-! ## The dispatch -/

/-- `find_program_index` looks for this key. -/
def program : DexType → Option (List UInt8)
  | .pumpFun => some programIds.pumpFun
  | .pumpFunAmm => some programIds.pumpFunAmm
  | .raydiumV4 => some programIds.raydiumV4
  | .raydiumCpmm => some programIds.raydiumCpmm
  | .jupiter | .unknown _ => none

def Present (keys : List (List UInt8)) (dex : DexType) : Prop := ∃ key ∈ program dex, key ∈ keys

def dexOfKey (key : List UInt8) : Option DexType :=
  if key = programIds.pumpFun then some .pumpFun
  else if key = programIds.pumpFunAmm then some .pumpFunAmm
  else if key = programIds.raydiumV4 then some .raydiumV4
  else if key = programIds.raydiumCpmm then some .raydiumCpmm
  else none

private theorem programIds_distinct :
    [programIds.pumpFun, programIds.pumpFunAmm, programIds.raydiumV4,
      programIds.raydiumCpmm].Nodup := by
  decide +kernel

theorem dexOfKey_eq_iff (key : List UInt8) (dex : DexType) :
    dexOfKey key = some dex ↔ program dex = some key := by
  have hdistinct := programIds_distinct
  simp only [List.nodup_cons, List.mem_cons, not_or, List.not_mem_nil] at hdistinct
  unfold dexOfKey
  split_ifs <;> cases dex <;> simp_all [program, eq_comm]

theorem detectDex_eq (keys : List (List UInt8)) :
    programIds.detectDex keys = (keys.findSome? dexOfKey).getD (.unknown "none") := rfl

theorem present_or_unknown (keys : List (List UInt8)) :
    Present keys (programIds.detectDex keys) ∨
      programIds.detectDex keys = .unknown "none" ∧ ∀ dex, ¬Present keys dex := by
  rw [detectDex_eq]
  cases hfirst : keys.findSome? dexOfKey with
  | none =>
      refine .inr ⟨rfl, ?_⟩
      rintro dex ⟨key, hkey, hmem⟩
      have hnone := List.findSome?_eq_none_iff.mp hfirst key hmem
      rw [(dexOfKey_eq_iff key dex).mpr hkey] at hnone
      cases hnone
  | some first =>
      obtain ⟨key, hmem, hkey⟩ := List.exists_of_findSome?_eq_some hfirst
      exact .inl ⟨key, (dexOfKey_eq_iff key first).mp hkey, hmem⟩

theorem present_detectDex {keys : List (List UInt8)} {dex : DexType} (h : Present keys dex) :
    Present keys (programIds.detectDex keys) :=
  (present_or_unknown keys).resolve_right fun hnone => hnone.2 dex h

theorem detectDex_cons {key : List UInt8} {dex : DexType} (h : program dex = some key)
    (keys : List (List UInt8)) : programIds.detectDex (key :: keys) = dex := by
  rw [detectDex_eq, List.findSome?_cons, (dexOfKey_eq_iff key dex).mpr h]
  rfl

section

variable (p : Platform) (hash : HashOrder) (targetBytes : List UInt8) (sellTx : Bool)
  (slot : Nat)

def RaydiumTrade (tx : KeyedTransaction) : Prop :=
  ∃ status ∈ tx.info.meta, ∃ delta ∈ computeSolDelta p.rounding tx.info tx.keys targetBytes,
    ∃ mint,
      let pre := amountOf (tokenAmounts (encodeBase58 targetBytes) status.preTokenBalances) mint
      let post := amountOf (tokenAmounts (encodeBase58 targetBytes) status.postTokenBalances) mint
      pre < post ∧ 0 < delta.2 ∨ sellTx ∧ post < pre ∧ 0 < delta.1

def Trades (tx : KeyedTransaction) : DexType → Prop
  | .pumpFun => ∃ pumpIdx ∈ tx.keys.idxOf? programIds.pumpFun, ∃ ix ∈ allInstructions tx.info,
      isPumpTrade tx.keys buyDiscriminator pumpIdx ix ∨
        sellTx ∧ isPumpTrade tx.keys sellDiscriminator pumpIdx ix
  | .pumpFunAmm => ∃ ammIdx ∈ tx.keys.idxOf? programIds.pumpFunAmm,
      ∃ ix ∈ allInstructions tx.info,
        isPumpswapTrade tx.keys buyDiscriminator ammIdx ix ∨
          sellTx ∧ isPumpswapTrade tx.keys sellDiscriminator ammIdx ix
  | .raydiumV4 | .raydiumCpmm => RaydiumTrade p targetBytes sellTx tx
  | .jupiter | .unknown _ => False

private theorem sendFirsts_ne_nil_iff (info : SubscribeUpdateTransactionInfo)
    (keys : List (List UInt8)) (dex : DexType) (user : Nat)
    {check : CompiledInstruction → Option FoundBuy × Option FoundSell}
    {isBuy isSell : CompiledInstruction → Bool}
    (hcheck : ∀ ix, (check ix).1.isSome = isBuy ix ∧ (check ix).2.isSome = isSell ix) :
    sendFirsts sellTx slot info keys dex user check ≠ [] ↔
      ∃ ix ∈ allInstructions info, isBuy ix ∨ sellTx ∧ isSell ix := by
  have hnone := forall_sendFirsts_iff sellTx slot info keys dex user hcheck fun _ => False
  have hfind (shape : CompiledInstruction → Bool) :
      (∀ ix ∈ (allInstructions info).find? shape, False) ↔
        ∀ ix ∈ allInstructions info, shape ix = false :=
    Option.eq_none_iff_forall_not_mem.symm.trans (by simp)
  rw [ne_eq, List.eq_nil_iff_forall_not_mem, not_iff_comm]
  refine Iff.trans ?_ hnone.symm
  rw [hfind, hfind]
  cases sellTx <;> simp [forall_and]

private theorem swapSignals_eq_some {info : SubscribeUpdateTransactionInfo} {dex : DexType}
    {ammPool : Option String} {received spent : ℚ} {mint : String} {pre post : Nat}
    {sent : List Signal}
    (h : swapSignals sellTx slot info dex ammPool received spent mint pre post = some sent) :
    (pre < post ∧ 0 < spent) ∧ sent ≠ [] ∨
      (post < pre ∧ 0 < received) ∧ (sent ≠ [] ↔ sellTx) := by
  obtain ⟨hgained, buy, rfl, -⟩ | ⟨hlost, sell, rfl, -⟩ := swapSignals_cases h
  · exact .inl ⟨hgained, by simp⟩
  · exact .inr ⟨hlost, by cases sellTx <;> simp⟩

private theorem raydium_ne_nil_iff (tx : KeyedTransaction) (dex : DexType) {key : List UInt8}
    (hdex : raydiumProgram programIds dex = some key) :
    parseRaydiumFromProto p hash programIds targetBytes sellTx slot tx.info tx.keys dex ≠ [] ↔
      RaydiumTrade p targetBytes sellTx tx := by
  obtain ⟨status, hstatus⟩ := meta_of_built tx
  unfold parseRaydiumFromProto RaydiumTrade
  rw [hstatus, hdex]
  cases hdelta : computeSolDelta p.rounding tx.info tx.keys targetBytes with
  | none => simp
  | some delta =>
      obtain ⟨received, spent⟩ := delta
      have hside := solDelta_one_sided hdelta
      simp only [Option.mem_some_iff, exists_eq_left'] at hside ⊢
      generalize tokenAmounts (encodeBase58 targetBytes) status.preTokenBalances = pre
      generalize tokenAmounts (encodeBase58 targetBytes) status.postTokenBalances = post
      generalize extractAmmPool tx.info tx.keys key = ammPool
      generalize hswap : (fun mint => swapSignals sellTx slot tx.info dex ammPool received spent
        mint (amountOf pre mint) (amountOf post mint)) = swap
      have hsent {mint : String} {sent : List Signal} (hmint : swap mint = some sent) :=
        swapSignals_eq_some sellTx slot ((congrFun hswap mint).trans hmint)
      cases hfirst : (allMints hash pre post).findSome? swap with
      | none =>
          refine iff_of_false (by simp) ?_
          rintro ⟨mint, hmoved⟩
          have hfound : swap mint ≠ none := by
            rw [← hswap]
            exact swapSignals_ne_none_iff.mpr (hmoved.imp_right And.right)
          have hmem : mint ∈ allMints hash pre post := by
            rw [← hswap] at hfound
            exact mem_allMints_of_swapSignals hash hfound
          exact hfound (List.findSome?_eq_none_iff.mp hfirst mint hmem)
      | some sent =>
          obtain ⟨mint, -, hmint⟩ := List.exists_of_findSome?_eq_some hfirst
          rw [Option.getD_some]
          rcases hsent hmint with ⟨hgained, hne⟩ | ⟨hlost, hne⟩
          · exact iff_of_true hne ⟨mint, .inl hgained⟩
          · have hspent : spent = 0 := hside.resolve_left hlost.2.ne'
            rw [hne]
            constructor
            · intro hmirror
              exact ⟨mint, .inr ⟨hmirror, hlost⟩⟩
            · rintro ⟨other, ⟨-, hpaid⟩ | ⟨hmirror, -⟩⟩
              · exact absurd hpaid hspent.not_gt
              · exact hmirror

theorem signalsOf_ne_nil_iff (tx : KeyedTransaction) (dex : DexType) :
    signalsOf p hash programIds targetBytes sellTx slot tx.info tx.keys dex ≠ [] ↔
      Trades p targetBytes sellTx tx dex := by
  cases dex with
  | pumpFun =>
      simp only [signalsOf, parsePumpFromProto, Trades, ne_eq, List.map_eq_nil_iff]
      cases tx.keys.idxOf? programIds.pumpFun with
      | none => simp
      | some pumpIdx =>
          simpa using sendFirsts_ne_nil_iff sellTx slot tx.info tx.keys .pumpFun pumpFunUser
            (isSome_checkInstruction tx.keys p.rounding
              (computeSolDelta p.rounding tx.info tx.keys targetBytes) pumpIdx)
  | pumpFunAmm =>
      simp only [signalsOf, parsePumpswapFromProto, Trades, ne_eq, List.map_eq_nil_iff]
      cases tx.keys.idxOf? programIds.pumpFunAmm with
      | none => simp
      | some ammIdx =>
          simpa using sendFirsts_ne_nil_iff sellTx slot tx.info tx.keys .pumpFunAmm pumpSwapUser
            (isSome_checkPumpswapIx tx.keys p.rounding
              (computeSolDelta p.rounding tx.info tx.keys targetBytes) ammIdx)
  | raydiumV4 => exact raydium_ne_nil_iff p hash targetBytes sellTx slot tx .raydiumV4 rfl
  | raydiumCpmm => exact raydium_ne_nil_iff p hash targetBytes sellTx slot tx .raydiumCpmm rfl
  | jupiter => simp [signalsOf, Trades]
  | unknown id => simp [signalsOf, Trades]

private theorem dex_of_mem_sendFirsts {info : SubscribeUpdateTransactionInfo}
    {keys : List (List UInt8)} {dex : DexType} {user : Nat}
    {check : CompiledInstruction → Option FoundBuy × Option FoundSell} {signal : Signal}
    (h : signal ∈ (sendFirsts sellTx slot info keys dex user check).map Emission.signal) :
    signal.dex = dex := by
  rw [signals_of_sendFirsts] at h
  obtain ⟨found, -, hsignal⟩ := List.mem_filterMap.mp h
  cases found with
  | inl buy =>
      cases hsignal
      rfl
  | inr sell =>
      cases sellTx with
      | false => cases hsignal
      | true =>
          cases hsignal
          rfl

private theorem dex_of_mem_swapSignals {info : SubscribeUpdateTransactionInfo} {dex : DexType}
    {ammPool : Option String} {received spent : ℚ} {mint : String} {pre post : Nat}
    {sent : List Signal}
    (h : swapSignals sellTx slot info dex ammPool received spent mint pre post = some sent)
    {signal : Signal} (hsignal : signal ∈ sent) : signal.dex = dex := by
  obtain ⟨-, buy, rfl, hdex, -⟩ | ⟨-, sell, rfl, hdex, -⟩ := swapSignals_cases h
  · rw [List.mem_singleton.mp hsignal]
    exact hdex
  · cases sellTx with
    | false => cases hsignal
    | true =>
        rw [List.mem_singleton.mp hsignal]
        exact hdex

private theorem dex_of_mem_parseRaydium {info : SubscribeUpdateTransactionInfo}
    {keys : List (List UInt8)} {dex : DexType} {signal : Signal}
    (h : signal ∈ parseRaydiumFromProto p hash programIds targetBytes sellTx slot info keys dex) :
    signal.dex = dex := by
  unfold parseRaydiumFromProto at h
  split at h
  · exact forall_mem_getD_findSome? (fun mint sent hsent signal hsignal =>
      dex_of_mem_swapSignals sellTx slot hsent hsignal) _ signal h
  · cases h

theorem dex_of_mem_signalsOf {info : SubscribeUpdateTransactionInfo} {keys : List (List UInt8)}
    {dex : DexType} {signal : Signal}
    (h : signal ∈ signalsOf p hash programIds targetBytes sellTx slot info keys dex) :
    signal.dex = dex := by
  cases dex with
  | pumpFun =>
      simp only [signalsOf, parsePumpFromProto] at h
      split at h
      · cases h
      · exact dex_of_mem_sendFirsts sellTx slot h
  | pumpFunAmm =>
      simp only [signalsOf, parsePumpswapFromProto] at h
      split at h
      · cases h
      · exact dex_of_mem_sendFirsts sellTx slot h
  | raydiumV4 => exact dex_of_mem_parseRaydium p hash targetBytes sellTx slot h
  | raydiumCpmm => exact dex_of_mem_parseRaydium p hash targetBytes sellTx slot h
  | jupiter => cases h
  | unknown id => cases h

/-- One listener, whatever the order of the keys, reports the trades on every exchange. -/
structure OrderFree (tx : KeyedTransaction) : Prop where
  reindexed : ∀ σ tx', Reindexed σ tx tx' →
    detectSignals p hash programIds targetBytes sellTx slot tx'.info tx'.keys =
      detectSignals p hash programIds targetBytes sellTx slot tx.info tx.keys
  reported : ∀ dex, Present tx.keys dex →
    ∀ signal ∈ signalsOf p hash programIds targetBytes sellTx slot tx.info tx.keys dex,
      signal ∈ detectSignals p hash programIds targetBytes sellTx slot tx.info tx.keys

/-- An exchange with a trade is the only one with its program among the keys. -/
def OneExchange (tx : KeyedTransaction) : Prop :=
  ∀ dex, Present tx.keys dex → Trades p targetBytes sellTx tx dex →
    ∀ other, Present tx.keys other → other = dex

theorem present_reindexed {σ : Equiv.Perm Nat} {tx tx' : KeyedTransaction}
    (h : Reindexed σ tx tx') (dex : DexType) : Present tx'.keys dex ↔ Present tx.keys dex := by
  simp only [Present, h.keys.mem_iff]

private theorem signalsOf_eq_nil (tx : KeyedTransaction) {dex : DexType}
    (h : ¬Trades p targetBytes sellTx tx dex) :
    signalsOf p hash programIds targetBytes sellTx slot tx.info tx.keys dex = [] :=
  not_not.mp fun hne => h ((signalsOf_ne_nil_iff p hash targetBytes sellTx slot tx dex).mp hne)

private theorem detectSignals_eq_nil {tx : KeyedTransaction}
    (h : ∀ dex, Present tx.keys dex → ¬Trades p targetBytes sellTx tx dex) :
    detectSignals p hash programIds targetBytes sellTx slot tx.info tx.keys = [] := by
  unfold detectSignals
  rcases present_or_unknown tx.keys with hpresent | ⟨hunknown, -⟩
  · exact signalsOf_eq_nil p hash targetBytes sellTx slot tx (h _ hpresent)
  · rw [hunknown]
    rfl

private theorem exists_first {tx : KeyedTransaction} {dex : DexType} (h : Present tx.keys dex) :
    ∃ σ tx', Reindexed σ tx tx' ∧ programIds.detectDex tx'.keys = dex := by
  obtain ⟨key, hkey, hmem⟩ := h
  obtain ⟨i, hi, hget⟩ := List.getElem_of_mem hmem
  have hfixed : ∀ j, tx.keys.length ≤ j → Equiv.swap 0 i j = j := fun j hj =>
    Equiv.swap_apply_of_ne_of_ne (by omega) (by omega)
  obtain ⟨tx', hreindexed⟩ := exists_reindexed (Equiv.swap 0 i) tx hfixed
  refine ⟨_, tx', hreindexed, ?_⟩
  have hfirst : tx'.keys[0]? = some key := by
    rw [← Equiv.swap_apply_right 0 i, hreindexed.keys i, List.getElem?_eq_getElem hi, hget]
  cases hkeys : tx'.keys with
  | nil => simp [hkeys] at hfirst
  | cons first rest =>
      obtain rfl : first = key := by simpa [hkeys] using hfirst
      exact detectDex_cons hkey rest

end

/--
The order of the keys does not matter exactly when an exchange with a trade is
the only one among them.
-/
theorem orderFree_iff (p : Platform) (hash : HashOrder) (targetBytes : List UInt8)
    (sellTx : Bool) (slot : Nat) (tx : KeyedTransaction) :
    OrderFree p hash targetBytes sellTx slot tx ↔ OneExchange p targetBytes sellTx tx := by
  constructor
  · intro h dex hdex htrades other hother
    obtain ⟨σ, tx', hreindexed, hfirst⟩ := exists_first hother
    have hne := (signalsOf_ne_nil_iff p hash targetBytes sellTx slot tx dex).mpr htrades
    obtain ⟨signal, hsignal⟩ := List.exists_mem_of_ne_nil _ hne
    have hreported := h.reported dex hdex signal hsignal
    rw [← h.reindexed σ tx' hreindexed, detectSignals, hfirst] at hreported
    exact (dex_of_mem_signalsOf p hash targetBytes sellTx slot hreported).symm.trans
      (dex_of_mem_signalsOf p hash targetBytes sellTx slot hsignal)
  · intro h
    refine ⟨fun σ tx' hreindexed => ?_, fun dex hdex signal hsignal => ?_⟩
    · by_cases htrade : ∃ dex, Present tx.keys dex ∧ Trades p targetBytes sellTx tx dex
      · obtain ⟨dex, hdex, htrades⟩ := htrade
        have hdex' := (present_reindexed hreindexed dex).mpr hdex
        have hfirst := h dex hdex htrades _ (present_detectDex hdex)
        have hfirst' := h dex hdex htrades _
          ((present_reindexed hreindexed _).mp (present_detectDex hdex'))
        rw [detectSignals, detectSignals, hfirst, hfirst',
          signalsOf_reindexed hreindexed p hash targetBytes sellTx slot dex]
      · rw [detectSignals_eq_nil p hash targetBytes sellTx slot fun dex hdex htrades =>
          htrade ⟨dex, hdex, htrades⟩]
        refine detectSignals_eq_nil p hash targetBytes sellTx slot fun dex hdex htrades => ?_
        have hne := (signalsOf_ne_nil_iff p hash targetBytes sellTx slot tx' dex).mpr htrades
        rw [signalsOf_reindexed hreindexed] at hne
        exact htrade ⟨dex, (present_reindexed hreindexed dex).mp hdex,
          (signalsOf_ne_nil_iff p hash targetBytes sellTx slot tx dex).mp hne⟩
    · have hne := List.ne_nil_of_mem hsignal
      have htrades := (signalsOf_ne_nil_iff p hash targetBytes sellTx slot tx dex).mp hne
      rw [detectSignals, h dex hdex htrades _ (present_detectDex hdex)]
      exact hsignal

def aggregated : KeyedTransaction where
  info :=
    { signature := [1]
      transaction := some
        { message := some
            { accountKeys := [List.replicate 32 1, List.replicate 32 2, programIds.raydiumV4,
                programIds.pumpFun]
              instructions := [{ programIdIndex := 3, accounts := [0, 0, 1],
                                 data := buyDiscriminator ++ leBytes 8 100 }] } }
      «meta» := some
        { err := none, preBalances := [], postBalances := [], innerInstructions := []
          loadedWritableAddresses := [], loadedReadonlyAddresses := [] } }
  keys := _
  built := rfl
  nodup := by decide +kernel
  length_le := by decide

theorem aggregated_missed :
    ¬OrderFree .plain .listed (List.replicate 32 1) false 1 aggregated := by
  intro h
  have hsome : ∃ signal ∈ signalsOf .plain .listed programIds (List.replicate 32 1) false 1
      aggregated.info aggregated.keys .pumpFun,
      signal ∉ detectSignals .plain .listed programIds (List.replicate 32 1) false 1
        aggregated.info aggregated.keys := by
    decide +kernel
  obtain ⟨signal, hsignal, hmissed⟩ := hsome
  exact hmissed (h.reported .pumpFun ⟨_, rfl, by decide +kernel⟩ signal hsignal)

end Girasol.Geyser
