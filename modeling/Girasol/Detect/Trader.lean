import Girasol.Detect.CopyEngine
import Girasol.Detect.Geyser
import Girasol.Detect.Shreds

/-!
# Whose trade a signal reports

No listener reads the user account of an instruction.  Each makes its signals
from the first instructions of some shape, so they report trades of the target
exactly when these instructions are the target's.
-/

namespace Girasol

open Foundation

/-! ## The WebSocket listener -/

namespace CopyEngine

section

variable (p : Platform) (keys : List String)

def isPumpTrade (discriminator : List UInt8) (pumpIdx : Nat) (instr : Json) : Bool :=
  programIdIndex instr == pumpIdx &&
    (((instr.get? "data").bind Json.asStr).bind decodeBase58).any
      (hasDiscriminator discriminator) &&
    (accountKey keys 2 instr).any fun mint => (p.parsePubkey mint).toOption.isSome

def isSwapOf (discriminator : List UInt8) (instr : Json) : Bool :=
  (((instr.get? "data").bind Json.asStr).bind pumpswapData).any
    (hasDiscriminator discriminator)

def isPumpswapTrade (ammIdx : Nat) (instr : Json) : Bool :=
  (instr.get? "programIdIndex").bind Json.asU64 == some ammIdx &&
    (((instr.get? "data").bind Json.asStr).bind pumpswapData).any (fun data => 24 ≤ data.length) &&
    (isSwapOf buyDiscriminator instr || isSwapOf sellDiscriminator instr) &&
    17 ≤ ((accountIndices instr).filterMap fun i => keys[i]?).length &&
    (accountKey keys 0 instr).isSome && (accountKey keys 3 instr).isSome &&
    (accountKey keys 4 instr).isSome

def firstPumpTrade (discriminator : List UInt8) (instrs : List Json) : Option Json :=
  (keys.idxOf? pumpFunProgram).bind fun pumpIdx =>
    instrs.find? (isPumpTrade p keys discriminator pumpIdx)

def firstPumpswapTrade (instrs : List Json) : Option Json :=
  (keys.idxOf? pumpFunAmm).bind fun ammIdx => instrs.find? (isPumpswapTrade keys ammIdx)

/--
The instructions that make signals are the target's: the first pump.fun buy,
the first pump.fun sell if sells are mirrored and, without either, the first
PumpSwap trade.
-/
structure TargetTrades (targetWallet : String) (sellDetect : Bool) (instrs : List Json) :
    Prop where
  buy : ∀ instr ∈ firstPumpTrade p keys buyDiscriminator instrs,
    accountKey keys pumpFunUser instr = some targetWallet
  sell : sellDetect → ∀ instr ∈ firstPumpTrade p keys sellDiscriminator instrs,
    accountKey keys pumpFunUser instr = some targetWallet
  swap : firstPumpTrade p keys buyDiscriminator instrs = none →
    firstPumpTrade p keys sellDiscriminator instrs = none →
    ∀ instr ∈ firstPumpswapTrade keys instrs,
      isSwapOf buyDiscriminator instr ∨ sellDetect →
        accountKey keys pumpSwapUser instr = some targetWallet

theorem isSome_pumpInstruction (discriminator : List UInt8) (pumpIdx : Nat) (instr : Json) :
    (pumpInstruction p keys discriminator pumpIdx instr).isSome =
      isPumpTrade p keys discriminator pumpIdx instr := by
  unfold pumpInstruction isPumpTrade
  by_cases hidx : programIdIndex instr = pumpIdx
  · cases hdata : (instr.get? "data").bind Json.asStr with
    | none => simp [hidx]
    | some dataStr =>
        cases hbytes : decodeBase58 dataStr with
        | none => simp [hidx, hbytes]
        | some data =>
            cases hdisc : hasDiscriminator discriminator data with
            | false => simp [hidx, hbytes, hdisc]
            | true =>
                cases hmint : accountKey keys 2 instr with
                | none => simp [hidx, hbytes, hdisc]
                | some mint =>
                    cases hpk : (p.parsePubkey mint).toOption <;>
                      simp [hidx, hbytes, hdisc, hpk]
  · simp [hidx]

theorem isSome_tryParsePumpBuyInstruction (pumpIdx : Nat) (instr : Json) :
    (tryParsePumpBuyInstruction p keys pumpIdx instr).isSome =
      isPumpTrade p keys buyDiscriminator pumpIdx instr := by
  rw [tryParsePumpBuyInstruction, Option.isSome_map, isSome_pumpInstruction]

private theorem isSome_tryParsePumpSellInstruction (pumpIdx : Nat) (instr : Json) :
    (tryParsePumpSellInstruction p keys pumpIdx instr).isSome =
      isPumpTrade p keys sellDiscriminator pumpIdx instr := by
  rw [tryParsePumpSellInstruction, Option.isSome_map, isSome_pumpInstruction]

theorem isSome_parsePumpswapInstruction (ammIdx : Nat) (instr : Json) :
    (parsePumpswapInstruction keys ammIdx instr).isSome = isPumpswapTrade keys ammIdx instr := by
  have hknown : ((accountIndices instr).filterMap fun i => keys[i]?).length ≤
      (accountIndices instr).length := List.length_filterMap_le _ _
  unfold parsePumpswapInstruction isPumpswapTrade isSwapOf
  cases hidx : (instr.get? "programIdIndex").bind Json.asU64 with
  | none => simp
  | some idx =>
      cases hdata : ((instr.get? "data").bind Json.asStr).bind pumpswapData with
      | none => simp
      | some data =>
          by_cases hprogram : idx = ammIdx
          · by_cases hamounts : 24 ≤ data.length
            · have hfirst := u64At_of_le (show 8 + 8 ≤ data.length by omega)
              have hsecond := u64At_of_le (show 16 + 8 ≤ data.length by omega)
              by_cases hcount : 17 ≤ ((accountIndices instr).filterMap fun i => keys[i]?).length
              · rw [atLeast_of_le hcount, atLeast_of_le (hcount.trans hknown)]
                cases hbuy : hasDiscriminator buyDiscriminator data <;>
                  cases hsell : hasDiscriminator sellDiscriminator data <;>
                    cases accountKey keys 0 instr <;> cases accountKey keys 3 instr <;>
                      cases accountKey keys 4 instr <;>
                        simp [hprogram, hamounts, hfirst, hsecond, hcount, hbuy, hsell]
              · rw [atLeast_of_lt (Nat.lt_of_not_le hcount)]
                simp [hprogram, hcount]
            · have hsecond := u64At_of_lt (show data.length < 16 + 8 by omega)
              simp [hprogram, hamounts, hsecond]
          · simp [hprogram]

theorem isBuy_of_parsePumpswapInstruction {ammIdx : Nat} {instr : Json} {isBuy : Bool}
    {parsed : PumpSwapAccounts}
    (h : parsePumpswapInstruction keys ammIdx instr = some (isBuy, parsed)) :
    isBuy = isSwapOf buyDiscriminator instr := by
  unfold parsePumpswapInstruction at h
  obtain ⟨idx, hidx, h⟩ := Option.bind_eq_some_iff.mp h
  split at h
  · contradiction
  · obtain ⟨data, hdata, h⟩ := Option.bind_eq_some_iff.mp h
    obtain ⟨amount1, hamount1, h⟩ := Option.bind_eq_some_iff.mp h
    obtain ⟨amount2, hamount2, h⟩ := Option.bind_eq_some_iff.mp h
    split at h
    · contradiction
    · simp only [Option.bind_eq_bind, Option.bind_eq_some_iff] at h
      obtain ⟨_, _, accounts, _, pool, _, baseMint, _, quoteMint, _, h⟩ := h
      cases h
      simp [isSwapOf, hdata]

end

section

variable (p : Platform) (result : Json) (keys : List String) (targetWallet : String)

theorem parsePump_trader :
    (parsePump p result keys targetWallet).buy.map Found.trader =
        (firstPumpTrade p keys buyDiscriminator (allInstructions result)).map
          (accountKey keys pumpFunUser) ∧
      (parsePump p result keys targetWallet).sell.map Found.trader =
        (firstPumpTrade p keys sellDiscriminator (allInstructions result)).map
          (accountKey keys pumpFunUser) := by
  unfold parsePump firstPumpTrade
  cases keys.idxOf? pumpFunProgram with
  | none => exact ⟨rfl, rfl⟩
  | some pumpIdx =>
      simp only [scanBoth_eq, Option.none_or, Option.bind_some]
      rw [← firstHit_map_fst (isSome_tryParsePumpBuyInstruction p keys pumpIdx),
        ← firstHit_map_fst (isSome_tryParsePumpSellInstruction p keys pumpIdx)]
      simp [Function.comp_def]

theorem parsePumpswap_trader :
    (parsePumpswap p result keys targetWallet).buy.map Found.trader =
        ((firstPumpswapTrade keys (allInstructions result)).filter
          (isSwapOf buyDiscriminator)).map (accountKey keys pumpSwapUser) ∧
      (parsePumpswap p result keys targetWallet).sell.map Found.trader =
        ((firstPumpswapTrade keys (allInstructions result)).filter
          (!isSwapOf buyDiscriminator ·)).map (accountKey keys pumpSwapUser) := by
  unfold parsePumpswap firstPumpswapTrade
  cases keys.idxOf? pumpFunAmm with
  | none => exact ⟨rfl, rfl⟩
  | some ammIdx =>
      simp only [Option.bind_some]
      rw [← firstHit_map_fst (isSome_parsePumpswapInstruction keys ammIdx)]
      cases hfirst : firstHit (parsePumpswapInstruction keys ammIdx) (allInstructions result) with
      | none => exact ⟨rfl, rfl⟩
      | some hit =>
          obtain ⟨instr, isBuy, parsed⟩ := hit
          have hside := isBuy_of_parsePumpswapInstruction keys (parse_of_firstHit hfirst).2
          cases isBuy <;> simp [pumpswapTrade, ← hside, Option.filter]

private theorem forall_signals_iff (sellDetect : Bool) (notif : LogsNotification)
    (trades : ParsedTransaction) (good : Option String → Prop) :
    (∀ e ∈ signals sellDetect notif trades, good e.trader) ↔
      (∀ trader ∈ trades.buy.map Found.trader, good trader) ∧
        (sellDetect → ∀ trader ∈ trades.sell.map Found.trader, good trader) := by
  cases hbuy : trades.buy <;> cases hsell : trades.sell <;> cases sellDetect <;>
    simp [signals, hbuy, hsell]

private theorem parseTrades_eq :
    parseTrades p result keys targetWallet =
      if firstPumpTrade p keys buyDiscriminator (allInstructions result) = none ∧
          firstPumpTrade p keys sellDiscriminator (allInstructions result) = none then
        parsePumpswap p result keys targetWallet
      else parsePump p result keys targetWallet := by
  have hbuy := congrArg Option.isNone (parsePump_trader p result keys targetWallet).1
  have hsell := congrArg Option.isNone (parsePump_trader p result keys targetWallet).2
  simp only [Option.isNone_map] at hbuy hsell
  simp only [parseTrades, hbuy, hsell, Bool.and_eq_true, Option.isNone_iff_eq_none]

private theorem forall_parseTrades_iff (sellDetect : Bool) (notif : LogsNotification) :
    (∀ e ∈ signals sellDetect notif (parseTrades p result keys targetWallet),
        e.trader = some targetWallet) ↔
      TargetTrades p keys targetWallet sellDetect (allInstructions result) := by
  rw [forall_signals_iff sellDetect notif _ (· = some targetWallet), parseTrades_eq]
  split
  case isTrue hnone =>
    obtain ⟨hswapBuy, hswapSell⟩ := parsePumpswap_trader p result keys targetWallet
    rw [hswapBuy, hswapSell]
    constructor
    · rintro ⟨hb, hs⟩
      refine ⟨by simp [hnone.1], by simp [hnone.2], fun _ _ instr hinstr hside => ?_⟩
      cases hbuy : isSwapOf buyDiscriminator instr with
      | true => exact hb _ (Option.mem_map_of_mem _ (Option.mem_filter_iff.mpr ⟨hinstr, hbuy⟩))
      | false =>
          have hmirror : sellDetect = true := by simpa [hbuy] using hside
          exact hs hmirror _
            (Option.mem_map_of_mem _ (Option.mem_filter_iff.mpr ⟨hinstr, by simp [hbuy]⟩))
    · intro h
      constructor
      · intro trader htrader
        obtain ⟨instr, hinstr, rfl⟩ := Option.mem_map.mp htrader
        obtain ⟨hmem, hbuy⟩ := Option.mem_filter_iff.mp hinstr
        exact h.swap hnone.1 hnone.2 instr hmem (.inl hbuy)
      · intro hmirror trader htrader
        obtain ⟨instr, hinstr, rfl⟩ := Option.mem_map.mp htrader
        obtain ⟨hmem, -⟩ := Option.mem_filter_iff.mp hinstr
        exact h.swap hnone.1 hnone.2 instr hmem (.inr hmirror)
  case isFalse hsome =>
    obtain ⟨hpumpBuy, hpumpSell⟩ := parsePump_trader p result keys targetWallet
    rw [hpumpBuy, hpumpSell]
    constructor
    · rintro ⟨hb, hs⟩
      exact ⟨by simpa using hb, by simpa using hs,
        fun hnoBuy hnoSell => absurd ⟨hnoBuy, hnoSell⟩ hsome⟩
    · rintro ⟨hb, hs, -⟩
      exact ⟨by simpa using hb, by simpa using hs⟩

theorem forall_handleMessage_iff (sellDetect : Bool) (render : Json → String) (message : Json)
    (replies : List HttpReply) :
    (∀ e ∈ handleMessage p targetWallet sellDetect render message replies,
        e.trader = some targetWallet) ↔
      ∀ notif ∈ parseLogsNotification message, accepted notif →
        ∀ tx ∈ fetched render replies,
          TargetTrades p tx.2 targetWallet sellDetect (allInstructions tx.1) := by
  unfold handleMessage
  cases parseLogsNotification message with
  | none => simp
  | some notif =>
      cases haccepted : accepted notif with
      | false => simp [haccepted]
      | true =>
          cases fetched render replies with
          | none => simp [haccepted]
          | some tx =>
              simp only [haccepted, if_true, Option.mem_some_iff, forall_eq', forall_const]
              exact forall_parseTrades_iff p tx.1 tx.2 targetWallet sellDetect notif

end

end CopyEngine

/-! ## The Geyser listener -/

namespace Geyser

section

variable (keys : List (List UInt8))

def isPumpTrade (discriminator : List UInt8) (pumpIdx : Nat) (ix : CompiledInstruction) : Bool :=
  ix.programIdIndex == pumpIdx && hasDiscriminator discriminator ix.data &&
    (accountKey keys 2 ix).isSome

def isPumpswapTrade (discriminator : List UInt8) (ammIdx : Nat) (ix : CompiledInstruction) :
    Bool :=
  ix.programIdIndex == ammIdx && 24 ≤ ix.data.length && 17 ≤ ix.accounts.length &&
    hasDiscriminator discriminator ix.data && (accountKey keys 3 ix).isSome

structure FirstTradesOf (isTrade : List UInt8 → Nat → CompiledInstruction → Bool) (user : Nat)
    (program targetBytes : List UInt8) (sellTx : Bool) (instrs : List CompiledInstruction) :
    Prop where
  buy : ∀ idx ∈ keys.idxOf? program, ∀ ix ∈ instrs.find? (isTrade buyDiscriminator idx),
    accountKey keys user ix = some targetBytes
  sell : sellTx → ∀ idx ∈ keys.idxOf? program, ∀ ix ∈ instrs.find? (isTrade sellDiscriminator idx),
    accountKey keys user ix = some targetBytes

structure TargetTrades (ids : ProgramIds) (targetBytes : List UInt8) (sellTx : Bool)
    (instrs : List CompiledInstruction) : Prop where
  pump : ids.detectDex keys = .pumpFun →
    FirstTradesOf keys (isPumpTrade keys) pumpFunUser ids.pumpFun targetBytes sellTx instrs
  swap : ids.detectDex keys = .pumpFunAmm →
    FirstTradesOf keys (isPumpswapTrade keys) pumpSwapUser ids.pumpFunAmm targetBytes sellTx instrs

theorem three_le_of_accountKey (ix : CompiledInstruction) (h : (accountKey keys 2 ix).isSome) :
    3 ≤ ix.accounts.length := by
  by_contra hshort
  simp [accountKey, List.getElem?_eq_none (show ix.accounts.length ≤ 2 by omega)] at h

end

section

variable (r : Rounding) (keys : List (List UInt8)) (delta : Option (ℚ × ℚ))

def foundBuy (ix : CompiledInstruction) (mint : List UInt8) : FoundBuy where
  mint := encodeBase58 mint
  tokenAmount := u64At 8 ix.data
  solAmount := (spent delta).or ((u64At 16 ix.data).map (lamportsToSol r))
  pool := none
  accounts := accountStrings keys ix

def foundSell (ix : CompiledInstruction) (mint : List UInt8) : FoundSell where
  mint := encodeBase58 mint
  tokenAmount := u64At 8 ix.data
  solReceived := received delta

theorem checkInstruction_eq (pumpIdx : Nat) (ix : CompiledInstruction) :
    checkInstruction r keys delta pumpIdx ix =
      (if isPumpTrade keys buyDiscriminator pumpIdx ix then
        (accountKey keys 2 ix).map (foundBuy r keys delta ix) else none,
      if isPumpTrade keys sellDiscriminator pumpIdx ix then
        (accountKey keys 2 ix).map (foundSell delta ix) else none) := by
  have hlength := three_le_of_accountKey keys ix
  have hexclusive := not_both_discriminators ix.data
  unfold checkInstruction isPumpTrade
  by_cases hidx : ix.programIdIndex = pumpIdx
  · cases hbuy : hasDiscriminator buyDiscriminator ix.data <;>
      cases hsell : hasDiscriminator sellDiscriminator ix.data <;>
        cases hmint : accountKey keys 2 ix <;>
          simp_all [foundBuy, foundSell]
  · simp [hidx]

end

section

variable (keys : List (List UInt8)) (r : Rounding) (delta : Option (ℚ × ℚ))

theorem isSome_checkInstruction (pumpIdx : Nat) (ix : CompiledInstruction) :
    (checkInstruction r keys delta pumpIdx ix).1.isSome =
        isPumpTrade keys buyDiscriminator pumpIdx ix ∧
      (checkInstruction r keys delta pumpIdx ix).2.isSome =
        isPumpTrade keys sellDiscriminator pumpIdx ix := by
  have hmint (discriminator : List UInt8)
      (htrade : isPumpTrade keys discriminator pumpIdx ix = true) :
      (accountKey keys 2 ix).isSome := by
    simp only [isPumpTrade, Bool.and_eq_true] at htrade
    exact htrade.2
  rw [checkInstruction_eq]
  constructor
  · cases htrade : isPumpTrade keys buyDiscriminator pumpIdx ix with
    | false => simp
    | true => simp [hmint _ htrade]
  · cases htrade : isPumpTrade keys sellDiscriminator pumpIdx ix with
    | false => simp
    | true => simp [hmint _ htrade]

theorem isSome_checkPumpswapIx (ammIdx : Nat) (ix : CompiledInstruction) :
    (checkPumpswapIx r keys delta ammIdx ix).1.isSome =
        isPumpswapTrade keys buyDiscriminator ammIdx ix ∧
      (checkPumpswapIx r keys delta ammIdx ix).2.isSome =
        isPumpswapTrade keys sellDiscriminator ammIdx ix := by
  have hexclusive := not_both_discriminators ix.data
  unfold checkPumpswapIx isPumpswapTrade
  split
  case isTrue hshort =>
    simp only [Bool.or_eq_true, decide_eq_true_eq] at hshort
    rcases hshort with (hprogram | hdata) | haccounts
    · simp [hprogram]
    · simp [Nat.not_le_of_lt hdata]
    · simp [Nat.not_le_of_lt haccounts]
  case isFalse hlong =>
    cases hbuy : hasDiscriminator buyDiscriminator ix.data <;>
      cases hsell : hasDiscriminator sellDiscriminator ix.data <;>
        cases hmint : accountKey keys 3 ix <;>
          simp_all

end

section

variable (p : Platform) (ids : ProgramIds) (targetBytes : List UInt8) (sellTx : Bool)
  (slot : Nat) (info : SubscribeUpdateTransactionInfo) (keys : List (List UInt8))

theorem forall_sendFirsts_iff (dex : DexType) (user : Nat)
    {check : CompiledInstruction → Option FoundBuy × Option FoundSell}
    {isBuy isSell : CompiledInstruction → Bool}
    (hcheck : ∀ ix, (check ix).1.isSome = isBuy ix ∧ (check ix).2.isSome = isSell ix)
    (good : Option (List UInt8) → Prop) :
    (∀ e ∈ sendFirsts sellTx slot info keys dex user check, good e.trader) ↔
      (∀ ix ∈ (allInstructions info).find? isBuy, good (accountKey keys user ix)) ∧
        (sellTx → ∀ ix ∈ (allInstructions info).find? isSell, good (accountKey keys user ix)) := by
  rw [← firstHit_map_fst fun ix => (hcheck ix).1, ← firstHit_map_fst fun ix => (hcheck ix).2]
  constructor
  · intro h
    constructor
    · intro ix hix
      obtain ⟨⟨_, buy⟩, hfirst, rfl⟩ := Option.mem_map.mp hix
      exact h _ (List.mem_filterMap.mpr ⟨_, inl_mem_emitFirsts.mpr ⟨rfl, hfirst⟩, rfl⟩)
    · intro hmirror ix hix
      obtain ⟨⟨_, sell⟩, hfirst, rfl⟩ := Option.mem_map.mp hix
      exact h _ (List.mem_filterMap.mpr
        ⟨_, inr_mem_emitFirsts.mpr ⟨rfl, hfirst⟩, if_pos hmirror⟩)
  · rintro ⟨hbuy, hsell⟩ e he
    obtain ⟨⟨ix, found⟩, hfound, he⟩ := List.mem_filterMap.mp he
    cases found with
    | inl buy =>
        cases he
        have hfirst := (inl_mem_emitFirsts.mp hfound).2
        exact hbuy ix (Option.mem_map_of_mem Prod.fst hfirst)
    | inr sell =>
        cases hmirror : sellTx with
        | false => simp [hmirror] at he
        | true =>
            simp only [hmirror, if_true] at he
            cases he
            have hfirst := (inr_mem_emitFirsts.mp hfound).2
            exact hsell hmirror ix (Option.mem_map_of_mem Prod.fst hfirst)

private theorem forall_firstTrades_iff (dex : DexType) (user : Nat) (program : List UInt8)
    {check : Nat → CompiledInstruction → Option FoundBuy × Option FoundSell}
    {isTrade : List UInt8 → Nat → CompiledInstruction → Bool}
    (hcheck : ∀ idx ix, (check idx ix).1.isSome = isTrade buyDiscriminator idx ix ∧
      (check idx ix).2.isSome = isTrade sellDiscriminator idx ix) :
    (∀ e ∈ (match keys.idxOf? program with
        | none => []
        | some idx => sendFirsts sellTx slot info keys dex user (check idx)),
      e.trader = some targetBytes) ↔
      FirstTradesOf keys isTrade user program targetBytes sellTx (allInstructions info) := by
  cases hidx : keys.idxOf? program with
  | none => exact ⟨fun _ => ⟨by simp [hidx], by simp [hidx]⟩, fun _ => by simp⟩
  | some idx =>
      simp only
      rw [forall_sendFirsts_iff sellTx slot info keys dex user (hcheck idx)
        (· = some targetBytes)]
      exact ⟨fun ⟨hb, hs⟩ => ⟨by simpa [hidx] using hb, by simpa [hidx] using hs⟩,
        fun h => ⟨h.buy idx hidx, fun hmirror => h.sell hmirror idx hidx⟩⟩

private theorem forall_handleTransaction_iff :
    (∀ e ∈ handleTransaction p sellTx ids targetBytes slot info, e.trader = some targetBytes) ↔
      ∀ keys ∈ keysOf info,
        TargetTrades keys ids targetBytes sellTx (allInstructions info) := by
  unfold handleTransaction
  cases hkeys : keysOf info with
  | none => simp
  | some keys =>
      simp only [Option.mem_some_iff, forall_eq']
      cases hdex : ids.detectDex keys with
      | pumpFun =>
          have hfirst := forall_firstTrades_iff targetBytes sellTx slot info keys .pumpFun
            pumpFunUser ids.pumpFun (isSome_checkInstruction keys p.rounding
              (computeSolDelta p.rounding info keys targetBytes))
          exact hfirst.trans ⟨fun h => ⟨fun _ => h, by simp [hdex]⟩, fun h => h.pump hdex⟩
      | pumpFunAmm =>
          have hfirst := forall_firstTrades_iff targetBytes sellTx slot info keys .pumpFunAmm
            pumpSwapUser ids.pumpFunAmm (isSome_checkPumpswapIx keys p.rounding
              (computeSolDelta p.rounding info keys targetBytes))
          exact hfirst.trans ⟨fun h => ⟨by simp [hdex], fun _ => h⟩, fun h => h.swap hdex⟩
      | _ => exact ⟨fun _ => ⟨by simp [hdex], by simp [hdex]⟩, fun _ => by simp⟩

theorem forall_handleUpdate_iff (targetWallet : String) (update : SubscribeUpdate) :
    (∀ e ∈ handleUpdate p targetWallet sellTx update,
        e.trader = decodeBase58 targetWallet) ↔
      ∀ targetBytes ∈ decodeBase58 targetWallet, ∀ ids ∈ ProgramIds.new,
        ∀ tx ∈ transactionOf update, ∀ keys ∈ keysOf tx.2,
          TargetTrades keys ids targetBytes sellTx (allInstructions tx.2) := by
  unfold handleUpdate
  cases decodeBase58 targetWallet with
  | none => simp
  | some targetBytes =>
      cases ProgramIds.new with
      | none => simp
      | some ids =>
          cases transactionOf update with
          | none => simp
          | some tx =>
              simp only [Option.mem_some_iff, forall_eq']
              exact forall_handleTransaction_iff p ids targetBytes sellTx tx.1 tx.2

end

end Geyser

/-! ## The ShredStream listener -/

namespace Shreds

def isPumpTrade (pumpIdx : Nat) (ix : CompiledInstruction) : Bool :=
  ix.programIdIndex.toNat == pumpIdx && 3 ≤ ix.accounts.length &&
    (hasDiscriminator buyDiscriminator ix.data || hasDiscriminator sellDiscriminator ix.data)

/--
The first pump.fun trade of a transaction with the target among its static keys
is the target's, unless the key of its mint is not resolved.
-/
def TargetTrades (targetPubkey pumpPubkey : Pubkey) (altCache : AltCache)
    (message : VersionedMessage) : Prop :=
  targetPubkey ∈ message.staticAccountKeys →
    ∀ pumpIdx ∈ message.staticAccountKeys.idxOf? pumpPubkey,
      ∀ ix ∈ message.instructions.find? (isPumpTrade pumpIdx),
        (accountKey (resolvedKey altCache message) 2 ix).isSome →
          accountKey (resolvedKey altCache message) pumpFunUser ix = some targetPubkey

def tradeSignal (r : Rounding) (getKey : Nat → Option Pubkey) (sig : String) (slot : Nat)
    (ix : CompiledInstruction) (mint : Pubkey) : Emission Pubkey :=
  if hasDiscriminator buyDiscriminator ix.data then buySignal r getKey sig slot ix mint
  else sellSignal getKey sig slot ix mint

theorem parsePumpFromVtx_eq (r : Rounding) (getKey : Nat → Option Pubkey) (pumpIdx : Nat)
    (sig : String) (slot : Nat) (instrs : List CompiledInstruction) :
    parsePumpFromVtx r getKey pumpIdx sig slot instrs =
      ((instrs.find? (isPumpTrade pumpIdx)).bind fun ix =>
        (accountKey getKey 2 ix).map (tradeSignal r getKey sig slot ix)).toList := by
  induction instrs with
  | nil => rfl
  | cons ix rest ih =>
      rw [parsePumpFromVtx, List.find?_cons]
      cases htrade : isPumpTrade pumpIdx ix with
      | true =>
          simp only [isPumpTrade, Bool.and_eq_true, beq_iff_eq, decide_eq_true_eq,
            Bool.or_eq_true] at htrade
          obtain ⟨⟨hprogram, haccounts⟩, hside⟩ := htrade
          have hdata : ¬ix.data.length < 8 := by
            rcases hside with hside | hside <;>
              exact Nat.not_lt_of_le (length_of_hasDiscriminator hside)
          rw [if_neg (by simp [hprogram, hdata])]
          cases hbuy : hasDiscriminator buyDiscriminator ix.data with
          | true =>
              have hsignal : tradeSignal r getKey sig slot ix = buySignal r getKey sig slot ix :=
                funext fun mint => if_pos hbuy
              simp [haccounts, hsignal]
          | false =>
              have hsell : hasDiscriminator sellDiscriminator ix.data := by simpa [hbuy] using hside
              have hsignal : tradeSignal r getKey sig slot ix = sellSignal getKey sig slot ix :=
                funext fun mint => if_neg (by simp [hbuy])
              simp [haccounts, hsell, hsignal]
      | false =>
          rw [← ih]
          by_cases hskip : ix.programIdIndex.toNat ≠ pumpIdx || ix.data.length < 8
          · rw [if_pos hskip]
          · rw [if_neg hskip, if_neg, if_neg]
            all_goals
              intro hother
              simp_all [isPumpTrade]

private theorem parsePumpFromVtx_trader (r : Rounding) (getKey : Nat → Option Pubkey)
    (pumpIdx : Nat) (sig : String) (slot : Nat) (instrs : List CompiledInstruction) :
    (parsePumpFromVtx r getKey pumpIdx sig slot instrs).map Emission.trader =
      ((instrs.find? (isPumpTrade pumpIdx)).filter fun ix =>
        (accountKey getKey 2 ix).isSome).toList.map (accountKey getKey pumpFunUser) := by
  have htrader (ix : CompiledInstruction) (mint : Pubkey) :
      (tradeSignal r getKey sig slot ix mint).trader = accountKey getKey pumpFunUser ix := by
    unfold tradeSignal
    split <;> rfl
  rw [parsePumpFromVtx_eq]
  cases instrs.find? (isPumpTrade pumpIdx) with
  | none => rfl
  | some ix => cases hmint : accountKey getKey 2 ix <;> simp [hmint, htrader, Option.filter]

private theorem forall_handleTransaction_iff (p : Platform) (targetPubkey pumpPubkey : Pubkey)
    (slot : Nat) (altCache : AltCache) (vtx : VersionedTransaction) :
    (∀ e ∈ handleTransaction p targetPubkey pumpPubkey slot altCache vtx,
        e.trader = some targetPubkey) ↔
      TargetTrades targetPubkey pumpPubkey altCache vtx.message := by
  simp only [handleTransaction, TargetTrades]
  by_cases htarget : targetPubkey ∈ vtx.message.staticAccountKeys
  · cases hidx : vtx.message.staticAccountKeys.idxOf? pumpPubkey with
    | none => simp
    | some pumpIdx =>
        simp only [htarget, if_true, forall_const, Option.mem_some_iff, forall_eq']
        rw [← List.forall_mem_map (f := Emission.trader) (P := (· = some targetPubkey)),
          parsePumpFromVtx_trader, List.forall_mem_map]
        simp [Option.filter_eq_some_iff, and_imp]
  · simp [htarget]

theorem forall_handleVtx_iff (p : Platform) (targetWallet pumpProgram : String) (slot : Nat)
    (altCache : AltCache) (vtx : VersionedTransaction) :
    (∀ e ∈ handleVtx p targetWallet pumpProgram slot altCache vtx,
        e.trader = (p.parsePubkey targetWallet).toOption) ↔
      ∀ targetPubkey ∈ (p.parsePubkey targetWallet).toOption,
        ∀ pumpPubkey ∈ (p.parsePubkey pumpProgram).toOption,
          TargetTrades targetPubkey pumpPubkey altCache vtx.message := by
  unfold handleVtx
  cases p.parsePubkey targetWallet with
  | error e => simp [Except.toOption]
  | ok targetPubkey =>
      cases p.parsePubkey pumpProgram with
      | error e => simp [Except.toOption]
      | ok pumpPubkey =>
          simp only [Except.toOption, Option.mem_some_iff, forall_eq']
          exact forall_handleTransaction_iff p targetPubkey pumpPubkey slot altCache vtx

end Shreds

/-! ## All listeners -/

structure Listeners where
  platform : Platform
  targetWallet : String
  pumpProgram : String
  render : Json → String

/-- A transaction on its way into a listener, with what the listener reads besides it. -/
inductive Delivery where
  | webSocket (sellDetect : Bool) (message : Json) (replies : List CopyEngine.HttpReply)
  | geyser (sellTx : Bool) (update : Geyser.SubscribeUpdate)
  | shreds (slot : Nat) (altCache : Shreds.AltCache) (vtx : Shreds.VersionedTransaction)

namespace Delivery

variable (listeners : Listeners)

/-- Every signal is made from an instruction whose user account is the target wallet. -/
def SignalsTarget : Delivery → Prop
  | .webSocket sellDetect message replies =>
      ∀ e ∈ CopyEngine.handleMessage listeners.platform listeners.targetWallet sellDetect
        listeners.render message replies, e.trader = some listeners.targetWallet
  | .geyser sellTx update =>
      ∀ e ∈ Geyser.handleUpdate listeners.platform listeners.targetWallet sellTx update,
        e.trader = decodeBase58 listeners.targetWallet
  | .shreds slot altCache vtx =>
      ∀ e ∈ Shreds.handleVtx listeners.platform listeners.targetWallet listeners.pumpProgram slot
        altCache vtx,
        e.trader = (listeners.platform.parsePubkey listeners.targetWallet).toOption

/-- The instructions that make signals have the target wallet as their user account. -/
def TradesOfTarget : Delivery → Prop
  | .webSocket sellDetect message replies =>
      ∀ notif ∈ CopyEngine.parseLogsNotification message, CopyEngine.accepted notif →
        ∀ tx ∈ CopyEngine.fetched listeners.render replies,
          CopyEngine.TargetTrades listeners.platform tx.2 listeners.targetWallet sellDetect
            (CopyEngine.allInstructions tx.1)
  | .geyser sellTx update =>
      ∀ targetBytes ∈ decodeBase58 listeners.targetWallet, ∀ ids ∈ Geyser.ProgramIds.new,
        ∀ tx ∈ Geyser.transactionOf update, ∀ keys ∈ Geyser.keysOf tx.2,
          Geyser.TargetTrades keys ids targetBytes sellTx (Geyser.allInstructions tx.2)
  | .shreds _ altCache vtx =>
      ∀ targetPubkey ∈ (listeners.platform.parsePubkey listeners.targetWallet).toOption,
        ∀ pumpPubkey ∈ (listeners.platform.parsePubkey listeners.pumpProgram).toOption,
          Shreds.TargetTrades targetPubkey pumpPubkey altCache vtx.message

end Delivery

/-- Signals report trades of the target exactly when the instructions they come from are its own. -/
theorem signals_target_iff (listeners : Listeners) (delivery : Delivery) :
    delivery.SignalsTarget listeners ↔ delivery.TradesOfTarget listeners := by
  cases delivery with
  | webSocket sellDetect message replies =>
      exact CopyEngine.forall_handleMessage_iff listeners.platform listeners.targetWallet sellDetect
        listeners.render message replies
  | geyser sellTx update =>
      exact Geyser.forall_handleUpdate_iff listeners.platform sellTx listeners.targetWallet update
  | shreds slot altCache vtx =>
      exact Shreds.forall_handleVtx_iff listeners.platform listeners.targetWallet
        listeners.pumpProgram slot altCache vtx

def Listeners.plain : Listeners where
  platform := .plain
  targetWallet := "So11111111111111111111111111111111111111112"
  pumpProgram := pumpFunProgram
  render := fun _ => ""

def strangerKey : Pubkey := List.replicate 32 9

def strangersBuy : Delivery :=
  .geyser false
    { slot := none
      transaction := some
        { transaction := some
            { signature := [1]
              transaction := some
                { message := some
                    { accountKeys :=
                        [strangerKey,
                          (decodeBase58 Listeners.plain.targetWallet).getD [],
                          List.replicate 32 8,
                          (decodeBase58 pumpFunProgram).getD []]
                      instructions :=
                        [{ programIdIndex := 3
                           accounts := [3, 3, 2, 3, 3, 3, 0]
                           data := buyDiscriminator ++ leBytes 8 100 ++ leBytes 8 1000000000 }] } }
              «meta» := some
                { err := none, preBalances := [], postBalances := [], innerInstructions := []
                  loadedWritableAddresses := [], loadedReadonlyAddresses := [] } }
          slot := 1 }
      pong := none }

theorem stranger_signalled : ¬strangersBuy.SignalsTarget .plain := by
  unfold strangersBuy Delivery.SignalsTarget
  decide +kernel

end Girasol
