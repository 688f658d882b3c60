import Girasol.Detect.PairedTransaction
import Girasol.Detect.Raydium

/-!
# The exchange of a WebSocket signal

The label of a signal comes from the log lines of the notification.  The trade
comes from the account keys and instructions of the fetched transaction, and the
label decides where the bot buys.
-/

namespace Girasol

open Foundation

def DexType.readsPool : DexType → Bool
  | .pumpFunAmm | .raydiumV4 | .raydiumCpmm => true
  | .pumpFun | .jupiter | .unknown _ => false

/-- The label names the exchange the trade was parsed from, with its pool if a buy needs one. -/
def Signal.LabelledFor (source : DexType) (signal : Signal) : Prop :=
  signal.dex = source ∧ signal.ammPool.isSome = source.readsPool

instance (source : DexType) (signal : Signal) : Decidable (signal.LabelledFor source) :=
  inferInstanceAs (Decidable (_ ∧ _))

namespace CopyEngine

/-! ## Log lines -/

def NamedFirst (logs : List String) (dex : DexType) : Prop :=
  (∃ before line after, logs = before ++ line :: after ∧ dexOfLog line = some dex ∧
    ∀ other ∈ before, dexOfLog other = none) ∨
  dex = .pumpFun ∧ (∀ line ∈ logs, dexOfLog line = none) ∧
    ∃ line ∈ logs, containsText line pumpFunProgram

theorem detectDex_eq_iff (logs : List String) {dex : DexType} (hdex : dex ≠ .unknown "none") :
    detectDex logs = dex ↔ NamedFirst logs dex := by
  unfold detectDex NamedFirst
  rw [← List.findSome?_eq_some_iff]
  cases hfirst : logs.findSome? dexOfLog with
  | some first =>
      have hnamed : ¬∀ line ∈ logs, dexOfLog line = none := by
        rw [← List.findSome?_eq_none_iff, hfirst]
        simp
      simp [hnamed]
  | none =>
      have hnone := List.findSome?_eq_none_iff.mp hfirst
      by_cases hprogram : ∃ line ∈ logs, containsText line pumpFunProgram
      · have hany : (logs.any fun log => containsText log pumpFunProgram) = true := by
          simpa using hprogram
        simpa [hany, hprogram, eq_comm (a := DexType.pumpFun)] using fun _ => hnone
      · have hany : (logs.any fun log => containsText log pumpFunProgram) = false := by
          simpa using hprogram
        simp [hany, hprogram, hdex.symm]

/-! ## Pools -/

section

variable (keys : List String) (programIdx : Nat)

def passedOver (instr : Json) : Bool :=
  ((instr.get? "programIdIndex").bind Json.asU64).any fun pid =>
    pid != programIdx ||
      ((instr.get? "accounts").bind Json.asArray).any fun accounts =>
        accounts[1]?.all fun account => account.asU64.any fun i => keys.length ≤ i

def listsPool (instr : Json) : Bool :=
  ((instr.get? "programIdIndex").bind Json.asU64) == some programIdx &&
    ((((instr.get? "accounts").bind Json.asArray).bind fun accounts => accounts[1]?).bind
      Json.asU64).any fun i => i < keys.length

def PoolListed (instrs : List Json) : Prop :=
  ∃ instr ∈ instrs.find? (!passedOver keys programIdx ·), listsPool keys programIdx instr

theorem extractRaydiumAmmPool_isSome (instrs : List Json) :
    (extractRaydiumAmmPool keys programIdx instrs).isSome ↔
      PoolListed keys programIdx instrs := by
  induction instrs with
  | nil => simp [extractRaydiumAmmPool, PoolListed]
  | cons instr rest ih =>
      unfold PoolListed at ih ⊢
      rw [List.find?_cons, extractRaydiumAmmPool]
      cases hpid : (instr.get? "programIdIndex").bind Json.asU64 with
      | none =>
          have hstop : passedOver keys programIdx instr = false := by simp [passedOver, hpid]
          simp [hstop, listsPool, hpid]
      | some pid =>
          by_cases hprogram : pid = programIdx
          · cases haccounts : (instr.get? "accounts").bind Json.asArray with
            | none =>
                have hstop : passedOver keys programIdx instr = false := by
                  simp [passedOver, hpid, hprogram, haccounts]
                simp [hstop, listsPool, hprogram, haccounts]
            | some accounts =>
                cases haccount : accounts[1]? with
                | none =>
                    have hpass : passedOver keys programIdx instr = true := by
                      simp [passedOver, hpid, haccounts, haccount]
                    simpa [hpass, hprogram, haccount] using ih
                | some account =>
                    cases hi : account.asU64 with
                    | none =>
                        have hstop : passedOver keys programIdx instr = false := by
                          simp [passedOver, hpid, hprogram, haccounts, haccount, hi]
                        simp [hstop, listsPool, hprogram, haccounts, haccount, hi]
                    | some i =>
                        by_cases hlt : i < keys.length
                        · have hstop : passedOver keys programIdx instr = false := by
                            simp [passedOver, hpid, hprogram, haccounts, haccount, hi, hlt]
                          simp [hstop, listsPool, hpid, hprogram, haccounts, haccount, hi, hlt]
                        · have hpass : passedOver keys programIdx instr = true := by
                            simp [passedOver, hpid, haccounts, haccount, hi, Nat.le_of_not_lt hlt]
                          simpa [hpass, hprogram, haccount, hi, hlt] using ih
          · have hpass : passedOver keys programIdx instr = true := by
              simp [passedOver, hpid, hprogram]
            simpa [hpass, hprogram] using ih

end

/-! ## What each pass finds -/

theorem forall_labelled_iff (sellDetect : Bool) (notif : LogsNotification)
    (trades : ParsedTransaction) (source : DexType) {pool : Bool}
    (hbuy : ∀ found ∈ trades.buy, found.parsed.ammPool.isSome = pool)
    (hsell : ∀ found ∈ trades.sell, found.parsed.ammPool.isSome = pool) :
    (∀ e ∈ signals sellDetect notif trades, e.signal.LabelledFor source) ↔
      (trades.buy.isSome ∨ sellDetect ∧ trades.sell.isSome →
        detectDex notif.logs = source ∧ pool = source.readsPool) := by
  obtain ⟨buy, sell⟩ := trades
  cases buy <;> cases sell <;> cases sellDetect <;>
    simp_all [signals, Signal.LabelledFor, Signal.dex, Signal.ammPool]

section

variable (p : Platform) (hash : HashOrder) (result : Json) (keys : List String)
  (targetWallet : String)

private theorem ammPool_withSpent (parsed : ParsedBuy) :
    (withSpent p result keys targetWallet parsed).ammPool = parsed.ammPool := by
  unfold withSpent
  split
  · split <;> rfl
  · rfl

private theorem ammPool_withReceived (parsed : ParsedSell) :
    (withReceived p result keys targetWallet parsed).ammPool = parsed.ammPool := by
  unfold withReceived
  split
  · split <;> rfl
  · rfl

theorem pool_of_parsePump :
    (∀ found ∈ (parsePump p result keys targetWallet).buy,
      found.parsed.ammPool.isSome = false) ∧
    ∀ found ∈ (parsePump p result keys targetWallet).sell,
      found.parsed.ammPool.isSome = false := by
  unfold parsePump
  cases keys.idxOf? pumpFunProgram with
  | none => simp
  | some pumpIdx =>
      simp only [scanBoth_eq, Option.none_or]
      constructor
      · intro found hfound
        obtain ⟨⟨instr, parsed⟩, hfirst, rfl⟩ := Option.mem_map.mp hfound
        obtain ⟨hit, -, rfl⟩ := Option.map_eq_some_iff.mp (parse_of_firstHit hfirst).2
        simp [ammPool_withSpent]
      · intro found hfound
        obtain ⟨⟨instr, parsed⟩, hfirst, rfl⟩ := Option.mem_map.mp hfound
        obtain ⟨hit, -, rfl⟩ := Option.map_eq_some_iff.mp (parse_of_firstHit hfirst).2
        simp [ammPool_withReceived]

theorem pool_of_parsePumpswap :
    (∀ found ∈ (parsePumpswap p result keys targetWallet).buy,
      found.parsed.ammPool.isSome = true) ∧
    ∀ found ∈ (parsePumpswap p result keys targetWallet).sell,
      found.parsed.ammPool.isSome = true := by
  unfold parsePumpswap
  cases keys.idxOf? pumpFunAmm with
  | none => simp
  | some ammIdx =>
      dsimp only
      cases firstHit (parsePumpswapInstruction keys ammIdx) (allInstructions result) with
      | none => simp
      | some hit =>
          obtain ⟨instr, isBuy, parsed⟩ := hit
          cases isBuy <;> simp [pumpswapTrade]

def firstChange (pre post : List (String × Nat)) : Option String :=
  (allMints hash pre post).find? fun mint => amountOf pre mint != amountOf post mint

theorem tryParseRaydiumSwap_spec (ammPool : Option String) :
    let swap := tryParseRaydiumSwap p hash result keys targetWallet ammPool
    ((∀ found ∈ swap.buy, found.parsed.ammPool = ammPool) ∧
      ∀ found ∈ swap.sell, found.parsed.ammPool = ammPool) ∧
    (swap.buy.isSome ↔ ∃ balances ∈ targetBalances result keys targetWallet,
      ∃ mint ∈ firstChange hash balances.1 balances.2,
        amountOf balances.1 mint < amountOf balances.2 mint) ∧
    (swap.sell.isSome ↔ ∃ balances ∈ targetBalances result keys targetWallet,
      ∃ mint ∈ firstChange hash balances.1 balances.2,
        amountOf balances.2 mint < amountOf balances.1 mint) := by
  unfold tryParseRaydiumSwap firstChange
  cases targetBalances result keys targetWallet with
  | none => simp
  | some balances =>
      obtain ⟨pre, post⟩ := balances
      have hshape (mint : String) (buy sell : ParsedTransaction) :
          (if amountOf pre mint < amountOf post mint then some buy
            else if amountOf post mint < amountOf pre mint then some sell else none).isSome =
              (amountOf pre mint != amountOf post mint) := by
        rcases Nat.lt_trichotomy (amountOf pre mint) (amountOf post mint) with hlt | heq | hgt
        · simp [hlt, hlt.ne]
        · simp [heq]
        · simp [hgt, hgt.ne', hgt.not_gt]
      simp only [findSome?_eq_find? fun mint => hshape mint _ _]
      cases hmint : (allMints hash pre post).find? fun mint =>
          amountOf pre mint != amountOf post mint with
      | none => simp [hmint]
      | some mint =>
          have hchanged : amountOf pre mint ≠ amountOf post mint := by
            simpa using List.find?_some hmint
          by_cases hgained : amountOf pre mint < amountOf post mint
          · simp [hmint, hgained, hgained.not_gt]
          · have hlost := lt_of_le_of_ne (Nat.le_of_not_lt hgained) hchanged.symm
            simp [hmint, hgained, hlost]

end

/-! ## Labels -/

/-- Whichever pass makes the signals, the log lines name its exchange first. -/
structure SourceNamed (p : Platform) (hash : HashOrder) (targetWallet : String)
    (sellDetect : Bool) (logs : List String) (result : Json) (keys : List String) : Prop where
  pump : (firstPumpTrade p keys buyDiscriminator (allInstructions result)).isSome ∨
      sellDetect ∧ (firstPumpTrade p keys sellDiscriminator (allInstructions result)).isSome →
    NamedFirst logs .pumpFun
  swap : firstPumpTrade p keys buyDiscriminator (allInstructions result) = none →
    firstPumpTrade p keys sellDiscriminator (allInstructions result) = none →
    ∀ instr ∈ firstPumpswapTrade keys (allInstructions result),
      isSwapOf buyDiscriminator instr ∨ sellDetect → NamedFirst logs .pumpFunAmm
  raydium : firstPumpTrade p keys buyDiscriminator (allInstructions result) = none →
    firstPumpTrade p keys sellDiscriminator (allInstructions result) = none →
    firstPumpswapTrade keys (allInstructions result) = none →
    ∀ exchange ∈ raydiumProgram keys, ∀ balances ∈ targetBalances result keys targetWallet,
      ∀ mint ∈ firstChange hash balances.1 balances.2,
        amountOf balances.1 mint < amountOf balances.2 mint ∨ sellDetect →
          NamedFirst logs exchange.1 ∧
            ∃ programIdx ∈ keys.idxOf? exchange.2,
              PoolListed keys programIdx (allInstructions result)

section

variable (p : Platform) (hash : HashOrder) (result : Json) (keys : List String)
  (targetWallet : String)

theorem isSome_parsePump :
    (parsePump p result keys targetWallet).buy.isSome =
        (firstPumpTrade p keys buyDiscriminator (allInstructions result)).isSome ∧
      (parsePump p result keys targetWallet).sell.isSome =
        (firstPumpTrade p keys sellDiscriminator (allInstructions result)).isSome := by
  obtain ⟨hbuy, hsell⟩ := parsePump_trader p result keys targetWallet
  have hbuy := congrArg Option.isSome hbuy
  have hsell := congrArg Option.isSome hsell
  simpa only [Option.isSome_map] using And.intro hbuy hsell

private theorem isSome_parsePumpswap :
    (parsePumpswap p result keys targetWallet).buy.isSome =
        ((firstPumpswapTrade keys (allInstructions result)).filter
          (isSwapOf buyDiscriminator)).isSome ∧
      (parsePumpswap p result keys targetWallet).sell.isSome =
        ((firstPumpswapTrade keys (allInstructions result)).filter
          (!isSwapOf buyDiscriminator ·)).isSome := by
  obtain ⟨hbuy, hsell⟩ := parsePumpswap_trader p result keys targetWallet
  have hbuy := congrArg Option.isSome hbuy
  have hsell := congrArg Option.isSome hsell
  simpa only [Option.isSome_map] using And.intro hbuy hsell

private theorem raydiumProgram_readsPool {exchange : DexType × String}
    (h : raydiumProgram keys = some exchange) :
    exchange.1.readsPool = true ∧ exchange.1 ≠ .unknown "none" := by
  unfold raydiumProgram at h
  split at h
  · cases h
    exact ⟨rfl, by simp⟩
  · split at h
    · cases h
      exact ⟨rfl, by simp⟩
    · cases h

private theorem forall_parseRaydium_iff (sellDetect : Bool) (notif : LogsNotification)
    {exchange : DexType × String} (h : raydiumProgram keys = some exchange) :
    (∀ e ∈ signals sellDetect notif (parseRaydium p hash result keys targetWallet),
        e.signal.LabelledFor exchange.1) ↔
      ∀ balances ∈ targetBalances result keys targetWallet,
        ∀ mint ∈ firstChange hash balances.1 balances.2,
          amountOf balances.1 mint < amountOf balances.2 mint ∨ sellDetect →
            NamedFirst notif.logs exchange.1 ∧
              ∃ programIdx ∈ keys.idxOf? exchange.2,
                PoolListed keys programIdx (allInstructions result) := by
  obtain ⟨hreads, hknown⟩ := raydiumProgram_readsPool keys h
  have hpool : ((keys.idxOf? exchange.2).bind fun programIdx =>
      extractRaydiumAmmPool keys programIdx (allInstructions result)).isSome ↔
        ∃ programIdx ∈ keys.idxOf? exchange.2,
          PoolListed keys programIdx (allInstructions result) := by
    cases keys.idxOf? exchange.2 <;> simp [extractRaydiumAmmPool_isSome]
  unfold parseRaydium
  rw [h]
  dsimp only
  generalize (keys.idxOf? exchange.2).bind _ = ammPool at hpool ⊢
  obtain ⟨⟨hbuy, hsell⟩, hbought, hsold⟩ :=
    tryParseRaydiumSwap_spec p hash result keys targetWallet ammPool
  rw [forall_labelled_iff sellDetect notif _ exchange.1
      (fun found hfound => congrArg Option.isSome (hbuy found hfound))
      (fun found hfound => congrArg Option.isSome (hsell found hfound)),
    hbought, hsold, hreads, hpool, detectDex_eq_iff _ hknown]
  constructor
  · intro hsignal balances hbalances mint hmint hside
    have hchanged : amountOf balances.1 mint ≠ amountOf balances.2 mint := by
      simpa using List.find?_some hmint
    apply hsignal
    rcases Nat.lt_or_gt_of_ne hchanged with hgained | hlost
    · exact .inl ⟨balances, hbalances, mint, hmint, hgained⟩
    · rcases hside with hgained | hmirror
      · exact absurd hgained hlost.not_gt
      · exact .inr ⟨hmirror, balances, hbalances, mint, hmint, hlost⟩
  · rintro hnamed (⟨balances, hbalances, mint, hmint, hgained⟩ |
      ⟨hmirror, balances, hbalances, mint, hmint, -⟩)
    · exact hnamed balances hbalances mint hmint (.inl hgained)
    · exact hnamed balances hbalances mint hmint (.inr hmirror)

private theorem forall_parseTransaction_iff (sellDetect : Bool) (notif : LogsNotification) :
    (∀ e ∈ signals sellDetect notif (parseTransaction p hash result keys targetWallet).2,
        e.signal.LabelledFor (parseTransaction p hash result keys targetWallet).1) ↔
      SourceNamed p hash targetWallet sellDetect notif.logs result keys := by
  have hpump := isSome_parsePump p result keys targetWallet
  have hswap := isSome_parsePumpswap p result keys targetWallet
  unfold parseTransaction
  by_cases hfound : (parsePump p result keys targetWallet).buy.isSome ||
      (parsePump p result keys targetWallet).sell.isSome
  · rw [if_pos hfound]
    obtain ⟨hbuy, hsell⟩ := pool_of_parsePump p result keys targetWallet
    rw [forall_labelled_iff sellDetect notif _ _ hbuy hsell, hpump.1, hpump.2,
      detectDex_eq_iff _ (by simp)]
    simp only [hpump.1, hpump.2, Bool.or_eq_true] at hfound
    constructor
    · intro h
      refine ⟨fun hsignal => (h hsignal).1, fun hnoBuy hnoSell => ?_, fun hnoBuy hnoSell => ?_⟩
      all_goals simp [hnoBuy, hnoSell] at hfound
    · intro h hsignal
      exact ⟨h.pump hsignal, rfl⟩
  · rw [if_neg hfound]
    simp only [hpump.1, hpump.2, Bool.or_eq_true, not_or, Option.not_isSome_iff_eq_none] at hfound
    obtain ⟨hnoBuy, hnoSell⟩ := hfound
    dsimp only
    cases hfirst : firstPumpswapTrade keys (allInstructions result) with
    | some instr =>
        rw [hfirst] at hswap
        obtain ⟨hbuy, hsell⟩ := pool_of_parsePumpswap p result keys targetWallet
        have hfound : ((parsePumpswap p result keys targetWallet).buy.isSome ||
            (parsePumpswap p result keys targetWallet).sell.isSome) = true := by
          rw [hswap.1, hswap.2]
          cases hside : isSwapOf buyDiscriminator instr <;> simp [Option.filter, hside]
        rw [if_pos hfound, forall_labelled_iff sellDetect notif _ _ hbuy hsell, hswap.1, hswap.2,
          detectDex_eq_iff _ (by simp)]
        constructor
        · intro h
          refine ⟨by simp [hnoBuy, hnoSell], fun _ _ first hmem hside => ?_, by simp [hfirst]⟩
          obtain rfl : instr = first := Option.some.inj (hfirst.symm.trans hmem)
          refine (h ?_).1
          cases hbuys : isSwapOf buyDiscriminator instr <;>
            simp_all [Option.filter]
        · intro h hsignal
          refine ⟨h.swap hnoBuy hnoSell instr hfirst ?_, rfl⟩
          cases hbuys : isSwapOf buyDiscriminator instr <;> simp_all [Option.filter]
    | none =>
        rw [hfirst] at hswap
        rw [if_neg (by simp [hswap.1, hswap.2])]
        cases hexchange : raydiumProgram keys with
        | none =>
            refine iff_of_true (by simp [signals, parseRaydium, hexchange])
              ⟨by simp [hnoBuy, hnoSell], ?_, ?_⟩
            · simp [hfirst]
            · simp [hexchange]
        | some exchange =>
            have hraydium := forall_parseRaydium_iff p hash result keys targetWallet sellDetect
              notif hexchange
            refine hraydium.trans ⟨fun h => ⟨by simp [hnoBuy, hnoSell], by simp [hfirst], ?_⟩, ?_⟩
            · intro _ _ _ other hother
              obtain rfl : exchange = other := Option.some.inj (hexchange.symm.trans hother)
              exact h
            · intro h
              exact h.raydium hnoBuy hnoSell hfirst exchange hexchange

end

/-- Signals name the exchange they were parsed from exactly when the log lines name it first. -/
theorem labelled_iff (p : Platform) (hash : HashOrder) (targetWallet : String)
    (sellDetect : Bool) (render : Json → String) (message : Json) (replies : List HttpReply) :
    (∀ e ∈ detectSignals p hash targetWallet sellDetect render message replies,
        e.2.LabelledFor e.1) ↔
      ∀ notif ∈ parseLogsNotification message, accepted notif →
        ∀ tx ∈ fetched render replies,
          SourceNamed p hash targetWallet sellDetect notif.logs tx.1 tx.2 := by
  unfold detectSignals
  cases parseLogsNotification message with
  | none => simp
  | some notif =>
      cases haccepted : accepted notif with
      | false => simp [haccepted]
      | true =>
          cases fetched render replies with
          | none => simp [haccepted]
          | some tx =>
              have hsignals := forall_parseTransaction_iff p hash tx.1 tx.2 targetWallet
                sellDetect notif
              simpa [haccepted] using hsignals

def mixedMessage : Json :=
  .object [("params", .object [("result", .object
    [("context", .object [("slot", .posInt 1)]),
      ("value", .object
        [("signature", .string "signature"), ("err", .null),
          ("logs", .array
            [.string ("Program " ++ pumpFunAmm ++ " invoke [1]"),
              .string ("Program " ++ pumpFunProgram ++ " invoke [1]"),
              .string "Program log: Instruction: Buy"])])])])]

def mixedReply : HttpReply :=
  .body (.object [("result", transactionJson
    { accountKeys := [List.replicate 32 1, List.replicate 32 2, Geyser.programIds.pumpFun,
        Geyser.programIds.pumpFunAmm]
      instructions := [{ programIdIndex := 3, accounts := [0], data := [] },
        { programIdIndex := 2, accounts := [0, 0, 1], data := buyDiscriminator ++ leBytes 8 100 }] }
    { err := none, preBalances := [1000000000, 0, 0, 0], postBalances := [500000000, 0, 0, 0]
      innerInstructions := [], loadedWritableAddresses := [], loadedReadonlyAddresses := [] })])

theorem mixed_mislabelled :
    ¬∀ e ∈ detectSignals .plain .listed (encodeBase58 (List.replicate 32 1)) false (fun _ => "")
        mixedMessage [mixedReply],
      e.2.LabelledFor e.1 := by
  decide +kernel

end CopyEngine

end Girasol
