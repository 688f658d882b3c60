import Girasol.Detect.Trader
import Girasol.Foundation.Aligned

/-!
# Account lists of detected buys

A detected buy carries the accounts of the instruction it was parsed from, for
the buyer to look up by position.  The parsers keep the accounts whose key they
know.
-/

namespace Girasol

open Foundation

/-- A parser of buys with the instruction it works on. -/
inductive BuyParser where
  | webSocketPump (p : Platform) (keys : List String) (pumpIdx : Nat) (instr : Json)
  | webSocketPumpswap (p : Platform) (result : Json) (keys : List String)
      (targetWallet : String) (ammIdx : Nat) (instr : Json)
  | geyserPump (r : Rounding) (keys : List (List UInt8)) (delta : Option (ℚ × ℚ))
      (pumpIdx : Nat) (ix : Geyser.CompiledInstruction)
  | geyserPumpswap (r : Rounding) (keys : List (List UInt8)) (delta : Option (ℚ × ℚ))
      (ammIdx : Nat) (ix : Geyser.CompiledInstruction)
  | shreds (r : Rounding) (altCache : Shreds.AltCache) (message : Shreds.VersionedMessage)
      (pumpIdx : Nat) (sig : String) (slot : Nat) (ix : Shreds.CompiledInstruction)

namespace BuyParser

def targetPumpAccounts : BuyParser → Option (List String)
  | webSocketPump p keys pumpIdx instr =>
      (CopyEngine.tryParsePumpBuyInstruction p keys pumpIdx instr).bind
        CopyEngine.ParsedBuy.targetPumpAccounts
  | webSocketPumpswap p result keys targetWallet ammIdx instr =>
      (CopyEngine.parsePumpswapInstruction keys ammIdx instr).bind fun (isBuy, parsed) =>
        (CopyEngine.pumpswapTrade p result keys targetWallet instr isBuy parsed).buy.bind
          fun found => found.parsed.targetPumpAccounts
  | geyserPump r keys delta pumpIdx ix =>
      (Geyser.checkInstruction r keys delta pumpIdx ix).1.bind fun buy => atLeast 17 buy.accounts
  | geyserPumpswap r keys delta ammIdx ix =>
      (Geyser.checkPumpswapIx r keys delta ammIdx ix).1.bind fun buy => atLeast 17 buy.accounts
  | shreds r altCache message pumpIdx sig slot ix =>
      (Shreds.parsePumpFromVtx r (Shreds.resolvedKey altCache message) pumpIdx sig slot
        [ix]).findSome? fun emission =>
          emission.signal.asBuy.bind DetectedBuy.targetPumpAccounts

/-! ## What the instruction lists -/

/-- The accounts of the instruction by position; an entry without a known key is a gap. -/
def listed : BuyParser → List (Option String)
  | webSocketPump _ keys _ instr | webSocketPumpswap _ _ keys _ _ instr =>
      (((instr.get? "accounts").bind Json.asArray).getD []).map fun entry =>
        entry.asU64.bind fun i => keys[i]?
  | geyserPump _ keys _ _ ix | geyserPumpswap _ keys _ _ ix =>
      ix.accounts.map fun i => keys[i.toNat]?.map encodeBase58
  | shreds _ altCache message _ _ _ ix =>
      ix.accounts.map fun i => (Shreds.resolvedKey altCache message i.toNat).map encodeBase58

def isBuy : BuyParser → Bool
  | webSocketPump p keys pumpIdx instr =>
      CopyEngine.isPumpTrade p keys buyDiscriminator pumpIdx instr
  | webSocketPumpswap _ _ keys _ ammIdx instr =>
      CopyEngine.isPumpswapTrade keys ammIdx instr && CopyEngine.isSwapOf buyDiscriminator instr
  | geyserPump _ keys _ pumpIdx ix => Geyser.isPumpTrade keys buyDiscriminator pumpIdx ix
  | geyserPumpswap _ keys _ ammIdx ix => Geyser.isPumpswapTrade keys buyDiscriminator ammIdx ix
  | shreds _ altCache message pumpIdx _ _ ix =>
      Shreds.isPumpTrade pumpIdx ix && hasDiscriminator buyDiscriminator ix.data &&
        (Shreds.accountKey (Shreds.resolvedKey altCache message) 2 ix).isSome

/-- A buy that lists at least 17 known accounts lists no unknown one before a known one. -/
def KnownFirst (parser : BuyParser) : Prop :=
  parser.isBuy = true → 17 ≤ parser.listed.reduceOption.length → GapsLast parser.listed

end BuyParser

private theorem accountStrings_eq (keys : List (List UInt8)) (ix : Geyser.CompiledInstruction) :
    Geyser.accountStrings keys ix =
      (ix.accounts.map fun i => keys[i.toNat]?.map encodeBase58).reduceOption := by
  rw [reduceOption_map_eq, Geyser.accountStrings, List.map_filterMap]

private theorem knownAccounts_eq (keys : List String) (instr : Json) :
    ((CopyEngine.accountIndices instr).filterMap fun i => keys[i]?) =
      ((((instr.get? "accounts").bind Json.asArray).getD []).map fun entry =>
        entry.asU64.bind fun i => keys[i]?).reduceOption := by
  rw [reduceOption_map_eq, CopyEngine.accountIndices, List.filterMap_filterMap]

private theorem accounts_of_parsePumpswapInstruction {keys : List String} {ammIdx : Nat}
    {instr : Json} {isBuy : Bool} {parsed : CopyEngine.PumpSwapAccounts}
    (h : CopyEngine.parsePumpswapInstruction keys ammIdx instr = some (isBuy, parsed)) :
    parsed.accounts = (CopyEngine.accountIndices instr).filterMap fun i => keys[i]? := by
  unfold CopyEngine.parsePumpswapInstruction at h
  obtain ⟨idx, -, h⟩ := Option.bind_eq_some_iff.mp h
  split at h
  · contradiction
  · obtain ⟨data, -, h⟩ := Option.bind_eq_some_iff.mp h
    obtain ⟨amount1, -, h⟩ := Option.bind_eq_some_iff.mp h
    obtain ⟨amount2, -, h⟩ := Option.bind_eq_some_iff.mp h
    split at h
    · contradiction
    · simp only [Option.bind_eq_bind, Option.bind_eq_some_iff] at h
      obtain ⟨_, _, accounts, hcount, pool, _, baseMint, _, quoteMint, _, h⟩ := h
      cases h
      unfold atLeast at hcount
      split at hcount
      · exact (Option.some.inj hcount).symm
      · cases hcount

namespace BuyParser

private theorem targetPumpAccounts_eq (parser : BuyParser) :
    parser.targetPumpAccounts =
      if parser.isBuy then atLeast 17 parser.listed.reduceOption else none := by
  cases parser with
  | webSocketPump p keys pumpIdx instr =>
      simp only [targetPumpAccounts, isBuy, listed, ← knownAccounts_eq,
        ← CopyEngine.isSome_pumpInstruction]
      unfold CopyEngine.tryParsePumpBuyInstruction
      cases CopyEngine.pumpInstruction p keys buyDiscriminator pumpIdx instr <;> simp
  | webSocketPumpswap p result keys targetWallet ammIdx instr =>
      simp only [targetPumpAccounts, isBuy, listed, ← knownAccounts_eq,
        ← CopyEngine.isSome_parsePumpswapInstruction]
      cases hparse : CopyEngine.parsePumpswapInstruction keys ammIdx instr with
      | none => simp
      | some hit =>
          obtain ⟨isBuy, parsed⟩ := hit
          have hside := CopyEngine.isBuy_of_parsePumpswapInstruction keys hparse
          have haccounts := accounts_of_parsePumpswapInstruction hparse
          cases isBuy <;> simp [CopyEngine.pumpswapTrade, ← hside, ← haccounts]
  | geyserPump r keys delta pumpIdx ix =>
      simp only [targetPumpAccounts, isBuy, listed, ← accountStrings_eq]
      have hsome := (Geyser.isSome_checkInstruction keys r delta pumpIdx ix).1
      rw [← hsome]
      unfold Geyser.checkInstruction
      split
      · simp
      · split
        · cases Geyser.accountKey keys 2 ix <;> simp
        · split <;> simp
  | geyserPumpswap r keys delta ammIdx ix =>
      simp only [targetPumpAccounts, isBuy, listed, ← accountStrings_eq]
      have hsome := (Geyser.isSome_checkPumpswapIx keys r delta ammIdx ix).1
      rw [← hsome]
      unfold Geyser.checkPumpswapIx
      split
      · simp
      · cases Geyser.accountKey keys 3 ix <;>
          cases hasDiscriminator buyDiscriminator ix.data <;>
            cases hasDiscriminator sellDiscriminator ix.data <;> simp
  | shreds r altCache message pumpIdx sig slot ix =>
      have hkept : ((ix.accounts.filterMap fun i =>
          Shreds.resolvedKey altCache message i.toNat).map encodeBase58) =
          (ix.accounts.map fun i =>
            (Shreds.resolvedKey altCache message i.toNat).map encodeBase58).reduceOption := by
        rw [reduceOption_map_eq, List.map_filterMap]
      simp only [targetPumpAccounts, isBuy, listed, Shreds.parsePumpFromVtx_eq, ← hkept,
        List.find?_singleton]
      cases Shreds.isPumpTrade pumpIdx ix with
      | false => simp
      | true =>
          simp only [if_true, Option.bind_some, Bool.true_and]
          generalize Shreds.accountKey (Shreds.resolvedKey altCache message) 2 ix = mint
          cases hbuy : hasDiscriminator buyDiscriminator ix.data <;> cases mint <;>
            simp [Shreds.tradeSignal, hbuy, Shreds.buySignal, Shreds.sellSignal, Signal.asBuy]

end BuyParser

/--
A parser reports every account at its position in the instruction exactly when
no account without a known key is listed before one with a known key.
-/
theorem BuyParser.accounts_aligned_iff (parser : BuyParser) :
    (∀ v ∈ parser.targetPumpAccounts, Aligned parser.listed v) ↔ parser.KnownFirst := by
  rw [targetPumpAccounts_eq, KnownFirst]
  cases parser.isBuy with
  | false => simp
  | true =>
      by_cases hcount : 17 ≤ parser.listed.reduceOption.length
      · simp [hcount, atLeast_of_le, aligned_reduceOption_iff]
      · simp [hcount, atLeast_of_lt (Nat.lt_of_not_le hcount)]

def partlyResolved : BuyParser :=
  .shreds .exact (fun _ _ => none)
    (.v0 ((List.range 20).map fun i => List.replicate 32 i.toUInt8) []
      [{ accountKey := List.replicate 32 99, writableIndexes := [7], readonlyIndexes := [] }])
    0 "signature" 1
    { programIdIndex := 0
      accounts := [1, 2, 3, 4, 5, 20, 6, 7, 8, 9, 10, 11, 12, 13, 14, 15, 16, 17]
      data := buyDiscriminator ++ leBytes 8 100 ++ leBytes 8 1000000000 }

theorem partlyResolved_shifted :
    ¬ ∀ v ∈ partlyResolved.targetPumpAccounts, Aligned partlyResolved.listed v := by
  decide +kernel

end Girasol
