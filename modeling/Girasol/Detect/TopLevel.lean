import Girasol.Detect.Trader
import Mathlib.Data.Finset.Dedup

/-!
# ShredStream and Geyser on the same top-level instructions

ShredStream stops at the first pump.fun trade of a transaction.  Geyser reports
the first buy and the first sell.
-/

namespace Girasol

open Foundation

structure TradeReport where
  isBuy : Bool
  mint : String
  tokenAmount : Option Nat
  deriving DecidableEq

def Signal.report : Signal → TradeReport
  | .buy detected => ⟨true, detected.mint, detected.tokenAmount⟩
  | .sell detected => ⟨false, detected.mint, detected.tokenAmount⟩

def reportOf (isBuy : Bool) (data : List UInt8) (mint : List UInt8) : TradeReport :=
  ⟨isBuy, encodeBase58 mint, u64At 8 data⟩

def discriminatorOf (isBuy : Bool) : List UInt8 :=
  if isBuy then buyDiscriminator else sellDiscriminator

theorem mem_reports_iff {κ : Type} (es : List (Emission κ)) (report : TradeReport) :
    report ∈ es.map (fun e => e.signal.report) ↔
      (∃ buy ∈ es.filterMap (fun e => e.signal.asBuy), (Signal.buy buy).report = report) ∨
        ∃ sell ∈ es.filterMap (fun e => e.signal.asSell), (Signal.sell sell).report = report := by
  induction es with
  | nil => simp
  | cons e es ih =>
      obtain ⟨signal, trader⟩ := e
      rw [List.map_cons, List.mem_cons, ih]
      cases signal with
      | buy detected =>
          simp [Signal.asBuy, Signal.asSell, or_assoc, eq_comm (a := report)]
      | sell detected =>
          simp [Signal.asBuy, Signal.asSell, or_left_comm, eq_comm (a := report)]

/-! ## Geyser -/

namespace Geyser

section

variable (p : Platform) (ids : ProgramIds) (targetBytes : List UInt8) (slot : Nat)
  (info : SubscribeUpdateTransactionInfo) (keys : List (List UInt8))

def detectedBuy (dex : DexType) (buy : FoundBuy) : DetectedBuy where
  signature := signatureOf info
  mint := buy.mint
  dex := dex
  solAmount := buy.solAmount
  tokenAmount := buy.tokenAmount
  slot := some slot
  ammPool := buy.pool
  targetPumpAccounts := atLeast 17 buy.accounts

def detectedSell (dex : DexType) (sell : FoundSell) : DetectedSell where
  signature := signatureOf info
  mint := sell.mint
  dex := dex
  solReceived := sell.solReceived
  tokenAmount := sell.tokenAmount
  slot := some slot
  ammPool := none

theorem buys_of_sendFirsts (sellTx : Bool) (dex : DexType) (user : Nat)
    (check : CompiledInstruction → Option FoundBuy × Option FoundSell) :
    (sendFirsts sellTx slot info keys dex user check).filterMap (fun e => e.signal.asBuy) =
      ((firstHit (fun ix => (check ix).1) (allInstructions info)).map fun (_, buy) =>
        detectedBuy slot info dex buy).toList := by
  rw [sendFirsts, List.filterMap_filterMap, filterMap_inl_emitFirsts]
  · simp [Signal.asBuy, detectedBuy, Option.map_eq_bind]
  · intro ix sell
    cases sellTx <;> rfl

theorem sells_of_sendFirsts (dex : DexType) (user : Nat)
    (check : CompiledInstruction → Option FoundBuy × Option FoundSell) :
    (sendFirsts true slot info keys dex user check).filterMap (fun e => e.signal.asSell) =
      ((firstHit (fun ix => (check ix).2) (allInstructions info)).map fun (_, sell) =>
        detectedSell slot info dex sell).toList := by
  rw [sendFirsts, List.filterMap_filterMap, filterMap_inr_emitFirsts]
  · simp [Signal.asSell, detectedSell, Option.map_eq_bind]
  · intro ix sell
    rfl

def firstTrade (isBuy : Bool) (pumpIdx : Nat) (instrs : List CompiledInstruction) :
    Option TradeReport :=
  (instrs.find? (isPumpTrade keys (discriminatorOf isBuy) pumpIdx)).bind fun ix =>
    (accountKey keys 2 ix).map (reportOf isBuy ix.data)

theorem mem_reports_parsePumpFromProto (report : TradeReport) :
    report ∈ (parsePumpFromProto p ids targetBytes true slot info keys).map
        (fun e => e.signal.report) ↔
      ∃ pumpIdx ∈ keys.idxOf? ids.pumpFun, ∃ isBuy,
        report ∈ firstTrade keys isBuy pumpIdx (allInstructions info) := by
  unfold parsePumpFromProto
  cases hidx : keys.idxOf? ids.pumpFun with
  | none => simp
  | some pumpIdx =>
      have hcheck := isSome_checkInstruction keys p.rounding
        (computeSolDelta p.rounding info keys targetBytes) pumpIdx
      have hbuy (ix : CompiledInstruction) := (hcheck ix).1
      have hsell (ix : CompiledInstruction) := (hcheck ix).2
      simp only [mem_reports_iff, buys_of_sendFirsts, sells_of_sendFirsts, firstHit_eq hbuy,
        firstHit_eq hsell, Option.mem_some_iff, exists_eq_left', Bool.exists_bool]
      rw [or_comm]
      refine or_congr ?_ ?_
      · cases hfind : (allInstructions info).find? (isPumpTrade keys sellDiscriminator pumpIdx) with
        | none => simp [firstTrade, discriminatorOf, hfind]
        | some ix =>
            have htrade := List.find?_some hfind
            simp [firstTrade, discriminatorOf, hfind, checkInstruction_eq, htrade, foundSell,
              detectedSell, Signal.report, reportOf]
      · cases hfind : (allInstructions info).find? (isPumpTrade keys buyDiscriminator pumpIdx) with
        | none => simp [firstTrade, discriminatorOf, hfind]
        | some ix =>
            have htrade := List.find?_some hfind
            simp [firstTrade, discriminatorOf, hfind, checkInstruction_eq, htrade, foundBuy,
              detectedBuy, Signal.report, reportOf]

end

end Geyser

/-! ## ShredStream -/

namespace Shreds

def allKeys (altCache : AltCache) : VersionedMessage → Option (List Pubkey)
  | .legacy accountKeys _ => some accountKeys
  | .v0 accountKeys instructions lookups =>
      resolveKeys altCache (.v0 accountKeys instructions lookups)

def CompiledInstruction.toProto (ix : CompiledInstruction) : Geyser.CompiledInstruction where
  programIdIndex := ix.programIdIndex.toNat
  accounts := ix.accounts
  data := ix.data

@[simp]
theorem toProto_programIdIndex (ix : CompiledInstruction) :
    ix.toProto.programIdIndex = ix.programIdIndex.toNat := rfl

@[simp]
theorem toProto_accounts (ix : CompiledInstruction) : ix.toProto.accounts = ix.accounts := rfl

@[simp]
theorem toProto_data (ix : CompiledInstruction) : ix.toProto.data = ix.data := rfl

structure ResolvedTransaction where
  altCache : AltCache
  message : VersionedMessage
  keys : List Pubkey
  resolved : allKeys altCache message = some keys

theorem static_prefix {altCache : AltCache} {message : VersionedMessage} {keys : List Pubkey}
    (h : allKeys altCache message = some keys) : message.staticAccountKeys <+: keys := by
  cases message with
  | legacy accountKeys instructions =>
      cases h
      exact List.prefix_rfl
  | v0 accountKeys instructions lookups =>
      simp only [allKeys, resolveKeys, Option.bind_eq_bind, Option.bind_eq_some_iff] at h
      obtain ⟨tables, -, writable, -, readonly, -, h⟩ := h
      cases h
      rw [List.append_assoc]
      exact List.prefix_append _ _

theorem resolvedKey_of_allKeys {altCache : AltCache} {message : VersionedMessage}
    {keys : List Pubkey} (h : allKeys altCache message = some keys) (idx : Nat) :
    resolvedKey altCache message idx = keys[idx]? := by
  obtain ⟨loaded, hkeys⟩ := static_prefix h
  unfold resolvedKey
  by_cases hstatic : idx < message.staticAccountKeys.length
  · rw [if_pos hstatic, ← hkeys, List.getElem?_append_left hstatic]
  · rw [if_neg hstatic]
    cases message with
    | legacy accountKeys instructions =>
        cases h
        exact (List.getElem?_eq_none (Nat.le_of_not_lt hstatic)).symm
    | v0 accountKeys instructions lookups =>
        change (allKeys altCache (.v0 accountKeys instructions lookups)).bind _ = _
        rw [h]
        rfl

namespace ResolvedTransaction

variable (p : Platform) (ids : Geyser.ProgramIds) (targetBytes : List UInt8) (sig : String)
  (slot : Nat) («meta» : Option Geyser.TransactionStatusMeta) (signature : List UInt8)
  (tx : ResolvedTransaction)

/-- What ShredStream reports; it looks for the program among the static keys. -/
def vtxReports : Finset TradeReport :=
  match tx.message.staticAccountKeys.idxOf? ids.pumpFun with
  | none => ∅
  | some pumpIdx =>
      ((parsePumpFromVtx p.rounding (resolvedKey tx.altCache tx.message) pumpIdx sig slot
        tx.message.instructions).map fun e => e.signal.report).toFinset

def proto : Geyser.SubscribeUpdateTransactionInfo where
  signature := signature
  transaction := some
    { message := some
        { accountKeys := tx.message.staticAccountKeys
          instructions := tx.message.instructions.map CompiledInstruction.toProto } }
  «meta» := «meta».map fun m => { m with innerInstructions := [] }

def protoReports : Finset TradeReport :=
  ((Geyser.parsePumpFromProto p ids targetBytes true slot (tx.proto «meta» signature)
    tx.keys).map fun e => e.signal.report).toFinset

/-- A pump.fun trade with this side whose mint is among the keys. -/
def isTrade (isBuy : Bool) (pumpIdx : Nat) (ix : CompiledInstruction) : Bool :=
  Geyser.isPumpTrade tx.keys (discriminatorOf isBuy) pumpIdx ix.toProto

/--
The program is a static key if any instruction trades on it, and the first
instruction shaped like a trade has a mint and the side of all the others.
-/
def OneSided : Prop :=
  ∀ pumpIdx ∈ tx.keys.idxOf? ids.pumpFun, ∀ isBuy, ∀ ix ∈ tx.message.instructions,
    tx.isTrade isBuy pumpIdx ix →
      pumpIdx < tx.message.staticAccountKeys.length ∧
        ∃ first ∈ tx.message.instructions.find? (isPumpTrade pumpIdx),
          tx.isTrade isBuy pumpIdx first

theorem idxOf?_static :
    tx.message.staticAccountKeys.idxOf? ids.pumpFun =
      (tx.keys.idxOf? ids.pumpFun).filter fun pumpIdx =>
        pumpIdx < tx.message.staticAccountKeys.length := by
  obtain ⟨loaded, hkeys⟩ := static_prefix tx.resolved
  rw [← hkeys]
  simp only [List.idxOf?, List.findIdx?_append]
  cases hidx : tx.message.staticAccountKeys.findIdx? (· == ids.pumpFun) with
  | none => cases loaded.findIdx? (· == ids.pumpFun) <;> simp [Option.filter]
  | some pumpIdx =>
      obtain ⟨hstatic, -⟩ := List.findIdx?_eq_some_iff_getElem.mp hidx
      simp [Option.filter, hstatic]

theorem accountKey_eq (index : Nat) (ix : CompiledInstruction) :
    accountKey (resolvedKey tx.altCache tx.message) index ix =
      Geyser.accountKey tx.keys index ix.toProto := by
  simp only [accountKey, Geyser.accountKey, resolvedKey_of_allKeys tx.resolved]
  rfl

theorem isTrade_iff (isBuy : Bool) (pumpIdx : Nat) (ix : CompiledInstruction) :
    tx.isTrade isBuy pumpIdx ix ↔
      isPumpTrade pumpIdx ix ∧ hasDiscriminator buyDiscriminator ix.data = isBuy ∧
        (Geyser.accountKey tx.keys 2 ix.toProto).isSome := by
  have hlength := Geyser.three_le_of_accountKey tx.keys ix.toProto
  have hexclusive := not_both_discriminators ix.data
  simp only [isTrade, Geyser.isPumpTrade, isPumpTrade, discriminatorOf, Bool.and_eq_true,
    beq_iff_eq, decide_eq_true_eq, Bool.or_eq_true, toProto_programIdIndex, toProto_data]
  rw [toProto_accounts] at hlength
  cases isBuy <;> cases hbuy : hasDiscriminator buyDiscriminator ix.data <;>
    cases hsell : hasDiscriminator sellDiscriminator ix.data <;>
      simp_all [and_assoc, and_comm]

theorem find?_isTrade {isBuy : Bool} {pumpIdx : Nat} {first : CompiledInstruction}
    (hfind : tx.message.instructions.find? (isPumpTrade pumpIdx) = some first)
    (htrade : tx.isTrade isBuy pumpIdx first) :
    tx.message.instructions.find? (tx.isTrade isBuy pumpIdx) = some first :=
  find?_narrowed (fun ix hix => ((isTrade_iff tx isBuy pumpIdx ix).mp hix).1) hfind htrade

private theorem mem_protoReports (report : TradeReport) :
    report ∈ tx.protoReports p ids targetBytes slot «meta» signature ↔
      ∃ pumpIdx ∈ tx.keys.idxOf? ids.pumpFun, ∃ isBuy,
        ∃ ix ∈ tx.message.instructions.find? (tx.isTrade isBuy pumpIdx),
          ∃ mint ∈ Geyser.accountKey tx.keys 2 ix.toProto,
            reportOf isBuy ix.data mint = report := by
  have hinstrs : Geyser.allInstructions (tx.proto «meta» signature) =
      tx.message.instructions.map CompiledInstruction.toProto := by
    cases «meta» <;> simp [Geyser.allInstructions, proto]
  rw [protoReports, List.mem_toFinset, Geyser.mem_reports_parsePumpFromProto, hinstrs]
  simp only [Geyser.firstTrade, List.find?_map, Option.mem_def, Option.bind_eq_some_iff,
    Option.map_eq_some_iff, exists_exists_and_eq_and, Function.comp_def]
  rfl

theorem report_tradeSignal (r : Rounding) (getKey : Nat → Option Pubkey)
    (ix : CompiledInstruction) (mint : Pubkey) :
    (tradeSignal r getKey sig slot ix mint).signal.report =
      reportOf (hasDiscriminator buyDiscriminator ix.data) ix.data mint := by
  unfold tradeSignal
  cases hasDiscriminator buyDiscriminator ix.data <;> rfl

private theorem mem_vtxReports (report : TradeReport) :
    report ∈ tx.vtxReports p ids sig slot ↔
      ∃ pumpIdx ∈ tx.keys.idxOf? ids.pumpFun,
        pumpIdx < tx.message.staticAccountKeys.length ∧
          ∃ ix ∈ tx.message.instructions.find? (isPumpTrade pumpIdx), ∃ isBuy,
            tx.isTrade isBuy pumpIdx ix ∧
              ∃ mint ∈ Geyser.accountKey tx.keys 2 ix.toProto,
                reportOf isBuy ix.data mint = report := by
  rw [vtxReports, idxOf?_static]
  cases hidx : tx.keys.idxOf? ids.pumpFun with
  | none => simp
  | some pumpIdx =>
      by_cases hstatic : pumpIdx < tx.message.staticAccountKeys.length
      · simp only [Option.filter, hstatic, decide_true, if_true, List.mem_toFinset,
          parsePumpFromVtx_eq, accountKey_eq, Option.mem_some_iff, exists_eq_left', true_and]
        cases hfind : tx.message.instructions.find? (isPumpTrade pumpIdx) with
        | none => simp
        | some first =>
            have htrade := List.find?_some hfind
            cases hmint : Geyser.accountKey tx.keys 2 first.toProto <;>
              cases hside : hasDiscriminator buyDiscriminator first.data <;>
                simp [isTrade_iff, htrade, hmint, hside, report_tradeSignal, eq_comm (a := report)]
      · simp [Option.filter, hstatic]

end ResolvedTransaction

open ResolvedTransaction in
/--
ShredStream and Geyser report the same trades of the top-level instructions
exactly when all of them are on the side of the first.
-/
theorem vtxReports_eq_protoReports_iff (p : Platform) (ids : Geyser.ProgramIds)
    (targetBytes : List UInt8) (sig : String) (slot : Nat)
    («meta» : Option Geyser.TransactionStatusMeta) (signature : List UInt8)
    (tx : ResolvedTransaction) :
    tx.vtxReports p ids sig slot = tx.protoReports p ids targetBytes slot «meta» signature ↔
      tx.OneSided ids := by
  rw [Finset.ext_iff]
  simp only [mem_vtxReports, mem_protoReports]
  constructor
  · intro heq pumpIdx hidx isBuy ix hix htrade
    obtain ⟨firstSided, hfirst⟩ := Option.isSome_iff_exists.mp
      (List.find?_isSome.mpr ⟨ix, hix, htrade⟩)
    have hsided : tx.isTrade isBuy pumpIdx firstSided := List.find?_some hfirst
    obtain ⟨mint, hmint⟩ := Option.isSome_iff_exists.mp ((isTrade_iff tx ..).mp hsided).2.2
    obtain ⟨pumpIdx', hidx', hstatic, first, hfind, isBuy', hside, mint', -, hreport⟩ :=
      (heq _).mpr ⟨pumpIdx, hidx, isBuy, firstSided, hfirst, mint, hmint, rfl⟩
    have hsame : isBuy' = isBuy := congrArg TradeReport.isBuy hreport
    obtain rfl : pumpIdx' = pumpIdx := Option.some.inj (hidx'.symm.trans hidx)
    exact ⟨hstatic, first, hfind, hsame ▸ hside⟩
  · intro hside report
    constructor
    · rintro ⟨pumpIdx, hidx, hstatic, first, hfind, isBuy, htrade, mint, hmint, rfl⟩
      exact ⟨pumpIdx, hidx, isBuy, first, find?_isTrade tx hfind htrade, mint, hmint, rfl⟩
    · rintro ⟨pumpIdx, hidx, isBuy, ix, hix, mint, hmint, rfl⟩
      obtain ⟨hstatic, first, hfind, htrade⟩ := hside pumpIdx hidx isBuy ix
        (List.mem_of_find?_eq_some hix) (List.find?_some hix)
      have hfirst := find?_isTrade tx hfind htrade
      obtain rfl : first = ix := Option.some.inj (hfirst.symm.trans hix)
      exact ⟨pumpIdx, hidx, hstatic, first, hfind, isBuy, htrade, mint, hmint, rfl⟩

def rotation : ResolvedTransaction where
  altCache := fun _ _ => none
  message := .legacy
    [List.replicate 32 1, List.replicate 32 2, List.replicate 32 3,
      (decodeBase58 pumpFunProgram).getD []]
    [{ programIdIndex := 3, accounts := [0, 0, 1], data := sellDiscriminator ++ leBytes 8 30 },
      { programIdIndex := 3, accounts := [0, 0, 2], data := buyDiscriminator ++ leBytes 8 100 }]
  keys := _
  resolved := rfl

theorem rotation_differs :
    rotation.vtxReports .plain Geyser.programIds "signature" 1 ≠
      rotation.protoReports .plain Geyser.programIds (List.replicate 32 1) 1 none [1] := by
  decide +kernel

end Shreds

end Girasol
