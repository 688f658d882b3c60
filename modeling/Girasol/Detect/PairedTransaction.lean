import Girasol.Detect.TopLevel
import Mathlib.Data.List.Forall2

/-!
# One transaction as JSON and as protocol buffer

`getTransaction` answers with base58 strings and numbers where Geyser sends raw
bytes.  On the two forms of one transaction the pump.fun parsers report the same
buy and the same sell.
-/

namespace Girasol

open Foundation

def listAt (keys : List String) (v : Json) : List Json :=
  ((CopyEngine.path keys v).bind Json.asArray).getD []

def keysJson (keys : List (List UInt8)) : List Json :=
  keys.map fun key => .string (encodeBase58 key)

structure InstructionJson (instr : Json) (ix : Geyser.CompiledInstruction) : Prop where
  programIdIndex : instr.get? "programIdIndex" = some (.posInt ix.programIdIndex)
  accounts : instr.get? "accounts" = some (.array (ix.accounts.map fun i => .posInt i.toNat))
  data : instr.get? "data" = some (.string (encodeBase58 ix.data))

structure TransactionJson (result : Json) (message : Geyser.TransactionMessage)
    (status : Geyser.TransactionStatusMeta) : Prop where
  accountKeys : listAt ["transaction", "message", "accountKeys"] result =
    keysJson message.accountKeys
  writable : listAt ["meta", "loadedAddresses", "writable"] result =
    keysJson status.loadedWritableAddresses
  readonly : listAt ["meta", "loadedAddresses", "readonly"] result =
    keysJson status.loadedReadonlyAddresses
  instructions : List.Forall₂ InstructionJson
    (listAt ["transaction", "message", "instructions"] result) message.instructions
  innerInstructions : List.Forall₂
    (fun group ixs => List.Forall₂ InstructionJson (listAt ["instructions"] group) ixs)
    (listAt ["meta", "innerInstructions"] result) status.innerInstructions
  preBalances : CopyEngine.path ["meta", "preBalances"] result =
    some (.array (status.preBalances.map .posInt))
  postBalances : CopyEngine.path ["meta", "postBalances"] result =
    some (.array (status.postBalances.map .posInt))

/-- A transaction in both forms, with 32-byte keys and the balances of all of them. -/
structure PairedTransaction where
  result : Json
  signature : List UInt8
  message : Geyser.TransactionMessage
  status : Geyser.TransactionStatusMeta
  json : TransactionJson result message status
  keys_length : ∀ key ∈ message.accountKeys ++ status.loadedWritableAddresses ++
    status.loadedReadonlyAddresses, key.length = 32
  pre_complete : (message.accountKeys ++ status.loadedWritableAddresses ++
    status.loadedReadonlyAddresses).length ≤ status.preBalances.length
  post_complete : (message.accountKeys ++ status.loadedWritableAddresses ++
    status.loadedReadonlyAddresses).length ≤ status.postBalances.length

namespace PairedTransaction

variable (tx : PairedTransaction)

def keys : List (List UInt8) :=
  tx.message.accountKeys ++ tx.status.loadedWritableAddresses ++
    tx.status.loadedReadonlyAddresses

def info : Geyser.SubscribeUpdateTransactionInfo where
  signature := tx.signature
  transaction := some { message := some tx.message }
  «meta» := some tx.status

theorem length_of_mem_keys : ∀ key ∈ tx.keys, key.length = 32 := tx.keys_length

private theorem filterMap_keysJson (keys : List (List UInt8)) (f : Json → Option String)
    (hf : ∀ s, f (.string s) = some s) :
    (keysJson keys).filterMap f = keys.map encodeBase58 := by
  rw [keysJson, List.filterMap_map]
  simp [hf]

@[simp] theorem extractAccountKeys_result :
    CopyEngine.extractAccountKeys tx.result = tx.keys.map encodeBase58 := by
  have hempty (parse : List Json → List String) (hnil : parse [] = []) (keys : List String) :
      (((CopyEngine.path keys tx.result).bind Json.asArray).map parse).getD [] =
        parse (listAt keys tx.result) := by
    unfold listAt
    cases (CopyEngine.path keys tx.result).bind Json.asArray <;> simp [hnil]
  unfold CopyEngine.extractAccountKeys
  simp only
  rw [hempty _ rfl, hempty _ rfl, hempty _ rfl, tx.json.accountKeys, tx.json.writable,
    tx.json.readonly, filterMap_keysJson _ _ fun _ => rfl, CopyEngine.strings,
    CopyEngine.strings, filterMap_keysJson _ _ fun _ => rfl, filterMap_keysJson _ _ fun _ => rfl,
    keys, List.map_append, List.map_append]

private theorem flatten_groups {groups : List Json} {inner : List (List Geyser.CompiledInstruction)}
    (h : List.Forall₂
      (fun group ixs => List.Forall₂ InstructionJson (listAt ["instructions"] group) ixs)
      groups inner) :
    List.Forall₂ InstructionJson
      (groups.flatMap fun group => ((group.get? "instructions").bind Json.asArray).getD [])
      inner.flatten := by
  induction h with
  | nil => exact .nil
  | @cons group ixs _ _ hgroup _ ih =>
      rw [List.flatMap_cons, List.flatten_cons]
      refine List.rel_append ?_ ih
      simpa [listAt, CopyEngine.path] using hgroup

theorem allInstructions_json :
    List.Forall₂ InstructionJson (CopyEngine.allInstructions tx.result)
      (Geyser.allInstructions tx.info) :=
  List.rel_append tx.json.instructions (flatten_groups tx.json.innerInstructions)

theorem idxOf?_map_encodeBase58 {s : String} {bytes : List UInt8}
    (h : decodeBase58 s = some bytes) (keys : List (List UInt8)) :
    (keys.map encodeBase58).idxOf? s = keys.idxOf? bytes := by
  have hkey (key : List UInt8) : (encodeBase58 key == s) = (key == bytes) := by
    rw [Bool.eq_iff_iff, beq_iff_eq, beq_iff_eq, encodeBase58_eq_iff]
    constructor
    · intro hdecode
      exact Option.some.inj (hdecode.symm.trans h)
    · rintro rfl
      exact h
  simp only [List.idxOf?, List.findIdx?_map, Function.comp_def, hkey]

theorem computeSolDelta_result {r : Rounding} {targetWallet : String} {targetBytes : List UInt8}
    (hwallet : decodeBase58 targetWallet = some targetBytes) :
    CopyEngine.computeSolDelta r tx.result (tx.keys.map encodeBase58) targetWallet =
      Geyser.computeSolDelta r tx.info tx.keys targetBytes := by
  unfold CopyEngine.computeSolDelta Geyser.computeSolDelta
  rw [idxOf?_map_encodeBase58 hwallet]
  cases hidx : tx.keys.idxOf? targetBytes with
  | none => rfl
  | some idx =>
      have hlt : idx < tx.keys.length := by
        obtain ⟨hlt, -⟩ := List.findIdx?_eq_some_iff_getElem.mp hidx
        exact hlt
      have hpre := hlt.trans_le tx.pre_complete
      have hpost := hlt.trans_le tx.post_complete
      simp [tx.json.preBalances, tx.json.postBalances, Json.asArray, Json.asU64,
        hpre, hpost, info]

section

variable {instr : Json} {ix : Geyser.CompiledInstruction}

theorem accountIndices_json (h : InstructionJson instr ix) :
    CopyEngine.accountIndices instr = ix.accounts.map UInt8.toNat := by
  simp [CopyEngine.accountIndices, h.accounts, Json.asArray, List.filterMap_map, Json.asU64,
    Function.comp_def]

theorem accountKey_json (h : InstructionJson instr ix) (keys : List (List UInt8)) (index : Nat) :
    CopyEngine.accountKey (keys.map encodeBase58) index instr =
      (Geyser.accountKey keys index ix).map encodeBase58 := by
  simp only [CopyEngine.accountKey, accountIndices_json h, Geyser.accountKey]
  cases hi : ix.accounts[index]? <;> simp [hi]

theorem knownAccounts_json (h : InstructionJson instr ix) (keys : List (List UInt8)) :
    ((CopyEngine.accountIndices instr).filterMap fun i => (keys.map encodeBase58)[i]?) =
      Geyser.accountStrings keys ix := by
  rw [accountIndices_json h, Geyser.accountStrings, List.filterMap_map, List.map_filterMap]
  simp

theorem programIdIndex_json (h : InstructionJson instr ix) :
    CopyEngine.programIdIndex instr = ix.programIdIndex := by
  simp [CopyEngine.programIdIndex, h.programIdIndex, Json.asU64]

end

def AcceptsKeys (p : Platform) : Prop :=
  ∀ key : List UInt8, key.length = 32 → (p.parsePubkey (encodeBase58 key)).toOption.isSome

theorem pumpInstruction_json {p : Platform} (hp : AcceptsKeys p) {keys : List (List UInt8)}
    (hkeys : ∀ key ∈ keys, key.length = 32) {instr : Json} {ix : Geyser.CompiledInstruction}
    (h : InstructionJson instr ix) (discriminator : List UInt8) (pumpIdx : Nat) :
    CopyEngine.pumpInstruction p (keys.map encodeBase58) discriminator pumpIdx instr =
      if Geyser.isPumpTrade keys discriminator pumpIdx ix then
        (Geyser.accountKey keys 2 ix).map fun mint => (ix.data, encodeBase58 mint)
      else none := by
  unfold CopyEngine.pumpInstruction Geyser.isPumpTrade
  rw [programIdIndex_json h, h.data, accountKey_json h]
  by_cases hidx : ix.programIdIndex = pumpIdx
  · cases hdisc : hasDiscriminator discriminator ix.data with
    | false => simp [hidx, Json.asStr, decodeBase58_encodeBase58, hdisc]
    | true =>
        cases hmint : Geyser.accountKey keys 2 ix with
        | none => simp [hidx, Json.asStr]
        | some mint =>
            obtain ⟨i, -, hi⟩ := Option.bind_eq_some_iff.mp hmint
            have hlength := hkeys mint (List.mem_of_getElem? hi)
            obtain ⟨pubkey, hpubkey⟩ := Option.isSome_iff_exists.mp (hp mint hlength)
            simp [hidx, Json.asStr, decodeBase58_encodeBase58, hdisc, hpubkey]
  · simp [hidx]

end PairedTransaction

/-! ## Reports -/

def DetectedBuy.parsed (detected : DetectedBuy) : CopyEngine.ParsedBuy where
  mint := detected.mint
  solAmount := detected.solAmount
  tokenAmount := detected.tokenAmount
  ammPool := detected.ammPool
  targetPumpAccounts := detected.targetPumpAccounts

def DetectedSell.parsed (detected : DetectedSell) : CopyEngine.ParsedSell where
  mint := detected.mint
  tokenAmount := detected.tokenAmount
  solReceived := detected.solReceived
  ammPool := detected.ammPool

namespace PairedTransaction

private theorem withSpent_eq (p : Platform) (result : Json) (keys : List String)
    (targetWallet : String) (parsed : CopyEngine.ParsedBuy) :
    CopyEngine.withSpent p result keys targetWallet parsed =
      { parsed with
        solAmount := (Geyser.spent
          (CopyEngine.computeSolDelta p.rounding result keys targetWallet)).or
            parsed.solAmount } := by
  unfold CopyEngine.withSpent Geyser.spent
  cases CopyEngine.computeSolDelta p.rounding result keys targetWallet with
  | none => rfl
  | some delta => by_cases hspent : 0 < delta.2 <;> simp [Option.filter, hspent]

private theorem withReceived_eq (p : Platform) (result : Json) (keys : List String)
    (targetWallet : String) (parsed : CopyEngine.ParsedSell) :
    CopyEngine.withReceived p result keys targetWallet parsed =
      { parsed with
        solReceived := (Geyser.received
          (CopyEngine.computeSolDelta p.rounding result keys targetWallet)).or
            parsed.solReceived } := by
  unfold CopyEngine.withReceived Geyser.received
  cases CopyEngine.computeSolDelta p.rounding result keys targetWallet with
  | none => rfl
  | some delta => by_cases hreceived : 0 < delta.1 <;> simp [Option.filter, hreceived]

section

variable {p : Platform} (tx : PairedTransaction) {targetWallet : String}
  {targetBytes : List UInt8} (slot : Nat)

private theorem buy_json (hp : AcceptsKeys p)
    (hwallet : decodeBase58 targetWallet = some targetBytes)
    (pumpIdx : Nat) {instr : Json} {ix : Geyser.CompiledInstruction}
    (h : InstructionJson instr ix) :
    (CopyEngine.tryParsePumpBuyInstruction p (tx.keys.map encodeBase58) pumpIdx instr).map
        (CopyEngine.withSpent p tx.result (tx.keys.map encodeBase58) targetWallet) =
      (Geyser.checkInstruction p.rounding tx.keys
        (Geyser.computeSolDelta p.rounding tx.info tx.keys targetBytes) pumpIdx ix).1.map
          fun buy => (Geyser.detectedBuy slot tx.info .pumpFun buy).parsed := by
  rw [CopyEngine.tryParsePumpBuyInstruction, pumpInstruction_json hp tx.length_of_mem_keys h,
    Geyser.checkInstruction_eq, knownAccounts_json h]
  cases Geyser.isPumpTrade tx.keys buyDiscriminator pumpIdx ix <;>
    cases Geyser.accountKey tx.keys 2 ix <;>
      simp [withSpent_eq, computeSolDelta_result tx hwallet, Geyser.foundBuy, Geyser.detectedBuy,
        DetectedBuy.parsed]

private theorem sell_json (hp : AcceptsKeys p)
    (hwallet : decodeBase58 targetWallet = some targetBytes)
    (pumpIdx : Nat) {instr : Json} {ix : Geyser.CompiledInstruction}
    (h : InstructionJson instr ix) :
    (CopyEngine.tryParsePumpSellInstruction p (tx.keys.map encodeBase58) pumpIdx instr).map
        (CopyEngine.withReceived p tx.result (tx.keys.map encodeBase58) targetWallet) =
      (Geyser.checkInstruction p.rounding tx.keys
        (Geyser.computeSolDelta p.rounding tx.info tx.keys targetBytes) pumpIdx ix).2.map
          fun sell => (Geyser.detectedSell slot tx.info .pumpFun sell).parsed := by
  rw [CopyEngine.tryParsePumpSellInstruction, pumpInstruction_json hp tx.length_of_mem_keys h,
    Geyser.checkInstruction_eq]
  cases Geyser.isPumpTrade tx.keys sellDiscriminator pumpIdx ix <;>
    cases Geyser.accountKey tx.keys 2 ix <;>
      simp [withReceived_eq, computeSolDelta_result tx hwallet, Geyser.foundSell,
        Geyser.detectedSell, DetectedSell.parsed]

end

/-- Both listeners report the same first buy and the same first sell on pump.fun. -/
theorem pump_reports_agree {p : Platform} (hp : AcceptsKeys p) {ids : Geyser.ProgramIds}
    (hids : Geyser.ProgramIds.new = some ids) {targetWallet : String} {targetBytes : List UInt8}
    (hwallet : decodeBase58 targetWallet = some targetBytes) (slot : Nat)
    (tx : PairedTransaction) :
    let found := CopyEngine.parsePump p tx.result (CopyEngine.extractAccountKeys tx.result)
      targetWallet
    let sent := Geyser.parsePumpFromProto p ids targetBytes true slot tx.info tx.keys
    (sent.filterMap fun e => e.signal.asBuy).map DetectedBuy.parsed =
        (found.buy.map CopyEngine.Found.parsed).toList ∧
      (sent.filterMap fun e => e.signal.asSell).map DetectedSell.parsed =
        (found.sell.map CopyEngine.Found.parsed).toList := by
  have hprogram : decodeBase58 pumpFunProgram = some ids.pumpFun := by
    simp only [Geyser.ProgramIds.new, Option.bind_eq_bind, Option.bind_eq_some_iff] at hids
    obtain ⟨program, hprogram, _, -, _, -, _, -, heq⟩ := hids
    cases heq
    exact hprogram
  rw [extractAccountKeys_result, CopyEngine.parsePump, Geyser.parsePumpFromProto,
    idxOf?_map_encodeBase58 hprogram]
  cases tx.keys.idxOf? ids.pumpFun with
  | none => exact ⟨rfl, rfl⟩
  | some pumpIdx =>
      have hbuy := firstHit_forall₂ (R := InstructionJson)
        (f := CopyEngine.withSpent p tx.result (tx.keys.map encodeBase58) targetWallet)
        (g := fun buy => (Geyser.detectedBuy slot tx.info .pumpFun buy).parsed)
        (fun _ _ h => buy_json tx slot hp hwallet pumpIdx h) tx.allInstructions_json
      have hsell := firstHit_forall₂ (R := InstructionJson)
        (f := CopyEngine.withReceived p tx.result (tx.keys.map encodeBase58) targetWallet)
        (g := fun sell => (Geyser.detectedSell slot tx.info .pumpFun sell).parsed)
        (fun _ _ h => sell_json tx slot hp hwallet pumpIdx h) tx.allInstructions_json
      simp only [scanBoth_eq, Option.none_or, Geyser.buys_of_sendFirsts,
        Geyser.sells_of_sendFirsts, Option.map_map, Function.comp_def, hbuy, hsell,
        Option.toList_map, List.map_map, and_self]

end PairedTransaction

/-! ## Every transaction has a JSON form -/

def instructionJson (ix : Geyser.CompiledInstruction) : Json :=
  .object
    [("programIdIndex", .posInt ix.programIdIndex),
      ("accounts", .array (ix.accounts.map fun i => .posInt i.toNat)),
      ("data", .string (encodeBase58 ix.data))]

def transactionJson (message : Geyser.TransactionMessage) (status : Geyser.TransactionStatusMeta) :
    Json :=
  .object
    [("transaction", .object
        [("message", .object
          [("accountKeys", .array (keysJson message.accountKeys)),
            ("instructions", .array (message.instructions.map instructionJson))])]),
      ("meta", .object
        [("loadedAddresses", .object
            [("writable", .array (keysJson status.loadedWritableAddresses)),
              ("readonly", .array (keysJson status.loadedReadonlyAddresses))]),
          ("innerInstructions", .array (status.innerInstructions.map fun ixs =>
            .object [("instructions", .array (ixs.map instructionJson))])),
          ("preBalances", .array (status.preBalances.map .posInt)),
          ("postBalances", .array (status.postBalances.map .posInt))])]

private theorem forall₂_instructionJson (ixs : List Geyser.CompiledInstruction) :
    List.Forall₂ InstructionJson (ixs.map instructionJson) ixs := by
  induction ixs with
  | nil => exact .nil
  | cons ix ixs ih => exact .cons ⟨rfl, rfl, rfl⟩ ih

theorem transactionJson_represents (message : Geyser.TransactionMessage)
    (status : Geyser.TransactionStatusMeta) :
    TransactionJson (transactionJson message status) message status where
  accountKeys := rfl
  writable := rfl
  readonly := rfl
  instructions := forall₂_instructionJson message.instructions
  innerInstructions := by
    change List.Forall₂ _ (status.innerInstructions.map _) _
    induction status.innerInstructions with
    | nil => exact .nil
    | cons ixs groups ih => exact .cons (forall₂_instructionJson ixs) ih
  preBalances := rfl
  postBalances := rfl

theorem acceptsKeys_plain : PairedTransaction.AcceptsKeys .plain := by
  intro key hlength
  change (parsePubkeyBytes (encodeBase58 key)).toOption.isSome
  rw [parsePubkeyBytes, decodeBase58_encodeBase58]
  simp [hlength, Except.toOption]

def twiceGivenBuy : PairedTransaction where
  result := _
  signature := [1]
  message :=
    { accountKeys := [List.replicate 32 1, List.replicate 32 2,
        (decodeBase58 pumpFunProgram).getD []]
      instructions := [{ programIdIndex := 2, accounts := [0, 0, 1],
                         data := buyDiscriminator ++ leBytes 8 100 }] }
  status :=
    { err := none, preBalances := [1000000000, 0, 0], postBalances := [500000000, 0, 0]
      innerInstructions := [], loadedWritableAddresses := [], loadedReadonlyAddresses := [] }
  json := transactionJson_represents _ _
  keys_length := by decide +kernel
  pre_complete := by decide
  post_complete := by decide

theorem twiceGivenBuy_agrees :
    let found := CopyEngine.parsePump .plain twiceGivenBuy.result
      (CopyEngine.extractAccountKeys twiceGivenBuy.result) (encodeBase58 (List.replicate 32 1))
    let sent := Geyser.parsePumpFromProto .plain Geyser.programIds (List.replicate 32 1) true 1
      twiceGivenBuy.info twiceGivenBuy.keys
    (sent.filterMap fun e => e.signal.asBuy).map DetectedBuy.parsed =
        (found.buy.map CopyEngine.Found.parsed).toList ∧
      (sent.filterMap fun e => e.signal.asSell).map DetectedSell.parsed =
        (found.sell.map CopyEngine.Found.parsed).toList :=
  PairedTransaction.pump_reports_agree acceptsKeys_plain Geyser.new_eq_programIds
    (decodeBase58_encodeBase58 _) 1 twiceGivenBuy

end Girasol
