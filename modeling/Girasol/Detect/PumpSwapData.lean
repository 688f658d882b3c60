import Girasol.Detect.CopyEngine
import Girasol.Foundation.Base64

/-!
# The data of a PumpSwap instruction in JSON

`getTransaction` gives the data in Base58, and the parser first tries Base64.
Whether it gets to the Base58 is decided by the length of the text.
-/

namespace Girasol.CopyEngine

open Foundation

variable {keys : List String} {idx : Nat} {instr : Json} {isBuy : Bool} {data : List UInt8}

/-- The instruction data of a trade: its discriminator and two amounts, at least. -/
structure TradeBytes (isBuy : Bool) (data : List UInt8) : Prop where
  long : 24 ≤ data.length
  side : data.take 8 = if isBuy then buyDiscriminator else sellDiscriminator

instance (isBuy : Bool) (data : List UInt8) : Decidable (TradeBytes isBuy data) :=
  decidable_of_iff (24 ≤ data.length ∧
      data.take 8 = if isBuy then buyDiscriminator else sellDiscriminator)
    ⟨fun h => ⟨h.1, h.2⟩, fun h => ⟨h.long, h.side⟩⟩

theorem TradeBytes.hasDiscriminator (hdata : TradeBytes isBuy data) :
    hasDiscriminator buyDiscriminator data = isBuy ∧
      hasDiscriminator sellDiscriminator data = !isBuy := by
  have hlong : 8 ≤ data.length := by
    have hlong := hdata.long
    omega
  cases isBuy <;>
    simp [Girasol.hasDiscriminator, hlong, hdata.side, buyDiscriminator, sellDiscriminator]

theorem TradeBytes.length_text (hdata : TradeBytes isBuy data) :
    32 < (encodeBase58 data).toList.length := by
  obtain ⟨hlong, hside⟩ := hdata
  cases data with
  | nil => simp at hlong
  | cons first rest =>
      simp only [List.length_cons] at hlong
      have hfirst : 51 ≤ first.toNat := by
        cases isBuy <;> cases (List.cons.inj hside).1 <;> decide
      apply lt_length_encodeBase58
      calc 58 ^ 32 ≤ 51 * 256 ^ 23 := by norm_num
        _ ≤ first.toNat * 256 ^ rest.length := by
          gcongr
          · norm_num
          · omega

private theorem not_hasDiscriminator_of_base58 {text : String} {bytes : List UInt8}
    (htext : ∀ c ∈ text.toList, c ∈ base58Alphabet) (hdecode : decodeBase64 text = some bytes) :
    hasDiscriminator buyDiscriminator bytes = false ∧
      hasDiscriminator sellDiscriminator bytes = false := by
  have hbyte {discriminator : List UInt8} (hside : hasDiscriminator discriminator bytes = true)
      {i : Nat} (hi : i < 8) : bytes[i]? = discriminator[i]? := by
    simp only [hasDiscriminator, Bool.and_eq_true, beq_iff_eq] at hside
    rw [← hside.2, List.getElem?_take_of_lt hi]
  constructor
  · by_contra hbuy
    rw [Bool.not_eq_false] at hbuy
    exact not_plus_of_base58 (k := 2) htext hdecode (hbyte hbuy (by omega))
      (hbyte hbuy (by omega)) rfl
  · by_contra hsell
    rw [Bool.not_eq_false] at hsell
    exact not_plus_of_base58 (k := 0) htext hdecode (hbyte hsell (by omega))
      (hbyte hsell (by omega)) rfl

theorem TradeBytes.pumpswapData (hdata : TradeBytes isBuy data) :
    if (encodeBase58 data).toList.length % 4 = 0 then
      ∃ bytes, CopyEngine.pumpswapData (encodeBase58 data) = some bytes ∧
        Girasol.hasDiscriminator buyDiscriminator bytes = false ∧
        Girasol.hasDiscriminator sellDiscriminator bytes = false
    else CopyEngine.pumpswapData (encodeBase58 data) = some data := by
  have htext : ∀ c ∈ (encodeBase58 data).toList, c ∈ base58Alphabet :=
    fun c hc => mem_base58Alphabet_of_encode hc
  unfold CopyEngine.pumpswapData
  split
  case isTrue hfour =>
    obtain ⟨bytes, hdecode, hcount⟩ := exists_decodeBase64Chars
      (fun c hc => mem_base64Alphabet (htext c hc)) hfour
    have hlong := hdata.length_text
    refine ⟨bytes, ?_, not_hasDiscriminator_of_base58 htext hdecode⟩
    rw [decodeBase64, hdecode, Option.filter_some, if_pos, Option.some_or]
    rw [decide_eq_true_eq, hcount]
    omega
  case isFalse hfour =>
    have hnone : decodeBase64 (encodeBase58 data) = none := by
      apply Option.eq_none_iff_forall_ne_some.mpr
      intro bytes hdecode
      exact hfour (length_of_decodeBase64Chars hdecode)
    rw [hnone, decodeBase58_encodeBase58]
    rfl

/-- The parser reads the side and the two little-endian amounts of the data. -/
def ReadsTrade (keys : List String) (idx : Nat) (instr : Json) (isBuy : Bool)
    (data : List UInt8) : Prop :=
  ∃ accounts, parsePumpswapInstruction keys idx instr = some (isBuy, accounts) ∧
    accounts.tokenAmount = leValue ((data.drop 8).take 8) ∧
    accounts.solAmount = leValue ((data.drop 16).take 8)

instance (keys : List String) (idx : Nat) (instr : Json) (isBuy : Bool) (data : List UInt8) :
    Decidable (ReadsTrade keys idx instr isBuy data) :=
  decidable_of_iff ((parsePumpswapInstruction keys idx instr).any (fun parsed =>
      parsed.1 = isBuy ∧ parsed.2.tokenAmount = leValue ((data.drop 8).take 8) ∧
        parsed.2.solAmount = leValue ((data.drop 16).take 8)) = true) (by
    cases isBuy <;> simp [ReadsTrade, Option.any_eq_true])

private theorem parsePumpswapInstruction_eq_none {bytes : List UInt8}
    (hbytes : ((instr.get? "data").bind Json.asStr).bind pumpswapData = some bytes)
    (hbuy : hasDiscriminator buyDiscriminator bytes = false)
    (hsell : hasDiscriminator sellDiscriminator bytes = false) :
    parsePumpswapInstruction keys idx instr = none := by
  unfold parsePumpswapInstruction
  cases hprogram : (instr.get? "programIdIndex").bind Json.asU64 with
  | none => rfl
  | some found =>
      rw [Option.bind_eq_bind, Option.bind_some]
      split
      case isTrue => rfl
      case isFalse =>
        rw [hbytes, Option.bind_eq_bind, Option.bind_some, hbuy, hsell]
        cases u64At 8 bytes with
        | none => rfl
        | some amount => cases u64At 16 bytes <;> rfl

private theorem parsePumpswapInstruction_eq (hdata : TradeBytes isBuy data)
    (hprogram : (instr.get? "programIdIndex").bind Json.asU64 = some idx)
    (hbytes : ((instr.get? "data").bind Json.asStr).bind pumpswapData = some data)
    (haccounts : 17 ≤ ((accountIndices instr).filterMap fun i => keys[i]?).length) :
    parsePumpswapInstruction keys idx instr =
      (accountKey keys 0 instr).bind fun pool => (accountKey keys 3 instr).bind fun baseMint =>
        (accountKey keys 4 instr).map fun quoteMint =>
          (isBuy, ⟨(accountIndices instr).filterMap fun i => keys[i]?, pool, baseMint, quoteMint,
            leValue ((data.drop 8).take 8), leValue ((data.drop 16).take 8)⟩) := by
  obtain ⟨hbuy, hsell⟩ := hdata.hasDiscriminator
  have hlong := hdata.long
  have hindices : 17 ≤ (accountIndices instr).length :=
    haccounts.trans (List.length_filterMap_le _ _)
  unfold parsePumpswapInstruction
  rw [hprogram, hbytes, atLeast_of_le hindices, atLeast_of_le haccounts]
  simp only [Option.bind_eq_bind, Option.bind_some, bne_self_eq_false, Bool.false_eq_true,
    if_false, hbuy, hsell, u64At_of_le (show 8 + 8 ≤ data.length by omega),
    u64At_of_le (show 16 + 8 ≤ data.length by omega), Bool.not_not, Bool.not_and_self]
  cases accountKey keys 0 instr with
  | none => rfl
  | some pool =>
      cases accountKey keys 3 instr with
      | none => rfl
      | some baseMint => cases accountKey keys 4 instr <;> rfl

/--
A PumpSwap trade in Base58 is read from its data exactly if the text is no
multiple of four characters long and its pool and mints are known accounts.
-/
theorem readsTrade_base58_iff (keys : List String) (idx : Nat) (instr : Json) (isBuy : Bool)
    (data : List UInt8) (hdata : TradeBytes isBuy data)
    (hprogram : (instr.get? "programIdIndex").bind Json.asU64 = some idx)
    (htext : (instr.get? "data").bind Json.asStr = some (encodeBase58 data))
    (haccounts : 17 ≤ ((accountIndices instr).filterMap fun i => keys[i]?).length) :
    ReadsTrade keys idx instr isBuy data ↔
      (encodeBase58 data).toList.length % 4 ≠ 0 ∧
        ∀ index ∈ [0, 3, 4], (accountKey keys index instr).isSome := by
  have hread := hdata.pumpswapData
  split at hread
  case isTrue hfour =>
    obtain ⟨bytes, hbytes, hbuy, hsell⟩ := hread
    have hnone : parsePumpswapInstruction keys idx instr = none :=
      parsePumpswapInstruction_eq_none (by rw [htext, Option.bind_some, hbytes]) hbuy hsell
    constructor
    · rintro ⟨accounts, hparsed, -⟩
      cases hnone.symm.trans hparsed
    · rintro ⟨hodd, -⟩
      exact absurd hfour hodd
  case isFalse hodd =>
    have hparse := parsePumpswapInstruction_eq hdata hprogram
      (by rw [htext, Option.bind_some, hread]) haccounts
    simp only [ReadsTrade, hparse, and_iff_right hodd, List.forall_mem_cons, List.not_mem_nil,
      false_imp_iff, implies_true, and_true]
    constructor
    · rintro ⟨accounts, hparsed, -⟩
      obtain ⟨pool, hpool, hparsed⟩ := Option.bind_eq_some_iff.mp hparsed
      obtain ⟨baseMint, hbase, hparsed⟩ := Option.bind_eq_some_iff.mp hparsed
      obtain ⟨quoteMint, hquote, -⟩ := Option.map_eq_some_iff.mp hparsed
      simp [hpool, hbase, hquote]
    · rintro ⟨hpool, hbase, hquote⟩
      obtain ⟨pool, hpool⟩ := Option.isSome_iff_exists.mp hpool
      obtain ⟨baseMint, hbase⟩ := Option.isSome_iff_exists.mp hbase
      obtain ⟨quoteMint, hquote⟩ := Option.isSome_iff_exists.mp hquote
      rw [hpool, hbase, hquote]
      exact ⟨_, rfl, rfl, rfl⟩

/-! ## Two bytes more -/

def seventeenKeys : List String := (List.range 17).map fun i => s!"key{i}"

def buyBytes (rest : List UInt8) : List UInt8 :=
  buyDiscriminator ++ leBytes 8 1000 ++ leBytes 8 100 ++ rest

private theorem buyBytes_trade (rest : List UInt8) : TradeBytes true (buyBytes rest) where
  long := by
    simp [buyBytes, buyDiscriminator]
    omega
  side := rfl

def buyJson (rest : List UInt8) : Json :=
  .object [("programIdIndex", .posInt 16),
    ("accounts", .array ((List.range 17).map fun i => .posInt i)),
    ("data", .string (encodeBase58 (buyBytes rest)))]

theorem readsTrade_base58_iff_bare :
    ReadsTrade seventeenKeys 16 (buyJson []) true (buyBytes []) ↔
      (encodeBase58 (buyBytes [])).toList.length % 4 ≠ 0 ∧
        ∀ index ∈ [0, 3, 4], (accountKey seventeenKeys index (buyJson [])).isSome :=
  readsTrade_base58_iff seventeenKeys 16 (buyJson []) true (buyBytes []) (buyBytes_trade [])
    (by decide +kernel) (by decide +kernel) (by decide +kernel)

theorem readsTrade_base58_lost :
    TradeBytes true (buyBytes [1, 1]) ∧
      ((buyJson [1, 1]).get? "programIdIndex").bind Json.asU64 = some 16 ∧
      ((buyJson [1, 1]).get? "data").bind Json.asStr = some (encodeBase58 (buyBytes [1, 1])) ∧
      (accountIndices (buyJson [1, 1])).length = 17 ∧
      (∀ i ∈ accountIndices (buyJson [1, 1]), i < seventeenKeys.length) ∧
      ¬ ReadsTrade seventeenKeys 16 (buyJson [1, 1]) true (buyBytes [1, 1]) := by
  decide +kernel

end Girasol.CopyEngine
