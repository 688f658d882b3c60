import Girasol.Detect.Signal
import Girasol.Foundation.Json
import Girasol.Foundation.Layout
import Girasol.Foundation.Text
import Girasol.Send.Encoding

/-!
# The state of a Raydium pool

Both Raydium modules read a pool account as a record of fixed width, one from
the first byte and one behind an eight-byte discriminator.  What they read back
is exactly what the account holds.
-/

namespace Girasol

open Foundation

/-! ## Fields -/

abbrev U8 := BitVec 8

abbrev U64 := BitVec 64

abbrev U128 := BitVec 128

abbrev PoolKey := { bytes : List UInt8 // bytes.length = 32 }

namespace PoolLayout

def u8 : Layout U8 := .uint 1

def u64 : Layout U64 := .uint 8

def u128 : Layout U128 := .uint 16

def pubkey : Layout PoolKey := .raw 32

end PoolLayout

/-! ## Replies -/

inductive PoolError where
  | http (error : String)
  | undecodable (data : String)
  | message (text : String)
  deriving DecidableEq

/-- `result.value` of a reply, if it is there. -/
def replyValue (json : Json) : Option Json := (json.get? "result").bind fun r => r.get? "value"

/-- The decoded account data of a reply; `missing` is the complaint when there is none. -/
def poolAccountData (missing : String) (reply : Except String Json) :
    Except PoolError (List UInt8) := do
  let json ← reply.mapError .http
  let encoded ← match (((replyValue json).bind fun v => v.get? "data").bind Json.asArray).bind
      fun items => items.head?.bind Json.asStr with
    | some encoded => .ok encoded
    | none => .error (.message missing)
  match decodeBase64 encoded with
  | some data => return data
  | none => .error (.undecodable encoded)

def fetchTokenBalance (reply : Except String Json) : Except PoolError Nat := do
  let json ← reply.mapError .http
  let amount ← match ((replyValue json).bind fun v => v.get? "amount").bind Json.asStr with
    | some amount => .ok amount
    | none => .error (.message "Failed to get token balance")
  (parseUnsigned (2 ^ 64) amount).mapError .message

structure PoolAccount (α : Type) where
  layout : Layout α
  /-- The bytes in front of the record. -/
  discriminator : Nat
  missing : String
  tooSmall : Nat → String
  invalid : String

def PoolAccount.fetch {α : Type} (account : PoolAccount α) (reply : Except String Json) :
    Except PoolError α := do
  let data ← poolAccountData account.missing reply
  if data.length < account.discriminator + account.layout.width then
    .error (.message (account.tooSmall data.length))
  else
    match account.layout.fromSlice
        ((data.drop account.discriminator).take account.layout.width) with
    | some state => return state
    | none => .error (.message account.invalid)

/-! ## Raydium V4 -/

namespace RaydiumV4

structure Fees where
  minSeparateNumerator : U64
  minSeparateDenominator : U64
  tradeFeeNumerator : U64
  tradeFeeDenominator : U64
  pnlNumerator : U64
  pnlDenominator : U64
  swapFeeNumerator : U64
  swapFeeDenominator : U64
  deriving DecidableEq

structure OutPutData where
  needTakePnlCoin : U64
  needTakePnlPc : U64
  totalPnlPc : U64
  totalPnlCoin : U64
  poolOpenTime : U64
  punishPcAmount : U64
  punishCoinAmount : U64
  orderbookToInitTime : U64
  swapCoinInAmount : U128
  swapPcOutAmount : U128
  swapTakePcFee : U64
  swapPcInAmount : U128
  swapCoinOutAmount : U128
  swapTakeCoinFee : U64
  deriving DecidableEq

structure AmmInfo where
  status : U64
  nonce : U64
  orderNum : U64
  depth : U64
  coinDecimals : U64
  pcDecimals : U64
  state : U64
  resetFlag : U64
  minSize : U64
  volMaxCutRatio : U64
  amountWave : U64
  coinLotSize : U64
  pcLotSize : U64
  minPriceMultiplier : U64
  maxPriceMultiplier : U64
  sysDecimalValue : U64
  fees : Fees
  outPut : OutPutData
  tokenCoin : PoolKey
  tokenPc : PoolKey
  coinMint : PoolKey
  pcMint : PoolKey
  lpMint : PoolKey
  openOrders : PoolKey
  market : PoolKey
  serumDex : PoolKey
  targetOrders : PoolKey
  withdrawQueue : PoolKey
  tokenTempLp : PoolKey
  ammOwner : PoolKey
  lpAmount : U64
  clientOrderId : U64
  padding : { items : List U64 // items.length = 2 }
  deriving DecidableEq

open PoolLayout

def Fees.layout : Layout Fees :=
  (u64.pair <| u64.pair <| u64.pair <| u64.pair <| u64.pair <| u64.pair <| u64.pair u64).map
    { toFun := fun (a, b, c, d, e, f, g, h) => ⟨a, b, c, d, e, f, g, h⟩
      invFun := fun ⟨a, b, c, d, e, f, g, h⟩ => (a, b, c, d, e, f, g, h)
      left_inv := fun _ => rfl
      right_inv := fun _ => rfl }

def OutPutData.layout : Layout OutPutData :=
  (u64.pair <| u64.pair <| u64.pair <| u64.pair <| u64.pair <| u64.pair <| u64.pair <| u64.pair <|
    u128.pair <| u128.pair <| u64.pair <| u128.pair <| u128.pair u64).map
    { toFun := fun (a, b, c, d, e, f, g, h, i, j, k, l, m, n) =>
        ⟨a, b, c, d, e, f, g, h, i, j, k, l, m, n⟩
      invFun := fun ⟨a, b, c, d, e, f, g, h, i, j, k, l, m, n⟩ =>
        (a, b, c, d, e, f, g, h, i, j, k, l, m, n)
      left_inv := fun _ => rfl
      right_inv := fun _ => rfl }

def AmmInfo.layout : Layout AmmInfo :=
  (u64.pair <| u64.pair <| u64.pair <| u64.pair <| u64.pair <| u64.pair <| u64.pair <| u64.pair <|
    u64.pair <| u64.pair <| u64.pair <| u64.pair <| u64.pair <| u64.pair <| u64.pair <| u64.pair <|
    Fees.layout.pair <| OutPutData.layout.pair <|
    pubkey.pair <| pubkey.pair <| pubkey.pair <| pubkey.pair <| pubkey.pair <| pubkey.pair <|
    pubkey.pair <| pubkey.pair <| pubkey.pair <| pubkey.pair <| pubkey.pair <| pubkey.pair <|
    u64.pair <| u64.pair (u64.array 2)).map
    { toFun := fun (a, b, c, d, e, f, g, h, i, j, k, l, m, n, o, q, fees, outPut, a', b', c', d',
          e', f', g', h', i', j', k', l', lpAmount, clientOrderId, padding) =>
        ⟨a, b, c, d, e, f, g, h, i, j, k, l, m, n, o, q, fees, outPut, a', b', c', d', e', f', g',
          h', i', j', k', l', lpAmount, clientOrderId, padding⟩
      invFun := fun ⟨a, b, c, d, e, f, g, h, i, j, k, l, m, n, o, q, fees, outPut, a', b', c', d',
          e', f', g', h', i', j', k', l', lpAmount, clientOrderId, padding⟩ =>
        (a, b, c, d, e, f, g, h, i, j, k, l, m, n, o, q, fees, outPut, a', b', c', d', e', f', g',
          h', i', j', k', l', lpAmount, clientOrderId, padding)
      left_inv := fun _ => rfl
      right_inv := fun _ => rfl }

def ammInfoSize : Nat := 752

@[simp] theorem AmmInfo.layout_width : AmmInfo.layout.width = ammInfoSize := rfl

def ammAccount : PoolAccount AmmInfo where
  layout := AmmInfo.layout
  discriminator := 0
  missing := "Failed to get AMM account data"
  tooSmall := fun size => s!"AMM account data too small: {size} < {ammInfoSize}"
  invalid := "AMM deserialization error"

def fetchAmmInfo : Except String Json → Except PoolError AmmInfo := ammAccount.fetch

end RaydiumV4

/-! ## Raydium CPMM -/

namespace RaydiumCpmm

structure CpmmPoolState where
  ammConfig : PoolKey
  poolCreator : PoolKey
  token0Vault : PoolKey
  token1Vault : PoolKey
  lpMint : PoolKey
  token0Mint : PoolKey
  token1Mint : PoolKey
  token0Program : PoolKey
  token1Program : PoolKey
  observationKey : PoolKey
  authBump : U8
  status : U8
  lpMintDecimals : U8
  mint0Decimals : U8
  mint1Decimals : U8
  lpSupply : U64
  protocolFeesToken0 : U64
  protocolFeesToken1 : U64
  fundFeesToken0 : U64
  fundFeesToken1 : U64
  openTime : U64
  recentEpoch : U64
  padding : { items : List U64 // items.length = 31 }
  deriving DecidableEq

open PoolLayout

def CpmmPoolState.layout : Layout CpmmPoolState :=
  (pubkey.pair <| pubkey.pair <| pubkey.pair <| pubkey.pair <| pubkey.pair <| pubkey.pair <|
    pubkey.pair <| pubkey.pair <| pubkey.pair <| pubkey.pair <| u8.pair <| u8.pair <| u8.pair <|
    u8.pair <| u8.pair <| u64.pair <| u64.pair <| u64.pair <| u64.pair <| u64.pair <| u64.pair <|
    u64.pair (u64.array 31)).map
    { toFun := fun (a, b, c, d, e, f, g, h, i, j, k, l, m, n, o, q, r, s, t, u, v, w, padding) =>
        ⟨a, b, c, d, e, f, g, h, i, j, k, l, m, n, o, q, r, s, t, u, v, w, padding⟩
      invFun := fun ⟨a, b, c, d, e, f, g, h, i, j, k, l, m, n, o, q, r, s, t, u, v, w, padding⟩ =>
        (a, b, c, d, e, f, g, h, i, j, k, l, m, n, o, q, r, s, t, u, v, w, padding)
      left_inv := fun _ => rfl
      right_inv := fun _ => rfl }

def poolStateSize : Nat := 629

@[simp] theorem CpmmPoolState.layout_width : CpmmPoolState.layout.width = poolStateSize := rfl

def poolAccount : PoolAccount CpmmPoolState where
  layout := CpmmPoolState.layout
  discriminator := 8
  missing := "Failed to get CPMM pool account data"
  tooSmall := fun size => s!"CPMM pool data too small: {size} < {8 + poolStateSize}"
  invalid := "CPMM pool deserialization error"

def fetchPoolState : Except String Json → Except PoolError CpmmPoolState := poolAccount.fetch

end RaydiumCpmm

/-! ## What an account holds is what is read -/

namespace PoolAccount

variable {α : Type} (account : PoolAccount α) (reply : Except String Json)

def Holds (data : List UInt8) (state : α) : Prop :=
  ∃ head rest, head.length = account.discriminator ∧
    data = head ++ account.layout.bytes state ++ rest

variable {account reply} {data : List UInt8} {state : α}

theorem Holds.length_le (h : account.Holds data state) :
    account.discriminator + account.layout.width ≤ data.length := by
  obtain ⟨head, rest, hhead, rfl⟩ := h
  rw [List.length_append, List.length_append, hhead, account.layout.length_bytes]
  omega

theorem holds_iff (hlength : account.discriminator + account.layout.width ≤ data.length) :
    account.layout.fromSlice ((data.drop account.discriminator).take account.layout.width) =
        some state ↔ account.Holds data state := by
  rw [Layout.fromSlice_take_eq_some_iff (by rw [List.length_drop]; omega)]
  constructor
  · rintro ⟨rest, hdrop⟩
    refine ⟨data.take account.discriminator, rest, ?_, ?_⟩
    · rw [List.length_take]
      omega
    · rw [List.append_assoc, ← hdrop, List.take_append_drop]
  · rintro ⟨head, rest, hhead, rfl⟩
    exact ⟨rest, by rw [List.append_assoc, List.drop_left' hhead]⟩

theorem exists_holds (hlength : account.discriminator + account.layout.width ≤ data.length) :
    ∃ state, account.Holds data state := by
  have hslice : ((data.drop account.discriminator).take account.layout.width).length =
      account.layout.width := by
    rw [List.length_take, List.length_drop]
    omega
  obtain ⟨state, hstate⟩ := Option.isSome_iff_exists.mp (Layout.fromSlice_isSome hslice)
  exact ⟨state, (holds_iff hlength).mp hstate⟩

theorem fetch_eq_of_data (hdata : poolAccountData account.missing reply = .ok data) :
    account.fetch reply =
      if data.length < account.discriminator + account.layout.width then
        .error (.message (account.tooSmall data.length))
      else match account.layout.fromSlice
          ((data.drop account.discriminator).take account.layout.width) with
        | some state => .ok state
        | none => .error (.message account.invalid) := by
  rw [fetch, hdata]
  rfl

@[simp] theorem fetch_of_short (hdata : poolAccountData account.missing reply = .ok data)
    (hshort : data.length < account.discriminator + account.layout.width) :
    account.fetch reply = .error (.message (account.tooSmall data.length)) := by
  rw [fetch_eq_of_data hdata, if_pos hshort]

theorem fetch_of_data (hdata : poolAccountData account.missing reply = .ok data) :
    account.fetch reply = .ok state ↔ account.Holds data state := by
  rw [fetch_eq_of_data hdata]
  split
  case isTrue hshort =>
    exact iff_of_false (by simp) fun h => absurd h.length_le (not_le.mpr hshort)
  case isFalse hlong =>
    rw [← holds_iff (not_lt.mp hlong)]
    split
    case h_1 found hfound => rw [hfound, Except.ok.injEq, Option.some.injEq]
    case h_2 hnone =>
      rw [hnone]
      simp

@[simp] theorem fetch_of_no_data {error : PoolError}
    (hdata : poolAccountData account.missing reply = .error error) :
    account.fetch reply = .error error := by
  rw [fetch, hdata]
  rfl

theorem fetch_eq_ok_iff : account.fetch reply = .ok state ↔
    ∃ data, poolAccountData account.missing reply = .ok data ∧ account.Holds data state := by
  cases hdata : poolAccountData account.missing reply with
  | error error => simp [fetch_of_no_data hdata]
  | ok data => simpa using fetch_of_data hdata

theorem fetch_eq_error_iff {error : PoolError} : account.fetch reply = .error error ↔
    poolAccountData account.missing reply = .error error ∨
      ∃ data, poolAccountData account.missing reply = .ok data ∧
        data.length < account.discriminator + account.layout.width ∧
        error = .message (account.tooSmall data.length) := by
  cases hdata : poolAccountData account.missing reply with
  | error found => simp [fetch_of_no_data hdata]
  | ok data =>
      by_cases hshort : data.length < account.discriminator + account.layout.width
      · rw [fetch_of_short hdata hshort]
        simp [hshort, eq_comm]
      · obtain ⟨state, hstate⟩ := exists_holds (not_lt.mp hshort)
        rw [(fetch_of_data hdata).mpr hstate]
        simp [hshort]

end PoolAccount

/-! ## Round trips -/

def poolReply (data : List UInt8) : Except String Json :=
  .ok (.object [("result", .object [("value", .object [
    ("data", .array [.string (encodeBase64 data), .string "base64"])])])])

@[simp] theorem poolAccountData_poolReply (missing : String) (data : List UInt8) :
    poolAccountData missing (poolReply data) = .ok data := by
  have hdecode := decodeBase64_encodeBase64 data
  simp only [poolAccountData, poolReply, replyValue, Except.mapError, bind, Except.bind]
  change (match decodeBase64 (encodeBase64 data) with
    | some data => Except.ok data
    | none => Except.error (PoolError.undecodable (encodeBase64 data))) = _
  rw [hdecode]

/-- An account reads back as its record, and as nothing else. -/
structure PoolAccount.ReadsBack {α : Type} (account : PoolAccount α)
    (fetch : Except String Json → Except PoolError α) : Prop where
  served : ∀ data state, account.Holds data state → fetch (poolReply data) = .ok state
  read : ∀ reply state, fetch reply = .ok state ↔
    ∃ data, poolAccountData account.missing reply = .ok data ∧ account.Holds data state
  refused : ∀ reply error, fetch reply = .error error ↔
    poolAccountData account.missing reply = .error error ∨
      ∃ data, poolAccountData account.missing reply = .ok data ∧
        data.length < account.discriminator + account.layout.width ∧
        error = .message (account.tooSmall data.length)

theorem PoolAccount.readsBack {α : Type} (account : PoolAccount α) :
    account.ReadsBack account.fetch where
  served := fun data _ hholds =>
    (fetch_of_data (poolAccountData_poolReply account.missing data)).mpr hholds
  read := fun _ _ => fetch_eq_ok_iff
  refused := fun _ _ => fetch_eq_error_iff

/-- Both kinds of pool account read back, from 752 bytes and from 629 behind eight. -/
theorem pool_accounts_read_back :
    RaydiumV4.ammAccount.ReadsBack RaydiumV4.fetchAmmInfo ∧
      RaydiumCpmm.poolAccount.ReadsBack RaydiumCpmm.fetchPoolState ∧
      RaydiumV4.ammAccount.discriminator + RaydiumV4.ammAccount.layout.width = 752 ∧
      RaydiumCpmm.poolAccount.discriminator + RaydiumCpmm.poolAccount.layout.width = 637 :=
  ⟨RaydiumV4.ammAccount.readsBack, RaydiumCpmm.poolAccount.readsBack, rfl, rfl⟩

end Girasol
