import Girasol.Screen.Mint

/-!
# The transfer fee of a Token-2022 mint

A change of the fee takes effect at a later epoch, so a mint carries two
records: the older fee is in force before the epoch of the newer one.  The
account layout here is the one of the token program.
-/

namespace Girasol

open Foundation

structure TransferFee where
  epoch : Nat
  maximumFee : Nat
  basisPoints : Nat
  epoch_lt : epoch < 2 ^ 64
  maximumFee_lt : maximumFee < 2 ^ 64
  basisPoints_lt : basisPoints < 2 ^ 16

def TransferFee.bytes (fee : TransferFee) : List UInt8 :=
  leBytes 8 fee.epoch ++ leBytes 8 fee.maximumFee ++ leBytes 2 fee.basisPoints

structure TransferFeeConfig where
  authorities : List UInt8
  withheldAmount : Nat
  older : TransferFee
  newer : TransferFee
  authorities_length : authorities.length = 64
  withheldAmount_lt : withheldAmount < 2 ^ 64

namespace TransferFeeConfig

variable (config : TransferFeeConfig)

def bytes : List UInt8 :=
  config.authorities ++ leBytes 8 config.withheldAmount ++ config.older.bytes ++
    config.newer.bytes

def epochFee (epoch : Nat) : TransferFee :=
  if config.newer.epoch ≤ epoch then config.newer else config.older

end TransferFeeConfig

structure MintExtension where
  extensionType : Nat
  value : List UInt8
  two_le : 2 ≤ extensionType
  extensionType_lt : extensionType < 2 ^ 16
  length_lt : value.length < 2 ^ 16

def extensionBytes (extensionType : Nat) (value : List UInt8) : List UInt8 :=
  leBytes 2 extensionType ++ leBytes 2 value.length ++ value

def MintExtension.bytes (e : MintExtension) : List UInt8 := extensionBytes e.extensionType e.value

structure MintExtensions where
  before : List MintExtension
  transferFee : Option TransferFeeConfig
  after : List MintExtension
  padding : Nat

def MintExtensions.bytes (e : MintExtensions) : List UInt8 :=
  e.before.flatMap MintExtension.bytes ++
    ((e.transferFee.map fun config => extensionBytes 1 config.bytes).getD [] ++
      (e.after.flatMap MintExtension.bytes ++ List.replicate e.padding 0))

/-- A mint account; with extensions it is filled up to their start, and its type follows. -/
structure Token2022Mint where
  base : List UInt8
  extensions : Option MintExtensions
  base_length : base.length = 82

namespace Token2022Mint

variable (account : Token2022Mint)

def bytes : List UInt8 :=
  account.base ++
    match account.extensions with
    | none => []
    | some e => List.replicate 83 0 ++ 1 :: e.bytes

def transferFee : Option TransferFeeConfig := account.extensions.bind MintExtensions.transferFee

/-- What a transfer costs at an epoch, in basis points. -/
def feeInForce (epoch : Nat) : Nat :=
  (account.transferFee.map fun config => (config.epochFee epoch).basisPoints).getD 0

end Token2022Mint

/-! ## What the parser finds -/

@[simp] theorem TransferFee.length_bytes (fee : TransferFee) : fee.bytes.length = 18 := by
  simp [TransferFee.bytes]

@[simp] theorem TransferFeeConfig.length_bytes (config : TransferFeeConfig) :
    config.bytes.length = 108 := by
  simp [TransferFeeConfig.bytes, config.authorities_length]

private theorem leBytes_two (n : Nat) :
    leBytes 2 n = [(n % 256).toUInt8, (n / 256 % 256).toUInt8] := rfl

theorem transferFeeOfExtensions_append {extensionType : Nat} {value : List UInt8}
    (htype : extensionType < 2 ^ 16) (hlength : value.length < 2 ^ 16) (rest : List UInt8) :
    transferFeeOfExtensions (extensionBytes extensionType value ++ rest) =
      if extensionType = 1 then
        if value.length < 108 then none else some (leValue (bytesAt (value ++ rest) 106 2))
      else transferFeeOfExtensions rest := by
  have hlengthValue : leValue (leBytes 2 value.length) = value.length := by
    rw [leValue_leBytes]
    exact Nat.mod_eq_of_lt hlength
  have htypeValue : leValue (leBytes 2 extensionType) = extensionType := by
    rw [leValue_leBytes]
    exact Nat.mod_eq_of_lt htype
  rw [leBytes_two] at hlengthValue htypeValue
  simp only [extensionBytes, leBytes_two, List.cons_append, List.nil_append]
  rw [transferFeeOfExtensions, hlengthValue, htypeValue]
  simp

private theorem transferFeeOfExtensions_others (es : List MintExtension) (rest : List UInt8) :
    transferFeeOfExtensions (es.flatMap MintExtension.bytes ++ rest) =
      transferFeeOfExtensions rest := by
  induction es with
  | nil => rfl
  | cons e es ih =>
      have hother : e.extensionType ≠ 1 := by
        have := e.two_le
        omega
      rw [List.flatMap_cons, List.append_assoc, MintExtension.bytes,
        transferFeeOfExtensions_append e.extensionType_lt e.length_lt, if_neg hother, ih]

private theorem transferFeeOfExtensions_padding (n : Nat) :
    transferFeeOfExtensions (List.replicate n 0) = none := by
  induction n using Nat.strong_induction_on with
  | _ n ih =>
      match n with
      | 0 | 1 | 2 | 3 =>
          unfold transferFeeOfExtensions
          rfl
      | n + 4 =>
          have hrest := ih n (by omega)
          simp only [List.replicate_succ]
          rw [transferFeeOfExtensions]
          simp [leValue, hrest]

@[simp] theorem TransferFeeConfig.newer_bytes (config : TransferFeeConfig) (rest : List UInt8) :
    leValue (bytesAt (config.bytes ++ rest) 106 2) = config.newer.basisPoints := by
  have hfront : config.bytes ++ rest =
      (config.authorities ++ leBytes 8 config.withheldAmount ++ config.older.bytes ++
        (leBytes 8 config.newer.epoch ++ leBytes 8 config.newer.maximumFee)) ++
      (leBytes 2 config.newer.basisPoints ++ rest) := by
    simp [TransferFeeConfig.bytes, TransferFee.bytes]
  rw [bytesAt, hfront, List.drop_left' (by simp [config.authorities_length]),
    List.take_left' (by simp), leValue_leBytes]
  exact Nat.mod_eq_of_lt config.newer.basisPoints_lt

@[simp] theorem MintExtensions.parse (e : MintExtensions) :
    transferFeeOfExtensions e.bytes = e.transferFee.map fun config => config.newer.basisPoints := by
  rw [MintExtensions.bytes, transferFeeOfExtensions_others]
  cases e.transferFee with
  | none =>
      rw [Option.map_none, Option.getD_none, List.nil_append, transferFeeOfExtensions_others,
        transferFeeOfExtensions_padding]
      rfl
  | some config =>
      rw [Option.map_some, Option.getD_some,
        transferFeeOfExtensions_append (by norm_num) (by simp), if_pos rfl,
        if_neg (by simp), config.newer_bytes]
      rfl

theorem Token2022Mint.parse (account : Token2022Mint) :
    parseToken2022TransferFeeBps account.bytes =
      account.transferFee.map fun config => config.newer.basisPoints := by
  cases hextensions : account.extensions with
  | none =>
      simp [parseToken2022TransferFeeBps, Token2022Mint.bytes, Token2022Mint.transferFee,
        hextensions, account.base_length]
  | some e =>
      have hbytes : account.bytes = (account.base ++ List.replicate 83 0) ++ 1 :: e.bytes := by
        simp [Token2022Mint.bytes, hextensions]
      have hfront : (account.base ++ List.replicate 83 0).length = 165 := by
        simp [account.base_length]
      have htype : account.bytes.getD 165 0 = 1 := by
        rw [hbytes, List.getD_eq_getElem?_getD, List.getElem?_append_right (by omega), hfront]
        rfl
      have hdrop : account.bytes.drop 166 = e.bytes := by
        rw [hbytes, ← List.singleton_append, ← List.append_assoc]
        exact List.drop_left' (by rw [List.length_append, hfront]; rfl)
      have hlength : ¬ account.bytes.length < 166 := by
        rw [hbytes, List.length_append, hfront, List.length_cons]
        omega
      simp only [parseToken2022TransferFeeBps, htype, hdrop, hlength, e.parse]
      simp [Token2022Mint.transferFee, hextensions]

/-! ## What the screen lets through -/

/-- The reply to `getAccountInfo` carries the account in base64. -/
def RpcResponse.Serves (response : RpcResponse) (account : Token2022Mint) : Prop :=
  ∃ result encoded, response.result = some result ∧ (accountObject result).isNull = false ∧
    accountData result = some encoded ∧ decodeBase64 encoded = some account.bytes ∧
    ((accountObject result).get? "owner").bind Json.asStr = some token2022ProgramId

section

variable {p : Platform} {mint : String} {response : RpcResponse} {account : Token2022Mint}

private theorem parseSplMint_bytes (account : Token2022Mint) :
    ∃ fields, parseSplMint account.bytes = .ok fields := by
  have hlength : ¬ account.bytes.length < 82 := by
    rw [Token2022Mint.bytes, List.length_append, account.base_length]
    omega
  simp only [parseSplMint, hlength, if_false]
  exact ⟨_, rfl⟩

theorem fetchTokenSafetyReport_serves (hserves : response.Serves account) {key : Pubkey}
    (hmint : p.parsePubkey mint = .ok key) {mintAuthority freezeAuthority : Option Pubkey}
    {decimals supply : Nat}
    (hspl : parseSplMint account.bytes = .ok (mintAuthority, decimals, supply, freezeAuthority))
    (metadataInfo : Except FetchError RpcResponse) :
    fetchTokenSafetyReport p mint (.ok response) metadataInfo = .ok {
      mintAuthority := mintAuthority
      freezeAuthority := freezeAuthority
      isMutable := fetchedIsMutable metadataInfo
      transferFeeBps := account.transferFee.map fun config => config.newer.basisPoints
      isToken2022 := true
      decimals := decimals
      supply := supply } := by
  obtain ⟨result, encoded, hresult, hnull, hdata, hdecode, howner⟩ := hserves
  simp only [fetchTokenSafetyReport, Except.mapError, hresult, hnull, hdata, hdecode, hspl,
    howner, hmint, account.parse, bind, Except.bind]
  rfl

end

namespace Token2022Mint

private theorem feeInForce_of_newer_le {account : Token2022Mint} {limit : Nat}
    (hnewer : ((account.transferFee.map fun config => config.newer.basisPoints).getD 0) ≤ limit) :
    (∀ epoch, account.feeInForce epoch ≤ limit) ↔
      ∀ config ∈ account.transferFee,
        config.newer.epoch = 0 ∨ config.older.basisPoints ≤ limit := by
  cases hconfig : account.transferFee with
  | none => simp [feeInForce, hconfig]
  | some config =>
      simp only [hconfig, Option.map_some, Option.getD_some] at hnewer
      simp only [feeInForce, hconfig, Option.map_some, Option.getD_some, Option.mem_def,
        Option.some.injEq, forall_eq', TransferFeeConfig.epochFee]
      constructor
      · intro hevery
        by_cases hzero : config.newer.epoch = 0
        · exact Or.inl hzero
        · have hbefore := hevery 0
          rw [if_neg (by omega)] at hbefore
          exact Or.inr hbefore
      · intro hcond epoch
        split
        · exact hnewer
        · rcases hcond with hzero | hle
          · omega
          · exact hle

end Token2022Mint

theorem feeInForce_le_iff {p : Platform} {cfg : Settings} {mint : String} {response : RpcResponse}
    {metadataInfo : Except FetchError RpcResponse} {account : Token2022Mint} {blacklisted : Bool}
    {gates : ScreenDecision} {key : Pubkey} (hserves : response.Serves account)
    (hmint : p.parsePubkey mint = .ok key) (hreject : cfg.rejectTransferFee = true)
    (hmax : cfg.maxTransferFeeBps ≤ 65535)
    (haccepted : preBuySafetyCheck blacklisted
      (fetchTokenSafetyReport p mint (.ok response) metadataInfo) gates cfg = .ok ()) :
    (∀ epoch, account.feeInForce epoch ≤ cfg.maxTransferFeeBps) ↔
      ∀ config ∈ account.transferFee,
        config.newer.epoch = 0 ∨ config.older.basisPoints ≤ cfg.maxTransferFeeBps := by
  obtain ⟨⟨mintAuthority, decimals, supply, freezeAuthority⟩, hspl⟩ := parseSplMint_bytes account
  rw [fetchTokenSafetyReport_serves hserves hmint hspl metadataInfo] at haccepted
  have hnewer := evaluateSafety_accepts hreject hmax (accepts_of_preBuySafetyCheck haccepted)
  exact Token2022Mint.feeInForce_of_newer_le hnewer

/-! ## A fee about to be lowered -/

def loweredFee : TransferFeeConfig where
  authorities := List.replicate 64 0
  withheldAmount := 0
  older := ⟨0, 2 ^ 64 - 1, 500, by decide, by decide, by decide⟩
  newer := ⟨10, 2 ^ 64 - 1, 0, by decide, by decide, by decide⟩
  authorities_length := rfl
  withheldAmount_lt := by decide

def loweredFeeMint : Token2022Mint where
  base := List.replicate 82 0
  extensions := some ⟨[], some loweredFee, [], 0⟩
  base_length := rfl

def loweredFeeText : List Char :=
  List.replicate 221 'A' ++ "QEAb".toList ++ List.replicate 108 'A' ++
    "P//////////9AEKAAAAAAAAAP//////////AAA=".toList

def loweredFeeReply : RpcResponse where
  result := some (.object [("value", .object [
    ("data", .array [.string (String.ofList loweredFeeText), .string "base64"]),
    ("owner", .string token2022ProgramId)])])
  error := none

private theorem decode_loweredFeeText :
    decodeBase64 (String.ofList loweredFeeText) = some loweredFeeMint.bytes := by
  rw [decodeBase64, String.toList_ofList]
  decide +kernel

theorem loweredFeeReply_serves : loweredFeeReply.Serves loweredFeeMint :=
  ⟨_, _, rfl, rfl, rfl, decode_loweredFeeText, by decide +kernel⟩

theorem token2022ProgramId_parses :
    Platform.plain.parsePubkey token2022ProgramId =
      .ok ((decodeBase58 token2022ProgramId).getD []) := by
  decide +kernel

theorem loweredFee_accepted :
    preBuySafetyCheck false (fetchTokenSafetyReport .plain token2022ProgramId
      (.ok loweredFeeReply) (.error .allFailed)) .allow .plain = .ok () := by
  have hspl : parseSplMint loweredFeeMint.bytes = .ok (none, 0, 0, none) := by decide +kernel
  rw [fetchTokenSafetyReport_serves loweredFeeReply_serves token2022ProgramId_parses hspl]
  rfl

theorem feeInForce_le_iff_lowered :
    (∀ epoch, loweredFeeMint.feeInForce epoch ≤ 0) ↔
      ∀ config ∈ loweredFeeMint.transferFee,
        config.newer.epoch = 0 ∨ config.older.basisPoints ≤ 0 :=
  feeInForce_le_iff loweredFeeReply_serves token2022ProgramId_parses rfl (by decide)
    loweredFee_accepted

theorem lowered_fee_in_force :
    loweredFeeReply.Serves loweredFeeMint ∧ Settings.plain.rejectTransferFee = true ∧
      preBuySafetyCheck false (fetchTokenSafetyReport .plain token2022ProgramId
        (.ok loweredFeeReply) (.error .allFailed)) .allow .plain = .ok () ∧
      ¬ ∀ epoch, loweredFeeMint.feeInForce epoch ≤ Settings.plain.maxTransferFeeBps := by
  refine ⟨loweredFeeReply_serves, rfl, loweredFee_accepted, ?_⟩
  intro hevery
  exact absurd (hevery 0) (by decide)

end Girasol
