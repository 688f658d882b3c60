import Girasol.Foundation.Checks
import Girasol.Foundation.Cursor
import Girasol.Rpc.Price

/-!
# The two decoders of the curve account

`fetch_current_price` and `fetch_bonding_curve_state` each read the account at
its offsets, with checks of their own.  Every access that could panic is kept.
-/

namespace Girasol

open Foundation

structure BondingCurveState where
  virtualTokenReserves : Nat
  virtualSolReserves : Nat
  realTokenReserves : Nat
  realSolReserves : Nat
  tokenTotalSupply : Nat
  complete : Bool
  creator : Option Pubkey
  isMayhemMode : Bool
  deriving DecidableEq, Repr

/-- How a computation over the account ends without a value. -/
inductive CurveStop where
  | failed (error : String)
  | panicked (halt : Halt)
  deriving DecidableEq, Repr

/-! ## Access to the fields -/

def bondingCurveCreatorOffset : Nat := 41

def bondingCurveMayhemOffset : Nat := 73

def pubkeySize : Nat := 32

/-- `slice[start..stop]`. -/
def sliceOf (slice : List UInt8) (start stop : Nat) : Except CurveStop (List UInt8) :=
  (Cursor.slice slice start stop).mapError .panicked

def byteOf (slice : List UInt8) (i : Nat) : Except CurveStop UInt8 :=
  (Cursor.index slice i).mapError .panicked

def conversionError : CurveStop := .failed "Conversion error: could not convert slice to array"

/-- `u64::from_le_bytes(slice[start..stop].try_into()?)`. -/
def u64Of (slice : List UInt8) (start stop : Nat) : Except CurveStop Nat := do
  let bytes ← sliceOf slice start stop
  if bytes.length = 8 then return leValue bytes
  else .error conversionError

/-- `Pubkey::try_from(bytes).ok()`. -/
def pubkeyOf (bytes : List UInt8) : Option Pubkey :=
  if bytes.length = pubkeySize then some bytes else none

def creatorOf (slice : List UInt8) : Except CurveStop (Option Pubkey) := do
  if bondingCurveCreatorOffset + pubkeySize ≤ slice.length then
    return pubkeyOf (← sliceOf slice bondingCurveCreatorOffset
      (bondingCurveCreatorOffset + pubkeySize))
  else return none

def parseIsMayhemMode (slice : List UInt8) : Except CurveStop Bool := do
  if bondingCurveMayhemOffset + 1 ≤ slice.length then
    return (← byteOf slice bondingCurveMayhemOffset) != 0
  else return false

/-! ## The decoders -/

/-- The decoder inside `fetch_current_price`. -/
def decodeForPrice (mint : Mint) (decoded : List UInt8) : Except CurveStop BondingCurveState := do
  let minTotalLen := 8 + 41
  if decoded.length < 8 then .error (.failed (CurveError.tooShort.text mint))
  else if (← sliceOf decoded 0 8) ≠ pumpCurveDiscriminator then
    .error (.failed (CurveError.unexpectedDiscriminator.text mint))
  else if decoded.length < minTotalLen then .error (.failed (CurveError.tooShort.text mint))
  else
    let slice ← sliceOf decoded 8 decoded.length
    let _logged ← sliceOf slice 0 (min 64 slice.length)
    let needed := 8 * 5 + 1
    if slice.length < needed then
      .error (.failed (formatText [("Bonding curve post-discriminator too short for ", mint)] ""))
    else
      let virtualTokenReserves ← u64Of slice 0 8
      let virtualSolReserves ← u64Of slice 8 16
      let realTokenReserves ← u64Of slice 16 24
      let realSolReserves ← u64Of slice 24 32
      let tokenTotalSupply ← u64Of slice 32 40
      let complete := (← byteOf slice 40) != 0
      let creator ← creatorOf slice
      let isMayhemMode ← parseIsMayhemMode slice
      return {
        virtualTokenReserves, virtualSolReserves, realTokenReserves, realSolReserves,
        tokenTotalSupply, complete, creator, isMayhemMode }

def stateNotFetched : CurveStop := .failed "Failed to fetch bonding curve state"

/-- The decoder inside `fetch_bonding_curve_state`. -/
def decodeCurveState (decoded : List UInt8) : Except CurveStop BondingCurveState := do
  if 49 ≤ decoded.length then
    if (← sliceOf decoded 0 8) = pumpCurveDiscriminator then
      let slice ← sliceOf decoded 8 decoded.length
      let creator ← creatorOf slice
      let isMayhemMode ← parseIsMayhemMode slice
      return {
        virtualTokenReserves := ← u64Of slice 0 8
        virtualSolReserves := ← u64Of slice 8 16
        realTokenReserves := ← u64Of slice 16 24
        realSolReserves := ← u64Of slice 24 32
        tokenTotalSupply := ← u64Of slice 32 40
        complete := (← byteOf slice 40) != 0
        creator := creator
        isMayhemMode := isMayhemMode }
    else .error stateNotFetched
  else .error stateNotFetched

/-! ## The layout of the account -/

def IsCurve (decoded : List UInt8) : Prop :=
  49 ≤ decoded.length ∧ decoded.take 8 = pumpCurveDiscriminator

instance (decoded : List UInt8) : Decidable (IsCurve decoded) := inferInstanceAs (Decidable (_ ∧ _))

def integerAt (slice : List UInt8) (start : Nat) : Nat := leValue ((slice.drop start).take 8)

def curveLayout (slice : List UInt8) : BondingCurveState where
  virtualTokenReserves := integerAt slice 0
  virtualSolReserves := integerAt slice 8
  realTokenReserves := integerAt slice 16
  realSolReserves := integerAt slice 24
  tokenTotalSupply := integerAt slice 32
  complete := slice.getD 40 0 != 0
  creator := if 73 ≤ slice.length then some ((slice.drop 41).take 32) else none
  isMayhemMode := slice.getD 73 0 != 0

@[simp]
theorem stop_ok_bind {α β : Type} (a : α) (f : α → Except CurveStop β) :
    ((.ok a : Except CurveStop α) >>= f) = f a := rfl

@[simp] theorem sliceOf_ok {slice : List UInt8} {start n : Nat} (h : start + n ≤ slice.length) :
    sliceOf slice start (start + n) = .ok ((slice.drop start).take n) := by
  rw [sliceOf, Cursor.slice_ok h]
  rfl

@[simp] theorem byteOf_ok {slice : List UInt8} {i : Nat} (h : i < slice.length) :
    byteOf slice i = .ok (slice.getD i 0) := by
  rw [byteOf, Cursor.index, List.getD_eq_getElem?_getD, List.getElem?_eq_getElem h]
  rfl

theorem u64Of_ok {slice : List UInt8} (start : Nat) (h : start + 8 ≤ slice.length) :
    u64Of slice start (start + 8) = .ok (integerAt slice start) := by
  have hlength : ((slice.drop start).take 8).length = 8 := by
    rw [List.length_take, List.length_drop]
    omega
  rw [u64Of, sliceOf_ok h, stop_ok_bind, if_pos hlength]
  rfl

theorem creatorOf_eq (slice : List UInt8) :
    creatorOf slice =
      .ok (if 73 ≤ slice.length then some ((slice.drop 41).take 32) else none) := by
  unfold creatorOf
  change (if 73 ≤ slice.length then _ else _) = _
  split
  case isFalse => rfl
  case isTrue hlong =>
    have hlength : ((slice.drop 41).take 32).length = pubkeySize := by
      rw [List.length_take, List.length_drop]
      change min 32 (slice.length - 41) = 32
      omega
    have hbytes : sliceOf slice bondingCurveCreatorOffset
        (bondingCurveCreatorOffset + pubkeySize) = .ok ((slice.drop 41).take 32) := sliceOf_ok hlong
    rw [hbytes, stop_ok_bind, pubkeyOf, if_pos hlength]
    rfl

theorem parseIsMayhemMode_eq (slice : List UInt8) :
    parseIsMayhemMode slice = .ok (slice.getD 73 0 != 0) := by
  unfold parseIsMayhemMode
  change (if 73 < slice.length then _ else _) = _
  split
  case isTrue hlong =>
    have hbyte : byteOf slice bondingCurveMayhemOffset = .ok (slice.getD 73 0) := byteOf_ok hlong
    rw [hbyte, stop_ok_bind]
    rfl
  case isFalse hshort =>
    rw [List.getD_eq_getElem?_getD, List.getElem?_eq_none (by omega)]
    rfl

theorem sliceOf_discriminator {decoded : List UInt8} (h : 8 ≤ decoded.length) :
    sliceOf decoded 0 8 = .ok (decoded.take 8) := by
  have hslice : sliceOf decoded 0 (0 + 8) = .ok ((decoded.drop 0).take 8) := sliceOf_ok (by omega)
  rwa [List.drop_zero] at hslice

theorem sliceOf_rest {decoded : List UInt8} (h : 8 ≤ decoded.length) :
    sliceOf decoded 8 decoded.length = .ok (decoded.drop 8) := by
  have hslice : sliceOf decoded 8 (8 + (decoded.length - 8)) =
      .ok ((decoded.drop 8).take (decoded.length - 8)) := sliceOf_ok (by omega)
  rwa [Nat.add_sub_cancel' h, List.take_of_length_le (by rw [List.length_drop])] at hslice

private theorem sliceOf_logged (slice : List UInt8) :
    sliceOf slice 0 (min 64 slice.length) = .ok (slice.take 64) := by
  have hslice : sliceOf slice 0 (0 + min 64 slice.length) =
      .ok ((slice.drop 0).take (min 64 slice.length)) := sliceOf_ok (by omega)
  rwa [Nat.zero_add, List.drop_zero, ← List.take_eq_take_min] at hslice

/-! ## What the decoders accept -/

theorem decodeForPrice_of_isCurve (mint : Mint) {decoded : List UInt8} (h : IsCurve decoded) :
    decodeForPrice mint decoded = .ok (curveLayout (decoded.drop 8)) := by
  obtain ⟨hlong, hdiscriminator⟩ := h
  have hrest : 41 ≤ (decoded.drop 8).length := by
    rw [List.length_drop]
    omega
  unfold decodeForPrice
  rw [if_neg (by omega), sliceOf_discriminator (by omega), stop_ok_bind,
    if_neg (not_not.mpr hdiscriminator), if_neg (by omega), sliceOf_rest (by omega),
    stop_ok_bind, sliceOf_logged, stop_ok_bind, if_neg (by omega), u64Of_ok 0 (by omega),
    stop_ok_bind, u64Of_ok 8 (by omega), stop_ok_bind,
    u64Of_ok 16 (by omega), stop_ok_bind, u64Of_ok 24 (by omega),
    stop_ok_bind, u64Of_ok 32 (by omega), stop_ok_bind, byteOf_ok (by omega),
    stop_ok_bind, creatorOf_eq, stop_ok_bind, parseIsMayhemMode_eq]
  rfl

theorem decodeForPrice_of_not_isCurve (mint : Mint) {decoded : List UInt8} (h : ¬IsCurve decoded) :
    ∃ error : CurveError,
      decodeForPrice mint decoded = .error (.failed (error.text mint)) ∧
        parseCurve decoded = .error error := by
  unfold decodeForPrice parseCurve
  by_cases hshort : decoded.length < 8
  · exact ⟨.tooShort, if_pos hshort, if_pos hshort⟩
  · rw [if_neg hshort, if_neg hshort, sliceOf_discriminator (by omega), stop_ok_bind]
    by_cases hdiscriminator : decoded.take 8 = pumpCurveDiscriminator
    · have hunder : decoded.length < 49 := by
        by_contra hlong
        exact h ⟨by omega, hdiscriminator⟩
      refine ⟨.tooShort, ?_, ?_⟩
      · rw [if_neg (not_not.mpr hdiscriminator), if_pos hunder]
      · rw [if_neg (not_not.mpr hdiscriminator), if_pos hunder]
    · exact ⟨.unexpectedDiscriminator, if_pos hdiscriminator, if_pos hdiscriminator⟩

theorem decodeCurveState_eq (decoded : List UInt8) :
    decodeCurveState decoded =
      if IsCurve decoded then .ok (curveLayout (decoded.drop 8)) else .error stateNotFetched := by
  unfold decodeCurveState
  by_cases hlong : 49 ≤ decoded.length
  · rw [if_pos hlong, sliceOf_discriminator (by omega), stop_ok_bind]
    by_cases hdiscriminator : decoded.take 8 = pumpCurveDiscriminator
    · have hrest : 41 ≤ (decoded.drop 8).length := by
        rw [List.length_drop]
        omega
      rw [if_pos hdiscriminator, if_pos ⟨hlong, hdiscriminator⟩, sliceOf_rest (by omega),
        stop_ok_bind, creatorOf_eq, stop_ok_bind, parseIsMayhemMode_eq, stop_ok_bind,
        u64Of_ok 0 (by omega), stop_ok_bind, u64Of_ok 8 (by omega),
        stop_ok_bind, u64Of_ok 16 (by omega), stop_ok_bind,
        u64Of_ok 24 (by omega), stop_ok_bind, u64Of_ok 32 (by omega),
        stop_ok_bind, byteOf_ok (by omega)]
      rfl
    · rw [if_neg hdiscriminator, if_neg fun h => hdiscriminator h.2]
  · rw [if_neg hlong, if_neg fun h => hlong h.1]

theorem decodeForPrice_eq_ok_iff {mint : Mint} {decoded : List UInt8} {state : BondingCurveState} :
    decodeForPrice mint decoded = .ok state ↔
      IsCurve decoded ∧ curveLayout (decoded.drop 8) = state := by
  by_cases h : IsCurve decoded
  · rw [decodeForPrice_of_isCurve mint h, Except.ok.injEq, and_iff_right h]
  · obtain ⟨error, hdecode, -⟩ := decodeForPrice_of_not_isCurve mint h
    rw [hdecode]
    exact iff_of_false (by simp) fun hstate => h hstate.1

theorem decodeCurveState_eq_ok_iff {decoded : List UInt8} {state : BondingCurveState} :
    decodeCurveState decoded = .ok state ↔
      IsCurve decoded ∧ curveLayout (decoded.drop 8) = state := by
  rw [decodeCurveState_eq]
  split
  case isTrue h => rw [Except.ok.injEq, and_iff_right h]
  case isFalse h => exact iff_of_false (by simp) fun hstate => h hstate.1

theorem decodeForPrice_ne_panicked (mint : Mint) (decoded : List UInt8) (halt : Halt) :
    decodeForPrice mint decoded ≠ .error (.panicked halt) := by
  by_cases h : IsCurve decoded
  · rw [decodeForPrice_of_isCurve mint h]
    simp
  · obtain ⟨error, hdecode, -⟩ := decodeForPrice_of_not_isCurve mint h
    rw [hdecode]
    simp

theorem decodeCurveState_ne_panicked (decoded : List UInt8) (halt : Halt) :
    decodeCurveState decoded ≠ .error (.panicked halt) := by
  rw [decodeCurveState_eq]
  split <;> simp [stateNotFetched]

/-! ## The prices -/

def migratedText (mint : Mint) : String := formatText [("Token ", mint)] " migrated to Raydium"

def zeroTokensText (mint : Mint) : String :=
  formatText [("Invalid reserves for ", mint)] ": zero tokens"

structure PriceFetchResult where
  price : ℚ
  state : BondingCurveState
  decimals : Nat

section

variable (p : Platform) (cfg : Settings) (mint : Mint) (env : PriceEnv)

/-- The rest of `fetch_current_price` once it has the account, with every field decoded. -/
def priceOfAccount (decoded : List UInt8) : Except CurveStop ℚ := do
  let state ← decodeForPrice mint decoded
  if state.complete then .error (.failed (migratedText mint))
  else
    let tokenReserves := p.rounding.ofU64 state.virtualTokenReserves
    let lamportsReserves := p.rounding.ofU64 state.virtualSolReserves
    if 0 < tokenReserves then
      return p.rounding.div (p.rounding.div lamportsReserves 1000000000)
        (p.rounding.div tokenReserves (p.rounding.round (10 ^ env.decimals)))
    else .error (.failed (zeroTokensText mint))

/-- `stateRequest` is the one request for the account, at commitment `confirmed`. -/
def fetchBondingCurveState (stateRequest : RpcRequest) : Except CurveStop BondingCurveState :=
  match p.parsePubkey cfg.pumpFunProgram, p.parsePubkey mint with
  | .error e, _ => .error (.failed e)
  | .ok _, .error e => .error (.failed e)
  | .ok _, .ok _ =>
      match readAttempt (stateRequest.answer cfg) with
      | .ok decoded => decodeCurveState decoded
      | .error (.undecodable data) => .error (.failed (env.decodeError data))
      | .error (.noData _) => .error stateNotFetched
      | .error .noResult => .error stateNotFetched
      | .error (.rpc error) => .error (.failed (error.text env))

def fetchCurrentPriceFull (stateRequest : RpcRequest) : Except CurveStop PriceFetchResult := do
  let state ← fetchBondingCurveState p cfg mint env stateRequest
  if state.complete then .error (.failed (migratedText mint))
  else
    let tokenReserves := p.rounding.ofU64 state.virtualTokenReserves
    let lamportsReserves := p.rounding.ofU64 state.virtualSolReserves
    if tokenReserves ≤ 0 then .error (.failed (zeroTokensText mint))
    else
      let price := p.rounding.div (p.rounding.div lamportsReserves 1000000000)
        (p.rounding.div tokenReserves (p.rounding.round (10 ^ env.decimals)))
      return { price, state, decimals := env.decimals }

/-! ## Their agreement -/

variable {p cfg mint env}

theorem parseCurve_of_isCurve {decoded : List UInt8} (h : IsCurve decoded) :
    parseCurve decoded = .ok
      { virtualTokenReserves := (curveLayout (decoded.drop 8)).virtualTokenReserves
        virtualSolReserves := (curveLayout (decoded.drop 8)).virtualSolReserves
        complete := (curveLayout (decoded.drop 8)).complete } := by
  obtain ⟨hlong, hdiscriminator⟩ := h
  unfold parseCurve
  rw [if_neg (by omega), if_neg (not_not.mpr hdiscriminator), if_neg (by omega)]
  rfl

private theorem priceOfAccount_eq (decoded : List UInt8) :
    priceOfAccount p mint env decoded = (priceOfCurve p mint env decoded).mapError .failed := by
  unfold priceOfAccount priceOfCurve
  by_cases h : IsCurve decoded
  · rw [decodeForPrice_of_isCurve mint h, stop_ok_bind, parseCurve_of_isCurve h]
    generalize curveLayout (decoded.drop 8) = state
    cases hcomplete : state.complete with
    | true => rfl
    | false =>
        by_cases hpos : 0 < p.rounding.ofU64 state.virtualTokenReserves
        · simp only [Bool.false_eq_true, if_false, if_pos hpos]
          rfl
        · simp only [Bool.false_eq_true, if_false, if_neg hpos]
          rfl
  · obtain ⟨error, hdecode, hparse⟩ := decodeForPrice_of_not_isCurve mint h
    rw [hdecode, hparse]
    rfl

theorem fetchCurrentPrice_of_read {decoded : List UInt8}
    (hread : lookupCurve p cfg mint env = .read decoded) :
    (fetchCurrentPrice p cfg mint env).toOption = (priceOfAccount p mint env decoded).toOption := by
  have hprice : fetchCurrentPrice p cfg mint env = priceOfCurve p mint env decoded := by
    rw [fetchCurrentPrice, hread]
  rw [hprice, priceOfAccount_eq]
  cases priceOfCurve p mint env decoded <;> rfl

private theorem fetchBondingCurveState_of_read {stateRequest : RpcRequest} {decoded : List UInt8}
    (hread : lookupCurve p cfg mint env = .read decoded)
    (hstate : readAttempt (stateRequest.answer cfg) = .ok decoded) :
    fetchBondingCurveState p cfg mint env stateRequest = decodeCurveState decoded := by
  unfold lookupCurve at hread
  cases hcached : env.cached with
  | some entry =>
      rw [hcached] at hread
      cases hread
  | none =>
      rw [hcached] at hread
      cases hprogram : p.parsePubkey cfg.pumpFunProgram with
      | error e =>
          rw [hprogram] at hread
          cases hread
      | ok program =>
          cases hmint : p.parsePubkey mint with
          | error e =>
              rw [hprogram, hmint] at hread
              cases hread
          | ok mintKey =>
              unfold fetchBondingCurveState
              rw [hprogram, hmint, hstate]

private theorem fetchCurrentPriceFull_eq {stateRequest : RpcRequest} {decoded : List UInt8}
    (hfetch : fetchBondingCurveState p cfg mint env stateRequest = decodeCurveState decoded) :
    (fetchCurrentPriceFull p cfg mint env stateRequest).toOption =
      (priceOfAccount p mint env decoded).toOption.map fun price =>
        { price, state := curveLayout (decoded.drop 8), decimals := env.decimals } := by
  unfold fetchCurrentPriceFull priceOfAccount
  rw [hfetch, decodeCurveState_eq]
  by_cases h : IsCurve decoded
  · rw [if_pos h, decodeForPrice_of_isCurve mint h, stop_ok_bind, stop_ok_bind]
    generalize curveLayout (decoded.drop 8) = state
    cases hcomplete : state.complete with
    | true => rfl
    | false =>
        by_cases hpos : 0 < p.rounding.ofU64 state.virtualTokenReserves
        · simp only [Bool.false_eq_true, if_false, if_pos hpos, if_neg (not_le.mpr hpos)]
          rfl
        · simp only [Bool.false_eq_true, if_false, if_neg hpos, if_pos (not_lt.mp hpos)]
          rfl
  · obtain ⟨error, hdecode, -⟩ := decodeForPrice_of_not_isCurve mint h
    rw [if_neg h, hdecode]
    rfl

private theorem state_of_fetchCurrentPriceFull {stateRequest : RpcRequest}
    {result : PriceFetchResult}
    (h : fetchCurrentPriceFull p cfg mint env stateRequest = .ok result) :
    fetchBondingCurveState p cfg mint env stateRequest = .ok result.state ∧
      result.decimals = env.decimals := by
  obtain ⟨state, hstate, h⟩ := bind_eq_ok.mp h
  split at h
  case isTrue => cases h
  case isFalse =>
    dsimp only at h
    split at h
    case isTrue => cases h
    case isFalse =>
      cases h
      exact ⟨hstate, rfl⟩

end

/--
Both decoders accept the same accounts with the same state and panic on none;
from the same bytes both functions give the same price, or neither gives one.
-/
theorem curve_decoders_agree (p : Platform) (cfg : Settings) (mint : Mint) (env : PriceEnv)
    (stateRequest : RpcRequest) (decoded : List UInt8) :
    (∀ state, decodeForPrice mint decoded = .ok state ↔ decodeCurveState decoded = .ok state) ∧
    (∀ halt, decodeForPrice mint decoded ≠ .error (.panicked halt) ∧
      decodeCurveState decoded ≠ .error (.panicked halt)) ∧
    (lookupCurve p cfg mint env = .read decoded →
      readAttempt (stateRequest.answer cfg) = .ok decoded →
      (fetchCurrentPrice p cfg mint env).toOption =
        (fetchCurrentPriceFull p cfg mint env stateRequest).toOption.map (·.price) ∧
      ∀ result, fetchCurrentPriceFull p cfg mint env stateRequest = .ok result →
        decodeForPrice mint decoded = .ok result.state ∧ result.decimals = env.decimals) := by
  refine ⟨fun state => ?_, fun halt => ⟨decodeForPrice_ne_panicked mint decoded halt,
    decodeCurveState_ne_panicked decoded halt⟩, fun hread hstate => ?_⟩
  · rw [decodeForPrice_eq_ok_iff, decodeCurveState_eq_ok_iff]
  · have hfull := fetchCurrentPriceFull_eq (fetchBondingCurveState_of_read hread hstate)
    refine ⟨?_, fun result hresult => ?_⟩
    · rw [fetchCurrentPrice_of_read hread, hfull, Option.map_map]
      exact Option.map_id'.symm
    · obtain ⟨hfetch, hdecimals⟩ := state_of_fetchCurrentPriceFull hresult
      rw [fetchBondingCurveState_of_read hread hstate, decodeCurveState_eq_ok_iff] at hfetch
      exact ⟨decodeForPrice_eq_ok_iff.mpr hfetch, hdecimals⟩

def accountText : String :=
  "F7f4N2DYrGBAQg8AAAAAAACsI/wGAAAAAQAAAAAAAAABAAAAAAAAAEBCDwAAAAAAAA=="

def accountBytes : List UInt8 :=
  pumpCurveDiscriminator ++ leBytes 8 1000000 ++ leBytes 8 30000000000 ++ leBytes 8 1 ++
    leBytes 8 1 ++ leBytes 8 1000000 ++ [0]

def accountReply : RpcResponse :=
  ⟨some (.object [("value", .object [("data", .array [.string accountText])])]), none⟩

def accountRequest : RpcRequest := ⟨0, fun _ => .replied true (some accountReply)⟩

def readable : PriceEnv where
  cached := none
  curvePda := fun _ _ => List.replicate 32 0
  attempt := fun _ _ => accountRequest
  search := accountRequest
  found := fun _ => accountRequest
  probe := fun _ => .replied true (some accountReply)
  decimals := 6
  debug := fun _ => ""
  decodeError := fun _ => "Invalid padding"

def wrappedSol : Mint := "So11111111111111111111111111111111111111112"

theorem readAttempt_accountRequest :
    readAttempt (accountRequest.answer .plain) = .ok accountBytes := by
  have hanswer : accountRequest.answer .plain = .ok accountReply := rfl
  have hdata : accountReply.result.bind accountData = some accountText := rfl
  have hdecode : decodeBase64 accountText = some accountBytes := by decide +kernel
  obtain ⟨resultVal, hresult, hdata⟩ := Option.bind_eq_some_iff.mp hdata
  simp only [hanswer, readAttempt, hresult, hdata, hdecode]

private theorem lookupCurve_readable :
    lookupCurve .plain .plain wrappedSol readable = .read accountBytes := by
  have hprogram : (Platform.plain.parsePubkey Settings.plain.pumpFunProgram).isOk = true := by
    decide +kernel
  have hmint : (Platform.plain.parsePubkey wrappedSol).isOk = true := by decide +kernel
  obtain ⟨program, hprogram⟩ := isOk_iff.mp hprogram
  obtain ⟨mintKey, hmint⟩ := isOk_iff.mp hmint
  have hread : readAttempts
      (fun c n => readAttempt ((readable.attempt c n).answer .plain)) attempts none =
        .ok accountBytes := by
    change readAttempts (fun _ _ => readAttempt (accountRequest.answer .plain)) attempts none = _
    rw [readAttempt_accountRequest]
    rfl
  have hcached : readable.cached = none := rfl
  simp only [lookupCurve, hcached, hprogram, hmint, hread]

theorem curve_decoders_agree_readable :
    lookupCurve .plain .plain wrappedSol readable = .read accountBytes ∧
      (fetchCurrentPrice .plain .plain wrappedSol readable).toOption =
        (fetchCurrentPriceFull .plain .plain wrappedSol readable accountRequest).toOption.map
          (·.price) :=
  ⟨lookupCurve_readable,
    ((curve_decoders_agree .plain .plain wrappedSol readable accountRequest accountBytes).2.2
      lookupCurve_readable readAttempt_accountRequest).1⟩

end Girasol
