import Girasol.Foundation.Memo
import Girasol.Rpc.CurveState

/-!
# The price cache

The monitor looks prices up one after the other, while buys without the
target's amounts fetch a price for themselves and store it for the monitor.
-/

namespace Girasol

open Foundation

/-- The settings with which a price is asked for. -/
structure PriceCall where
  settings : Settings
  priceCacheTtlSecs : Nat

/-- `LruCache::new` takes no capacity of zero. -/
def cacheSize (startup : Settings) : Nat :=
  if startup.cacheCapacity = 0 then 128 else startup.cacheCapacity

instance (startup : Settings) : NeZero (cacheSize startup) := by
  refine ⟨?_⟩
  unfold cacheSize
  split
  case isTrue => decide
  case isFalse h => exact h

section

variable (p : Platform)

/-- Times are in milliseconds. -/
def priceRules : MemoRules Mint ℚ PriceCall PriceEnv (PriceEnv × RpcRequest) where
  ttl call := call.priceCacheTtlSecs * 1000
  read mint call env :=
    (fetchCurrentPrice p call.settings mint { env with cached := none }).toOption
  fetch mint call answer :=
    (fetchCurrentPriceFull p call.settings mint answer.1 answer.2).toOption.map (·.price)

abbrev PriceCache (startup : Settings) := Memo Mint ℚ PriceCall (cacheSize startup)

abbrev PriceEvent := MemoEvent Mint PriceCall PriceEnv (PriceEnv × RpcRequest)

variable (startup : Settings)

def pricesFrom : PriceCache startup := .empty

/-- How the mints were used, the last use first. -/
def priceUses (events : List PriceEvent) : List (CacheUse Mint (Nat × ℚ)) :=
  (gather (Memo.step (priceRules p)) (Memo.uses (priceRules p)) (pricesFrom startup)
    events).reverse

/-- The prices read from the chain. -/
def pricesRead (events : List PriceEvent) : List (Reading Mint ℚ) :=
  gather (Memo.step (priceRules p)) (Memo.reads (priceRules p)) (pricesFrom startup) events

def pricesAnswered (events : List PriceEvent) : List (Memo.Answer Mint ℚ PriceCall) :=
  gather (Memo.step (priceRules p)) (Memo.answers (priceRules p)) (pricesFrom startup) events

/-- A price with the call that read it; a full fetch asks for the account just once. -/
structure CurveRead where
  mint : Mint
  readAt : Nat
  settings : Settings
  env : PriceEnv
  stateRequest : Option RpcRequest
  price : ℚ

def CurveRead.reading (read : CurveRead) : Reading Mint ℚ := ⟨read.mint, read.readAt, read.price⟩

/-- The first data of the account among the replies to the requests of the call. -/
def CurveRead.account (read : CurveRead) : Option (List UInt8) :=
  match read.stateRequest with
  | some request => (readAttempt (request.answer read.settings)).toOption
  | none =>
      (attempts.findSome? fun (c, n) =>
        (readAttempt ((read.env.attempt c n).answer read.settings)).toOption).or
          (readElsewhere read.settings read.env)

/-- The account that the call read is a curve that still trades, and this is its price. -/
def CurveRead.OfOpenCurve (read : CurveRead) : Prop :=
  ∃ decoded state, read.account = some decoded ∧ parseCurve decoded = .ok state ∧
    state.complete = false ∧ 0 < p.rounding.ofU64 state.virtualTokenReserves ∧
    read.price = curvePrice p.rounding state read.env.decimals

def curvesRead (s : PriceCache startup) (e : PriceEvent) (_ : PriceCache startup) :
    List CurveRead :=
  match e, s.reading with
  | .read env, some (mint, call) =>
      ((priceRules p).read mint call env).toList.map fun price =>
        ⟨mint, s.clock, call.settings, env, none, price⟩
  | .fetch mint call (env, request), _ =>
      ((priceRules p).fetch mint call (env, request)).toList.map fun price =>
        ⟨mint, s.clock, call.settings, env, some request, price⟩
  | _, _ => []

def curvesReadBy (events : List PriceEvent) : List CurveRead :=
  gather (Memo.step (priceRules p)) (curvesRead p startup) (pricesFrom startup) events

end

variable {p : Platform}

/-! ## Readings -/

private theorem toOption_readAttempts
    {read : Commitment → Fin 3 → Except AttemptFailure (List UInt8)}
    (tried : List (Commitment × Fin 3)) (lastErr : Option FailedAttempt) :
    (readAttempts read tried lastErr).toOption =
      tried.findSome? fun (c, n) => (read c n).toOption := by
  induction tried generalizing lastErr with
  | nil => rfl
  | cons attempt tried ih =>
      obtain ⟨c, n⟩ := attempt
      rw [readAttempts, List.findSome?_cons]
      cases hread : read c n with
      | ok decoded => simp [hread, Except.toOption]
      | error e => simpa [hread, Except.toOption] using ih (some (c, n, e))

private theorem account_of_lookupCurve {cfg : Settings} {mint : Mint} {env : PriceEnv}
    {decoded : List UInt8} {readAt : Nat} {price : ℚ}
    (hread : lookupCurve p cfg mint { env with cached := none } = .read decoded) :
    (⟨mint, readAt, cfg, env, none, price⟩ : CurveRead).account = some decoded := by
  unfold lookupCurve at hread
  cases hprogram : p.parsePubkey cfg.pumpFunProgram with
  | error e =>
      rw [hprogram] at hread
      cases hread
  | ok program =>
      cases hmint : p.parsePubkey mint with
      | error e =>
          rw [hprogram, hmint] at hread
          cases hread
      | ok mintKey =>
          rw [hprogram, hmint] at hread
          dsimp only at hread
          have hfirst := @toOption_readAttempts
            (fun c n => readAttempt ((env.attempt c n).answer cfg)) attempts none
          simp only [CurveRead.account, ← hfirst]
          split at hread
          case h_1 found hfound =>
            cases hread
            rw [hfound]
            rfl
          case h_2 lastErr hfailed =>
            rw [hfailed]
            split at hread
            case h_1 found hfound =>
              cases hread
              exact hfound
            case h_2 => cases hread

private theorem ofOpenCurve_of_priceOfCurve {read : CurveRead} {decoded : List UInt8}
    (haccount : read.account = some decoded)
    (h : priceOfCurve p read.mint read.env decoded = .ok read.price) : read.OfOpenCurve p := by
  unfold priceOfCurve at h
  cases hparse : parseCurve decoded with
  | error e =>
      rw [hparse] at h
      cases h
  | ok state =>
      rw [hparse] at h
      cases hcomplete : state.complete with
      | true =>
          simp only [hcomplete, if_true] at h
          cases h
      | false =>
          simp only [hcomplete, Bool.false_eq_true, if_false] at h
          split at h
          case isTrue hpos =>
            exact ⟨decoded, state, haccount, hparse, hcomplete, hpos, (Except.ok.inj h).symm⟩
          case isFalse => cases h

private theorem lookupCurve_ne_cached {cfg : Settings} {mint : Mint} {env : PriceEnv}
    (hcached : env.cached = none) (state : CurveState) (decimals : Nat) :
    lookupCurve p cfg mint env ≠ .cached state decimals := by
  intro h
  unfold lookupCurve at h
  rw [hcached] at h
  cases hprogram : p.parsePubkey cfg.pumpFunProgram with
  | error e =>
      rw [hprogram] at h
      cases h
  | ok program =>
      cases hmint : p.parsePubkey mint with
      | error e =>
          rw [hprogram, hmint] at h
          cases h
      | ok mintKey =>
          rw [hprogram, hmint] at h
          dsimp only at h
          split at h
          case h_1 => cases h
          case h_2 => split at h <;> cases h

theorem ofOpenCurve_of_fetch {cfg : Settings} {mint : Mint} {env : PriceEnv} {readAt : Nat}
    {price : ℚ} (h : fetchCurrentPrice p cfg mint { env with cached := none } = .ok price) :
    (⟨mint, readAt, cfg, env, none, price⟩ : CurveRead).OfOpenCurve p := by
  unfold fetchCurrentPrice at h
  split at h
  case h_1 state decimals hlookup => exact absurd hlookup (lookupCurve_ne_cached rfl _ _)
  case h_2 => cases h
  case h_3 decoded hread =>
    exact ofOpenCurve_of_priceOfCurve (account_of_lookupCurve hread) h
  case h_4 => cases h

private theorem isCurve_of_fetchBondingCurveState {cfg : Settings} {mint : Mint} {env : PriceEnv}
    {stateRequest : RpcRequest} {state : BondingCurveState}
    (h : fetchBondingCurveState p cfg mint env stateRequest = .ok state) :
    ∃ decoded, readAttempt (stateRequest.answer cfg) = .ok decoded ∧ IsCurve decoded ∧
      curveLayout (decoded.drop 8) = state := by
  unfold fetchBondingCurveState at h
  split at h
  case h_1 => cases h
  case h_2 => cases h
  case h_3 =>
    split at h
    case h_1 decoded hread => exact ⟨decoded, hread, decodeCurveState_eq_ok_iff.mp h⟩
    case h_2 => cases h
    case h_3 => cases h
    case h_4 => cases h
    case h_5 => cases h

private theorem ofOpenCurve_of_fetchFull {cfg : Settings} {mint : Mint} {env : PriceEnv}
    {readAt : Nat} {stateRequest : RpcRequest} {result : PriceFetchResult}
    (h : fetchCurrentPriceFull p cfg mint env stateRequest = .ok result) :
    (⟨mint, readAt, cfg, env, some stateRequest, result.price⟩ : CurveRead).OfOpenCurve p := by
  obtain ⟨state, hstate, h⟩ := bind_eq_ok.mp h
  obtain ⟨decoded, hread, hcurve, hlayout⟩ := isCurve_of_fetchBondingCurveState hstate
  cases hcomplete : state.complete with
  | true =>
      simp only [hcomplete, if_true] at h
      cases h
  | false =>
      simp only [hcomplete, Bool.false_eq_true, if_false] at h
      split at h
      case isTrue => cases h
      case isFalse hpos =>
        cases h
        refine ⟨decoded, _, toOption_eq_some.mpr hread, parseCurve_of_isCurve hcurve, ?_, ?_, ?_⟩
        · rw [hlayout]
          exact hcomplete
        · rw [hlayout]
          exact not_le.mp hpos
        · rw [hlayout]
          rfl

section

variable {startup : Settings} (s : PriceCache startup) (e : PriceEvent) (s' : PriceCache startup)

private theorem reading_curvesRead :
    (curvesRead p startup s e s').map CurveRead.reading = Memo.reads (priceRules p) s e s' := by
  unfold curvesRead Memo.reads
  cases e with
  | read env =>
      cases s.reading with
      | none => rfl
      | some entry => simp [CurveRead.reading, Function.comp_def]
  | fetch mint call answer => simp [CurveRead.reading, Function.comp_def]
  | wait | lookup | store => rfl

private theorem ofOpenCurve_of_curvesRead :
    ∀ read ∈ curvesRead p startup s e s', read.OfOpenCurve p := by
  intro read hmem
  unfold curvesRead at hmem
  split at hmem
  case h_1 env mint call _ =>
    obtain ⟨price, hprice, rfl⟩ := List.mem_map.mp hmem
    rw [Option.mem_toList] at hprice
    exact ofOpenCurve_of_fetch (toOption_eq_some.mp hprice)
  case h_2 mint call env request =>
    obtain ⟨price, hprice, rfl⟩ := List.mem_map.mp hmem
    rw [Option.mem_toList] at hprice
    obtain ⟨result, hresult, rfl⟩ := Option.map_eq_some_iff.mp hprice
    exact ofOpenCurve_of_fetchFull (toOption_eq_some.mp hresult)
  case h_3 => cases hmem

end

/-! ## Every answer -/

/--
In every interleaving of lookups and fetches: a lookup answers without reading
exactly if the mint is among those used last, as many as the cache holds, and
its price was stored less than the TTL ago, and then with the price stored
last; every answer was read from the chain just then, or no later than it was
stored, less than the TTL ago; and every price read is that of the account that
its call read for the mint, of a curve that still trades.
-/
theorem prices_from_chain (p : Platform) (startup : Settings) (events : List PriceEvent)
    (t : PriceCache startup)
    (hrun : Run (Memo.step (priceRules p)) (fun _ _ => True) (pricesFrom startup) events t) :
    (∀ (mint : Mint) (call : PriceCall) (price : ℚ),
      t.hit (priceRules p) mint call = some price ↔
        mint ∈ (recents ((priceUses p startup events).map Prod.fst)).take (cacheSize startup) ∧
          ∃ stamp, lastStored mint (priceUses p startup events) = some (stamp, price) ∧
            t.clock - stamp < call.priceCacheTtlSecs * 1000) ∧
    (∀ answer ∈ pricesAnswered p startup events,
      answer.Fresh (priceRules p) (pricesRead p startup events)) ∧
    (curvesReadBy p startup events).map CurveRead.reading = pricesRead p startup events ∧
    ∀ read ∈ curvesReadBy p startup events, read.OfOpenCurve p := by
  have hreflects := Memo.reflects_run hrun LruCache.reflects_empty
  refine ⟨fun mint call price => Memo.hit_iff hreflects, ?_, ?_, ?_⟩
  · have hfresh := Memo.fresh_run hrun Memo.sourced_empty
    rwa [List.nil_append] at hfresh
  · have hsteps : (curvesReadBy p startup events).map CurveRead.reading = _ :=
      gather_hom (List.map CurveRead.reading) rfl (fun _ _ => List.map_append)
        (pricesFrom startup) events
    simp only [reading_curvesRead] at hsteps
    exact hsteps
  · exact forall_mem_gather (fun s e s' _ => ofOpenCurve_of_curvesRead s e s') _ _

def minuteCall : PriceCall := ⟨.plain, 60⟩

def sharedPrices : List PriceEvent :=
  [.lookup wrappedSol minuteCall, .wait 100,
    .fetch wrappedSol minuteCall (readable, accountRequest), .read readable, .store 0,
    .wait 59999, .lookup wrappedSol minuteCall]

theorem prices_from_chain_sharedPrices :
    ∃ t price, Run (Memo.step (priceRules .plain)) (fun _ _ => True) (pricesFrom .plain)
        sharedPrices t ∧
      t.hit (priceRules .plain) wrappedSol minuteCall = some price ∧
      (∃ stamp, lastStored wrappedSol (priceUses .plain .plain sharedPrices) =
        some (stamp, price) ∧ t.clock - stamp < 60000) ∧
      (∀ answer ∈ pricesAnswered .plain .plain sharedPrices,
        answer.Fresh (priceRules .plain) (pricesRead .plain .plain sharedPrices)) ∧
      ∀ read ∈ curvesReadBy .plain .plain sharedPrices, read.OfOpenCurve .plain := by
  have hexec : (exec (Memo.step (priceRules .plain)) (fun _ _ => True) (pricesFrom .plain)
      sharedPrices).map (fun t => (t.hit (priceRules .plain) wrappedSol minuteCall).isSome) =
        some true := by decide +kernel
  obtain ⟨t, hrun, hhit⟩ := exists_run_of_exec hexec
  obtain ⟨price, hprice⟩ := Option.isSome_iff_exists.mp hhit
  obtain ⟨hanswers, hfresh, -, hopen⟩ := prices_from_chain .plain .plain sharedPrices t hrun
  obtain ⟨-, hstored⟩ := (hanswers wrappedSol minuteCall price).mp hprice
  exact ⟨t, price, hrun, hprice, hstored, hfresh, hopen⟩

end Girasol
