import Girasol.Foundation.Base58
import Girasol.Foundation.Checks
import Girasol.Foundation.Machine
import Girasol.Foundation.Text
import Mathlib.Tactic

/-!
# Settings and their validation

`config.toml` is validated at startup and again at every hot reload, so the
shared settings are always a `ValidSettings`.  Third-party parsers (public keys,
URLs, key pairs) and the file system are taken from the `Platform`.
-/

namespace Girasol

open Foundation

structure TpLevel where
  triggerPercent : ℚ
  sellPercent : ℚ
  deriving DecidableEq, Repr

structure SlLevel where
  triggerPercent : ℚ
  sellPercent : ℚ
  deriving DecidableEq, Repr

inductive AppError where
  | validation (message : String)
  | invalidKeypair (message : String)
  deriving DecidableEq, Repr

structure Url where
  scheme : String
  host : Option String
  deriving DecidableEq, Repr

abbrev Pubkey := List UInt8

/-- What the program takes from `f64` arithmetic, third-party crates and the file system. -/
structure Platform where
  rounding : Rounding
  parsePubkey : String → Except String Pubkey
  parseUrl : String → Except String Url
  decodeBase58 : String → Except String (List UInt8)
  parseJsonBytes : String → Except String (List UInt8)
  keypairFromBytes : List UInt8 → Except String Unit
  readFile : String → Except String String

structure LeaderMapping where
  swqosDefaultRpcEndpointOwner : Option String := none
  swqosJitoEndpointOwner : Option String := none
  swqosHeliusEndpointOwner : Option String := none
  swqosBloxrouteEndpointOwner : Option String := none
  swqosNextblockEndpointOwner : Option String := none
  swqosZeroslotEndpointOwner : Option String := none
  swqosTemporalEndpointOwner : Option String := none
  deriving DecidableEq, Repr

/-- The settings the modelled functions read, with their serde defaults. -/
structure Settings where
  dryRun : Bool := true
  solanaWsUrls : List String
  solanaRpcUrls : List String
  pumpFunProgram : String
  walletKeypairPath : Option String := none
  walletKeypairJson : Option String := none
  walletPrivateKeyString : Option String := none
  simulateWalletPrivateKeyString : Option String := none
  simulateWalletKeypairJson : Option String := none
  tpLevels : List TpLevel := [⟨30, 100⟩]
  slLevels : List SlLevel := [⟨-20, 100⟩]
  timeoutSecs : Int
  cacheCapacity : Nat
  buyAmount : ℚ := 1 / 10
  rotateRpc : Bool := true
  maxHoldedCoins : Nat := 100
  slippageBps : Nat := 500
  minLiquiditySol : ℚ := 0
  maxLiquiditySol : ℚ := 100
  trailingStopBps : Nat := 0
  rugDetectorEnabled : Bool := false
  rugPriceDropBps : Nat := 5000
  rugLiquidityDropBps : Nat := 8000
  rugWindowSecs : Nat := 90
  copyMode : String := "mirror"
  replaySizeMode : String := "proportional"
  heliusSenderEnabled : Bool := false
  heliusApiKey : Option String := none
  heliusSenderEndpoint : String := "https://sender.helius-rpc.com/fast"
  heliusMinTipSol : ℚ := 1 / 1000
  heliusUseSwqosOnly : Bool := false
  heliusUseDynamicTips : Bool := true
  heliusPriorityFeeMultiplier : ℚ := 6 / 5
  zeroslotApiKey : Option String := none
  zeroslotEndpoints : List String := []
  zeroslotStakedConnLamports : Nat := 1000000
  nozomiApiKey : Option String := none
  pumpportalEnabled : Bool := false
  pumpportalWss : List String := ["wss://pumpportal.fun/api/data"]
  shredsUrl : String := "http://placeholder.example.com:9999"
  geyserUrl : String := "http://placeholder.example.com:10000"
  mirrorPercent : ℚ := 0
  allowAccumulate : Bool := false
  mirrorSells : Bool := false
  maxPositionSol : ℚ := 0
  skipSimulation : Bool := true
  swqosJitoUrl : String :=
    "https://frankfurt.mainnet.block-engine.jito.wtf/api/v1/transactions"
  swqosCircuitBreakerFailures : Nat := 3
  swqosCircuitBreakerCooldownSecs : Nat := 30
  bloxrouteHttpUrl : String :=
    "https://uk.solana.dex.blxrbdn.com/api/v2/submit-snipe"
  nextblockEndpoint : String := "https://frankfurt.nextblock.io/api/v2/submit"
  nextblockQuicEndpoint : Option String := none
  ownLeaderStrategyEnabled : Bool := false
  ownLeaderTipMultiplier : ℚ := 2
  ownLeaderPriorityMultiplier : ℚ := 3 / 2
  swqosSkipLeaderProvider : Bool := false
  ownLeaderFallbackDirectRpc : Bool := false
  leaderMapping : LeaderMapping := {}
  rejectMintAuthority : Bool := true
  rejectFreezeAuthority : Bool := true
  rejectMutableMetadata : Bool := true
  rejectTransferFee : Bool := true
  maxTransferFeeBps : Nat := 0
  deriving DecidableEq, Repr

namespace Settings

variable (p : Platform)

def parsePrivateKeyString (s : String) : Except String (List UInt8) :=
  let trimmed := trim s
  let startsArray := trimmed.toList.head? == some '['
  let hasComma := trimmed.toList.contains ','
  if 80 ≤ trimmed.utf8ByteSize && !startsArray && !hasComma then
    (p.decodeBase58 trimmed).mapError fun e => s!"Base58 decode failed: {e}"
  else if startsArray then
    (p.parseJsonBytes trimmed).mapError fun e => s!"JSON parse failed: {e}"
  else if hasComma then
    ((splitCommas trimmed).mapM fun part =>
        (parseUnsigned 256 (trim part)).map Nat.toUInt8).mapError
      fun e => s!"CSV parse failed: {e}"
  else
    .error ("Unrecognized private key format. Expected: base58, JSON array, " ++
      "or comma-separated bytes")

def validateKeypair (field : String) (parse : String → Except AppError (List UInt8)) :
    Option String → Except AppError Unit
  | none => .ok ()
  | some text => do
      let bytes ← parse text
      (p.keypairFromBytes bytes).mapError fun e =>
        .invalidKeypair s!"{field}: invalid keypair — {e}"

def privateKeyBytes (field text : String) : Except AppError (List UInt8) :=
  (parsePrivateKeyString p text).mapError fun e =>
    .invalidKeypair s!"{field}: parse failed — {e}"

def keypairJsonBytes (field text : String) : Except AppError (List UInt8) :=
  (p.parseJsonBytes text).mapError fun e =>
    .invalidKeypair s!"{field}: JSON parse failed — {e}"

def keypairFileCheck (path : String) : Except AppError Unit := do
  let content ← (p.readFile path).mapError fun e =>
    .invalidKeypair s!"wallet_keypair_path: cannot read file '{path}' — {e}"
  let bytes ← (p.parseJsonBytes content).mapError fun e =>
    .invalidKeypair s!"wallet_keypair_path: JSON parse failed for '{path}' — {e}"
  (p.keypairFromBytes bytes).mapError fun e =>
    .invalidKeypair s!"wallet_keypair_path: invalid keypair in '{path}' — {e}"

def validateKeypairs (s : Settings) : Except AppError Unit := do
  validateKeypair p "wallet_private_key_string"
    (privateKeyBytes p "wallet_private_key_string") s.walletPrivateKeyString
  validateKeypair p "wallet_keypair_json"
    (keypairJsonBytes p "wallet_keypair_json") s.walletKeypairJson
  match s.walletKeypairPath with
  | none => pure ()
  | some path => keypairFileCheck p path
  validateKeypair p "simulate_wallet_private_key_string"
    (privateKeyBytes p "simulate_wallet_private_key_string")
    s.simulateWalletPrivateKeyString
  validateKeypair p "simulate_wallet_keypair_json"
    (keypairJsonBytes p "simulate_wallet_keypair_json") s.simulateWalletKeypairJson

/--
The common shape of the URL checks: non-empty, parsable, a scheme that
`badScheme` does not object to, and a host.
-/
def validateUrl (badScheme : String → String → Option String)
    (raw field : String) : Except AppError Unit :=
  let trimmed := trim raw
  if trimmed.isEmpty then .error (.validation s!"{field} must not be empty")
  else match p.parseUrl trimmed with
    | .error e => .error (.validation s!"{field}: invalid URL '{trimmed}': {e}")
    | .ok url =>
        match badScheme trimmed url.scheme with
        | some complaint => .error (.validation s!"{field}: {complaint}")
        | none =>
            if (url.host.getD "").isEmpty then
              .error (.validation s!"{field}: URL '{trimmed}' is missing a host")
            else .ok ()

def validateNonEmptyUrl : String → String → Except AppError Unit :=
  validateUrl p fun url scheme =>
    if scheme.isEmpty then
      some (s!"URL '{url}' is missing a scheme " ++
        "(expected http://, https://, wss://, etc.)")
    else none

def validateHttpUrl : String → String → Except AppError Unit :=
  validateUrl p fun url scheme =>
    if scheme != "http" && scheme != "https" then
      some s!"URL '{url}' must use http:// or https:// scheme (got '{scheme}')"
    else none

def validateWsUrl : String → String → Except AppError Unit :=
  validateUrl p fun url scheme =>
    if scheme != "ws" && scheme != "wss" then
      some s!"URL '{url}' must use ws:// or wss:// scheme (got '{scheme}')"
    else none

def validateUrlList (check : String → String → Except AppError Unit)
    (field : String) (urls : List String) : Except AppError Unit :=
  urls.zipIdx.forM fun (url, i) => check url s!"{field}[{i}]"

def validatePumpportal (s : Settings) : Except AppError Unit :=
  if s.pumpportalEnabled then do
    validateUrlList (validateWsUrl p) "pumpportal_wss" s.pumpportalWss
    reject s.pumpportalWss.isEmpty
      (.validation "pumpportal_enabled is true but pumpportal_wss is empty")
  else .ok ()

def validateUrls (s : Settings) : Except AppError Unit := do
  validateUrlList (validateHttpUrl p) "solana_rpc_urls" s.solanaRpcUrls
  reject s.solanaRpcUrls.isEmpty
    (.validation "solana_rpc_urls must contain at least one RPC URL")
  validateUrlList (validateWsUrl p) "solana_ws_urls" s.solanaWsUrls
  reject s.solanaWsUrls.isEmpty
    (.validation "solana_ws_urls must contain at least one WebSocket URL")
  validateHttpUrl p s.heliusSenderEndpoint "helius_sender_endpoint"
  validateHttpUrl p s.swqosJitoUrl "swqos_jito_url"
  validateHttpUrl p s.bloxrouteHttpUrl "bloxroute_http_url"
  validateHttpUrl p s.nextblockEndpoint "nextblock_endpoint"
  validateNonEmptyUrl p s.shredsUrl "shreds_url"
  validateNonEmptyUrl p s.geyserUrl "geyser_url"
  match s.nextblockQuicEndpoint with
  | none => pure ()
  | some url => validateNonEmptyUrl p url "nextblock_quic_endpoint"
  validatePumpportal p s
  validateUrlList (validateHttpUrl p) "zeroslot_endpoints" s.zeroslotEndpoints

/-! ## Levels and ranges -/

/--
The checks made on a list of levels: one to four of them, each with a trigger
on the right side of zero and a share in `(0, 100]`, the shares summing to at
most 100 (plus `f64::EPSILON`).
-/
def validateLevels (kind triggerRule : String) (badTrigger : ℚ → Bool)
    (levels : List (ℚ × ℚ)) : Except AppError Unit := do
  reject levels.isEmpty
    (.validation s!"At least one {kind} level is required")
  reject (4 < levels.length) (.validation s!"Maximum 4 {kind} levels allowed")
  let sum ← levels.zipIdx.foldlM (fun (sum : ℚ) (level, i) => do
    reject (badTrigger level.1)
      (.validation s!"{kind} level {i + 1} trigger_percent must be {triggerRule}")
    reject (level.2 ≤ 0 || 100 < level.2)
      (.validation s!"{kind} level {i + 1} sell_percent must be between 0 and 100")
    return p.rounding.add sum level.2) 0
  reject (p.rounding.add 100 (1 / 2 ^ 52) < sum)
    (.validation
      s!"{kind} levels sell_percent sum ({fixedOne sum}%) must be <= 100%")

def validateTpLevels (s : Settings) : Except AppError Unit :=
  validateLevels p "TP" "> 0" (fun trigger => trigger ≤ 0)
    (s.tpLevels.map fun l => (l.triggerPercent, l.sellPercent))

def validateSlLevels (s : Settings) : Except AppError Unit :=
  validateLevels p "SL" "< 0" (fun trigger => 0 ≤ trigger)
    (s.slLevels.map fun l => (l.triggerPercent, l.sellPercent))

def validate (s : Settings) : Except AppError Unit := do
  validateTpLevels p s
  validateSlLevels p s
  reject (s.buyAmount ≤ 0) (.validation "buy_amount must be > 0")
  reject (s.timeoutSecs ≤ 0) (.validation "timeout_secs must be > 0")
  reject (s.cacheCapacity == 0) (.validation "cache_capacity must be > 0")
  reject (s.maxHoldedCoins == 0) (.validation "max_holded_coins must be > 0")
  reject (s.maxLiquiditySol < s.minLiquiditySol)
    (.validation "max_liquidity_sol must be >= min_liquidity_sol")
  reject (s.copyMode != "mirror" && s.copyMode != "replay")
    (.validation "copy_mode must be either 'mirror' or 'replay'")
  reject (s.replaySizeMode != "proportional" && s.replaySizeMode != "one_to_one")
    (.validation "replay_size_mode must be either 'proportional' or 'one_to_one'")
  discard <| (p.parsePubkey s.pumpFunProgram).mapError fun e =>
    .validation s!"invalid pump_fun_program: {e}"
  validateKeypairs p s
  validateUrls p s

end Settings

/-- Settings that passed `validate`: what the shared settings always hold. -/
def ValidSettings (p : Platform) := { s : Settings // s.validate p = .ok () }

namespace Settings

variable {p : Platform}

theorem validateLevels_checked {kind rule : String} {badTrigger : ℚ → Bool}
    {levels : List (ℚ × ℚ)}
    (hok : validateLevels p kind rule badTrigger levels = .ok ()) :
    ∀ level ∈ levels, badTrigger level.1 = false ∧ 0 < level.2 ∧ level.2 ≤ 100 := by
  simp only [validateLevels, bind_eq_ok, reject_eq_ok] at hok
  obtain ⟨-, -, -, -, sum, hfold, -⟩ := hok
  have hchecked := forall_of_foldlM_ok
    (fun entry => badTrigger entry.1.1 = false ∧ 0 < entry.1.2 ∧ entry.1.2 ≤ 100) (by
      rintro s ⟨level, i⟩ s' hstep
      simp only [bind_eq_ok, reject_eq_ok, Bool.or_eq_false_iff, decide_eq_false_iff_not, not_le,
        not_lt] at hstep
      obtain ⟨-, htrigger, -, hshare, -⟩ := hstep
      exact ⟨htrigger, hshare⟩) hfold
  intro level hmem
  obtain ⟨i, hi⟩ := List.getElem?_of_mem hmem
  exact hchecked (level, i) (List.mk_mem_zipIdx_iff_getElem?.mpr hi)

theorem validate_levels {s : Settings} (hok : s.validate p = .ok ()) :
    validateTpLevels p s = .ok () ∧ validateSlLevels p s = .ok () := by
  simp only [validate, bind_eq_ok] at hok
  obtain ⟨⟨⟩, htp, ⟨⟩, hsl, -⟩ := hok
  exact ⟨htp, hsl⟩

theorem validate_tpLevels {s : Settings} (hok : s.validate p = .ok ()) {levels : List TpLevel}
    (hlevels : validateTpLevels p { s with tpLevels := levels } = .ok ()) :
    { s with tpLevels := levels }.validate p = .ok () := by
  simp only [validate, bind_eq_ok] at hok ⊢
  obtain ⟨⟨⟩, -, hrest⟩ := hok
  exact ⟨⟨⟩, hlevels, hrest⟩

end Settings

namespace ValidSettings

variable {p : Platform}

theorem tpLevel_checked (cfg : ValidSettings p) {level : TpLevel}
    (hmem : level ∈ cfg.val.tpLevels) :
    0 < level.triggerPercent ∧ 0 < level.sellPercent ∧ level.sellPercent ≤ 100 := by
  have hok := (Settings.validate_levels cfg.property).1
  have hcheck := Settings.validateLevels_checked hok
    (level.triggerPercent, level.sellPercent) (List.mem_map_of_mem hmem)
  simpa using hcheck

theorem slLevel_checked (cfg : ValidSettings p) {level : SlLevel}
    (hmem : level ∈ cfg.val.slLevels) :
    level.triggerPercent < 0 ∧ 0 < level.sellPercent ∧ level.sellPercent ≤ 100 := by
  have hok := (Settings.validate_levels cfg.property).2
  have hcheck := Settings.validateLevels_checked hok
    (level.triggerPercent, level.sellPercent) (List.mem_map_of_mem hmem)
  simpa using hcheck

theorem tpTrigger_pos (cfg : ValidSettings p) {level : TpLevel}
    (hmem : level ∈ cfg.val.tpLevels) : 0 < level.triggerPercent := (cfg.tpLevel_checked hmem).1

theorem slTrigger_neg (cfg : ValidSettings p) {level : SlLevel}
    (hmem : level ∈ cfg.val.slLevels) : level.triggerPercent < 0 := (cfg.slLevel_checked hmem).1

end ValidSettings

/-! ## A concrete platform -/

def parseSimpleUrl (s : String) : Except String Url :=
  match s.toList.span (· != ':') with
  | (scheme, ':' :: '/' :: '/' :: rest) =>
      let host := rest.takeWhile fun c => c != ':' && c != '/'
      .ok ⟨String.ofList scheme,
        if host.isEmpty then none else some (String.ofList host)⟩
  | _ => .error "relative URL without a base"

namespace Platform

def plain : Platform where
  rounding := .exact
  parsePubkey := parsePubkeyBytes
  parseUrl := parseSimpleUrl
  decodeBase58 := fun s =>
    match Foundation.decodeBase58 s with
    | some bytes => .ok bytes
    | none => .error "provided string contained invalid character"
  parseJsonBytes := fun _ => .error "expected value"
  keypairFromBytes := fun _ => .error "signature error"
  readFile := fun _ => .error "No such file or directory"

end Platform

/--
Minimal settings for the plain platform: one endpoint of each kind, one
take-profit level that sells half, sells mirrored, the rest by default.
-/
def Settings.plain : Settings where
  solanaWsUrls := ["wss://ws.example.com"]
  solanaRpcUrls := ["https://rpc.example.com"]
  pumpFunProgram := "6EF8rrecthR5Dkzon8Nwu78hRvfCKubJ14M5uBEwF6P"
  timeoutSecs := 30
  cacheCapacity := 100
  tpLevels := [⟨30, 50⟩]
  mirrorSells := true

@[simp] theorem Settings.plain_valid : Settings.plain.validate .plain = .ok () := by
  decide +kernel

def ValidSettings.plain : ValidSettings .plain := ⟨.plain, Settings.plain_valid⟩

end Girasol
