import Girasol.Foundation.Bytes
import Girasol.Foundation.Words
import Girasol.Models
import Girasol.Rpc.TokenAccount

/-!
# The price of a token on its bonding curve

The price fetch reads the curve account nine times, at three commitments, then
searches the program's accounts for it and last asks every endpoint in turn.
-/

namespace Girasol

open Foundation

/-! ## The curve account -/

structure CurveState where
  virtualTokenReserves : Nat
  virtualSolReserves : Nat
  complete : Bool
  deriving DecidableEq, Repr

inductive CurveError where
  | tooShort
  | unexpectedDiscriminator
  deriving DecidableEq, Repr

def pumpCurveDiscriminator : List UInt8 := [0x17, 0xb7, 0xf8, 0x37, 0x60, 0xd8, 0xac, 0x60]

def parseCurve (decoded : List UInt8) : Except CurveError CurveState :=
  let slice := decoded.drop 8
  if decoded.length < 8 then .error .tooShort
  else if decoded.take 8 ≠ pumpCurveDiscriminator then .error .unexpectedDiscriminator
  else if decoded.length < 49 then .error .tooShort
  else .ok
    { virtualTokenReserves := leValue (slice.take 8)
      virtualSolReserves := leValue ((slice.drop 8).take 8)
      complete := slice.getD 40 0 != 0 }

def curvePrice (r : Rounding) (state : CurveState) (decimals : Nat) : ℚ :=
  r.div (r.div (r.ofU64 state.virtualSolReserves) 1000000000)
    (r.div (r.ofU64 state.virtualTokenReserves) (r.round (10 ^ decimals)))

/-! ## Reading it -/

inductive Commitment where
  | processed
  | confirmed
  | finalized
  deriving DecidableEq, Repr

def Commitment.text : Commitment → String
  | .processed => "processed"
  | .confirmed => "confirmed"
  | .finalized => "finalized"

inductive AttemptFailure where
  | undecodable (data : String)
  | noData (resultVal : Json)
  | noResult
  | rpc (error : FetchError)

def accountObject (resultVal : Json) : Json := (resultVal.get? "value").getD resultVal

def accountData (resultVal : Json) : Option String :=
  ((((accountObject resultVal).get? "data").bind Json.asArray).bind List.head?).bind Json.asStr

def readAttempt : Except FetchError RpcResponse → Except AttemptFailure (List UInt8)
  | .error e => .error (.rpc e)
  | .ok resp =>
      match resp.result with
      | none => .error .noResult
      | some resultVal =>
          match accountData resultVal with
          | none => .error (.noData resultVal)
          | some data =>
              match decodeBase64 data with
              | some decoded => .ok decoded
              | none => .error (.undecodable data)

/-- A request with the round-robin counter and the endpoints it meets. -/
structure RpcRequest where
  counter : Nat
  outcome : String → HttpOutcome

def RpcRequest.answer (cfg : Settings) (request : RpcRequest) : Except FetchError RpcResponse :=
  fetchWithFallback cfg.solanaRpcUrls cfg.rotateRpc request.counter request.outcome

/-- What the cache, the network and the SDK give while one price is fetched. -/
structure PriceEnv where
  cached : Option (CurveState × Nat)
  curvePda : Pubkey → Pubkey → Pubkey
  attempt : Commitment → Fin 3 → RpcRequest
  search : RpcRequest
  found : String → RpcRequest
  probe : String → HttpOutcome
  decimals : Nat
  debug : Json → String
  decodeError : String → String

abbrev FailedAttempt := Commitment × Fin 3 × AttemptFailure

def readAttempts (read : Commitment → Fin 3 → Except AttemptFailure (List UInt8)) :
    List (Commitment × Fin 3) → Option FailedAttempt → Except (Option FailedAttempt) (List UInt8)
  | [], lastErr => .error lastErr
  | (c, n) :: rest, _ =>
      match read c n with
      | .ok decoded => .ok decoded
      | .error e => readAttempts read rest (some (c, n, e))

def attempts : List (Commitment × Fin 3) :=
  [Commitment.processed, .confirmed, .finalized].flatMap fun c => [0, 1, 2].map fun n => (c, n)

def probeData : HttpOutcome → Option (List UInt8)
  | .replied true (some parsed) => ((parsed.result).bind accountData).bind decodeBase64
  | .replied _ _ | .unreachable _ | .bodyLost _ => none

def readElsewhere (cfg : Settings) (env : PriceEnv) : Option (List UInt8) :=
  let searched := (env.search.answer cfg).toOption.bind fun resp =>
    resp.result.bind extractFirstPubkeyFromValue
  let decoded := searched.bind fun curve =>
    (readAttempt ((env.found curve).answer cfg)).toOption
  decoded.or (cfg.solanaRpcUrls.findSome? fun http => probeData (env.probe http))

inductive CurveLookup where
  | cached (state : CurveState) (decimals : Nat)
  | badKey (error : String)
  | read (decoded : List UInt8)
  | unread (curvePda : String) (lastErr : Option FailedAttempt)

section

variable (p : Platform) (cfg : Settings) (mint : Mint) (env : PriceEnv)

def lookupCurve : CurveLookup :=
  match env.cached with
  | some (state, decimals) => .cached state decimals
  | none =>
      match p.parsePubkey cfg.pumpFunProgram, p.parsePubkey mint with
      | .error e, _ => .badKey e
      | .ok _, .error e => .badKey e
      | .ok program, .ok mintKey =>
          match readAttempts (fun c n => readAttempt ((env.attempt c n).answer cfg)) attempts
            none with
          | .ok decoded => .read decoded
          | .error lastErr =>
              match readElsewhere cfg env with
              | some decoded => .read decoded
              | none => .unread (encodeBase58 (env.curvePda program mintKey)) lastErr

/-! ## Errors -/

def FetchError.text : FetchError → String
  | .noEndpoint => "No solana_rpc_urls configured"
  | .bodyLost error => error
  | .rpcError url error => formatText [("RPC error from ", url), (": ", env.debug error)] ""
  | .allFailed => "All RPC endpoints failed to respond successfully"

def failedAttemptText (curvePda : String) : FailedAttempt → String
  | (_, _, .undecodable data) =>
      formatText [("Decode error for bonding curve ", curvePda), (" mint ", mint),
        (": ", env.decodeError data)] ""
  | (c, n, .noData _) =>
      formatText [("No data field in account object for curve PDA ", curvePda),
        (" at commitment ", c.text), (" (attempt ", toString n)] ")"
  | (c, n, .noResult) =>
      formatText [("getAccountInfo returned no result for curve PDA ", curvePda),
        (" at commitment ", c.text), (" (attempt ", toString n)] ")"
  | (c, n, .rpc error) =>
      formatText [("RPC error fetching curve PDA ", curvePda), (" at commitment ", c.text),
        (" (attempt ", toString n), ("): ", error.text env)] ""

def CurveError.text : CurveError → String
  | .tooShort => formatText [("Bonding curve account too short for ", mint)] ""
  | .unexpectedDiscriminator =>
      formatText [("Unexpected discriminator for ", mint)] ": not a pump.fun curve"

def priceOfCurve (decoded : List UInt8) : Except String ℚ :=
  match parseCurve decoded with
  | .error e => .error (e.text mint)
  | .ok state =>
      if state.complete then .error (formatText [("Token ", mint)] " migrated to Raydium")
      else if 0 < p.rounding.ofU64 state.virtualTokenReserves then
        .ok (curvePrice p.rounding state env.decimals)
      else .error (formatText [("Invalid reserves for ", mint)] ": zero tokens")

def unreadText (curvePda : String) (lastErr : Option FailedAttempt) : String :=
  let msg := match lastErr with
    | some failure => failedAttemptText mint env curvePda failure
    | none => formatText [("Bonding curve account not found or empty for ", mint),
        (" (curve PDA ", curvePda)] ")"
  formatText [("Bonding curve account missing or unreadable for ", mint), (": ", msg)] ""

def fetchCurrentPrice : Except String ℚ :=
  match lookupCurve p cfg mint env with
  | .cached state decimals => .ok (curvePrice p.rounding state decimals)
  | .badKey e => .error e
  | .read decoded => priceOfCurve p mint env decoded
  | .unread curvePda lastErr => .error (unreadText mint env curvePda lastErr)

end

end Girasol
