import Girasol.Foundation.Json
import Mathlib.Data.List.Basic

/-!
# JSON-RPC requests over several endpoints

`fetchWithFallback` tries the configured endpoints in turn.  What an endpoint
does with the request is the environment's choice.
-/

namespace Girasol

open Foundation

/-- A reply that deserialised; a JSON `null` member counts as absent. -/
structure RpcResponse where
  result : Option Json
  error : Option Json

inductive HttpOutcome where
  | unreachable (error : String)
  | bodyLost (error : String)
  | replied (success : Bool) (body : Option RpcResponse)

inductive FetchError where
  | noEndpoint
  | bodyLost (error : String)
  | rpcError (url : String) (error : Json)
  | allFailed

def fetchInOrder (outcome : String → HttpOutcome) :
    List String → Except FetchError RpcResponse
  | [] => .error .allFailed
  | http :: rest =>
      match outcome http with
      | .unreachable _ => fetchInOrder outcome rest
      | .bodyLost error => .error (.bodyLost error)
      | .replied false _ => fetchInOrder outcome rest
      | .replied true none => fetchInOrder outcome rest
      | .replied true (some parsed) =>
          match parsed.error with
          | some error => .error (.rpcError http error)
          | none => .ok parsed

def endpointOrder (urls : List String) (rotateRpc : Bool) (counter : Nat) : List String :=
  let start := if rotateRpc then counter % urls.length else 0
  (List.range urls.length).filterMap fun i => urls[(start + i) % urls.length]?

def fetchWithFallback (urls : List String) (rotateRpc : Bool) (counter : Nat)
    (outcome : String → HttpOutcome) : Except FetchError RpcResponse :=
  if urls.isEmpty then .error .noEndpoint
  else fetchInOrder outcome (endpointOrder urls rotateRpc counter)

end Girasol
