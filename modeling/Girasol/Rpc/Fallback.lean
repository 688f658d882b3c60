import Girasol.Foundation.Scan
import Girasol.Foundation.Traced
import Girasol.Rpc.Fetch
import Mathlib.Data.List.Nodup
import Mathlib.Data.Nat.ModEq

/-!
# Which endpoint decides a request

The endpoints are told apart by their positions, as a URL may be listed twice.
The trace of a request holds the positions that were tried.
-/

namespace Girasol

open Foundation

/-- The endpoint at `i` places behind the first one. -/
def rotated (n : Nat) (rotateRpc : Bool) (counter i : Nat) : Nat :=
  ((if rotateRpc then counter % n else 0) + i) % n

def indexOrder (n : Nat) (rotateRpc : Bool) (counter : Nat) : List Nat :=
  (List.range n).map (rotated n rotateRpc counter)

/-- The reply of an endpoint, where its body was parsed. -/
def HttpOutcome.parsed : HttpOutcome → Option RpcResponse
  | .replied true body => body
  | _ => none

@[simp] theorem HttpOutcome.parsed_eq_some {reply : HttpOutcome} {parsed : RpcResponse} :
    reply.parsed = some parsed ↔ reply = .replied true (some parsed) := by
  unfold HttpOutcome.parsed
  split <;> simp_all

/-- What a parsed reply of an endpoint makes of the request. -/
def RpcResponse.answer (url : String) (parsed : RpcResponse) : Except FetchError RpcResponse :=
  match parsed.error with
  | some error => .error (.rpcError url error)
  | none => .ok parsed

section

variable (urls : List String) (outcome : Nat → HttpOutcome)

def tryEndpoints : List Nat → Traced Nat FetchError RpcResponse
  | [] => ⟨[], .error .allFailed⟩
  | idx :: rest =>
      match outcome idx with
      | .unreachable _ => (tryEndpoints rest).after [idx]
      | .bodyLost error => ⟨[idx], .error (.bodyLost error)⟩
      | .replied false _ => (tryEndpoints rest).after [idx]
      | .replied true none => (tryEndpoints rest).after [idx]
      | .replied true (some parsed) => ⟨[idx], parsed.answer (urls.getD idx "")⟩

def fetchAttempts (rotateRpc : Bool) (counter : Nat) : Traced Nat FetchError RpcResponse :=
  if urls.isEmpty then ⟨[], .error .noEndpoint⟩
  else tryEndpoints urls outcome (indexOrder urls.length rotateRpc counter)

/-- The first endpoint with a parsed reply decides; without one the request fails. -/
def Decides (order : List Nat) (result : Except FetchError RpcResponse) : Prop :=
  match firstHit (fun idx => (outcome idx).parsed) order with
  | some (idx, parsed) => result = parsed.answer (urls.getD idx "")
  | none => ∃ error, result = .error error

/-- If a reply is parsed at all, no endpoint before the first one of these loses its body. -/
def KeepsBodies (order : List Nat) : Prop :=
  (∃ idx ∈ order, (outcome idx).parsed.isSome) →
    ∀ idx ∈ order.takeWhile fun idx => (outcome idx).parsed.isNone,
      ∀ error, outcome idx ≠ .bodyLost error

end

/-! ## The order -/

theorem rotated_lt {n : Nat} (rotateRpc : Bool) (counter : Nat) {i : Nat} (hi : i < n) :
    rotated n rotateRpc counter i < n :=
  Nat.mod_lt _ (by omega)

private theorem rotated_inj {n : Nat} {rotateRpc : Bool} {counter i j : Nat} (hi : i < n)
    (hj : j < n) (h : rotated n rotateRpc counter i = rotated n rotateRpc counter j) : i = j := by
  have hmod : i ≡ j [MOD n] := Nat.ModEq.add_left_cancel' _ h
  rwa [Nat.ModEq, Nat.mod_eq_of_lt hi, Nat.mod_eq_of_lt hj] at hmod

theorem nodup_indexOrder (n : Nat) (rotateRpc : Bool) (counter : Nat) :
    (indexOrder n rotateRpc counter).Nodup :=
  List.Nodup.map_on
    (fun _ hi _ hj h => rotated_inj (List.mem_range.mp hi) (List.mem_range.mp hj) h)
    List.nodup_range

theorem lt_of_mem_indexOrder {n : Nat} {rotateRpc : Bool} {counter idx : Nat}
    (h : idx ∈ indexOrder n rotateRpc counter) : idx < n := by
  obtain ⟨i, hi, rfl⟩ := List.mem_map.mp h
  exact rotated_lt rotateRpc counter (List.mem_range.mp hi)

/-! ## The endpoints tried -/

section

variable (urls : List String) {outcome : Nat → HttpOutcome}

theorem tryEndpoints_trace (outcome : Nat → HttpOutcome) (order : List Nat) :
    (tryEndpoints urls outcome order).trace <+: order := by
  induction order with
  | nil => exact List.prefix_rfl
  | cons idx rest ih =>
      have hgoesOn : ((tryEndpoints urls outcome rest).after [idx]).trace <+: idx :: rest :=
        (List.prefix_cons_inj idx).mpr ih
      have hstops : [idx] <+: idx :: rest := (List.prefix_cons_inj idx).mpr List.nil_prefix
      unfold tryEndpoints
      split
      · exact hgoesOn
      · exact hstops
      · exact hgoesOn
      · exact hgoesOn
      · exact hstops

theorem tryEndpoints_skip {idx : Nat} (hparsed : (outcome idx).parsed = none)
    (hkept : ∀ error, outcome idx ≠ .bodyLost error) (rest : List Nat) :
    (tryEndpoints urls outcome (idx :: rest)).result = (tryEndpoints urls outcome rest).result := by
  rw [tryEndpoints]
  split
  case h_1 => rfl
  case h_2 error hlost => exact absurd hlost (hkept error)
  case h_3 => rfl
  case h_4 => rfl
  case h_5 parsed hreply =>
    rw [hreply] at hparsed
    cases hparsed

theorem decides_skip {idx : Nat} (hparsed : (outcome idx).parsed = none) (rest : List Nat)
    (result : Except FetchError RpcResponse) :
    Decides urls outcome (idx :: rest) result ↔ Decides urls outcome rest result := by
  rw [Decides, firstHit_cons, hparsed]
  rfl

theorem keepsBodies_skip {idx : Nat} (hparsed : (outcome idx).parsed = none)
    (hkept : ∀ error, outcome idx ≠ .bodyLost error) (rest : List Nat) :
    KeepsBodies outcome (idx :: rest) ↔ KeepsBodies outcome rest := by
  simp [KeepsBodies, hparsed, hkept]

private theorem firstHit_eq_none_iff {order : List Nat} :
    firstHit (fun idx => (outcome idx).parsed) order = none ↔
      ∀ idx ∈ order, (outcome idx).parsed = none := by
  simp [firstHit]

private theorem decides_of_lost {idx : Nat} {error : String} (hlost : outcome idx = .bodyLost error)
    (rest : List Nat) :
    Decides urls outcome (idx :: rest) (.error (.bodyLost error)) ↔
      ∀ j ∈ rest, (outcome j).parsed = none := by
  rw [decides_skip urls (by rw [hlost]; rfl), ← firstHit_eq_none_iff, Decides]
  cases hfirst : firstHit (fun idx => (outcome idx).parsed) rest with
  | none => exact iff_of_true ⟨_, rfl⟩ rfl
  | some hit =>
      refine iff_of_false ?_ (by simp)
      obtain ⟨j, parsed⟩ := hit
      intro hanswer
      change Except.error (FetchError.bodyLost error) = parsed.answer (urls.getD j "") at hanswer
      unfold RpcResponse.answer at hanswer
      split at hanswer <;> cases hanswer

private theorem keepsBodies_of_lost {idx : Nat} {error : String}
    (hlost : outcome idx = .bodyLost error) (rest : List Nat) :
    KeepsBodies outcome (idx :: rest) ↔ ∀ j ∈ rest, (outcome j).parsed = none := by
  have hparsed : (outcome idx).parsed = none := by
    rw [hlost]
    rfl
  unfold KeepsBodies
  constructor
  · intro hkeeps j hj
    by_contra hsome
    have hsome' : (outcome j).parsed.isSome = true := Option.isSome_iff_ne_none.mpr hsome
    refine hkeeps ⟨j, List.mem_cons_of_mem idx hj, hsome'⟩ idx ?_ error hlost
    simp [hparsed]
  · rintro hnone ⟨j, hj, hsome⟩
    rcases List.mem_cons.mp hj with rfl | hrest
    · simp [hparsed] at hsome
    · simp [hnone j hrest] at hsome

private theorem tryEndpoints_decides_iff (outcome : Nat → HttpOutcome) (order : List Nat) :
    Decides urls outcome order (tryEndpoints urls outcome order).result ↔
      KeepsBodies outcome order := by
  induction order with
  | nil => exact iff_of_true ⟨_, rfl⟩ (by rintro ⟨idx, hidx, -⟩; cases hidx)
  | cons idx rest ih =>
      cases hparsed : (outcome idx).parsed with
      | some parsed =>
          have hreply := HttpOutcome.parsed_eq_some.mp hparsed
          have hresult : (tryEndpoints urls outcome (idx :: rest)).result =
              parsed.answer (urls.getD idx "") := by
            rw [tryEndpoints, hreply]
          rw [hresult, Decides, firstHit_cons, hparsed]
          refine iff_of_true rfl ?_
          simp [KeepsBodies, hparsed]
      | none =>
          by_cases hlost : ∃ error, outcome idx = .bodyLost error
          · obtain ⟨error, hlost⟩ := hlost
            have hresult : (tryEndpoints urls outcome (idx :: rest)).result =
                .error (.bodyLost error) := by
              rw [tryEndpoints, hlost]
            rw [hresult, decides_of_lost urls hlost, keepsBodies_of_lost hlost]
          · have hkept := not_exists.mp hlost
            rw [tryEndpoints_skip urls hparsed hkept, decides_skip urls hparsed,
              keepsBodies_skip hparsed hkept, ih]

theorem fetchAttempts_trace (outcome : Nat → HttpOutcome) (rotateRpc : Bool) (counter : Nat) :
    (fetchAttempts urls outcome rotateRpc counter).trace <+:
      indexOrder urls.length rotateRpc counter := by
  unfold fetchAttempts
  split
  · exact List.nil_prefix
  · exact tryEndpoints_trace urls outcome _

theorem fetchAttempts_decides_iff (outcome : Nat → HttpOutcome) (rotateRpc : Bool)
    (counter : Nat) :
    Decides urls outcome (indexOrder urls.length rotateRpc counter)
        (fetchAttempts urls outcome rotateRpc counter).result ↔
      KeepsBodies outcome (indexOrder urls.length rotateRpc counter) := by
  unfold fetchAttempts
  split
  case isTrue hempty =>
    rw [List.isEmpty_iff.mp hempty]
    exact iff_of_true ⟨_, rfl⟩ (by rintro ⟨idx, hidx, -⟩; cases hidx)
  case isFalse => exact tryEndpoints_decides_iff urls outcome _

private theorem fetchInOrder_map (outcome : String → HttpOutcome) (order : List Nat) :
    fetchInOrder outcome (order.map fun idx => urls.getD idx "") =
      (tryEndpoints urls (fun idx => outcome (urls.getD idx "")) order).result := by
  induction order with
  | nil => rfl
  | cons idx rest ih =>
      rw [List.map_cons, fetchInOrder, tryEndpoints]
      cases outcome (urls.getD idx "") with
      | unreachable error => exact ih
      | bodyLost error => rfl
      | replied success body =>
          cases success with
          | false => exact ih
          | true =>
              cases body with
              | none => exact ih
              | some parsed => cases herror : parsed.error <;> simp [RpcResponse.answer, herror]

private theorem endpointOrder_eq (rotateRpc : Bool) (counter : Nat) :
    endpointOrder urls rotateRpc counter =
      (indexOrder urls.length rotateRpc counter).map fun idx => urls.getD idx "" := by
  rw [endpointOrder, indexOrder, List.map_map, ← List.filterMap_eq_map]
  refine List.filterMap_congr fun i hi => ?_
  have hlt := rotated_lt rotateRpc counter (List.mem_range.mp hi)
  simp only [Function.comp, List.getD_eq_getElem?_getD]
  change urls[rotated urls.length rotateRpc counter i]? = _
  rw [List.getElem?_eq_getElem hlt]
  rfl

theorem fetchAttempts_result (outcome : String → HttpOutcome) (rotateRpc : Bool)
    (counter : Nat) :
    (fetchAttempts urls (fun idx => outcome (urls.getD idx "")) rotateRpc counter).result =
      fetchWithFallback urls rotateRpc counter outcome := by
  unfold fetchAttempts fetchWithFallback
  split
  · rfl
  · rw [endpointOrder_eq, fetchInOrder_map]

end

/--
Every endpoint is tried at most once and in order.  The first parsed reply
decides exactly if no endpoint before it loses its body.
-/
theorem fetch_decides_iff (urls : List String) (rotateRpc : Bool) (counter : Nat)
    (outcome : Nat → HttpOutcome) :
    (indexOrder urls.length rotateRpc counter).Nodup ∧
    (∀ idx ∈ indexOrder urls.length rotateRpc counter, idx < urls.length) ∧
    (fetchAttempts urls outcome rotateRpc counter).trace <+:
      indexOrder urls.length rotateRpc counter ∧
    (Decides urls outcome (indexOrder urls.length rotateRpc counter)
        (fetchAttempts urls outcome rotateRpc counter).result ↔
      KeepsBodies outcome (indexOrder urls.length rotateRpc counter)) :=
  ⟨nodup_indexOrder _ _ _, fun _ => lt_of_mem_indexOrder,
    fetchAttempts_trace urls outcome rotateRpc counter,
    fetchAttempts_decides_iff urls outcome rotateRpc counter⟩

/-! ## A body that is lost -/

def lostFirst : Nat → HttpOutcome
  | 0 => .bodyLost "connection reset"
  | _ => .replied true (some ⟨some .null, none⟩)

theorem lost_body_defeats_fallback :
    ¬Decides ["https://first", "https://second"] lostFirst (indexOrder 2 false 0)
      (fetchAttempts ["https://first", "https://second"] lostFirst false 0).result := by
  intro hdecides
  cases hdecides

end Girasol
