import Girasol.PositionMonitor.Operations
import Girasol.Rpc.TokenAccount

/-!
# Validation of the positions against the chain

The startup validation and the periodic revalidation of the monitor make the
same check for every position of a snapshot and remove those that fail it.
-/

namespace Girasol

open Foundation

/-- What the RPC endpoints do with the requests of one position's check. -/
structure TokenCheck where
  token2022Counter : Nat
  token2022 : String → HttpOutcome
  legacyCounter : Nat
  legacy : String → HttpOutcome
  balance : Pubkey → BalanceAnswer

namespace TokenCheck

variable (p : Platform) (cfg : Settings) (check : TokenCheck)

def token2022Answer : AccountAnswer :=
  fetchWithFallback cfg.solanaRpcUrls cfg.rotateRpc check.token2022Counter check.token2022

def legacyAnswer : AccountAnswer :=
  fetchWithFallback cfg.solanaRpcUrls cfg.rotateRpc check.legacyCounter check.legacy

def balanceAt (ata : String) : Option Nat :=
  match p.parsePubkey ata with
  | .ok pk => (check.balance pk).value
  | .error _ => none

def removes : Bool :=
  match findTokenAccountOwnedByOwner (check.token2022Answer cfg) (check.legacyAnswer cfg) with
  | none => true
  | some ata => check.balanceAt p ata == some 0

/-! ### What the replies say -/

/--
The replies positively say that the tokens are gone: no account under either
program, or an account with a zero balance.
-/
def saysGone : Prop :=
  ((check.token2022Answer cfg).saysNone ∧ (check.legacyAnswer cfg).saysNone) ∨
    ∃ ata, findTokenAccountOwnedByOwner (check.token2022Answer cfg)
        (check.legacyAnswer cfg) = some ata ∧
      check.balanceAt p ata = some 0

def someRequestFailed : Prop :=
  (check.token2022Answer cfg).failed ∨
    ((check.token2022Answer cfg).account = none ∧ (check.legacyAnswer cfg).failed) ∨
    ∃ ata, findTokenAccountOwnedByOwner (check.token2022Answer cfg)
        (check.legacyAnswer cfg) = some ata ∧
      check.balanceAt p ata = none

/-- A removal is justified by the replies, and a failed request keeps the position. -/
def Conservative (removed : Prop) : Prop :=
  (removed → check.saysGone p cfg) ∧ (check.someRequestFailed p cfg → ¬ removed)

/--
Where the account requests go wrong harmlessly: when the Token-2022 request
fails, the legacy one names an account that is not reported empty; when it says
there is no account, the legacy request does not fail.
-/
def LookupReliable : Prop :=
  ((check.token2022Answer cfg).failed →
      ∃ ata, (check.legacyAnswer cfg).account = some ata ∧
        check.balanceAt p ata ≠ some 0) ∧
    ((check.token2022Answer cfg).saysNone → (check.legacyAnswer cfg).failed = false)

variable {p cfg check}

theorem conservative_of_not {removed : Prop} (h : ¬ removed) :
    check.Conservative p cfg removed :=
  ⟨fun hr => absurd hr h, fun _ => h⟩

theorem removes_conservative_iff :
    check.Conservative p cfg (check.removes p cfg = true) ↔
      check.LookupReliable p cfg := by
  unfold Conservative LookupReliable saysGone someRequestFailed removes
    findTokenAccountOwnedByOwner
  generalize check.token2022Answer cfg = first
  generalize check.legacyAnswer cfg = second
  rcases first.cases with ⟨pk, hacc, hsays, hfail⟩ | ⟨hacc, hsays, hfail⟩ |
    ⟨hacc, hsays, hfail⟩
  · cases hbal : check.balanceAt p pk <;> simp [hacc, hsays, hfail, hbal]
  · rcases second.cases with ⟨pk', hacc', hsays', hfail'⟩ | ⟨hacc', hsays', hfail'⟩ |
      ⟨hacc', hsays', hfail'⟩
    · cases hbal : check.balanceAt p pk' <;>
        simp [hacc, hsays, hfail, hacc', hsays', hfail', hbal]
    · simp [hacc, hsays, hfail, hacc', hsays', hfail']
    · simp [hacc, hsays, hfail, hacc', hsays', hfail']
  · rcases second.cases with ⟨pk', hacc', hsays', hfail'⟩ | ⟨hacc', hsays', hfail'⟩ |
      ⟨hacc', hsays', hfail'⟩
    · cases hbal : check.balanceAt p pk' <;>
        simp [hacc, hsays, hfail, hacc', hsays', hfail', hbal]
    · simp [hacc, hsays, hfail, hacc', hsays', hfail']
    · simp [hacc, hsays, hfail, hacc', hsays', hfail']

end TokenCheck

/-- `validate_positions_on_startup`: every open position, under the settings of its moment. -/
def validatePositionsOnStartup (p : Platform) (cfg : Mint → Settings)
    (check : Mint → TokenCheck) (positions : Positions) : Positions :=
  Store.eraseIf (fun mint => (check mint).removes p (cfg mint)) positions.keys positions

def revalidatedMints (positions : Positions) : List Mint :=
  positions.keys.filter fun mint =>
    match positions.lookup mint with
    | some h => !h.pendingSell
    | none => false

/-- The periodic revalidation of `monitor_loop`, under the settings of its tick. -/
def revalidatePositions (p : Platform) (cfg : Settings) (check : Mint → TokenCheck)
    (positions : Positions) : Positions :=
  Store.eraseIf (fun mint => (check mint).removes p cfg) (revalidatedMints positions)
    positions

/-! ## When a removal is justified -/

private theorem lookup_validatePositionsOnStartup {p : Platform} {cfg : Mint → Settings}
    {check : Mint → TokenCheck} {positions : Positions} {mint : Mint} {h : Holding}
    (hopen : positions.lookup mint = some h) :
    (validatePositionsOnStartup p cfg check positions).lookup mint = none ↔
      (check mint).removes p (cfg mint) = true := by
  have hmem : mint ∈ positions.keys :=
    AList.mem_keys.mp (AList.lookup_isSome.mp (by simp [hopen]))
  simp [validatePositionsOnStartup, Store.lookup_eraseIf, hmem, hopen]

private theorem lookup_revalidatePositions {p : Platform} {cfg : Settings}
    {check : Mint → TokenCheck} {positions : Positions} {mint : Mint} {h : Holding}
    (hopen : positions.lookup mint = some h) :
    (revalidatePositions p cfg check positions).lookup mint = none ↔
      h.pendingSell = false ∧ (check mint).removes p cfg = true := by
  have hmem : mint ∈ positions.keys :=
    AList.mem_keys.mp (AList.lookup_isSome.mp (by simp [hopen]))
  simp [revalidatePositions, revalidatedMints, Store.lookup_eraseIf, hmem, hopen]

/--
Both validations remove an open position only on a positive answer, and keep it
when a request failed, exactly when the lookup of its token account is reliable;
the revalidation also whenever a sell is in flight.
-/
theorem validation_conservative_iff (p : Platform) (cfg : Mint → Settings)
    (check : Mint → TokenCheck) (positions : Positions) (mint : Mint) (h : Holding)
    (hopen : positions.lookup mint = some h) :
    ((check mint).Conservative p (cfg mint)
        ((validatePositionsOnStartup p cfg check positions).lookup mint = none) ↔
      (check mint).LookupReliable p (cfg mint)) ∧
    ((check mint).Conservative p (cfg mint)
        ((revalidatePositions p (cfg mint) check positions).lookup mint = none) ↔
      h.pendingSell = true ∨ (check mint).LookupReliable p (cfg mint)) := by
  constructor
  · rw [lookup_validatePositionsOnStartup hopen]
    exact TokenCheck.removes_conservative_iff
  · rw [lookup_revalidatePositions hopen]
    cases hpending : h.pendingSell with
    | true =>
        have hkept : (check mint).Conservative p (cfg mint) (True ∧ False) :=
          TokenCheck.conservative_of_not (by simp)
        simpa using hkept
    | false => simpa using TokenCheck.removes_conservative_iff

def TokenCheck.unreachable : TokenCheck where
  token2022Counter := 0
  token2022 := fun _ => .unreachable "connection refused"
  legacyCounter := 1
  legacy := fun _ => .unreachable "connection refused"
  balance := fun _ => .clientError "connection refused"

def Positions.single : Positions := addPosition "mint" ∅ .plain

theorem validation_conservative_iff_single :
    (TokenCheck.unreachable.Conservative .plain .plain
        ((validatePositionsOnStartup .plain (fun _ => .plain)
          (fun _ => .unreachable) .single).lookup "mint" = none) ↔
      TokenCheck.unreachable.LookupReliable .plain .plain) ∧
    (TokenCheck.unreachable.Conservative .plain .plain
        ((revalidatePositions .plain .plain (fun _ => .unreachable) .single).lookup
          "mint" = none) ↔
      Holding.plain.pendingSell = true ∨
        TokenCheck.unreachable.LookupReliable .plain .plain) :=
  validation_conservative_iff .plain (fun _ => .plain) (fun _ => .unreachable)
    .single "mint" .plain (by decide)

theorem validation_drops_on_failure :
    ¬ TokenCheck.unreachable.Conservative .plain .plain
        ((validatePositionsOnStartup .plain (fun _ => .plain)
          (fun _ => .unreachable) .single).lookup "mint" = none) ∧
      ¬ TokenCheck.unreachable.Conservative .plain .plain
        ((revalidatePositions .plain .plain (fun _ => .unreachable) .single).lookup
          "mint" = none) := by
  have hfailed : TokenCheck.unreachable.someRequestFailed .plain .plain :=
    .inl (by decide)
  constructor
  · rintro ⟨-, hkeep⟩
    exact hkeep hfailed (by decide)
  · rintro ⟨-, hkeep⟩
    exact hkeep hfailed (by decide)

end Girasol
