import Girasol.Send.Swqos
import Girasol.Foundation.Store

/-!
# The circuit breaker of the providers

Each provider has a circuit that counts its failures in a row.  At the
threshold the circuit opens, and after the cooldown it is half open: one probe
may go out.  Times are in nanoseconds of a clock that does not go back.
-/

namespace Girasol

open Foundation

structure ProviderCircuit where
  consecutiveFailures : Nat
  openedAt : Option Nat
  deriving DecidableEq, Repr

def ProviderCircuit.new : ProviderCircuit := ⟨0, none⟩

def ProviderCircuit.fail (failureThreshold now : Nat) (c : ProviderCircuit) : ProviderCircuit :=
  let failures := u64Add c.consecutiveFailures 1
  { consecutiveFailures := failures
    openedAt :=
      if failureThreshold ≤ failures && c.openedAt.isNone then some now else c.openedAt }

structure ProviderHealthTracker where
  circuits : Store String ProviderCircuit
  failureThreshold : Nat
  cooldownSecs : Nat

inductive HealthEvent where
  | success (provider : String)
  | failure (provider : String)
  deriving DecidableEq, Repr

def nanosPerSec : Nat := 1000000000

namespace ProviderHealthTracker

def new (failureThreshold cooldownSecs : Nat) : ProviderHealthTracker :=
  ⟨∅, failureThreshold, cooldownSecs⟩

/-- The tracker of a sender built from the settings. -/
def ofSettings (cfg : Settings) : ProviderHealthTracker :=
  new cfg.swqosCircuitBreakerFailures cfg.swqosCircuitBreakerCooldownSecs

section

variable (t : ProviderHealthTracker) (provider : String) (now : Nat)

def state : CircuitState :=
  match t.circuits.lookup provider with
  | none => .closed
  | some c =>
      if c.consecutiveFailures < t.failureThreshold then .closed
      else
        match c.openedAt with
        | none => .opened
        | some opened =>
            if t.cooldownSecs ≤ (now - opened) / nanosPerSec then .halfOpen else .opened

def recordSuccess : ProviderHealthTracker :=
  { t with circuits := Store.update provider (fun _ => some ⟨0, none⟩) t.circuits }

def recordFailure : ProviderHealthTracker :=
  let c := (t.circuits.lookup provider).getD .new
  { t with circuits := t.circuits.insert provider (c.fail t.failureThreshold now) }

def record (e : Nat × HealthEvent) : ProviderHealthTracker :=
  match e.2 with
  | .success provider => t.recordSuccess provider
  | .failure provider => t.recordFailure provider e.1

def after (events : List (Nat × HealthEvent)) : ProviderHealthTracker :=
  events.foldl record t

end

variable {t : ProviderHealthTracker} {provider : String} {now : Nat}

@[simp]
theorem after_append (before events : List (Nat × HealthEvent)) :
    t.after (before ++ events) = (t.after before).after events := List.foldl_append

@[simp]
theorem record_failureThreshold (e : Nat × HealthEvent) :
    (t.record e).failureThreshold = t.failureThreshold := by
  obtain ⟨now, e⟩ := e
  cases e <;> rfl

@[simp]
theorem after_failureThreshold (events : List (Nat × HealthEvent)) :
    (t.after events).failureThreshold = t.failureThreshold := by
  induction events generalizing t with
  | nil => rfl
  | cons e events ih => exact ih.trans (record_failureThreshold e)

theorem lookup_recordSuccess (provider' : String) :
    (t.recordSuccess provider).circuits.lookup provider' =
      if provider' = provider then (t.circuits.lookup provider').map fun _ => ⟨0, none⟩
      else t.circuits.lookup provider' := by
  rw [recordSuccess, Store.lookup_update]
  split
  · cases t.circuits.lookup provider' <;> rfl
  · rfl

theorem lookup_recordFailure (provider' : String) :
    (t.recordFailure provider now).circuits.lookup provider' =
      if provider' = provider then
        some (((t.circuits.lookup provider).getD .new).fail t.failureThreshold now)
      else t.circuits.lookup provider' :=
  Store.lookup_insert_eq provider provider' _ t.circuits

theorem lookup_after_eq_none (events : List (Nat × HealthEvent)) :
    (t.after events).circuits.lookup provider = none ↔
      t.circuits.lookup provider = none ∧ ∀ e ∈ events, e.2 ≠ .failure provider := by
  induction events generalizing t with
  | nil => simp [after]
  | cons e events ih =>
      change ((t.record e).after events).circuits.lookup provider = none ↔ _
      rw [ih, List.forall_mem_cons, ← and_assoc]
      refine and_congr_left fun _ => ?_
      obtain ⟨now, e⟩ := e
      cases e with
      | success provider' =>
          simp only [record, lookup_recordSuccess]
          split <;> simp
      | failure provider' =>
          simp only [record, lookup_recordFailure, ne_eq, HealthEvent.failure.injEq]
          by_cases hprovider : provider = provider'
          · simp [hprovider]
          · simp [hprovider, Ne.symm hprovider]

/-! ## A failure while the circuit is half open -/

theorem state_recordFailure_of_halfOpen (hprobe : t.state provider now = .halfOpen) :
    (t.recordFailure provider now).state provider now ≠ .opened := by
  unfold state at hprobe
  split at hprobe
  case h_1 => cases hprobe
  case h_2 c hlook =>
    split_ifs at hprobe with hcount
    split at hprobe
    case h_1 => cases hprobe
    case h_2 opened hopened =>
      split_ifs at hprobe with helapsed
      have hkept : (c.fail t.failureThreshold now).openedAt = some opened := by
        simp [ProviderCircuit.fail, hopened]
      unfold state
      rw [lookup_recordFailure, if_pos rfl, hlook]
      dsimp only [Option.getD_some]
      split
      · simp
      · rw [hkept]
        simp [recordFailure, helapsed]

end ProviderHealthTracker

/-- What was recorded of the providers, in the order of time. -/
structure HealthHistory where
  events : List (Nat × HealthEvent)
  ordered : events.Pairwise fun e e' => e.1 ≤ e'.1

/-- No success is recorded of a provider that has failed. -/
def HealthHistory.NeverRecovers (h : HealthHistory) : Prop :=
  ∀ before now provider rest, h.events = before ++ (now, .success provider) :: rest →
    ∀ e ∈ before, e.2 ≠ .failure provider

namespace ProviderHealthTracker

section

variable (t : ProviderHealthTracker) (h : HealthHistory)

/-- After a failed probe the circuit is open for the cooldown, or until a success. -/
def Reopens : Prop :=
  ∀ before now provider between rest,
    h.events = before ++ (now, .failure provider) :: (between ++ rest) →
    (t.after before).state provider now = .halfOpen →
    (∀ e ∈ between, e.2 ≠ .success provider) →
    ∀ later, now ≤ later → later < now + t.cooldownSecs * nanosPerSec →
      (∀ e ∈ between, e.1 ≤ later) → (∀ e ∈ rest, later ≤ e.1) →
      (t.after (before ++ (now, .failure provider) :: between)).state provider later = .opened

def ProbeFails : Prop :=
  ∃ before now provider rest, h.events = before ++ (now, .failure provider) :: rest ∧
    (t.after before).state provider now = .halfOpen

end

/-- A failed probe does not open the circuit again. -/
theorem reopens_iff (failureThreshold cooldownSecs : Nat) (h : HealthHistory) :
    (new failureThreshold cooldownSecs).Reopens h ↔
      cooldownSecs = 0 ∨ ¬ (new failureThreshold cooldownSecs).ProbeFails h := by
  constructor
  · intro hreopens
    refine or_iff_not_imp_left.mpr fun hcooldown => ?_
    rintro ⟨before, now, provider, rest, hsplit, hprobe⟩
    have hlater : ∀ e ∈ rest, now ≤ e.1 := by
      have hordered := h.ordered
      rw [hsplit, List.pairwise_append, List.pairwise_cons] at hordered
      exact hordered.2.1.1
    have hlt : now < now + cooldownSecs * nanosPerSec :=
      Nat.lt_add_of_pos_right (Nat.mul_pos (Nat.pos_of_ne_zero hcooldown) (by decide))
    have hopened := hreopens before now provider [] rest hsplit hprobe (by simp) now le_rfl hlt
      (by simp) hlater
    rw [after_append] at hopened
    exact state_recordFailure_of_halfOpen hprobe hopened
  · intro hcond before now provider between rest hsplit hprobe _ later hle hlt
    rcases hcond with rfl | hnever
    · simp [new] at hlt
      omega
    · exact absurd ⟨before, now, provider, between ++ rest, hsplit, hprobe⟩ hnever

def failedProbe : HealthHistory where
  events := [(0, .failure "jito"), (0, .failure "jito"), (0, .failure "jito"),
    (30 * nanosPerSec, .failure "jito")]
  ordered := by decide

theorem failed_probe_stays_halfOpen : ¬ (new 3 30).Reopens failedProbe := by
  intro hreopens
  have hopened := hreopens
    [(0, .failure "jito"), (0, .failure "jito"), (0, .failure "jito")] (30 * nanosPerSec) "jito"
    [] [] rfl (by decide) (by simp) (30 * nanosPerSec) le_rfl (by decide) (by simp) (by simp)
  exact absurd hopened (by decide)

/-! ## No provider is open for ever -/

variable {t : ProviderHealthTracker} {provider : String} {now : Nat}

def Dated (t : ProviderHealthTracker) : Prop :=
  ∀ provider c, t.circuits.lookup provider = some c →
    t.failureThreshold ≤ c.consecutiveFailures → c.openedAt.isSome

theorem dated_new (failureThreshold cooldownSecs : Nat) :
    (new failureThreshold cooldownSecs).Dated := by
  intro provider c hlook
  cases hlook

theorem Dated.record (ht : t.Dated) {e : Nat × HealthEvent}
    (hsuccess : ∀ provider, e.2 = .success provider →
      0 < t.failureThreshold ∨ t.circuits.lookup provider = none) :
    (t.record e).Dated := by
  obtain ⟨now, e⟩ := e
  intro provider c hlook hcount
  rw [record_failureThreshold] at hcount
  cases e with
  | success provider' =>
      simp only [ProviderHealthTracker.record, lookup_recordSuccess] at hlook
      split at hlook
      case isTrue heq =>
        obtain ⟨c', hlook', rfl⟩ := Option.map_eq_some_iff.mp hlook
        rcases hsuccess provider' rfl with hpos | hnone
        · exact absurd hcount (Nat.not_le_of_lt hpos)
        · rw [heq, hnone] at hlook'
          cases hlook'
      case isFalse => exact ht provider c hlook hcount
  | failure provider' =>
      simp only [ProviderHealthTracker.record, lookup_recordFailure] at hlook
      split at hlook
      case isTrue =>
        cases hlook
        simp only [ProviderCircuit.fail] at hcount ⊢
        simp only [hcount, decide_true, Bool.true_and]
        split
        case isTrue => rfl
        case isFalse hnone => simpa [Option.isSome_iff_ne_none] using hnone
      case isFalse => exact ht provider c hlook hcount

theorem state_recordSuccess :
    (t.recordSuccess provider).state provider now = .closed ↔
      0 < t.failureThreshold ∨ t.circuits.lookup provider = none := by
  unfold state
  rw [lookup_recordSuccess, if_pos rfl]
  cases t.circuits.lookup provider with
  | none => simp
  | some c =>
      simp only [Option.map_some, reduceCtorEq, or_false]
      change (if 0 < t.failureThreshold then CircuitState.closed else .opened) = _ ↔ _
      split <;> simp_all

theorem Dated.exists_state_ne (ht : t.Dated) (provider : String) (earliest : Nat) :
    ∃ now, earliest ≤ now ∧ t.state provider now ≠ .opened := by
  cases hlook : t.circuits.lookup provider with
  | none => exact ⟨earliest, le_rfl, by simp [state, hlook]⟩
  | some c =>
      by_cases hcount : c.consecutiveFailures < t.failureThreshold
      · exact ⟨earliest, le_rfl, by simp [state, hlook, hcount]⟩
      · obtain ⟨opened, hopened⟩ :=
          Option.isSome_iff_exists.mp (ht provider c hlook (Nat.le_of_not_lt hcount))
        refine ⟨earliest + (opened + t.cooldownSecs * nanosPerSec), Nat.le_add_right _ _, ?_⟩
        have helapsed : t.cooldownSecs ≤
            (earliest + (opened + t.cooldownSecs * nanosPerSec) - opened) / nanosPerSec := by
          rw [Nat.le_div_iff_mul_le (by decide)]
          omega
        simp [state, hlook, hcount, hopened, helapsed]

section

variable (t : ProviderHealthTracker) (h : HealthHistory)

structure Recovers : Prop where
  closes : ∀ before now provider rest, h.events = before ++ (now, .success provider) :: rest →
    (t.after (before ++ [(now, .success provider)])).state provider now = .closed
  dated : ∀ before, before <+: h.events → (t.after before).Dated
  reopens : ∀ before, before <+: h.events → ∀ provider,
    ∃ later, (∀ e ∈ before, e.1 ≤ later) ∧ (t.after before).state provider later ≠ .opened

end

private theorem exists_latest (events : List (Nat × HealthEvent)) :
    ∃ now, ∀ e ∈ events, e.1 ≤ now := by
  induction events with
  | nil => exact ⟨0, by simp⟩
  | cons e events ih =>
      obtain ⟨now, hnow⟩ := ih
      refine ⟨max e.1 now, List.forall_mem_cons.mpr ⟨le_max_left _ _, fun e' he' => ?_⟩⟩
      exact (hnow e' he').trans (le_max_right _ _)

private theorem lookup_new_after (failureThreshold cooldownSecs : Nat)
    (events : List (Nat × HealthEvent)) (provider : String) :
    ((new failureThreshold cooldownSecs).after events).circuits.lookup provider = none ↔
      ∀ e ∈ events, e.2 ≠ .failure provider := by
  rw [lookup_after_eq_none]
  exact and_iff_right rfl

/-- A threshold of zero opens the circuit for good at a success after a failure. -/
theorem recovers_iff {p : Platform} (cfg : ValidSettings p) (h : HealthHistory) :
    (ofSettings cfg.val).Recovers h ↔
      0 < cfg.val.swqosCircuitBreakerFailures ∨ h.NeverRecovers := by
  constructor
  · intro hrecovers
    refine or_iff_not_imp_left.mpr fun hzero before now provider rest hsplit => ?_
    have hclosed := hrecovers.closes before now provider rest hsplit
    rw [after_append] at hclosed
    have hnone := (state_recordSuccess.mp hclosed).resolve_left (by rwa [after_failureThreshold])
    exact (lookup_new_after _ _ before provider).mp hnone
  · intro hcond
    have hsuccess (before : List (Nat × HealthEvent)) (now : Nat) (provider : String)
        (rest : List (Nat × HealthEvent))
        (hsplit : h.events = before ++ (now, .success provider) :: rest) :
        0 < ((ofSettings cfg.val).after before).failureThreshold ∨
          ((ofSettings cfg.val).after before).circuits.lookup provider = none := by
      refine hcond.imp (fun hpos => ?_) fun hnever => ?_
      · rw [after_failureThreshold]
        exact hpos
      · exact (lookup_new_after _ _ before provider).mpr (hnever before now provider rest hsplit)
    have hdated (before : List (Nat × HealthEvent)) (hfront : before <+: h.events) :
        ((ofSettings cfg.val).after before).Dated := by
      induction before using List.reverseRecOn with
      | nil => exact dated_new _ _
      | append_singleton before e ih =>
          obtain ⟨rest, hsplit⟩ := hfront
          rw [List.append_assoc] at hsplit
          rw [after_append]
          refine (ih ⟨_, hsplit⟩).record fun provider heq => ?_
          obtain ⟨now, e⟩ := e
          cases heq
          exact hsuccess before now provider rest hsplit.symm
    refine ⟨fun before now provider rest hsplit => ?_, hdated, fun before hfront provider => ?_⟩
    · rw [after_append]
      exact state_recordSuccess.mpr (hsuccess before now provider rest hsplit)
    · obtain ⟨latest, hlatest⟩ := exists_latest before
      obtain ⟨later, hle, hstate⟩ := (hdated before hfront).exists_state_ne provider latest
      exact ⟨later, fun e he => (hlatest e he).trans hle, hstate⟩

/-! ## A threshold of zero -/

theorem zeroThreshold_valid :
    { Settings.plain with swqosCircuitBreakerFailures := 0 }.validate .plain = .ok () :=
  Settings.plain_valid

def zeroThreshold : ValidSettings .plain := ⟨_, zeroThreshold_valid⟩

def failedThenSent : HealthHistory where
  events := [(0, .failure "jito"), (nanosPerSec, .success "jito")]
  ordered := by decide

theorem success_leaves_open : ¬ (ofSettings zeroThreshold.val).Recovers failedThenSent := by
  intro hrecovers
  have hclosed := hrecovers.closes [(0, .failure "jito")] nanosPerSec "jito" [] rfl
  exact absurd hclosed (by decide)

end ProviderHealthTracker

end Girasol
