import Girasol.Cache.WaitReady
import Girasol.Send.Retry

/-!
# The validity of a cached blockhash during a retried send

The cache keeps with a hash the last block height it is valid at.  A retried
send is given the hash alone and counts a window of its own from the height at
its start, so how old the hash is does not enter its checks.
-/

namespace Girasol

open Foundation

/-! ## The hash of a buy -/

def safetyMargin : Nat := 10

def resolveBlockhash (cachedBlockhash : Option CachedBlockhash) (blockHeight : Except String Nat)
    (latestBlockhash : Except String Hash) : Except String (Hash × Bool) :=
  match cachedBlockhash with
  | some cached =>
      match blockHeight with
      | .ok currentHeight =>
          if u64Add currentHeight safetyMargin ≤ cached.lastValidBlockHeight then
            .ok (cached.blockhash, false)
          else
            match latestBlockhash with
            | .ok fresh => .ok (fresh, true)
            | .error _ => .ok (cached.blockhash, false)
      | .error _ => .ok (cached.blockhash, false)
  | none =>
      match latestBlockhash with
      | .ok fresh => .ok (fresh, true)
      | .error e => .error ("No cached blockhash and failed to fetch fresh: " ++ e)

/-! ## The attempts of a call -/

section

variable (p : Platform) (cfg : Settings) (ixs : List Instruction) (payer : Keypair)
  (cachedBlockhash : Option Hash)

def loggedAttempts (lastValidBlockHeight : Nat) :
    Option SendError → List Attempt → List Attempt × Traced Submission SendError String
  | lastError, [] => ([], .lift (.error (lastError.getD (.failed "All retry attempts failed"))))
  | _, attempt :: rest =>
      match isBlockhashValid lastValidBlockHeight attempt with
      | .ok false => ([], .lift (.error (.failed "Blockhash expired before send attempt")))
      | .ok true | .error _ =>
          let sent := sendTransactionViaHelius p cfg ixs payer cachedBlockhash attempt
          match sent.result with
          | .ok _ => ([attempt], sent)
          | .error e =>
              let later := loggedAttempts lastValidBlockHeight (some e) rest
              (attempt :: later.1, later.2.after sent.trace)

def attemptsMade (maxRetries : Nat) (env : SendEnv) : List Attempt :=
  match lastValidBlockHeight cachedBlockhash env.initialHeight with
  | .ok lastValid =>
      (loggedAttempts p cfg ixs payer cachedBlockhash lastValid none
        ((List.range maxRetries).map env.attempt)).1
  | .error _ => []

end

/-- Wherever an attempt learns the block height, it is at most `height`. -/
def SendsWithin (height : Nat) (made : List Attempt) : Prop :=
  ∀ attempt ∈ made, ∀ current, attempt.blockHeight = .ok current → current ≤ height

def windowEnd : Except String Nat → Nat
  | .ok height => u64Add height 150
  | .error _ => u64Max

section

variable {p : Platform} {cfg : Settings} {ixs : List Instruction} {payer : Keypair}
  {cachedBlockhash : Option Hash}

@[simp] theorem isBlockhashValid_of_expired {lastValid : Nat} {attempt : Attempt}
    (hexpired : attempt.expired lastValid = true) :
    isBlockhashValid lastValid attempt = .ok false := by
  unfold Attempt.expired at hexpired
  split at hexpired
  case h_1 valid hvalid => rw [hvalid, (Bool.not_eq_true' valid).mp hexpired]
  case h_2 => cases hexpired

@[simp] theorem isBlockhashValid_of_not_expired {lastValid : Nat} {attempt : Attempt}
    (hexpired : attempt.expired lastValid = false) :
    isBlockhashValid lastValid attempt = .ok true ∨
      ∃ e, isBlockhashValid lastValid attempt = .error e := by
  unfold Attempt.expired at hexpired
  split at hexpired
  case h_1 valid hvalid =>
    exact .inl (by rw [hvalid, (Bool.not_eq_false' (b := valid)).mp hexpired])
  case h_2 e hvalid => exact .inr ⟨e, hvalid⟩

private theorem loggedAttempts_confirmed {lastValid : Nat} {attempt : Attempt} {signature : String}
    (hexpired : attempt.expired lastValid = false)
    (hresult : (sendTransactionViaHelius p cfg ixs payer cachedBlockhash attempt).result =
      .ok signature) (lastError : Option SendError) (rest : List Attempt) :
    loggedAttempts p cfg ixs payer cachedBlockhash lastValid lastError (attempt :: rest) =
      ([attempt], sendTransactionViaHelius p cfg ixs payer cachedBlockhash attempt) := by
  obtain hvalid | ⟨e, hvalid⟩ := isBlockhashValid_of_not_expired hexpired <;>
    simp only [loggedAttempts, hvalid, hresult]

private theorem loggedAttempts_failed {lastValid : Nat} {attempt : Attempt} {e : SendError}
    (hexpired : attempt.expired lastValid = false)
    (hresult : (sendTransactionViaHelius p cfg ixs payer cachedBlockhash attempt).result =
      .error e) (lastError : Option SendError) (rest : List Attempt) :
    loggedAttempts p cfg ixs payer cachedBlockhash lastValid lastError (attempt :: rest) =
      (attempt :: (loggedAttempts p cfg ixs payer cachedBlockhash lastValid (some e) rest).1,
        (loggedAttempts p cfg ixs payer cachedBlockhash lastValid (some e) rest).2.after
          (sendTransactionViaHelius p cfg ixs payer cachedBlockhash attempt).trace) := by
  obtain hvalid | ⟨e', hvalid⟩ := isBlockhashValid_of_not_expired hexpired <;>
    simp only [loggedAttempts, hvalid, hresult]

private theorem loggedAttempts_eq (lastValid : Nat) (lastError : Option SendError)
    (attempts : List Attempt) :
    loggedAttempts p cfg ixs payer cachedBlockhash lastValid lastError attempts =
      (madeAttempts p cfg ixs payer cachedBlockhash lastValid attempts,
        sendAttempts p cfg ixs payer cachedBlockhash lastValid lastError attempts) := by
  induction attempts generalizing lastError with
  | nil => rfl
  | cons attempt rest ih =>
      rw [madeAttempts, sendAttempts_cons, ← attempt_result_isOk]
      cases hexpired : attempt.expired lastValid with
      | true => simp only [loggedAttempts, isBlockhashValid_of_expired hexpired, if_true]
      | false =>
          cases hresult :
              (sendTransactionViaHelius p cfg ixs payer cachedBlockhash attempt).result with
          | ok signature =>
              rw [loggedAttempts_confirmed hexpired hresult]
              simp [hresult, Except.isOk, Except.toBool]
          | error e =>
              rw [loggedAttempts_failed hexpired hresult, ih]
              simp [hresult, Except.isOk, Except.toBool]

private theorem sendTransactionWithRetry_eq {maxRetries : Nat} {env : SendEnv} {lastValid : Nat}
    (hvalid : lastValidBlockHeight cachedBlockhash env.initialHeight = .ok lastValid) :
    attemptsMade p cfg ixs payer cachedBlockhash maxRetries env =
        madeAttempts p cfg ixs payer cachedBlockhash lastValid
          ((List.range maxRetries).map env.attempt) ∧
      sendTransactionWithRetry p cfg ixs payer cachedBlockhash maxRetries env =
        (loggedAttempts p cfg ixs payer cachedBlockhash lastValid none
          ((List.range maxRetries).map env.attempt)).2 := by
  constructor
  · rw [attemptsMade, hvalid]
    simp only [loggedAttempts_eq]
  · rw [sendTransactionWithRetry, hvalid, loggedAttempts_eq]
    rfl

theorem Attempt.expired_iff {lastValid : Nat} {attempt : Attempt} :
    attempt.expired lastValid = true ↔ ∃ h, attempt.blockHeight = .ok h ∧ lastValid < h := by
  unfold Attempt.expired isBlockhashValid
  cases attempt.blockHeight with
  | error e => simp [Except.map]
  | ok height => simp [Except.map]

private theorem mem_madeAttempts_iff {lastValid : Nat} {attempts : List Attempt}
    {attempt : Attempt} :
    attempt ∈ madeAttempts p cfg ixs payer cachedBlockhash lastValid attempts ↔
      ∃ k : Nat, attempts[k]? = some attempt ∧ attempt.expired lastValid = false ∧
        ∀ j < k, ∀ earlier : Attempt, attempts[j]? = some earlier →
          earlier.expired lastValid = false ∧
            earlier.confirmed p cfg ixs payer cachedBlockhash = false := by
  induction attempts with
  | nil => simp [madeAttempts]
  | cons first rest ih =>
      rw [madeAttempts, ← Nat.or_exists_add_one]
      simp only [List.getElem?_cons_zero, List.getElem?_cons_succ, Nat.forall_lt_succ_left,
        Option.some.injEq, forall_eq']
      cases hexpired : first.expired lastValid with
      | true =>
          refine iff_of_false (by simp) ?_
          rintro (⟨rfl, hlive, -⟩ | ⟨k, -, -, ⟨hlive, -⟩, -⟩)
          · simp [hexpired] at hlive
          · cases hlive
      | false =>
          cases hconfirmed : first.confirmed p cfg ixs payer cachedBlockhash with
          | true => grind
          | false => grind

private theorem mem_attemptsMade_iff {maxRetries : Nat} {env : SendEnv} {lastValid : Nat}
    (hvalid : lastValidBlockHeight cachedBlockhash env.initialHeight = .ok lastValid)
    {attempt : Attempt} :
    attempt ∈ attemptsMade p cfg ixs payer cachedBlockhash maxRetries env ↔
      ∃ k < maxRetries, env.attempt k = attempt ∧ attempt.expired lastValid = false ∧
        ∀ j < k, (env.attempt j).expired lastValid = false ∧
          (env.attempt j).confirmed p cfg ixs payer cachedBlockhash = false := by
  have hlookup (k : Nat) (a : Attempt) :
      ((List.range maxRetries).map env.attempt)[k]? = some a ↔
        k < maxRetries ∧ env.attempt k = a := by
    by_cases hk : k < maxRetries <;> simp [hk]
  rw [(sendTransactionWithRetry_eq hvalid).1, mem_madeAttempts_iff]
  simp only [hlookup, and_assoc]
  refine exists_congr fun k => and_congr_right fun hk => and_congr_right fun _ =>
    and_congr_right fun _ => forall₂_congr fun j hj => ?_
  have hbefore : j < maxRetries := hj.trans hk
  simp [hbefore]

private theorem lastValidBlockHeight_cached (blockhash : Hash) (initialHeight : Except String Nat) :
    lastValidBlockHeight (some blockhash) initialHeight = .ok (windowEnd initialHeight) := by
  cases initialHeight <;> rfl

end

/-! ## When the attempts stay within the validity of the hash -/

section

variable (p : Platform) (cfg : Settings) (ixs : List Instruction) (payer : Keypair)
  (blockhash : Hash)

/-- A height of the call between the validity of the hash and the end of the window is not met. -/
def LateHeightsUnmet (height maxRetries : Nat) (env : SendEnv) : Prop :=
  ∀ k < maxRetries, ∀ current, (env.attempt k).blockHeight = .ok current →
    height < current → current ≤ windowEnd env.initialHeight →
      ∃ j < k, (env.attempt j).confirmed p cfg ixs payer (some blockhash) = true ∨
        ∃ earlier, (env.attempt j).blockHeight = .ok earlier ∧
          windowEnd env.initialHeight < earlier

variable {p cfg ixs payer blockhash}

theorem sendsWithin_iff {height maxRetries : Nat} {env : SendEnv} :
    SendsWithin height (attemptsMade p cfg ixs payer (some blockhash) maxRetries env) ↔
      LateHeightsUnmet p cfg ixs payer blockhash height maxRetries env := by
  have hmade (a : Attempt) := @mem_attemptsMade_iff p cfg ixs payer (some blockhash) maxRetries env
    _ (lastValidBlockHeight_cached blockhash env.initialHeight) a
  constructor
  · intro hwithin k hk current hcurrent hlate hwindow
    by_contra hends
    have hlive : (env.attempt k).expired (windowEnd env.initialHeight) = false := by
      rw [Bool.eq_false_iff, ne_eq, Attempt.expired_iff]
      rintro ⟨h, hh, hgt⟩
      rw [hcurrent, Except.ok.injEq] at hh
      omega
    have hbefore (j : Nat) (hj : j < k) :
        (env.attempt j).expired (windowEnd env.initialHeight) = false ∧
          (env.attempt j).confirmed p cfg ixs payer (some blockhash) = false := by
      rw [Bool.eq_false_iff, Bool.eq_false_iff, ne_eq, ne_eq, Attempt.expired_iff]
      exact ⟨fun h => hends ⟨j, hj, .inr h⟩, fun h => hends ⟨j, hj, .inl h⟩⟩
    have hle := hwithin _ ((hmade _).mpr ⟨k, hk, rfl, hlive, hbefore⟩) current hcurrent
    omega
  · intro hunmet attempt hattempt current hcurrent
    obtain ⟨k, hk, rfl, hlive, hbefore⟩ := (hmade attempt).mp hattempt
    rw [Bool.eq_false_iff, ne_eq, Attempt.expired_iff] at hlive
    by_contra hlate
    have hwindow : current ≤ windowEnd env.initialHeight := by
      by_contra hbeyond
      exact hlive ⟨current, hcurrent, by omega⟩
    obtain ⟨j, hj, hends⟩ := hunmet k hk current hcurrent (by omega) hwindow
    obtain ⟨hrunning, hunconfirmed⟩ := hbefore j hj
    rw [Bool.eq_false_iff, ne_eq, Attempt.expired_iff] at hrunning
    obtain hconfirmed | hexpired := hends
    · simp [hconfirmed] at hunconfirmed
    · exact hrunning hexpired

private theorem exists_late_attempt {height maxRetries : Nat} {initialHeight : Except String Nat}
    (hretries : 0 < maxRetries) (hlate : height < windowEnd initialHeight) :
    ∃ attempt : Nat → Attempt, ¬SendsWithin height
      (attemptsMade p cfg ixs payer (some blockhash) maxRetries ⟨initialHeight, attempt⟩) := by
  refine ⟨fun _ => { Attempt.unreachable with blockHeight := .ok (windowEnd initialHeight) },
    fun hwithin => ?_⟩
  obtain ⟨j, hj, -⟩ := sendsWithin_iff.mp hwithin 0 hretries _ rfl hlate (le_refl _)
  omega

end

/--
The attempts of a call keep within the validity of its hash exactly if no late
height is met inside the window; for every course of the block height exactly
if the window does not end later than the hash, or no attempt is allowed.
-/
theorem cached_blockhash_sends_iff (p : Platform) (cfg : Settings) (ixs : List Instruction)
    (payer : Keypair) (cached : CachedBlockhash) (maxRetries : Nat) (env : SendEnv) :
    (SendsWithin cached.lastValidBlockHeight
        (attemptsMade p cfg ixs payer (some cached.blockhash) maxRetries env) ↔
      LateHeightsUnmet p cfg ixs payer cached.blockhash cached.lastValidBlockHeight maxRetries
        env) ∧
    ((∀ attempt : Nat → Attempt, SendsWithin cached.lastValidBlockHeight
        (attemptsMade p cfg ixs payer (some cached.blockhash) maxRetries
          { env with attempt := attempt })) ↔
      maxRetries = 0 ∨ windowEnd env.initialHeight ≤ cached.lastValidBlockHeight) := by
  refine ⟨sendsWithin_iff, ?_, ?_⟩
  · intro hall
    by_contra hlate
    rw [not_or, not_le] at hlate
    obtain ⟨attempt, hattempt⟩ := @exists_late_attempt p cfg ixs payer cached.blockhash _ _
      env.initialHeight (Nat.pos_of_ne_zero hlate.1) hlate.2
    exact hattempt (hall attempt)
  · intro hearly attempt
    refine sendsWithin_iff.mpr fun k hk current _ hgt hle => ?_
    dsimp only at hle
    omega

/-! ## A retry with an expired hash -/

def nearlyExpired : CachedBlockhash := ⟨List.replicate 32 1, 1010, 0⟩

def SendEnv.slow : SendEnv where
  initialHeight := .ok 1002
  attempt
    | 0 => { Attempt.unreachable with blockHeight := .ok 1003 }
    | _ => { Attempt.unreachable with blockHeight := .ok 1011 }

theorem expired_blockhash_sent :
    resolveBlockhash (some nearlyExpired) (.ok 1000) (.error "connection refused") =
        .ok (nearlyExpired.blockhash, false) ∧
      ¬SendsWithin nearlyExpired.lastValidBlockHeight
        (attemptsMade .plain .nozomi [] .plain (some nearlyExpired.blockhash) 3 .slow) := by
  refine ⟨by decide, fun hwithin => ?_⟩
  obtain ⟨j, hj, hends⟩ :=
    sendsWithin_iff.mp hwithin 1 (by decide) 1011 rfl (by decide) (by decide)
  obtain rfl : j = 0 := by omega
  obtain hconfirmed | ⟨earlier, hearlier, hgt⟩ := hends
  · have hunconfirmed : (SendEnv.slow.attempt 0).confirmed .plain .nozomi [] .plain
        (some nearlyExpired.blockhash) = false := Bool.and_false _
    simp [hconfirmed] at hunconfirmed
  · cases hearlier
    exact absurd hgt (by decide)

end Girasol
