import Girasol.Foundation.Runs
import Girasol.Send.Transaction

/-!
# Waiting for the first entry of a cache

The blockhash cache and the leader cache are filled by a refresh loop of their
own.  After its first entry the loop wakes the waiters once, and a notification
wakes only those that are registered by then.  A waiter looks at the cache first
and registers afterwards; steps of the loop may come in between.
-/

namespace Girasol

open Foundation

/-! ## What the loops fetch -/

structure CachedBlockhash where
  blockhash : Hash
  lastValidBlockHeight : Nat
  fetchedAt : Nat
  deriving DecidableEq

structure CachedLeader where
  slot : Nat
  leader : Option Pubkey
  fetchedAt : Nat
  deriving DecidableEq

inductive Received (Stage Value : Type) where
  | failed
  | next (stage : Stage)
  | fetched (value : Value)

structure RefreshSource where
  Value : Type
  Stage : Type
  Answer : Type
  first : Stage
  /-- Nothing where the answer does not belong to the request. -/
  receive : Stage → Answer → Nat → Option (Received Stage Value)

def BlockhashCache.source : RefreshSource where
  Value := CachedBlockhash
  Stage := Unit
  Answer := Except String (Hash × Nat)
  first := ()
  receive _ answer now :=
    match answer with
    | .ok (blockhash, lastValid) => some (.fetched ⟨blockhash, lastValid, now⟩)
    | .error _ => some .failed

namespace LeaderCache

inductive Stage where
  | slot
  | leaders (slot : Nat)

inductive Answer where
  | slot (result : Except String Nat)
  | leaders (result : Except String (List Pubkey))

def source : RefreshSource where
  Value := CachedLeader
  Stage := Stage
  Answer := Answer
  first := .slot
  receive
    | .slot, .slot (.ok slot), _ => some (.next (.leaders slot))
    | .slot, .slot (.error _), _ => some .failed
    | .leaders slot, .leaders (.ok leaders), now =>
        some (.fetched ⟨slot, leaders.getLast?, now⟩)
    | .leaders _, .leaders (.error _), _ => some .failed
    | .slot, .leaders _, _ => none
    | .leaders _, .slot _, _ => none

end LeaderCache

inductive CacheKind where
  | blockhash
  | leader
  deriving DecidableEq, Repr

def CacheKind.source : CacheKind → RefreshSource
  | blockhash => BlockhashCache.source
  | leader => LeaderCache.source

/-! ## One cache -/

inductive Refresh (src : RefreshSource) where
  | sleeping
  | asking (stage : src.Stage)
  | storing (value : src.Value)
  | notifying

/-- A call of `wait_ready`; the deadline runs from the registration. -/
inductive Waiter where
  | absent
  | checking (timeout : Nat)
  | missed (timeout : Nat)
  | waiting (deadline : Nat) (woken : Bool)
  | ready
  | timedOut (deadline : Nat)
  deriving DecidableEq, Repr

inductive WaiterEvent where
  | call (timeout : Nat)
  | check
  | register
  | finish
  | expire
  deriving DecidableEq, Repr

namespace Waiter

/-- `wait_ready`, step by step. -/
def move (populated : Bool) (now : Nat) : Waiter → WaiterEvent → Option Waiter
  | absent, .call timeout => some (checking timeout)
  | checking timeout, .check => some (if populated then ready else missed timeout)
  | missed timeout, .register => some (waiting (now + timeout) false)
  | waiting _ true, .finish => some ready
  | waiting deadline false, .expire => if deadline ≤ now then some (timedOut deadline) else none
  | _, _ => none

/-- `notify_waiters` for one waiter: it wakes the registered ones. -/
def notified : Waiter → Waiter
  | waiting deadline _ => waiting deadline true
  | other => other

end Waiter

structure ReadyCache (src : RefreshSource) where
  now : Nat := 0
  inner : Option src.Value := none
  storedAt : Option Nat := none
  firstSuccess : Bool := true
  refresh : Refresh src := .sleeping
  waiters : Nat → Waiter := fun _ => .absent

inductive CacheEvent (src : RefreshSource) where
  | elapse (time : Nat)
  | tick
  | answer (answer : src.Answer)
  | store
  | notify
  | waiter (w : Nat) (event : WaiterEvent)

namespace ReadyCache

variable {src : RefreshSource} {s s' : ReadyCache src} {e : CacheEvent src}

def setWaiter (s : ReadyCache src) (w : Nat) (waiter : Waiter) : ReadyCache src :=
  { s with waiters := fun w' => if w' = w then waiter else s.waiters w' }

def received (s : ReadyCache src) : Received src.Stage src.Value → ReadyCache src
  | .failed => { s with refresh := .sleeping }
  | .next stage => { s with refresh := .asking stage }
  | .fetched value => { s with refresh := .storing value }

def step (s : ReadyCache src) : CacheEvent src → Option (ReadyCache src)
  | .elapse time => some { s with now := s.now + time }
  | .tick =>
      match s.refresh with
      | .sleeping => some { s with refresh := .asking src.first }
      | _ => none
  | .answer answer =>
      match s.refresh with
      | .asking stage => (src.receive stage answer s.now).map s.received
      | _ => none
  | .store =>
      match s.refresh with
      | .storing value => some
          { s with
            inner := some value
            storedAt := s.storedAt.or (some s.now)
            refresh := if s.firstSuccess then .notifying else .sleeping }
      | _ => none
  | .notify =>
      match s.refresh with
      | .notifying => some
          { s with
            firstSuccess := false
            refresh := .sleeping
            waiters := fun w => (s.waiters w).notified }
      | _ => none
  | .waiter w event =>
      ((s.waiters w).move s.inner.isSome s.now event).map (s.setWaiter w)

def initial (src : RefreshSource) : ReadyCache src := {}

/-- No call timed out whose deadline was later than the first entry. -/
def NoneLost (s : ReadyCache src) : Prop :=
  ∀ w deadline, s.waiters w = .timedOut deadline →
    ∀ stored, s.storedAt = some stored → deadline ≤ stored

/--
No waiter registers after the notification, and none expires between the first
entry and its notification, with a deadline later than that entry.
-/
def Timely (s : ReadyCache src) (e : CacheEvent src) : Prop :=
  ∀ w stored, s.storedAt = some stored →
    (e = .waiter w .register → s.firstSuccess = false →
      ∀ timeout, s.waiters w = .missed timeout → s.now + timeout ≤ stored) ∧
    (e = .waiter w .expire → s.firstSuccess = true →
      ∀ deadline, s.waiters w = .waiting deadline false → deadline ≤ stored)

/-! ## What a step does -/

theorem step_cases (h : s.step e = some s') :
    (∃ time, s' = { s with now := s.now + time }) ∨
    (∃ refresh, refresh ≠ .notifying ∧ s' = { s with refresh := refresh }) ∨
    (∃ value, s' = { s with
      inner := some value
      storedAt := s.storedAt.or (some s.now)
      refresh := if s.firstSuccess then .notifying else .sleeping }) ∨
    (s.refresh = .notifying ∧ s' = { s with
      firstSuccess := false
      refresh := .sleeping
      waiters := fun w => (s.waiters w).notified }) ∨
    (∃ w event waiter, e = .waiter w event ∧
      (s.waiters w).move s.inner.isSome s.now event = some waiter ∧ s' = s.setWaiter w waiter) := by
  cases e with
  | elapse time =>
      cases h
      exact .inl ⟨time, rfl⟩
  | tick =>
      simp only [step] at h
      split at h
      case h_1 =>
        cases h
        exact .inr (.inl ⟨_, by simp, rfl⟩)
      case h_2 => cases h
  | answer answer =>
      simp only [step] at h
      split at h
      case h_1 =>
        obtain ⟨received, -, rfl⟩ := Option.map_eq_some_iff.mp h
        cases received with
        | failed => exact .inr (.inl ⟨.sleeping, by simp, rfl⟩)
        | next stage => exact .inr (.inl ⟨.asking stage, by simp, rfl⟩)
        | fetched value => exact .inr (.inl ⟨.storing value, by simp, rfl⟩)
      case h_2 => cases h
  | store =>
      simp only [step] at h
      split at h
      case h_1 value _ =>
        cases h
        exact .inr (.inr (.inl ⟨value, rfl⟩))
      case h_2 => cases h
  | notify =>
      simp only [step] at h
      split at h
      case h_1 hnotifying =>
        cases h
        exact .inr (.inr (.inr (.inl ⟨hnotifying, rfl⟩)))
      case h_2 => cases h
  | waiter w event =>
      obtain ⟨waiter, hmove, rfl⟩ := Option.map_eq_some_iff.mp h
      exact .inr (.inr (.inr (.inr ⟨w, event, waiter, rfl, hmove, rfl⟩)))

section

variable {waiter : Waiter} {populated : Bool} {now deadline : Nat} {event : WaiterEvent}

theorem eq_of_move_timedOut (h : waiter.move populated now event = some (.timedOut deadline)) :
    waiter = .waiting deadline false ∧ event = .expire ∧ deadline ≤ now := by
  unfold Waiter.move at h
  split at h
  case h_2 => split at h <;> cases h
  case h_5 =>
    split at h
    case isTrue hnow =>
      cases h
      exact ⟨rfl, rfl, hnow⟩
    case isFalse => cases h
  all_goals cases h

theorem eq_of_move_waiting (h : waiter.move populated now event = some (.waiting deadline false)) :
    ∃ timeout, waiter = .missed timeout ∧ event = .register ∧ deadline = now + timeout := by
  unfold Waiter.move at h
  split at h
  case h_2 => split at h <;> cases h
  case h_3 timeout =>
    cases h
    exact ⟨timeout, rfl, rfl, rfl⟩
  case h_5 => split at h <;> cases h
  all_goals cases h

theorem notified_eq_timedOut (h : waiter.notified = .timedOut deadline) :
    waiter = .timedOut deadline := by
  cases waiter <;> simp_all [Waiter.notified]

private theorem notified_ne_unwoken : waiter.notified ≠ .waiting deadline false := by
  cases waiter <;> simp [Waiter.notified]

end

/-! ## Timely runs -/

structure Inv (s : ReadyCache src) : Prop where
  timedOut_le : ∀ w deadline, s.waiters w = .timedOut deadline → deadline ≤ s.now
  stored_of_notifying : s.refresh = .notifying → s.storedAt.isSome = true
  stored_of_notified : s.firstSuccess = false → s.storedAt.isSome = true
  /-- A waiter that the notification missed has nothing to miss. -/
  unwoken : s.firstSuccess = false → ∀ w deadline, s.waiters w = .waiting deadline false →
    ∀ stored, s.storedAt = some stored → deadline ≤ stored
  noneLost : s.NoneLost

theorem inv_initial : Inv (initial src) where
  timedOut_le _ _ h := by cases h
  stored_of_notifying h := by cases h
  stored_of_notified h := by cases h
  unwoken h := by cases h
  noneLost _ _ h := by cases h

theorem inv_step (htimely : s.Timely e) (hstep : s.step e = some s') (hinv : s.Inv) : s'.Inv := by
  obtain ⟨time, rfl⟩ | ⟨refresh, hrefresh, rfl⟩ | ⟨value, rfl⟩ | ⟨hnotifying, rfl⟩ |
    ⟨w, event, waiter, rfl, hmove, rfl⟩ := step_cases hstep
  · exact ⟨fun w d h => (hinv.timedOut_le w d h).trans (Nat.le_add_right _ _),
      hinv.stored_of_notifying, hinv.stored_of_notified, hinv.unwoken, hinv.noneLost⟩
  · exact ⟨hinv.timedOut_le, fun h => absurd h hrefresh, hinv.stored_of_notified, hinv.unwoken,
      hinv.noneLost⟩
  · have hstored {stored : Nat} (h : s.storedAt.or (some s.now) = some stored) :
        s.storedAt = some stored ∨ s.storedAt = none ∧ stored = s.now := by
      cases hold : s.storedAt with
      | none =>
          rw [hold, Option.none_or, Option.some.injEq] at h
          exact .inr ⟨rfl, h.symm⟩
      | some old =>
          rw [hold, Option.some_or] at h
          exact .inl h
    have hsome : (s.storedAt.or (some s.now)).isSome = true := by
      cases s.storedAt <;> rfl
    refine ⟨hinv.timedOut_le, fun _ => hsome, fun _ => hsome, ?_, ?_⟩
    · intro hnotified w d hw stored h
      obtain hold | ⟨hnone, -⟩ := hstored h
      · exact hinv.unwoken hnotified w d hw stored hold
      · have hisSome := hinv.stored_of_notified hnotified
        simp [hnone] at hisSome
    · intro w d hw stored h
      obtain hold | ⟨-, rfl⟩ := hstored h
      · exact hinv.noneLost w d hw stored hold
      · exact hinv.timedOut_le w d hw
  · exact ⟨fun w d h => hinv.timedOut_le w d (notified_eq_timedOut h), nofun,
      fun _ => hinv.stored_of_notifying hnotifying,
      fun _ _ _ h => absurd h notified_ne_unwoken,
      fun w d h => hinv.noneLost w d (notified_eq_timedOut h)⟩
  · have hsame (w' : Nat) (other : Waiter) (h : (s.setWaiter w waiter).waiters w' = other) :
        w' = w ∧ waiter = other ∨ s.waiters w' = other := by
      simp only [setWaiter] at h
      split at h
      case isTrue hw => exact .inl ⟨hw, h⟩
      case isFalse => exact .inr h
    refine ⟨?_, hinv.stored_of_notifying, hinv.stored_of_notified, ?_, ?_⟩
    · intro w' d h
      obtain ⟨rfl, rfl⟩ | hold := hsame w' _ h
      · exact (eq_of_move_timedOut hmove).2.2
      · exact hinv.timedOut_le w' d hold
    · intro hnotified w' d h stored hstored
      obtain ⟨rfl, rfl⟩ | hold := hsame w' _ h
      · obtain ⟨timeout, hmissed, rfl, rfl⟩ := eq_of_move_waiting hmove
        exact (htimely w' stored hstored).1 rfl hnotified timeout hmissed
      · exact hinv.unwoken hnotified w' d hold stored hstored
    · intro w' d h stored hstored
      obtain ⟨rfl, rfl⟩ | hold := hsame w' _ h
      · obtain ⟨hwaiting, rfl, -⟩ := eq_of_move_timedOut hmove
        cases hfirst : s.firstSuccess with
        | false => exact hinv.unwoken hfirst w' d hwaiting stored hstored
        | true => exact (htimely w' stored hstored).2 rfl hfirst d hwaiting
      · exact hinv.noneLost w' d hold stored hstored

theorem inv_run {es : List (CacheEvent src)} {t : ReadyCache src}
    (hrun : Run step Timely (initial src) es t) : t.Inv :=
  hrun.invariant (fun _ _ _ htimely hstep => inv_step htimely hstep) inv_initial

/-! ## Other steps -/

theorem lost_of_not_timely (hlate : ¬s.Timely e) (hstep : s.step e = some s') :
    ∃ es t, Run step (fun _ _ => True) s' es t ∧ ¬t.NoneLost := by
  simp only [Timely, not_forall, not_and_or, not_le] at hlate
  obtain ⟨w, stored, hstored, ⟨rfl, hnotified, timeout, hmissed, hlate⟩ |
    ⟨rfl, -, deadline, hwaiting, hlate⟩⟩ := hlate
  · simp only [step, hmissed, Waiter.move, Option.map_some, Option.some.injEq] at hstep
    subst hstep
    let waited : ReadyCache src :=
      { s.setWaiter w (.waiting (s.now + timeout) false) with now := s.now + timeout }
    have hexpire : waited.step (.waiter w .expire) =
        some (waited.setWaiter w (.timedOut (s.now + timeout))) := by
      simp [waited, step, setWaiter, Waiter.move]
    refine ⟨[.elapse timeout, .waiter w .expire], _,
      .cons trivial rfl (.cons trivial hexpire (.nil _)), fun hnone => ?_⟩
    have hle := hnone w (s.now + timeout) (if_pos rfl) stored hstored
    omega
  · obtain ⟨waiter, hmove, rfl⟩ := Option.map_eq_some_iff.mp hstep
    refine ⟨[], _, .nil _, fun hnone => ?_⟩
    rw [hwaiting, Waiter.move] at hmove
    split at hmove
    case isFalse => cases hmove
    case isTrue =>
      cases hmove
      have hle := hnone w deadline (if_pos rfl) stored hstored
      omega

def lost (s : ReadyCache src) (w : Nat) : Bool :=
  match s.waiters w, s.storedAt with
  | .timedOut deadline, some stored => stored < deadline
  | _, _ => false

private theorem not_noneLost_of_lost {w : Nat} (h : s.lost w = true) : ¬s.NoneLost := by
  intro hnone
  unfold lost at h
  split at h
  case h_1 deadline stored hw hstored =>
    have hle := hnone w deadline hw stored hstored
    simp only [decide_eq_true_eq] at h
    omega
  case h_2 => cases h

theorem exists_run_of_lost {w : Nat} {es : List (CacheEvent src)}
    (h : (exec step (fun _ _ => True) s es).map (fun t => t.lost w) = some true) :
    ∃ t, Run step (fun _ _ => True) s es t ∧ ¬t.NoneLost := by
  obtain ⟨t, hrun, hlost⟩ := exists_run_of_exec h
  exact ⟨t, hrun, not_noneLost_of_lost hlost⟩

end ReadyCache

/-- In both caches: no call of a timely run is lost, and after any other step one may be. -/
theorem wait_ready_timely (kind : CacheKind) :
    (∀ es t, Run ReadyCache.step ReadyCache.Timely (ReadyCache.initial kind.source) es t →
      t.NoneLost) ∧
    ∀ (s : ReadyCache kind.source) e s', ¬s.Timely e → s.step e = some s' →
      ∃ es t, Run ReadyCache.step (fun _ _ => True) s' es t ∧ ¬t.NoneLost :=
  ⟨fun _ _ hrun => (ReadyCache.inv_run hrun).noneLost, fun _ _ _ => ReadyCache.lost_of_not_timely⟩

def wokenInTime : List (CacheEvent CacheKind.blockhash.source) :=
  [.waiter 0 (.call 30), .waiter 0 .check, .waiter 0 .register, .tick,
    .answer (.ok (List.replicate 32 1, 1150)), .store, .notify, .elapse 30, .waiter 0 .finish]

theorem wait_ready_timely_woken :
    ∃ t, Run ReadyCache.step ReadyCache.Timely (ReadyCache.initial CacheKind.blockhash.source)
        wokenInTime t ∧ t.waiters 0 = .ready ∧ t.NoneLost := by
  have hempty {s : ReadyCache CacheKind.blockhash.source}
      {e : CacheEvent CacheKind.blockhash.source} (h : s.storedAt = none) : s.Timely e := by
    intro w stored hstored
    rw [h] at hstored
    cases hstored
  have hrun : ∃ t, Run ReadyCache.step ReadyCache.Timely
      (ReadyCache.initial CacheKind.blockhash.source) wokenInTime t ∧ t.waiters 0 = .ready := by
    refine ⟨_, .cons (hempty rfl) rfl (.cons (hempty rfl) rfl (.cons (hempty rfl) rfl
      (.cons (hempty rfl) rfl (.cons (hempty rfl) rfl (.cons (hempty rfl) rfl
        (.cons ?_ rfl (.cons ?_ rfl (.cons ?_ rfl (.nil _))))))))), rfl⟩
    all_goals simp [ReadyCache.Timely]
  obtain ⟨t, hrun, hready⟩ := hrun
  exact ⟨t, hrun, hready, (wait_ready_timely .blockhash).1 _ t hrun⟩

/-! ## A lost wakeup -/

def lostWakeup {src : RefreshSource} (answers : List src.Answer) : List (CacheEvent src) :=
  [.tick, .waiter 0 (.call 30), .waiter 0 .check] ++ answers.map .answer ++
    [.store, .notify, .waiter 0 .register, .elapse 30, .waiter 0 .expire]

theorem wait_ready_loses_wakeup :
    (∃ t, Run ReadyCache.step (fun _ _ => True) (ReadyCache.initial CacheKind.blockhash.source)
        (lostWakeup [.ok (List.replicate 32 1, 1150)]) t ∧ ¬t.NoneLost) ∧
      ∃ t, Run ReadyCache.step (fun _ _ => True) (ReadyCache.initial CacheKind.leader.source)
        (lostWakeup [.slot (.ok 1000), .leaders (.ok [List.replicate 32 2])]) t ∧ ¬t.NoneLost := by
  refine ⟨ReadyCache.exists_run_of_lost (w := 0) ?_, ReadyCache.exists_run_of_lost (w := 0) ?_⟩
  · decide +kernel
  · decide +kernel

end Girasol
