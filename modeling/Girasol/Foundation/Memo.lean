import Girasol.Foundation.Recency
import Girasol.Foundation.Runs

/-!
# A cache whose lock is held while a value is read

A lookup takes the lock, answers with a value that is young enough, and reads
the value itself otherwise, all under the lock.  A fetch reads first and waits
for the lock only to store what it read.
-/

namespace Girasol.Foundation

variable {κ ν α β γ : Type*} {capacity : Nat}

structure MemoRules (κ ν α β γ : Type*) where
  /-- How old a stored value may be for a lookup. -/
  ttl : α → Nat
  /-- What a lookup reads, if it reads anything. -/
  read : κ → α → β → Option ν
  /-- What a fetch reads. -/
  fetch : κ → α → γ → Option ν

structure Reading (κ ν : Type*) where
  key : κ
  readAt : Nat
  value : ν
  deriving DecidableEq

structure Memo (κ ν α : Type*) (capacity : Nat) where
  clock : Nat
  /-- Each value is stamped with the moment in which it was stored. -/
  cache : LruCache κ (Nat × ν) capacity
  /-- The lookup that holds the lock while it reads. -/
  reading : Option (κ × α)
  /-- What was fetched and waits for the lock. -/
  fetched : List (Reading κ ν)

inductive MemoEvent (κ α β γ : Type*) where
  | wait (n : Nat)
  | lookup (key : κ) (call : α)
  | read (answer : β)
  | fetch (key : κ) (call : α) (answer : γ)
  | store (waiting : Nat)

namespace Memo

def empty : Memo κ ν α capacity := ⟨0, .empty, none, []⟩

variable [DecidableEq κ]

section

variable (rules : MemoRules κ ν α β γ) (s : Memo κ ν α capacity)

/-- The value with which a lookup answers without reading. -/
def hit (key : κ) (call : α) : Option ν :=
  match (s.cache.get key).1 with
  | some (stamp, value) => if s.clock - stamp < rules.ttl call then some value else none
  | none => none

def lookup (key : κ) (call : α) : Option (Memo κ ν α capacity) :=
  match s.reading with
  | some _ => none
  | none => some { s with
      cache := (s.cache.get key).2
      reading := if (s.hit rules key call).isSome then none else some (key, call) }

end

section

variable [NeZero capacity] (rules : MemoRules κ ν α β γ) (s : Memo κ ν α capacity)

/-- A read that fails leaves the cache as it is. -/
def read (answer : β) : Option (Memo κ ν α capacity) :=
  match s.reading with
  | none => none
  | some (key, call) =>
      match rules.read key call answer with
      | none => some { s with reading := none }
      | some value => some { s with
          cache := s.cache.put key (s.clock, value)
          reading := none }

def fetch (key : κ) (call : α) (answer : γ) : Memo κ ν α capacity :=
  match rules.fetch key call answer with
  | none => s
  | some value => { s with fetched := s.fetched ++ [⟨key, s.clock, value⟩] }

def store (waiting : Nat) : Option (Memo κ ν α capacity) :=
  match s.reading, s.fetched[waiting]? with
  | none, some reading => some { s with
      cache := s.cache.put reading.key (s.clock, reading.value)
      fetched := s.fetched.eraseIdx waiting }
  | _, _ => none

def step : MemoEvent κ α β γ → Option (Memo κ ν α capacity)
  | .wait n => some { s with clock := s.clock + n }
  | .lookup key call => s.lookup rules key call
  | .read answer => s.read rules answer
  | .fetch key call answer => some (s.fetch rules key call answer)
  | .store waiting => s.store waiting

end

/-! ## What a run shows -/

section

variable (rules : MemoRules κ ν α β γ) (s : Memo κ ν α capacity)

/-- The values read in a step. -/
def reads (e : MemoEvent κ α β γ) (_ : Memo κ ν α capacity) : List (Reading κ ν) :=
  match e, s.reading with
  | .read answer, some (key, call) =>
      (rules.read key call answer).toList.map fun value => ⟨key, s.clock, value⟩
  | .fetch key call answer, _ =>
      (rules.fetch key call answer).toList.map fun value => ⟨key, s.clock, value⟩
  | _, _ => []

def uses (e : MemoEvent κ α β γ) (_ : Memo κ ν α capacity) : List (CacheUse κ (Nat × ν)) :=
  match e, s.reading with
  | .lookup key _, none => if ((s.cache.get key).1).isSome then [(key, none)] else []
  | .read answer, some (key, call) =>
      (rules.read key call answer).toList.map fun value => (key, some (s.clock, value))
  | .store waiting, none =>
      (s.fetched[waiting]?).toList.map fun reading =>
        (reading.key, some (s.clock, reading.value))
  | _, _ => []

structure Answer (κ ν α : Type*) where
  key : κ
  call : α
  answeredAt : Nat
  value : ν

def answers (e : MemoEvent κ α β γ) (_ : Memo κ ν α capacity) : List (Answer κ ν α) :=
  match e, s.reading with
  | .lookup key call, none =>
      (s.hit rules key call).toList.map fun value => ⟨key, call, s.clock, value⟩
  | .read answer, some (key, call) =>
      (rules.read key call answer).toList.map fun value => ⟨key, call, s.clock, value⟩
  | _, _ => []

end

variable [NeZero capacity] {rules : MemoRules κ ν α β γ} {s s' t : Memo κ ν α capacity}
  {e : MemoEvent κ α β γ}

/-! ## What a step does -/

/-- Everything that a step can do, with what it shows. -/
inductive Step (rules : MemoRules κ ν α β γ) (s : Memo κ ν α capacity) :
    MemoEvent κ α β γ → Memo κ ν α capacity → Prop
  | wait (n : Nat) : Step rules s (.wait n) { s with clock := s.clock + n }
  | absent (key : κ) (call : α) : s.reading = none → (s.cache.get key).1 = none →
      Step rules s (.lookup key call) { s with reading := some (key, call) }
  | hit (key : κ) (call : α) (stamp : Nat) (value : ν) : s.reading = none →
      (s.cache.get key).1 = some (stamp, value) → s.clock - stamp < rules.ttl call →
      Step rules s (.lookup key call) { s with cache := (s.cache.get key).2 }
  | old (key : κ) (call : α) (stamp : Nat) (value : ν) : s.reading = none →
      (s.cache.get key).1 = some (stamp, value) → ¬s.clock - stamp < rules.ttl call →
      Step rules s (.lookup key call)
        { s with cache := (s.cache.get key).2, reading := some (key, call) }
  | readFailed (key : κ) (call : α) (answer : β) : s.reading = some (key, call) →
      rules.read key call answer = none →
      Step rules s (.read answer) { s with reading := none }
  | read (key : κ) (call : α) (answer : β) (value : ν) : s.reading = some (key, call) →
      rules.read key call answer = some value →
      Step rules s (.read answer)
        { s with cache := s.cache.put key (s.clock, value), reading := none }
  | fetchFailed (key : κ) (call : α) (answer : γ) : rules.fetch key call answer = none →
      Step rules s (.fetch key call answer) s
  | fetch (key : κ) (call : α) (answer : γ) (value : ν) :
      rules.fetch key call answer = some value →
      Step rules s (.fetch key call answer)
        { s with fetched := s.fetched ++ [⟨key, s.clock, value⟩] }
  | store (waiting : Nat) (reading : Reading κ ν) : s.reading = none →
      s.fetched[waiting]? = some reading →
      Step rules s (.store waiting) { s with
        cache := s.cache.put reading.key (s.clock, reading.value)
        fetched := s.fetched.eraseIdx waiting }

theorem step_cases (hstep : s.step rules e = some s') : Step rules s e s' := by
  cases e with
  | wait n =>
      cases hstep
      exact .wait n
  | lookup key call =>
      simp only [step, lookup] at hstep
      cases hreading : s.reading with
      | some other =>
          rw [hreading] at hstep
          cases hstep
      | none =>
          rw [hreading] at hstep
          cases hget : (s.cache.get key).1 with
          | none =>
              have hstay : (s.cache.get key).2 = s.cache := LruCache.get_of_none hget
              simp only [hit, hget, hstay] at hstep
              cases hstep
              exact .absent key call hreading hget
          | some entry =>
              obtain ⟨stamp, value⟩ := entry
              by_cases hyoung : s.clock - stamp < rules.ttl call
              · simp only [hit, hget, if_pos hyoung] at hstep
                cases hstep
                have hcase := Step.hit key call stamp value hreading hget hyoung
                rw [← hreading]
                exact hcase
              · simp only [hit, hget, if_neg hyoung] at hstep
                cases hstep
                exact .old key call stamp value hreading hget hyoung
  | read answer =>
      simp only [step, Memo.read] at hstep
      cases hreading : s.reading with
      | none =>
          rw [hreading] at hstep
          cases hstep
      | some pair =>
          obtain ⟨key, call⟩ := pair
          simp only [hreading] at hstep
          cases hread : rules.read key call answer with
          | none =>
              simp only [hread] at hstep
              cases hstep
              exact .readFailed key call answer hreading hread
          | some value =>
              simp only [hread] at hstep
              cases hstep
              exact .read key call answer value hreading hread
  | fetch key call answer =>
      simp only [step, Memo.fetch] at hstep
      cases hfetch : rules.fetch key call answer with
      | none =>
          simp only [hfetch] at hstep
          cases hstep
          exact .fetchFailed key call answer hfetch
      | some value =>
          simp only [hfetch] at hstep
          cases hstep
          exact .fetch key call answer value hfetch
  | store waiting =>
      simp only [step, Memo.store] at hstep
      split at hstep
      case h_1 reading hreading hwaiting =>
        cases hstep
        exact .store waiting reading hreading hwaiting
      case h_2 => cases hstep

/-! ## The cache and the history -/

theorem reflects_step {history : List (CacheUse κ (Nat × ν))} (hstep : s.step rules e = some s')
    (hs : s.cache.Reflects history.reverse) :
    s'.cache.Reflects (history ++ uses rules s e s').reverse := by
  cases step_cases hstep with
  | wait | fetchFailed | fetch => simpa [uses] using hs
  | absent key call hreading hget => simpa [uses, hreading, hget] using hs
  | hit key call stamp value hreading hget _ | old key call stamp value hreading hget _ =>
      simpa [uses, hreading, hget] using LruCache.reflects_get hs hget
  | readFailed key call answer hreading hread => simpa [uses, hreading, hread] using hs
  | read key call answer value hreading hread =>
      simpa [uses, hreading, hread] using LruCache.reflects_put hs (s.clock, value)
  | store waiting reading hreading hwaiting =>
      simpa [uses, hreading, hwaiting] using LruCache.reflects_put hs (s.clock, reading.value)

theorem reflects_run {events : List (MemoEvent κ α β γ)}
    (hrun : Run (step rules) (fun _ _ => True) s events t) (hs : s.cache.Reflects []) :
    t.cache.Reflects (gather (step rules) (uses rules) s events).reverse := by
  have hmove (s : Memo κ ν α capacity) (e : MemoEvent κ α β γ) (s' : Memo κ ν α capacity)
      (history : List (CacheUse κ (Nat × ν))) (_ : True) (hnext : s.step rules e = some s')
      (hs : s.cache.Reflects history.reverse) :
      s'.cache.Reflects (history ++ uses rules s e s').reverse := reflects_step hnext hs
  have hstart : s.cache.Reflects ([] : List (CacheUse κ (Nat × ν))).reverse := hs
  have hreflects := hrun.invariant_gather hmove hstart
  rwa [List.nil_append] at hreflects

/-! ## Where the values come from -/

def WasRead (readings : List (Reading κ ν)) (key : κ) (moment : Nat) (value : ν) : Prop :=
  ∃ readAt ≤ moment, ⟨key, readAt, value⟩ ∈ readings

omit [DecidableEq κ] in
theorem WasRead.mono {readings : List (Reading κ ν)} {key : κ} {moment : Nat} {value : ν}
    (h : WasRead readings key moment value) (later : List (Reading κ ν)) :
    WasRead (readings ++ later) key moment value := by
  obtain ⟨readAt, hle, hmem⟩ := h
  exact ⟨readAt, hle, List.mem_append_left later hmem⟩

structure Sourced (s : Memo κ ν α capacity) (readings : List (Reading κ ν)) : Prop where
  stored : ∀ key stamp value, (key, (stamp, value)) ∈ s.cache.entries →
    stamp ≤ s.clock ∧ WasRead readings key stamp value
  fetched : ∀ reading ∈ s.fetched, reading.readAt ≤ s.clock ∧ reading ∈ readings

omit [DecidableEq κ] [NeZero capacity] in
theorem sourced_empty : (empty : Memo κ ν α capacity).Sourced [] :=
  ⟨fun _ _ _ hmem => (nomatch hmem), fun _ hmem => (nomatch hmem)⟩

omit [DecidableEq κ] [NeZero capacity] in
theorem Sourced.mono {readings : List (Reading κ ν)} (hs : s.Sourced readings)
    (later : List (Reading κ ν)) : s.Sourced (readings ++ later) := by
  refine ⟨fun key stamp value hmem => ?_, fun reading hmem => ?_⟩
  · obtain ⟨hle, hread⟩ := hs.stored key stamp value hmem
    exact ⟨hle, hread.mono later⟩
  · obtain ⟨hle, hread⟩ := hs.fetched reading hmem
    exact ⟨hle, List.mem_append_left later hread⟩

theorem stored_put {readings : List (Reading κ ν)} (hs : s.Sourced readings) {key : κ} {value : ν}
    (hread : WasRead readings key s.clock value) :
    ∀ key' stamp value',
      (key', (stamp, value')) ∈ (s.cache.put key (s.clock, value)).entries →
        stamp ≤ s.clock ∧ WasRead readings key' stamp value' := by
  intro key' stamp value' hmem
  rcases LruCache.mem_of_mem_put hmem with heq | hkept
  · cases heq
    exact ⟨le_refl _, hread⟩
  · exact hs.stored _ _ _ hkept

theorem sourced_step {readings : List (Reading κ ν)} (hstep : s.step rules e = some s')
    (hs : s.Sourced readings) : s'.Sourced (readings ++ reads rules s e s') := by
  have hkept := hs.mono (reads rules s e s')
  cases step_cases hstep with
  | wait n =>
      refine ⟨fun key stamp value hmem => ?_, fun reading hmem => ?_⟩
      · obtain ⟨hle, hread⟩ := hkept.stored key stamp value hmem
        exact ⟨Nat.le_add_right_of_le hle, hread⟩
      · obtain ⟨hle, hread⟩ := hkept.fetched reading hmem
        exact ⟨Nat.le_add_right_of_le hle, hread⟩
  | absent | readFailed | fetchFailed => exact ⟨hkept.stored, hkept.fetched⟩
  | hit | old =>
      exact ⟨fun _ _ _ hmem => hkept.stored _ _ _ (LruCache.mem_of_mem_get hmem), hkept.fetched⟩
  | read key call answer value hreading hread =>
      refine ⟨stored_put hkept ⟨s.clock, le_refl _, ?_⟩, hkept.fetched⟩
      simp [reads, hreading, hread]
  | fetch key call answer value hfetch =>
      refine ⟨hkept.stored, fun reading hmem => ?_⟩
      rcases List.mem_append.mp hmem with hbefore | hnew
      · exact hkept.fetched reading hbefore
      · rw [List.mem_singleton.mp hnew]
        exact ⟨le_refl _, by simp [reads, hfetch]⟩
  | store waiting reading hreading hwaiting =>
      obtain ⟨hle, hread⟩ := hkept.fetched reading (List.mem_of_getElem? hwaiting)
      refine ⟨stored_put hkept ⟨reading.readAt, hle, hread⟩, fun other hmem => ?_⟩
      exact hkept.fetched other (List.mem_of_mem_eraseIdx hmem)

/-! ## Answers -/

/-- The value was read just now, or stored less than the allowed time ago. -/
def Answer.Fresh (rules : MemoRules κ ν α β γ) (readings : List (Reading κ ν))
    (answer : Answer κ ν α) : Prop :=
  ⟨answer.key, answer.answeredAt, answer.value⟩ ∈ readings ∨
    ∃ stamp ≤ answer.answeredAt, answer.answeredAt - stamp < rules.ttl answer.call ∧
      WasRead readings answer.key stamp answer.value

omit [NeZero capacity] in
theorem hit_eq_some_iff {key : κ} {call : α} {value : ν} :
    s.hit rules key call = some value ↔
      ∃ stamp, (s.cache.get key).1 = some (stamp, value) ∧
        s.clock - stamp < rules.ttl call := by
  unfold hit
  split
  case h_1 stamp value' hget =>
    rw [hget, Option.ite_none_right_eq_some]
    constructor
    · rintro ⟨hyoung, heq⟩
      cases heq
      exact ⟨stamp, rfl, hyoung⟩
    · rintro ⟨stamp', heq, hyoung⟩
      cases heq
      exact ⟨hyoung, rfl⟩
  case h_2 hget =>
    rw [hget]
    simp

omit [NeZero capacity] in
theorem hit_iff {history : List (CacheUse κ (Nat × ν))} (hs : s.cache.Reflects history) {key : κ}
    {call : α} {value : ν} :
    s.hit rules key call = some value ↔
      key ∈ (recents (history.map Prod.fst)).take capacity ∧
        ∃ stamp, lastStored key history = some (stamp, value) ∧
          s.clock - stamp < rules.ttl call := by
  rw [hit_eq_some_iff]
  constructor
  · rintro ⟨stamp, hget, hyoung⟩
    obtain ⟨hkey, hstored⟩ := (LruCache.get_eq_some_iff hs).mp hget
    exact ⟨hkey, stamp, hstored, hyoung⟩
  · rintro ⟨hkey, stamp, hstored, hyoung⟩
    exact ⟨stamp, (LruCache.get_eq_some_iff hs).mpr ⟨hkey, hstored⟩, hyoung⟩

theorem fresh_step {readings : List (Reading κ ν)} (hstep : s.step rules e = some s')
    (hs : s.Sourced readings) :
    ∀ answer ∈ answers rules s e s', answer.Fresh rules (readings ++ reads rules s e s') := by
  have hkept := hs.mono (reads rules s e s')
  intro answer hmem
  cases step_cases hstep with
  | wait | fetchFailed | fetch => simp [answers] at hmem
  | absent key call hreading hget =>
      simp [answers, hreading, hit, hget] at hmem
  | old key call stamp value hreading hget hold =>
      simp [answers, hreading, hit, hget, hold] at hmem
  | hit key call stamp value hreading hget hyoung =>
      simp only [answers, hreading, hit, hget, if_pos hyoung, Option.toList_some, List.map_cons,
        List.map_nil, List.mem_singleton] at hmem
      subst hmem
      obtain ⟨hle, hread⟩ := hkept.stored key stamp value (LruCache.get_fst_eq_some_iff.mp hget)
      exact .inr ⟨stamp, hle, hyoung, hread⟩
  | readFailed key call answer' hreading hread => simp [answers, hreading, hread] at hmem
  | read key call answer' value hreading hread =>
      simp only [answers, hreading, hread, Option.toList_some, List.map_cons, List.map_nil,
        List.mem_singleton] at hmem
      subst hmem
      exact .inl (by simp [reads, hreading, hread])
  | store => simp [answers] at hmem

omit [DecidableEq κ] in
theorem Answer.Fresh.mono {readings : List (Reading κ ν)} {answer : Answer κ ν α}
    (h : answer.Fresh rules readings) (later : List (Reading κ ν)) :
    answer.Fresh rules (readings ++ later) := by
  rcases h with hread | ⟨stamp, hle, hyoung, hread⟩
  · exact .inl (List.mem_append_left later hread)
  · exact .inr ⟨stamp, hle, hyoung, hread.mono later⟩

theorem fresh_run {events : List (MemoEvent κ α β γ)} {readings : List (Reading κ ν)}
    (hrun : Run (step rules) (fun _ _ => True) s events t) (hs : s.Sourced readings) :
    ∀ answer ∈ gather (step rules) (answers rules) s events,
      answer.Fresh rules (readings ++ gather (step rules) (reads rules) s events) := by
  induction hrun generalizing readings with
  | nil => simp [gather]
  | cons _ hnext _ ih =>
      intro answer hmem
      rw [gather_cons hnext, List.mem_append] at hmem
      rw [gather_cons hnext, ← List.append_assoc]
      rcases hmem with hnow | hlater
      · exact (fresh_step hnext hs answer hnow).mono _
      · exact ih (sourced_step hnext hs) answer hlater

end Memo

end Girasol.Foundation
