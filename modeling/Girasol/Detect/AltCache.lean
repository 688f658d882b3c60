import Girasol.Detect.Shreds
import Girasol.Foundation.Counting
import Girasol.Foundation.Fairness
import Girasol.Foundation.Lru
import Mathlib.Data.Finset.Basic

/-!
# The cache of the lookup tables

`prefetch` spawns a task that reads one table.  The cache and the marks of the
tables that are being read stand behind two locks, and the tasks take steps in
any order.  A step under the lock of the cache is one step here, since no task
waits while it holds this lock; a task can wait while it holds the lock of the
marks.
-/

namespace Girasol.Shreds

open Foundation

structure ResolvedAlt where
  addresses : List Pubkey

def altCacheSize : Nat := 128

instance : NeZero altCacheSize := ⟨by decide⟩

/-- How the blocking task with the RPC call ends. -/
inductive FetchResult where
  | account (data : List UInt8)
  | failed
  | panicked

inductive PrefetchPhase where
  | spawned
  /-- It holds the lock of the marks, has found none, and waits for the lock of the cache. -/
  | checking
  | marked
  | fetching
  | fetched (result : FetchResult)
  /-- The result is handled, and the mark still there. -/
  | settled
  | finished

namespace PrefetchPhase

/-- The mark is the task's own. -/
def underWay : PrefetchPhase → Bool
  | marked | fetching | fetched _ | settled => true
  | spawned | checking | finished => false

def isFetching : PrefetchPhase → Bool
  | fetching => true
  | _ => false

def hasEnded : PrefetchPhase → Bool
  | fetched _ | settled => true
  | _ => false

theorem underWay_of_isFetching {phase : PrefetchPhase} (h : phase.isFetching = true) :
    phase.underWay = true := by
  cases phase <;> first | rfl | cases h

end PrefetchPhase

structure Prefetch where
  alt : Pubkey
  phase : PrefetchPhase

/-- The two parts of `AltCache` and the tasks that work on them. -/
structure SharedAltCache where
  cache : LruCache Pubkey ResolvedAlt altCacheSize
  inFlight : Finset Pubkey
  /-- The task that holds the lock of the marks. -/
  holder : Option Nat
  tasks : List Prefetch

inductive AltEvent where
  | get (alt : Pubkey)
  | pop (alt : Pubkey)
  | prefetch (alt : Pubkey)
  | lock (task : Nat)
  | check (task : Nat)
  | request (task : Nat)
  | answer (task : Nat) (result : FetchResult)
  | settle (task : Nat)
  | unmark (task : Nat)

def AltEvent.task? : AltEvent → Option Nat
  | .get _ | .pop _ | .prefetch _ => none
  | .lock i | .check i | .request i | .answer i _ | .settle i | .unmark i => some i

def AltEvent.byTask : AltEvent → Bool
  | .lock _ | .check _ | .request _ | .settle _ | .unmark _ => true
  | .get _ | .pop _ | .prefetch _ | .answer _ _ => false

theorem AltEvent.isSome_task? {e : AltEvent} (he : e.byTask = true) : e.task?.isSome = true := by
  cases e <;> simp [byTask, task?] at he ⊢

namespace SharedAltCache

def start : SharedAltCache where
  cache := .empty
  inFlight := ∅
  holder := none
  tasks := []

section

variable (s : SharedAltCache) (i : Nat)

def moveTo (phase : PrefetchPhase) : List Prefetch :=
  s.tasks.modify i fun t => { t with phase := phase }

def lock : Option SharedAltCache :=
  match s.tasks[i]? with
  | some ⟨alt, .spawned⟩ =>
      if s.holder.isSome then none
      else if alt ∈ s.inFlight then some { s with tasks := s.moveTo i .finished }
      else some { s with holder := some i, tasks := s.moveTo i .checking }
  | _ => none

/-- Looks for the table in the cache, sets the mark, and gives the lock back. -/
def check : Option SharedAltCache :=
  match s.tasks[i]? with
  | some ⟨alt, .checking⟩ =>
      if s.cache.contains alt then
        some { s with holder := none, tasks := s.moveTo i .finished }
      else
        some { s with
          inFlight := insert alt s.inFlight
          holder := none
          tasks := s.moveTo i .marked }
  | _ => none

def request : Option SharedAltCache :=
  match s.tasks[i]? with
  | some ⟨_, .marked⟩ => some { s with tasks := s.moveTo i .fetching }
  | _ => none

def answer (result : FetchResult) : Option SharedAltCache :=
  match s.tasks[i]? with
  | some ⟨_, .fetching⟩ => some { s with tasks := s.moveTo i (.fetched result) }
  | _ => none

variable (deserialize : List UInt8 → Option (List Pubkey))

def store (alt : Pubkey) : FetchResult → LruCache Pubkey ResolvedAlt altCacheSize
  | .account data =>
      match deserialize data with
      | some addresses => s.cache.put alt ⟨addresses⟩
      | none => s.cache
  | .failed | .panicked => s.cache

def settle : Option SharedAltCache :=
  match s.tasks[i]? with
  | some ⟨alt, .fetched result⟩ =>
      some { s with cache := s.store deserialize alt result, tasks := s.moveTo i .settled }
  | _ => none

def unmark : Option SharedAltCache :=
  match s.tasks[i]? with
  | some ⟨alt, .settled⟩ =>
      if s.holder.isSome then none
      else some { s with inFlight := s.inFlight.erase alt, tasks := s.moveTo i .finished }
  | _ => none

end

def step (deserialize : List UInt8 → Option (List Pubkey)) (s : SharedAltCache) :
    AltEvent → Option SharedAltCache
  | .get alt => some { s with cache := (s.cache.get alt).2 }
  | .pop alt => some { s with cache := s.cache.pop alt }
  | .prefetch alt => some { s with tasks := s.tasks ++ [⟨alt, .spawned⟩] }
  | .lock i => s.lock i
  | .check i => s.check i
  | .request i => s.request i
  | .answer i result => s.answer i result
  | .settle i => s.settle i deserialize
  | .unmark i => s.unmark i

/-! ## What a step does -/

/-- What a task does to the marks and to their lock when it goes to another phase. -/
inductive Moves (s : SharedAltCache) (i : Nat) (alt : Pubkey) :
    PrefetchPhase → PrefetchPhase → Finset Pubkey → Option Nat → Prop
  | skip : s.holder = none → alt ∈ s.inFlight → Moves s i alt .spawned .finished s.inFlight none
  | hold : s.holder = none → alt ∉ s.inFlight →
      Moves s i alt .spawned .checking s.inFlight (some i)
  | cached : Moves s i alt .checking .finished s.inFlight none
  | mark : Moves s i alt .checking .marked (insert alt s.inFlight) none
  | request : Moves s i alt .marked .fetching s.inFlight s.holder
  | answer (result : FetchResult) :
      Moves s i alt .fetching (.fetched result) s.inFlight s.holder
  | settle (result : FetchResult) :
      Moves s i alt (.fetched result) .settled s.inFlight s.holder
  | unmark : s.holder = none → Moves s i alt .settled .finished (s.inFlight.erase alt) none

section

variable {deserialize : List UInt8 → Option (List Pubkey)} {s s' : SharedAltCache} {e : AltEvent}
  {i : Nat}

theorem task_step (he : e.task? = some i) (h : step deserialize s e = some s') :
    ∃ task cache phase marks holder, s.tasks[i]? = some task ∧
      Moves s i task.alt task.phase phase marks holder ∧
      s' = ⟨cache, marks, holder, s.moveTo i phase⟩ := by
  cases e with
  | get alt => cases he
  | pop alt => cases he
  | prefetch alt => cases he
  | lock j =>
      cases he
      simp only [step, lock] at h
      split at h
      case h_1 alt htask =>
        split_ifs at h with hholder hmark
        · cases h
          have hnone : s.holder = none := by simpa using hholder
          exact ⟨_, _, _, _, _, htask, .skip hnone hmark, by rw [← hnone]⟩
        · cases h
          have hnone : s.holder = none := by simpa using hholder
          exact ⟨_, _, _, _, _, htask, .hold hnone hmark, rfl⟩
      case h_2 => cases h
  | check j =>
      cases he
      simp only [step, check] at h
      split at h
      case h_1 alt htask =>
        split_ifs at h with hcached
        · cases h
          exact ⟨_, _, _, _, _, htask, .cached, rfl⟩
        · cases h
          exact ⟨_, _, _, _, _, htask, .mark, rfl⟩
      case h_2 => cases h
  | request j =>
      cases he
      simp only [step, request] at h
      split at h
      case h_1 alt htask =>
        cases h
        exact ⟨_, _, _, _, _, htask, .request, rfl⟩
      case h_2 => cases h
  | answer j result =>
      cases he
      simp only [step, answer] at h
      split at h
      case h_1 alt htask =>
        cases h
        exact ⟨_, _, _, _, _, htask, .answer result, rfl⟩
      case h_2 => cases h
  | settle j =>
      cases he
      simp only [step, settle] at h
      split at h
      case h_1 alt result htask =>
        cases h
        exact ⟨_, _, _, _, _, htask, .settle result, rfl⟩
      case h_2 => cases h
  | unmark j =>
      cases he
      simp only [step, unmark] at h
      split at h
      case h_1 alt htask =>
        split_ifs at h with hholder
        cases h
        have hnone : s.holder = none := by simpa using hholder
        exact ⟨_, _, _, _, _, htask, .unmark hnone, by rw [← hnone]⟩
      case h_2 => cases h

theorem other_step (he : e.task? = none) (h : step deserialize s e = some s') :
    ∃ cache spawned, s' = { s with cache := cache, tasks := s.tasks ++ spawned } ∧
      ∀ task ∈ spawned, task.phase = .spawned := by
  cases e with
  | get alt =>
      cases h
      exact ⟨_, [], by rw [List.append_nil], by simp⟩
  | pop alt =>
      cases h
      exact ⟨_, [], by rw [List.append_nil], by simp⟩
  | prefetch alt =>
      cases h
      exact ⟨_, [⟨alt, .spawned⟩], rfl, by simp⟩
  | lock j => cases he
  | check j => cases he
  | request j => cases he
  | answer j result => cases he
  | settle j => cases he
  | unmark j => cases he

end

/-! ## The invariant -/

def countTasks (s : SharedAltCache) (alt : Pubkey) (check : PrefetchPhase → Bool) : Nat :=
  s.tasks.countP fun task => task.alt == alt && check task.phase

structure Inv (s : SharedAltCache) : Prop where
  checks : ∀ i alt, s.tasks[i]? = some ⟨alt, .checking⟩ → s.holder = some i
  holds : ∀ i, s.holder = some i → ∃ alt, s.tasks[i]? = some ⟨alt, .checking⟩ ∧ alt ∉ s.inFlight
  marks : ∀ alt, s.countTasks alt PrefetchPhase.underWay = if alt ∈ s.inFlight then 1 else 0

theorem inv_start : start.Inv where
  checks := fun i alt h => by cases h
  holds := fun i h => by cases h
  marks := fun alt => rfl

section

variable {deserialize : List UInt8 → Option (List Pubkey)} {s s' : SharedAltCache} {e : AltEvent}
  {i : Nat} {task : Prefetch}

theorem countTasks_moveTo (cache : LruCache Pubkey ResolvedAlt altCacheSize)
    (marks : Finset Pubkey) (holder : Option Nat) (phase : PrefetchPhase) (alt : Pubkey)
    (check : PrefetchPhase → Bool) (htask : s.tasks[i]? = some task) :
    countTasks ⟨cache, marks, holder, s.moveTo i phase⟩ alt check +
        (task.alt == alt && check task.phase).toNat =
      s.countTasks alt check + (task.alt == alt && check phase).toNat :=
  countP_modify _ _ htask

theorem getElem?_moveTo (phase : PrefetchPhase) (j : Nat) (htask : s.tasks[i]? = some task) :
    (s.moveTo i phase)[j]? = if i = j then some ⟨task.alt, phase⟩ else s.tasks[j]? := by
  unfold moveTo
  rw [List.getElem?_modify]
  split
  case isTrue heq =>
    subst heq
    rw [htask]
    rfl
  case isFalse => exact id_map' _

@[simp] theorem task_moveTo (phase : PrefetchPhase) (htask : s.tasks[i]? = some task) :
    (s.moveTo i phase)[i]? = some ⟨task.alt, phase⟩ := by
  rw [getElem?_moveTo phase i htask, if_pos rfl]

private theorem countTasks_pos {check : PrefetchPhase → Bool} (htask : s.tasks[i]? = some task)
    (hphase : check task.phase = true) : 0 < s.countTasks task.alt check := by
  refine List.countP_pos_iff.mpr ⟨task, List.mem_of_getElem? htask, ?_⟩
  rw [beq_self_eq_true, hphase]
  rfl

theorem Inv.marked (hinv : s.Inv) (htask : s.tasks[i]? = some task)
    (hphase : task.phase.underWay = true) : task.alt ∈ s.inFlight := by
  by_contra hmark
  have hcount := hinv.marks task.alt
  have hpos := countTasks_pos htask hphase
  rw [if_neg hmark] at hcount
  omega

theorem Moves.marks {phase : PrefetchPhase} {marks : Finset Pubkey} {holder : Option Nat}
    (hinv : s.Inv) (htask : s.tasks[i]? = some task)
    (hmoves : Moves s i task.alt task.phase phase marks holder) (alt : Pubkey) :
    (if alt ∈ marks then 1 else 0) + (task.alt == alt && task.phase.underWay).toNat =
      (if alt ∈ s.inFlight then 1 else 0) + (task.alt == alt && phase.underWay).toNat := by
  obtain ⟨own, old⟩ := task
  cases hmoves with
  | skip => rfl
  | hold => rfl
  | cached => rfl
  | request => rfl
  | answer => rfl
  | settle => rfl
  | mark =>
      obtain ⟨other, hother, hfree⟩ := hinv.holds i (hinv.checks i own htask)
      rw [htask] at hother
      cases hother
      by_cases halt : own = alt
      · subst halt
        simp [PrefetchPhase.underWay, hfree]
      · simp [PrefetchPhase.underWay, halt, Ne.symm halt]
  | unmark =>
      have hmark : own ∈ s.inFlight := hinv.marked htask rfl
      by_cases halt : own = alt
      · subst halt
        simp [PrefetchPhase.underWay, hmark]
      · simp [PrefetchPhase.underWay, halt, Ne.symm halt]

theorem Moves.checks {phase : PrefetchPhase} {marks : Finset Pubkey} {holder : Option Nat}
    (hinv : s.Inv) (htask : s.tasks[i]? = some task)
    (hmoves : Moves s i task.alt task.phase phase marks holder) {j : Nat} {alt : Pubkey}
    (hj : (s.moveTo i phase)[j]? = some ⟨alt, .checking⟩) : holder = some j := by
  obtain ⟨own, old⟩ := task
  rw [getElem?_moveTo phase j htask] at hj
  split at hj
  case isTrue heq =>
    cases hj
    subst heq
    cases hmoves with
    | hold => rfl
  case isFalse hne =>
    have hholder := hinv.checks j alt hj
    have hother (hown : s.holder = some i) : none = some j := by
      rw [hown] at hholder
      exact absurd (Option.some.inj hholder) hne
    cases hmoves with
    | skip hnone => rwa [hnone] at hholder
    | hold hnone => rw [hnone] at hholder; cases hholder
    | cached => exact hother (hinv.checks i own htask)
    | mark => exact hother (hinv.checks i own htask)
    | request => exact hholder
    | answer => exact hholder
    | settle => exact hholder
    | unmark hnone => rwa [hnone] at hholder

theorem Moves.holds {phase : PrefetchPhase} {marks : Finset Pubkey} {holder : Option Nat}
    (hinv : s.Inv) (htask : s.tasks[i]? = some task)
    (hmoves : Moves s i task.alt task.phase phase marks holder) {j : Nat} (hj : holder = some j) :
    ∃ alt, (s.moveTo i phase)[j]? = some ⟨alt, .checking⟩ ∧ alt ∉ marks := by
  obtain ⟨own, old⟩ := task
  have hkeep (hj : s.holder = some j) (hold : old ≠ .checking) :
      ∃ alt, (s.moveTo i phase)[j]? = some ⟨alt, .checking⟩ ∧ alt ∉ s.inFlight := by
    obtain ⟨alt, halt, hfree⟩ := hinv.holds j hj
    have hne : i ≠ j := by
      rintro rfl
      rw [htask] at halt
      cases halt
      exact hold rfl
    refine ⟨alt, ?_, hfree⟩
    rw [getElem?_moveTo phase j htask, if_neg hne]
    exact halt
  cases hmoves with
  | skip => cases hj
  | hold hnone hfree =>
      cases hj
      exact ⟨own, task_moveTo .checking htask, hfree⟩
  | cached => cases hj
  | mark => cases hj
  | request => exact hkeep hj (by simp)
  | answer => exact hkeep hj (by simp)
  | settle => exact hkeep hj (by simp)
  | unmark => cases hj

theorem inv_task_step (hinv : s.Inv) (he : e.task? = some i)
    (h : step deserialize s e = some s') : s'.Inv := by
  obtain ⟨task, cache, phase, marks, holder, htask, hmoves, rfl⟩ := task_step he h
  refine ⟨fun j alt hj => hmoves.checks hinv htask hj,
    fun j hj => hmoves.holds hinv htask hj, fun alt => ?_⟩
  have hcount := countTasks_moveTo cache marks holder phase alt PrefetchPhase.underWay htask
  have hbefore := hinv.marks alt
  have hmarks := hmoves.marks hinv htask alt
  change countTasks _ alt PrefetchPhase.underWay = if alt ∈ marks then 1 else 0
  omega

theorem inv_step (h : step deserialize s e = some s') (hinv : s.Inv) : s'.Inv := by
  cases he : e.task? with
  | some i => exact inv_task_step hinv he h
  | none =>
      obtain ⟨cache, spawned, rfl, hspawned⟩ := other_step he h
      refine ⟨?_, ?_, ?_⟩
      · intro i alt hi
        rw [List.getElem?_append] at hi
        split at hi
        case isTrue => exact hinv.checks i alt hi
        case isFalse =>
          have hphase := hspawned _ (List.mem_of_getElem? hi)
          cases hphase
      · intro i hi
        obtain ⟨alt, halt, hfree⟩ := hinv.holds i hi
        refine ⟨alt, ?_, hfree⟩
        rw [List.getElem?_append_left (List.getElem?_eq_some_iff.mp halt).1]
        exact halt
      · intro alt
        have hnone : spawned.countP (fun task => task.alt == alt && task.phase.underWay) = 0 := by
          rw [List.countP_eq_zero]
          intro task htask
          rw [hspawned task htask]
          simp [PrefetchPhase.underWay]
        have hmarks := hinv.marks alt
        unfold countTasks at hmarks ⊢
        rw [List.countP_append, hnone, Nat.add_zero]
        exact hmarks

end

/-! ## The end of a fetch -/

section

variable {deserialize : List UInt8 → Option (List Pubkey)} {s s' : SharedAltCache} {e : AltEvent}
  {i : Nat} {alt : Pubkey}

theorem step_check (htask : s.tasks[i]? = some ⟨alt, .checking⟩) :
    ∃ s', step deserialize s (.check i) = some s' ∧ s'.holder = none := by
  simp only [step, check, htask]
  split
  · exact ⟨_, rfl, rfl⟩
  · exact ⟨_, rfl, rfl⟩

theorem step_settle {result : FetchResult} (htask : s.tasks[i]? = some ⟨alt, .fetched result⟩) :
    step deserialize s (.settle i) =
      some { s with
        cache := s.store deserialize alt result
        tasks := s.moveTo i .settled } := by
  simp only [step, settle, htask]

theorem step_unmark (htask : s.tasks[i]? = some ⟨alt, .settled⟩) (hholder : s.holder = none) :
    step deserialize s (.unmark i) =
      some { s with inFlight := s.inFlight.erase alt, tasks := s.moveTo i .finished } := by
  simp [step, unmark, htask, hholder]

theorem notMem_of_unmark (htask : s.tasks[i]? = some ⟨alt, .settled⟩)
    (h : step deserialize s (.unmark i) = some s') : alt ∉ s'.inFlight := by
  simp only [step, unmark, htask] at h
  split at h
  · cases h
  · cases h
    exact Finset.notMem_erase alt s.inFlight

def ownEvent (i : Nat) : PrefetchPhase → Option AltEvent
  | .checking => some (.check i)
  | .fetched _ => some (.settle i)
  | .settled => some (.unmark i)
  | _ => none

private theorem eq_ownEvent {phase : PrefetchPhase} {own : AltEvent}
    (htask : s.tasks[i]? = some ⟨alt, phase⟩) (hown : ownEvent i phase = some own)
    (he : e.task? = some i) (h : step deserialize s e = some s') : e = own := by
  cases phase with
  | spawned => cases hown
  | marked => cases hown
  | fetching => cases hown
  | finished => cases hown
  | checking =>
      cases hown
      cases e <;> cases he <;> simp [step, lock, request, answer, settle, unmark, htask] at h ⊢
  | fetched result =>
      cases hown
      cases e <;> cases he <;> simp [step, lock, check, request, answer, unmark, htask] at h ⊢
  | settled =>
      cases hown
      cases e <;> cases he <;> simp [step, lock, check, request, answer, settle, htask] at h ⊢

theorem task_of_step {phase : PrefetchPhase} {own : AltEvent}
    (htask : s.tasks[i]? = some ⟨alt, phase⟩) (hown : ownEvent i phase = some own) (hne : e ≠ own)
    (h : step deserialize s e = some s') : s'.tasks[i]? = some ⟨alt, phase⟩ := by
  cases he : e.task? with
  | none =>
      obtain ⟨cache, spawned, rfl, -⟩ := other_step he h
      rw [List.getElem?_append_left (List.getElem?_eq_some_iff.mp htask).1]
      exact htask
  | some j =>
      have hother : j ≠ i := by
        rintro rfl
        exact hne (eq_ownEvent htask hown he h)
      obtain ⟨task, cache, phase', marks, holder, hj, hmoves, rfl⟩ := task_step he h
      rw [getElem?_moveTo phase' i hj, if_neg hother]
      exact htask

section

variable (x : Execution (step deserialize) s)

private theorem eventually_free (hinv : s.Inv) (hfair : ∀ e, e.byTask = true → x.Fair e) (n : Nat) :
    ∃ m, n ≤ m ∧ (x.state m).holder = none := by
  have hn : (x.state n).Inv := x.invariant (fun s e s' h hs => inv_step h hs) hinv n
  cases hholder : (x.state n).holder with
  | none => exact ⟨n, Nat.le_refl n, hholder⟩
  | some j =>
      obtain ⟨alt, htask, -⟩ := hn.holds j hholder
      obtain ⟨m, hm, hchecking, hevent⟩ := x.taken_of_enabled (e := .check j)
        (p := fun s => s.tasks[j]? = some ⟨alt, .checking⟩) (hfair _ rfl)
        (fun m e' s' htask hne h => task_of_step htask rfl hne h)
        (fun m htask => by
          obtain ⟨s', h, -⟩ := step_check htask
          rw [h]
          rfl) htask
      obtain ⟨s', h, hfree⟩ := @step_check deserialize _ _ _ hchecking
      have hnext := x.next_of_event hevent
      rw [h] at hnext
      cases hnext
      exact ⟨m + 1, Nat.le_succ_of_le hm, hfree⟩

private theorem eventually_unmarked (hinv : s.Inv) (hfair : ∀ e, e.byTask = true → x.Fair e)
    {n : Nat} (htask : (x.state n).tasks[i]? = some ⟨alt, .settled⟩) :
    ∃ m, n ≤ m ∧ x.event m = some (.unmark i) ∧ alt ∉ (x.state (m + 1)).inFlight := by
  obtain ⟨m, hm, hsettled, hevent⟩ := x.taken (e := .unmark i)
    (p := fun s => s.tasks[i]? = some ⟨alt, .settled⟩) (hfair _ rfl)
    (fun m e' s' htask hne h => task_of_step htask rfl hne h)
    (fun hlasts k => by
      obtain ⟨m, hm, hholder⟩ := eventually_free x hinv hfair (max k n)
      refine ⟨m, by omega, ?_⟩
      rw [step_unmark (hlasts m (by omega)) hholder]
      rfl) htask
  exact ⟨m, hm, hevent, notMem_of_unmark hsettled (x.next_of_event hevent)⟩

private theorem eventually_settled (hfair : ∀ e, e.byTask = true → x.Fair e) {n : Nat}
    {result : FetchResult} (htask : (x.state n).tasks[i]? = some ⟨alt, .fetched result⟩) :
    ∃ m, n ≤ m ∧ (x.state m).tasks[i]? = some ⟨alt, .settled⟩ := by
  obtain ⟨m, hm, hfetched, hevent⟩ := x.taken_of_enabled (e := .settle i)
    (p := fun s => s.tasks[i]? = some ⟨alt, .fetched result⟩) (hfair _ rfl)
    (fun m e' s' htask hne h => task_of_step htask rfl hne h)
    (fun m htask => by
      rw [step_settle htask]
      rfl) htask
  refine ⟨m + 1, Nat.le_succ_of_le hm, ?_⟩
  have hnext := x.next_of_event hevent
  rw [step_settle hfetched] at hnext
  rw [← Option.some.inj hnext]
  exact task_moveTo .settled hfetched

theorem eventually_ends (hinv : s.Inv) (hfair : ∀ e, e.byTask = true → x.Fair e) {n : Nat}
    {phase : PrefetchPhase} (htask : (x.state n).tasks[i]? = some ⟨alt, phase⟩)
    (hended : phase.hasEnded = true) :
    ∃ m, n ≤ m ∧ x.event m = some (.unmark i) ∧ alt ∉ (x.state (m + 1)).inFlight := by
  cases phase with
  | settled => exact eventually_unmarked x hinv hfair htask
  | fetched result =>
      obtain ⟨k, hk, hsettled⟩ := eventually_settled x hfair htask
      obtain ⟨m, hm, hevent, hunmarked⟩ := eventually_unmarked x hinv hfair hsettled
      exact ⟨m, by omega, hevent, hunmarked⟩
  | spawned => cases hended
  | checking => cases hended
  | marked => cases hended
  | fetching => cases hended
  | finished => cases hended

end

end

/-! ## The next fetch -/

/-- The events of the tasks, and of one more call of `prefetch`. -/
def Refetches (alt : Pubkey) (_ : SharedAltCache) (e : AltEvent) : Prop :=
  e.byTask = true ∨ e = .prefetch alt

def CanFetch (deserialize : List UInt8 → Option (List Pubkey)) (s : SharedAltCache)
    (alt : Pubkey) : Prop :=
  ∃ es t, Run (step deserialize) (Refetches alt) s es t ∧
    ∃ i : Nat, t.tasks[i]? = some ⟨alt, .fetching⟩

section

variable {deserialize : List UInt8 → Option (List Pubkey)} {s s' : SharedAltCache} {e : AltEvent}
  {alt : Pubkey} {i : Nat}

theorem CanFetch.of_step (hallowed : Refetches alt s e) (hstep : step deserialize s e = some s')
    (h : CanFetch deserialize s' alt) : CanFetch deserialize s alt := by
  obtain ⟨es, t, hrun, hfetching⟩ := h
  exact ⟨e :: es, t, .cons hallowed hstep hrun, hfetching⟩

private theorem canFetch_of_marked (htask : s.tasks[i]? = some ⟨alt, .marked⟩) :
    CanFetch deserialize s alt := by
  have hstep : step deserialize s (.request i) =
      some { s with tasks := s.moveTo i .fetching } := by
    simp only [step, request, htask]
  exact .of_step (Or.inl rfl) hstep ⟨[], _, .nil _, i, task_moveTo .fetching htask⟩

theorem canFetch_of_checking (hmiss : s.cache.contains alt = false)
    (htask : s.tasks[i]? = some ⟨alt, .checking⟩) : CanFetch deserialize s alt := by
  have hstep : step deserialize s (.check i) = some { s with
      inFlight := insert alt s.inFlight
      holder := none
      tasks := s.moveTo i .marked } := by
    simp [step, check, htask, hmiss]
  exact .of_step (Or.inl rfl) hstep (canFetch_of_marked (task_moveTo .marked htask))

private theorem canFetch_of_spawned (hholder : s.holder = none) (hmark : alt ∉ s.inFlight)
    (hmiss : s.cache.contains alt = false) (htask : s.tasks[i]? = some ⟨alt, .spawned⟩) :
    CanFetch deserialize s alt := by
  have hstep : step deserialize s (.lock i) =
      some { s with holder := some i, tasks := s.moveTo i .checking } := by
    simp [step, lock, htask, hholder, hmark]
  exact .of_step (Or.inl rfl) hstep (canFetch_of_checking hmiss (task_moveTo .checking htask))

theorem refetch_of_free (hholder : s.holder = none) (hmark : alt ∉ s.inFlight)
    (hmiss : s.cache.contains alt = false) : CanFetch deserialize s alt := by
  have hstep : step deserialize s (.prefetch alt) =
      some { s with tasks := s.tasks ++ [⟨alt, .spawned⟩] } := rfl
  exact .of_step (Or.inr rfl) hstep
    (canFetch_of_spawned hholder hmark hmiss List.getElem?_concat_length)

private theorem refetch_of_holder {other : Pubkey} (hmark : alt ∉ s.inFlight)
    (hmiss : s.cache.contains alt = false) (htask : s.tasks[i]? = some ⟨other, .checking⟩) :
    CanFetch deserialize s alt := by
  by_cases hother : other = alt
  · subst hother
    exact canFetch_of_checking hmiss htask
  · have hchecked : ∃ u, step deserialize s (.check i) = some u ∧ u.holder = none ∧
        alt ∉ u.inFlight ∧ u.cache.contains alt = false := by
      simp only [step, check, htask]
      split
      · exact ⟨_, rfl, rfl, hmark, hmiss⟩
      · refine ⟨_, rfl, rfl, fun hmem => ?_, hmiss⟩
        rcases Finset.mem_insert.mp hmem with heq | hmem
        · exact hother heq.symm
        · exact hmark hmem
    obtain ⟨u, hstep, hholder, hfree, hstill⟩ := hchecked
    exact .of_step (Or.inl rfl) hstep (refetch_of_free hholder hfree hstill)

private theorem refetch (hinv : s.Inv) (hmark : alt ∉ s.inFlight)
    (hmiss : s.cache.contains alt = false) :
    CanFetch deserialize s alt := by
  cases hholder : s.holder with
  | none => exact refetch_of_free hholder hmark hmiss
  | some j =>
      obtain ⟨other, htask, -⟩ := hinv.holds j hholder
      exact refetch_of_holder hmark hmiss htask

end

/-! ## Every table is fetched once at a time -/

structure FetchesOnce (deserialize : List UInt8 → Option (List Pubkey)) (s : SharedAltCache) :
    Prop where
  fetches : ∀ alt, s.countTasks alt PrefetchPhase.isFetching ≤ 1
  marks : ∀ alt, s.countTasks alt PrefetchPhase.underWay = if alt ∈ s.inFlight then 1 else 0
  unmarks : ∀ i alt s', s.tasks[i]? = some ⟨alt, .settled⟩ →
    step deserialize s (.unmark i) = some s' → alt ∉ s'.inFlight
  ends : ∀ x : Execution (step deserialize) s, (∀ e, e.byTask = true → x.Fair e) →
    ∀ n i alt phase, (x.state n).tasks[i]? = some ⟨alt, phase⟩ → phase.hasEnded = true →
      ∃ m, n ≤ m ∧ x.event m = some (.unmark i) ∧ alt ∉ (x.state (m + 1)).inFlight
  refetches : ∀ alt, alt ∉ s.inFlight → s.cache.contains alt = false →
    CanFetch deserialize s alt

private theorem countTasks_isFetching_le (s : SharedAltCache) (alt : Pubkey) :
    s.countTasks alt PrefetchPhase.isFetching ≤ s.countTasks alt PrefetchPhase.underWay := by
  refine List.countP_mono_left fun task _ h => ?_
  rw [Bool.and_eq_true] at h ⊢
  exact ⟨h.1, PrefetchPhase.underWay_of_isFetching h.2⟩

/--
At most one task at a time fetches a table.  A mark stands for one such task,
and in a fair execution it is gone some time after the fetch has ended; without
a mark, a miss leads to another fetch.
-/
theorem prefetch_fetchesOnce {deserialize : List UInt8 → Option (List Pubkey)}
    {events : List AltEvent} {s : SharedAltCache}
    (hrun : Run (step deserialize) (fun _ _ => True) start events s) :
    FetchesOnce deserialize s := by
  have hinv : s.Inv := hrun.invariant (fun s e s' _ h hs => inv_step h hs) inv_start
  refine ⟨fun alt => ?_, hinv.marks, fun i alt s' htask h => notMem_of_unmark htask h,
    fun x hfair n i alt phase htask hended => eventually_ends x hinv hfair htask hended,
    fun alt hmark hmiss => refetch hinv hmark hmiss⟩
  have hle := s.countTasks_isFetching_le alt
  rw [hinv.marks alt] at hle
  split at hle <;> omega

/-! ## A fetch that fails -/

theorem step_of_finished {deserialize : List UInt8 → Option (List Pubkey)} {s : SharedAltCache}
    {e : AltEvent} (hfinished : ∀ task ∈ s.tasks, task.phase = .finished)
    (he : e.byTask = true) : step deserialize s e = none := by
  cases h : step deserialize s e with
  | none => rfl
  | some s' =>
      obtain ⟨i, hi⟩ := Option.isSome_iff_exists.mp (AltEvent.isSome_task? he)
      obtain ⟨task, cache, phase, marks, holder, hmem, hmoves, -⟩ := task_step hi h
      rw [hfinished task (List.mem_of_getElem? hmem)] at hmoves
      cases hmoves

def someAlt : Pubkey := List.replicate 32 1

def twoCalls : List AltEvent :=
  [.prefetch someAlt, .prefetch someAlt, .lock 0, .check 0, .lock 1, .request 0]

def failedFetch : List AltEvent := [.answer 0 .failed, .settle 0, .unmark 0]

def oneFetching : SharedAltCache where
  cache := .empty
  inFlight := {someAlt}
  holder := none
  tasks := [⟨someAlt, .fetching⟩, ⟨someAlt, .finished⟩]

def bothFinished : SharedAltCache where
  cache := .empty
  inFlight := ∅
  holder := none
  tasks := [⟨someAlt, .finished⟩, ⟨someAlt, .finished⟩]

theorem run_twoCalls : Run (step fun _ => none) (fun _ _ => True) start twoCalls oneFetching :=
  run_of_exec rfl

theorem run_failedFetch :
    Run (step fun _ => none) (fun _ _ => True) oneFetching failedFetch bothFinished :=
  run_of_exec rfl

theorem prefetch_fetchesOnce_failed :
    FetchesOnce (fun _ => none) oneFetching ∧
      ∃ x : Execution (step fun _ => none) oneFetching, x.event 0 = some (.answer 0 .failed) ∧
        ∃ m, x.event m = some (.unmark 0) ∧ someAlt ∉ (x.state (m + 1)).inFlight := by
  have honce := prefetch_fetchesOnce run_twoCalls
  obtain ⟨x, hevent, -, -, hfair⟩ := run_failedFetch.exists_paused
  have hfirst : x.event 0 = some (.answer 0 .failed) := hevent 0
  have hfetched : (x.state 1).tasks[0]? = some ⟨someAlt, .fetched .failed⟩ := by
    have hnext := x.next_of_event hfirst
    rw [x.start] at hnext
    rw [← Option.some.inj hnext]
    rfl
  have hfinished : ∀ task ∈ bothFinished.tasks, task.phase = .finished := by
    simp [bothFinished]
  obtain ⟨m, -, hunmark, hgone⟩ := honce.ends x
    (fun e he => hfair e (step_of_finished hfinished he)) 1 0 someAlt _ hfetched rfl
  exact ⟨honce, x, hfirst, m, hunmark, hgone⟩

end SharedAltCache

end Girasol.Shreds
