import Girasol.Foundation.Runs
import Girasol.Vault.ApiKeyVault

/-!
# Requests on one vault

The requests of the panel run side by side.  Each holds the lock of the vault
from before it reads the secret until it is done with the file; reading and
writing are separate steps.
-/

namespace Girasol

open Foundation

inductive VaultRequest where
  | set (slotId value : String)
  | get (slotId : String)
  /-- The status of all slots takes the lock once for each. -/
  | statuses (remaining : List String) (found : List (Option String))

/-- What a request returns; `none` is a panic. -/
inductive VaultAnswer where
  | set (result : Option (Except String Unit))
  | get (value : Option (Option String))
  | statuses (found : Option (List (Option String)))

inductive VaultTask where
  | waiting (request : VaultRequest)
  | entered (request : VaultRequest)
  | updating (slotId value secret : String) (v : VaultFileV2)
  | reading (request : VaultRequest) (secret : String) (file : VaultFileAny)
  | done (answer : VaultAnswer)

def VaultTask.holdsLock : VaultTask → Bool
  | .entered _ | .updating _ _ _ _ | .reading _ _ _ => true
  | .waiting _ | .done _ => false

def VaultTask.Current (secret : String) (v : VaultFileV2) : VaultTask → Prop
  | .updating _ _ secret' v' => secret' = secret ∧ v' = v
  | .reading _ secret' file => secret' = secret ∧ file = .v2 v
  | _ => True

theorem VaultTask.current_of_not_holdsLock {task : VaultTask} (h : task.holdsLock = false)
    (secret : String) (v : VaultFileV2) : task.Current secret v := by
  cases task with
  | updating => cases h
  | reading => cases h
  | _ => trivial

/-- `completed` records the calls of `set_api_key` that have returned `Ok`. -/
structure SharedVault where
  files : VaultFiles
  lock : Option Nat
  tasks : List VaultTask
  completed : List (String × String)

inductive VaultEvent where
  | request (request : VaultRequest)
  | acquire (task : Nat)
  | load (task : Nat) (env : VaultEnv)
  | finish (task : Nat) (env : VaultEnv)
  /-- The health check looks at the file without the lock. -/
  | health

/-- The vault file is read whenever an operation reads it. -/
def VaultEvent.ReadsVault : VaultEvent → Prop
  | .load _ env => env.vaultReadFails = false
  | _ => True

namespace SharedVault

open ApiKeyVault

def start (files : VaultFiles) : SharedVault := ⟨files, none, [], []⟩

section

variable (c : VaultCrypto) (s : SharedVault)

def become (task : Nat) (next : VaultTask) : SharedVault :=
  { s with tasks := s.tasks.set task next }

def leave (task : Nat) (next : VaultTask) : SharedVault :=
  { s with lock := none, tasks := s.tasks.set task next }

def acquire (task : Nat) : Option SharedVault :=
  match s.lock, s.tasks[task]? with
  | none, some (.waiting (.statuses [] found)) =>
      some (s.become task (.done (.statuses (some found))))
  | none, some (.waiting request) =>
      some { s with lock := some task, tasks := s.tasks.set task (.entered request) }
  | _, _ => none

def nextStatus (remaining : List String) (found : List (Option String)) :
    Option (Option String) → VaultTask
  | none => .done (.statuses none)
  | some value => .waiting (.statuses remaining.tail (found ++ [value]))

def load (task : Nat) (env : VaultEnv) : Option SharedVault :=
  match s.tasks[task]? with
  | some (.entered request) =>
      let (secret, files) := loadSecret env s.files
      let s := { s with files := files }
      match request, secret with
      | .set _ _, .error e => some (s.leave task (.done (.set (some (.error e)))))
      | .set slotId value, .ok secret =>
          match loadOrMigrate c env s.files secret with
          | none => some (s.leave task (.done (.set none)))
          | some v => some (s.become task (.updating slotId value secret v))
      | .get slotId, .error _ =>
          some (s.leave task (.done (.get (some (fallback env slotId)))))
      | .statuses remaining found, .error _ =>
          some (s.leave task (nextStatus remaining found (some none)))
      | request, .ok secret =>
          some (s.become task (.reading request secret (ApiKeyVault.load env s.files)))
  | _ => none

def finish (task : Nat) (env : VaultEnv) : Option SharedVault :=
  match s.tasks[task]? with
  | some (.updating slotId value secret v) =>
      match updateSlot c env secret slotId value v with
      | .error e => some (s.leave task (.done (.set (some (.error e)))))
      | .ok v =>
          let (result, files) := save env s.files v
          let completed := if result.isOk then s.completed ++ [(slotId, value)] else s.completed
          some { s.leave task (.done (.set (some result))) with
            files := files, completed := completed }
  | some (.reading (.get slotId) secret file) =>
      some (s.leave task (.done (.get ((readSlot c secret file slotId).map fun stored =>
        stored.or (fallback env slotId)))))
  | some (.reading (.statuses (slotId :: remaining) found) secret file) =>
      some (s.leave task
        (nextStatus (slotId :: remaining) found (readSlot c secret file slotId)))
  | _ => none

def newTask (request : VaultRequest) : VaultTask :=
  match request with
  | .set slotId _ =>
      if (findSlot slotId).isNone then .done (.set (some (.error "unknown slot")))
      else .waiting request
  | _ => .waiting request

def step (s : SharedVault) : VaultEvent → Option SharedVault
  | .request request => some { s with tasks := s.tasks ++ [newTask request] }
  | .acquire task => s.acquire task
  | .load task env => s.load c task env
  | .finish task env => s.finish c task env
  | .health => some s

end

/-! ## One request alone -/

theorem run_entered {c : VaultCrypto} {files : VaultFiles} {request : VaultRequest}
    (hwaits : newTask request = .waiting request)
    (hnext : ∀ found, request ≠ .statuses [] found) {events : List VaultEvent} {s : SharedVault}
    (hrun : Run (step c) (fun _ _ => True) ⟨files, some 0, [.entered request], []⟩ events s) :
    Run (step c) (fun _ _ => True) (start files) (.request request :: .acquire 0 :: events) s := by
  have hrequest : step c (start files) (.request request) =
      some ⟨files, none, [.waiting request], []⟩ := by
    simp [step, start, hwaits]
  refine .cons trivial hrequest (.cons trivial ?_ hrun)
  cases request with
  | statuses remaining found =>
      cases remaining with
      | nil => exact absurd rfl (hnext found)
      | cons slotId remaining => rfl
  | _ => rfl

theorem exists_run_setApiKey (c : VaultCrypto) (env : VaultEnv) (files : VaultFiles)
    (slotId value : String) :
    ∃ events s, Run (step c) (fun _ _ => True) (start files) events s ∧
      s.files = (setApiKey c env files slotId value).2 ∧
      s.tasks = [.done (.set (setApiKey c env files slotId value).1)] := by
  cases hslot : findSlot slotId with
  | none =>
      refine ⟨[.request (.set slotId value)], _, .cons trivial rfl (.nil _), ?_, ?_⟩
      · simp [setApiKey, hslot, start]
      · simp [setApiKey, hslot, start, newTask]
  | some slot =>
      have hwaits : newTask (.set slotId value) = .waiting (.set slotId value) := by
        simp [newTask, hslot]
      have hloading : ∀ {events : List VaultEvent} {s : SharedVault} {next : SharedVault},
          step c ⟨files, some 0, [.entered (.set slotId value)], []⟩ (.load 0 env) = some next →
            Run (step c) (fun _ _ => True) next events s →
              Run (step c) (fun _ _ => True) (start files)
                (.request (.set slotId value) :: .acquire 0 :: .load 0 env :: events) s :=
        fun hload hrun => run_entered hwaits (by simp) (.cons trivial hload hrun)
      cases hload : loadSecret env files with
      | mk result files₁ =>
          cases result with
          | error e =>
              refine ⟨_, ⟨files₁, none, [.done (.set (some (.error e)))], []⟩,
                hloading (by simp [step, SharedVault.load, hload, leave]) (.nil _), ?_⟩
              simp [setApiKey, hslot, hload]
          | ok secret =>
              cases hv : loadOrMigrate c env files₁ secret with
              | none =>
                  refine ⟨_, ⟨files₁, none, [.done (.set none)], []⟩,
                    hloading (by simp [step, SharedVault.load, hload, hv, leave]) (.nil _), ?_⟩
                  simp [setApiKey, hslot, hload, hv]
              | some v =>
                  have hupdating : step c ⟨files, some 0, [.entered (.set slotId value)], []⟩
                      (.load 0 env) =
                        some ⟨files₁, some 0, [.updating slotId value secret v], []⟩ := by
                    simp [step, SharedVault.load, hload, hv, become]
                  cases hupdate : updateSlot c env secret slotId value v with
                  | error e =>
                      refine ⟨_, ⟨files₁, none, [.done (.set (some (.error e)))], []⟩,
                        hloading hupdating (.cons trivial (e := .finish 0 env) ?_ (.nil _)), ?_⟩
                      · simp [step, SharedVault.finish, hupdate, leave]
                      · simp [setApiKey, hslot, hload, hv, hupdate]
                  | ok v' =>
                      cases hsave : save env files₁ v' with
                      | mk result files₂ =>
                          refine ⟨_, ⟨files₂, none, [.done (.set (some result))],
                            if result.isOk then [(slotId, value)] else []⟩,
                            hloading hupdating (.cons trivial (e := .finish 0 env) ?_ (.nil _)), ?_⟩
                          · simp [step, SharedVault.finish, hupdate, hsave, leave]
                          · simp [setApiKey, hslot, hload, hv, hupdate, hsave]

theorem exists_run_getApiKey (c : VaultCrypto) (env : VaultEnv) (files : VaultFiles)
    (slotId : String) :
    ∃ events s, Run (step c) (fun _ _ => True) (start files) events s ∧
      s.files = (getApiKey c env files slotId).2 ∧
      s.tasks = [.done (.get (getApiKey c env files slotId).1)] := by
  cases hload : loadSecret env files with
  | mk result files₁ =>
      cases result with
      | error e =>
          have hdone : step c ⟨files, some 0, [.entered (.get slotId)], []⟩ (.load 0 env) =
              some ⟨files₁, none, [.done (.get (some (fallback env slotId)))], []⟩ := by
            simp [step, SharedVault.load, hload, leave]
          refine ⟨_, _, run_entered rfl (by simp) (.cons trivial hdone (.nil _)), ?_⟩
          simp [getApiKey, hload]
      | ok secret =>
          have hreading : step c ⟨files, some 0, [.entered (.get slotId)], []⟩ (.load 0 env) =
              some ⟨files₁, some 0,
                [.reading (.get slotId) secret (ApiKeyVault.load env files₁)], []⟩ := by
            simp [step, SharedVault.load, hload, become]
          refine ⟨_, _, run_entered rfl (by simp) (.cons trivial hreading
            (.cons trivial (e := .finish 0 env) rfl (.nil _))), ?_⟩
          simp [getApiKey, hload, leave]

/-! ## The lock -/

def stored (value : String) : Option String :=
  if (trim value).isEmpty then none else some (trim value)

structure Consistent (c : VaultCrypto) (secret : String) (v : VaultFileV2) (s : SharedVault) :
    Prop where
  supported : v.Supported
  file : s.files.parsed = some (.v2 v)
  holder : ∀ (i : Nat) task, s.tasks[i]? = some task → task.holdsLock = true → s.lock = some i
  current : ∀ (i : Nat) task, s.tasks[i]? = some task → task.Current secret v
  remembered : ∀ slotId value, s.completed.reverse.lookup slotId = some value →
    readSlot c secret (.v2 v) slotId = some (stored value)

variable {c : VaultCrypto} {secret : String} {v : VaultFileV2} {s s' : SharedVault}

theorem consistent_start {files : VaultFiles} (hv : files.parsed = some (.v2 v)) :
    Consistent c secret v (start files) where
  supported := by
    unfold VaultFiles.parsed at hv
    split at hv
    case h_1 => exact VaultFileV2.supported_of_parse hv
    case h_2 => cases hv
  file := hv
  holder := by simp [start]
  current := by simp [start]
  remembered := by simp [start]

theorem Consistent.set (hs : Consistent c secret v s) {i : Nat} {next : VaultTask}
    {files : VaultFiles} {lock : Option Nat} (hfile : files.vault = s.files.vault)
    (hnext : next.holdsLock = true → lock = some i)
    (hothers : ∀ j task, j ≠ i → s.tasks[j]? = some task → task.holdsLock = true →
      lock = some j)
    (hcurrent : next.Current secret v) :
    Consistent c secret v ⟨files, lock, s.tasks.set i next, s.completed⟩ where
  supported := hs.supported
  file := by
    have hparsed : files.parsed = s.files.parsed := by simp only [VaultFiles.parsed, hfile]
    exact hparsed.trans hs.file
  holder := by
    intro j task hj hholds
    rw [List.getElem?_set] at hj
    split at hj
    case isTrue hij =>
      split at hj
      · cases hj
        exact hij ▸ hnext hholds
      · cases hj
    case isFalse hij => exact hothers j task (Ne.symm hij) hj hholds
  current := by
    intro j task hj
    rw [List.getElem?_set] at hj
    split at hj
    · split at hj
      · cases hj
        exact hcurrent
      · cases hj
    · exact hs.current j task hj
  remembered := hs.remembered

theorem Consistent.alone (hs : Consistent c secret v s) {i : Nat} {task : VaultTask}
    (hi : s.tasks[i]? = some task) (hholds : task.holdsLock = true) {j : Nat}
    {task' : VaultTask} (hji : j ≠ i) (hj : s.tasks[j]? = some task') :
    task'.holdsLock = false := by
  by_contra hother
  have hlock := hs.holder i task hi hholds
  have hlock' := hs.holder j task' hj (by simpa using hother)
  rw [hlock] at hlock'
  exact hji (Option.some.inj hlock').symm

theorem Consistent.leave (hs : Consistent c secret v s) {i : Nat} {task next : VaultTask}
    (hi : s.tasks[i]? = some task) (hholds : task.holdsLock = true)
    (hnext : next.holdsLock = false) {files : VaultFiles}
    (hfile : files.vault = s.files.vault) :
    Consistent c secret v (SharedVault.leave { s with files := files } i next) :=
  hs.set hfile (by simp [hnext])
    (fun j task' hji hj hother => by simp [hs.alone hi hholds hji hj] at hother)
    (VaultTask.current_of_not_holdsLock hnext _ _)

theorem Consistent.become (hs : Consistent c secret v s) {i : Nat} {task next : VaultTask}
    (hi : s.tasks[i]? = some task) (hholds : task.holdsLock = true)
    (hcurrent : next.Current secret v) {files : VaultFiles}
    (hfile : files.vault = s.files.vault) :
    Consistent c secret v (SharedVault.become { s with files := files } i next) :=
  hs.set hfile (fun _ => hs.holder i task hi hholds)
    (fun j task' hji hj hother => by simp [hs.alone hi hholds hji hj] at hother) hcurrent

theorem Consistent.acquire (hs : Consistent c secret v s) {i : Nat}
    (hstep : s.acquire i = some s') : Consistent c secret v s' ∧ s'.files = s.files := by
  unfold SharedVault.acquire at hstep
  split at hstep
  case h_1 hlock hi =>
    cases hstep
    refine ⟨hs.set rfl (by simp [VaultTask.holdsLock]) (fun j task _ hj hother => ?_) trivial, rfl⟩
    exact hs.holder j task hj hother
  case h_2 hlock hi =>
    cases hstep
    refine ⟨hs.set rfl (fun _ => rfl) (fun j task _ hj hother => ?_) trivial, rfl⟩
    have hheld := hs.holder j task hj hother
    rw [hlock] at hheld
    cases hheld
  case h_3 => cases hstep

theorem Consistent.load (hs : Consistent c secret v s) {i : Nat} {env : VaultEnv}
    (hsecret : (loadSecret env s.files).1 = .ok secret) (hread : env.vaultReadFails = false)
    (hstep : s.load c i env = some s') :
    Consistent c secret v s' ∧ s'.files.vault = s.files.vault := by
  obtain ⟨files, hload⟩ : ∃ files, loadSecret env s.files = (.ok secret, files) :=
    ⟨_, Prod.ext hsecret rfl⟩
  have hvault : files.vault = s.files.vault := by
    have hkept := loadSecret_vault env s.files
    rwa [hload] at hkept
  have hparsed : files.parsed = some (.v2 v) := by
    have hfile := hs.file
    simp only [VaultFiles.parsed, hvault] at hfile ⊢
    exact hfile
  have hcurrent := load_of_parsed hread hparsed
  simp only [SharedVault.load, hload] at hstep
  split at hstep
  case h_2 => cases hstep
  case h_1 request hi =>
    have hreading (request : VaultRequest) :
        (VaultTask.reading request secret (.v2 v)).Current secret v := ⟨rfl, rfl⟩
    cases request with
    | set slotId value =>
        simp only [loadOrMigrate, hcurrent] at hstep
        cases hstep
        have hupdating : (VaultTask.updating slotId value secret v).Current secret v := ⟨rfl, rfl⟩
        exact ⟨hs.become hi rfl hupdating hvault, hvault⟩
    | get slotId =>
        simp only [hcurrent] at hstep
        cases hstep
        exact ⟨hs.become hi rfl (hreading _) hvault, hvault⟩
    | statuses remaining found =>
        simp only [hcurrent] at hstep
        cases hstep
        exact ⟨hs.become hi rfl (hreading _) hvault, hvault⟩

theorem Consistent.saved (hs : Consistent c secret v s) (hc : c.Inverts) {i : Nat}
    {task next : VaultTask} (hi : s.tasks[i]? = some task) (hholds : task.holdsLock = true)
    (hnext : next.holdsLock = false) {env : VaultEnv} {slotId value : String} {v' : VaultFileV2}
    (hupdate : updateSlot c env secret slotId value v = .ok v') :
    Consistent c secret v' { s.leave i next with
      files := { s.files with vault := some (.json v'.toJson) }
      completed := s.completed ++ [(slotId, value)] } := by
  have hsupported : v'.Supported := by
    rw [updateSlot_fields hupdate]
    exact ⟨hs.supported.version, hs.supported.kdf, hs.supported.kdfParams⟩
  have hfree : ∀ (j : Nat) task', (s.tasks.set i next)[j]? = some task' →
      task'.holdsLock = false := by
    intro j task' hj
    rw [List.getElem?_set] at hj
    split at hj
    · split at hj
      · cases hj
        exact hnext
      · cases hj
    case isFalse hij => exact hs.alone hi hholds (Ne.symm hij) hj
  refine ⟨hsupported, VaultFileAny.parse_toJson hsupported, ?_, ?_, ?_⟩
  · intro j task' hj hother
    rw [hfree j task' hj] at hother
    cases hother
  · intro j task' hj
    exact VaultTask.current_of_not_holdsLock (hfree j task' hj) _ _
  · intro t value' hlast
    simp only [List.reverse_append, List.reverse_singleton, List.singleton_append,
      List.lookup_cons] at hlast
    split at hlast
    case h_1 heq =>
      cases hlast
      obtain rfl := eq_of_beq heq
      exact readSlot_updateSlot hc hupdate
    case h_2 hne =>
      rw [readSlot_updateSlot_ne hupdate (ne_of_beq_false hne)]
      exact hs.remembered t value' hlast

/-! ## What a step keeps and what a request is answered -/

/-- The ciphertext of a slot. -/
def entry (s : SharedVault) (slotId : String) : Option SlotBlobV2 :=
  match s.files.parsed with
  | some (.v2 v) => v.slots.lookup slotId
  | _ => none

def lastSet (s : SharedVault) (slotId : String) : Option String :=
  s.completed.reverse.lookup slotId

structure Faithful (s : SharedVault) (e : VaultEvent) (s' : SharedVault) : Prop where
  /-- A read returns what the last completed call for its slot stored, or the environment's. -/
  answers : ∀ (i : Nat) env slotId secret file value, e = .finish i env →
    s.tasks[i]? = some (.reading (.get slotId) secret file) → s.lastSet slotId = some value →
    s'.tasks[i]? = some (.done (.get (some ((stored value).or (fallback env slotId)))))
  /-- Only the end of a call for a slot changes its entry. -/
  others : ∀ t, (∀ (i : Nat) env value secret v, e = .finish i env →
    s.tasks[i]? ≠ some (.updating t value secret v)) → s'.entry t = s.entry t
  /-- A call that ends with an error leaves the file as it was. -/
  failed : ∀ (i : Nat) message, s.tasks[i]? ≠ s'.tasks[i]? →
    s'.tasks[i]? = some (.done (.set (some (.error message)))) → s'.files.vault = s.files.vault

private theorem entry_congr (h : s'.files.vault = s.files.vault) (t : String) :
    s'.entry t = s.entry t := by
  simp only [entry, VaultFiles.parsed, h]

theorem faithful_of_vault {e : VaultEvent} (he : ∀ i env, e ≠ .finish i env)
    (h : s'.files.vault = s.files.vault) : s.Faithful e s' where
  answers i env _ _ _ _ heq := absurd heq (he i env)
  others t _ := entry_congr h t
  failed _ _ _ _ := h

theorem Consistent.entry_eq (hs : Consistent c secret v s) (t : String) :
    s.entry t = v.slots.lookup t := by
  rw [entry, hs.file]

private theorem answers_of_ne {i : Nat} {env : VaultEnv} {task : VaultTask}
    (hi : s.tasks[i]? = some task)
    (hne : ∀ slotId secret file, task ≠ .reading (.get slotId) secret file) :
    ∀ (j : Nat) env' slotId secret file value, VaultEvent.finish i env = .finish j env' →
      s.tasks[j]? = some (.reading (.get slotId) secret file) → s.lastSet slotId = some value →
      s'.tasks[j]? = some (.done (.get (some ((stored value).or (fallback env' slotId))))) := by
  intro j env' slotId secret file value heq hj
  cases heq
  rw [hi] at hj
  exact absurd (Option.some.inj hj) (hne slotId secret file)

theorem Consistent.finish (hs : Consistent c secret v s) (hc : c.Inverts) {i : Nat}
    {env : VaultEnv} (hstep : s.finish c i env = some s') :
    (∃ v', Consistent c secret v' s') ∧ s.Faithful (.finish i env) s' := by
  unfold SharedVault.finish at hstep
  split at hstep
  case h_1 slotId value secret' v' hi =>
    obtain ⟨rfl, rfl⟩ := hs.current i _ hi
    split at hstep
    case h_1 e hupdate =>
      cases hstep
      exact ⟨⟨v', hs.leave hi rfl rfl rfl⟩, answers_of_ne hi (by simp), fun t _ => rfl,
        fun _ _ _ _ => rfl⟩
    case h_2 v₁ hupdate =>
      rcases save_eq env s.files v₁ with hsave | ⟨message, hsave⟩
      · rw [hsave] at hstep
        cases hstep
        have hdone : (VaultTask.done (.set (some (.ok ())))).holdsLock = false := rfl
        have hsaved := hs.saved hc hi rfl hdone hupdate
        refine ⟨⟨v₁, hsaved⟩, answers_of_ne hi (by simp), fun t hother => ?_, ?_⟩
        · have hne : t ≠ slotId := by
            rintro rfl
            exact hother i env value _ _ rfl hi
          exact ((hsaved.entry_eq t).trans (lookup_updateSlot_ne hupdate hne)).trans
            (hs.entry_eq t).symm
        · intro j message hchanged hfailed
          change (s.tasks.set i _)[j]? = _ at hfailed
          change _ ≠ (s.tasks.set i _)[j]? at hchanged
          rw [List.getElem?_set] at hfailed hchanged
          by_cases hij : i = j
          · rw [if_pos hij] at hfailed
            split at hfailed <;> cases hfailed
          · exact absurd (if_neg hij).symm hchanged
      · rw [hsave] at hstep
        cases hstep
        exact ⟨⟨v', hs.leave hi rfl rfl rfl⟩, answers_of_ne hi (by simp), fun t _ => rfl,
          fun _ _ _ _ => rfl⟩
  case h_2 slotId secret' file hi =>
    cases hstep
    obtain ⟨rfl, rfl⟩ := hs.current i _ hi
    refine ⟨⟨v, hs.leave hi rfl rfl rfl⟩, ?_, fun t _ => rfl, fun _ _ _ _ => rfl⟩
    intro j env' slotId' secret'' file value heq hj hlast
    cases heq
    rw [hi] at hj
    cases hj
    have hlt := (List.getElem?_eq_some_iff.mp hi).1
    rw [hs.remembered slotId value hlast]
    exact List.getElem?_set_self hlt
  case h_3 slotId remaining found secret' file hi =>
    cases hstep
    refine ⟨⟨v, hs.leave hi rfl ?_ rfl⟩, answers_of_ne hi (by simp), fun t _ => rfl,
      fun _ _ _ _ => rfl⟩
    cases readSlot c secret' file slotId <;> rfl
  case h_4 => cases hstep

/-! ## Runs -/

/-- The secret that an operation loads is the fixed one. -/
def LoadsSecret (secret : String) (s : SharedVault) : VaultEvent → Prop
  | .load _ env => (loadSecret env s.files).1 = .ok secret
  | _ => True

instance (secret : String) (s : SharedVault) (e : VaultEvent) :
    Decidable (LoadsSecret secret s e) := by
  induction e using VaultEvent.casesOn with
  | load task env => exact inferInstanceAs (Decidable ((loadSecret env s.files).1 = .ok secret))
  | _ => exact isTrue trivial

private theorem getElem?_concat {tasks : List VaultTask} {i : Nat} {task new : VaultTask}
    (h : (tasks ++ [new])[i]? = some task) : tasks[i]? = some task ∨ task = new := by
  rw [List.getElem?_append] at h
  split at h
  · exact .inl h
  · exact .inr (List.mem_singleton.mp (List.mem_of_getElem? h))

theorem Consistent.step {e : VaultEvent} (hs : Consistent c secret v s) (hc : c.Inverts)
    (hsecret : LoadsSecret secret s e) (hread : e.ReadsVault)
    (hstep : s.step c e = some s') : (∃ v', Consistent c secret v' s') ∧ s.Faithful e s' := by
  cases e with
  | request request =>
      cases hstep
      have hnew : (newTask request).holdsLock = false := by
        cases request with
        | set slotId value =>
            simp only [newTask]
            split <;> rfl
        | _ => rfl
      refine ⟨⟨v, hs.supported, hs.file, ?_, ?_, hs.remembered⟩, faithful_of_vault (by simp) rfl⟩
      · intro i task hi hholds
        rcases getElem?_concat hi with hold | rfl
        · exact hs.holder i task hold hholds
        · rw [hnew] at hholds
          cases hholds
      · intro i task hi
        rcases getElem?_concat hi with hold | rfl
        · exact hs.current i task hold
        · exact VaultTask.current_of_not_holdsLock hnew _ _
  | acquire i =>
      obtain ⟨hs', hfiles⟩ := hs.acquire hstep
      exact ⟨⟨v, hs'⟩, faithful_of_vault (by simp) (congrArg VaultFiles.vault hfiles)⟩
  | load i env =>
      obtain ⟨hs', hvault⟩ := hs.load hsecret hread hstep
      exact ⟨⟨v, hs'⟩, faithful_of_vault (by simp) hvault⟩
  | finish i env => exact hs.finish hc hstep
  | health =>
      cases hstep
      exact ⟨⟨v, hs⟩, faithful_of_vault (by simp) rfl⟩

/--
While the vault file can be read, keys are answered as they were last stored, and
a call changes the entry of its own slot or nothing.
-/
theorem vault_faithful (hc : c.Inverts) (secret : String) (files : VaultFiles) (v : VaultFileV2)
    (hv : files.parsed = some (.v2 v)) (events : List VaultEvent)
    (hsecret : Along (step c) (fun s e _ => LoadsSecret secret s e) (start files) events)
    (hreads : ∀ e ∈ events, e.ReadsVault) :
    Along (step c) (fun s e s' => s.Faithful e s') (start files) events := by
  have hkeeps : ∀ s e s', (∃ v, Consistent c secret v s) →
      LoadsSecret secret s e ∧ e.ReadsVault → s.step c e = some s' →
      (∃ v, Consistent c secret v s') ∧ s.Faithful e s' := by
    rintro s e s' ⟨v, hs⟩ hcond hstep
    exact hs.step hc hcond.1 hcond.2 hstep
  exact (hsecret.and_mem hreads).of_invariant hkeeps ⟨v, consistent_start hv⟩

/-! ## A key stored and read, and an entry lost -/

def oneKeyFile : VaultFileV2 :=
  { emptyV2 .plain with slots := AList.singleton "jito" ⟨"00", "01", "02"⟩ }

def oneKey : VaultFiles := ⟨some (.json oneKeyFile.toJson), none⟩

private theorem parsed_oneKey : oneKey.parsed = some (.v2 oneKeyFile) := by
  have hsupported : oneKeyFile.Supported := ⟨rfl, rfl, rfl⟩
  exact VaultFileAny.parse_toJson hsupported

def call (task : Nat) (request : VaultRequest) (env : VaultEnv) : List VaultEvent :=
  [.request request, .acquire task, .load task env, .finish task env]

theorem vault_faithful_stored :
    Along (step .plain) (fun s e s' => s.Faithful e s') (start oneKey)
      (call 0 (.set "helius" " key ") .plain ++ call 1 (.get "helius") .plain) :=
  vault_faithful VaultCrypto.plain_inverts "test-passphrase-123" oneKey oneKeyFile parsed_oneKey _
    (by decide +kernel) (by simp [call, VaultEvent.ReadsVault, VaultEnv.plain])

def readFails : VaultEnv := { VaultEnv.plain with vaultReadFails := true }

def losesEntry (u : SharedVault) : Bool :=
  match u.tasks, u.step .plain (.finish 0 readFails) with
  | [.updating slotId _ _ _], some t =>
      slotId != "jito" && (u.entry "jito").isSome && (t.entry "jito").isNone
  | _, _ => false

theorem read_failure_loses_entry :
    ∃ u t, Run (step .plain) (LoadsSecret "test-passphrase-123") (start oneKey)
        [.request (.set "helius" ""), .acquire 0, .load 0 readFails] u ∧
      u.step .plain (.finish 0 readFails) = some t ∧ ¬ u.Faithful (.finish 0 readFails) t := by
  have hexec : (exec (step .plain) (LoadsSecret "test-passphrase-123") (start oneKey)
      [.request (.set "helius" ""), .acquire 0, .load 0 readFails]).map losesEntry =
        some true := by
    decide +kernel
  obtain ⟨u, hrun, hloses⟩ := exists_run_of_exec hexec
  unfold losesEntry at hloses
  split at hloses
  case h_2 => cases hloses
  case h_1 slotId value secret v t htasks hnext =>
    simp only [Bool.and_eq_true, bne_iff_ne, ne_eq] at hloses
    obtain ⟨⟨hother, hstored⟩, hlost⟩ := hloses
    refine ⟨u, t, hrun, hnext, fun hfaithful => ?_⟩
    have hkept : t.entry "jito" = u.entry "jito" := by
      refine hfaithful.others "jito" fun i env value' secret' v' heq hi => ?_
      cases heq
      rw [htasks] at hi
      cases hi
      exact hother rfl
    rw [hkept, ← Option.not_isSome, hstored] at hlost
    cases hlost

end SharedVault

end Girasol
