import Girasol.Foundation.Runs

/-!
# Shared state that tasks save to a file

The state is behind a read-write lock.  A task runs a program of lock sections;
some of them write the state to the file before they give the lock back.  When
every program saves what it changed, the file agrees with the state once all
tasks are done, in whatever order their sections ran.
-/

namespace Girasol.Foundation

variable {σ τ ω : Type*}

/-- A sequence of lock sections.  What comes next may depend on the state a section found. -/
inductive Program (σ : Type*) where
  | done
  | read (next : σ → Program σ)
  | change (f : σ → σ) (next : σ → Program σ)
  | changeAndSave (f : σ → σ) (next : Program σ)
  | save (next : Program σ)

/-- A task between two steps; while it holds the lock to save it has the state it serialises. -/
inductive SavingTask (σ : Type*) where
  | free (rest : Program σ)
  | reading (serialized : σ) (rest : Program σ)
  | writing (serialized : σ) (rest : Program σ)

namespace SavingTask

def holdsWrite : SavingTask σ → Bool
  | .writing _ _ => true
  | .free _ | .reading _ _ => false

def holdsLock : SavingTask σ → Bool
  | .reading _ _ | .writing _ _ => true
  | .free _ => false

def serialized? : SavingTask σ → Option σ
  | .reading serialized _ | .writing serialized _ => some serialized
  | .free _ => none

def isDone : SavingTask σ → Bool
  | .free .done => true
  | _ => false

end SavingTask

structure SavedState (σ : Type*) where
  shared : σ
  file : σ
  tasks : List (SavingTask σ)

inductive SavingEvent (ω : Type*) where
  | spawn (op : ω)
  | advance (task : Nat)

namespace SavedState

def start (loaded : σ) : SavedState σ := ⟨loaded, loaded, []⟩

def setTask (s : SavedState σ) (i : Nat) (task : SavingTask σ) : SavedState σ :=
  { s with tasks := s.tasks.set i task }

def noWriter (s : SavedState σ) : Bool := s.tasks.all fun task => !task.holdsWrite

def unlocked (s : SavedState σ) : Bool := s.tasks.all fun task => !task.holdsLock

def allDone (s : SavedState σ) : Bool := s.tasks.all SavingTask.isDone

def advance (s : SavedState σ) (i : Nat) : Option (SavedState σ) :=
  match s.tasks[i]? with
  | none => none
  | some (.reading serialized rest) | some (.writing serialized rest) =>
      some { s.setTask i (.free rest) with file := serialized }
  | some (.free .done) => none
  | some (.free (.read next)) =>
      if s.noWriter then some (s.setTask i (.free (next s.shared))) else none
  | some (.free (.change f next)) =>
      if s.unlocked then
        some { s.setTask i (.free (next s.shared)) with shared := f s.shared }
      else none
  | some (.free (.changeAndSave f next)) =>
      if s.unlocked then
        some { s.setTask i (.writing (f s.shared) next) with shared := f s.shared }
      else none
  | some (.free (.save next)) =>
      if s.noWriter then some (s.setTask i (.reading s.shared next)) else none

def step (program : ω → Program σ) (s : SavedState σ) : SavingEvent ω → Option (SavedState σ)
  | .spawn op => some { s with tasks := s.tasks ++ [.free (program op)] }
  | .advance i => s.advance i

end SavedState

/-! ## Programs that save what they change -/

/-- Every way through the program saves after its last change of the view, and once if `owed`. -/
def Program.Settles (view : σ → τ) : Bool → Program σ → Prop
  | owed, .done => owed = false
  | owed, .read next => ∀ s, (next s).Settles view owed
  | owed, .change f next =>
      ∀ s, (next s).Settles view owed ∧ (view (f s) ≠ view s → (next s).Settles view true)
  | _, .changeAndSave _ next => next.Settles view false
  | _, .save next => next.Settles view false

def SavingTask.Settles (view : σ → τ) (owed : Bool) : SavingTask σ → Prop
  | .free rest => rest.Settles view owed
  | .reading _ rest | .writing _ rest => rest.Settles view false

section

variable {view : σ → τ}

theorem SavingTask.not_settles_of_isDone {task : SavingTask σ} (hdone : task.isDone = true) :
    ¬ task.Settles view true := by
  cases task with
  | free rest =>
      cases rest with
      | done => simp [Settles, Program.Settles]
      | _ => cases hdone
  | _ => cases hdone

theorem SavingTask.serialized?_eq_none {task : SavingTask σ} (hfree : task.holdsLock = false) :
    task.serialized? = none := by
  cases task with
  | free rest => rfl
  | _ => cases hfree

theorem exists_mem_set {α : Type*} {P : α → Prop} {l : List α} {i : Nat} {a b : α}
    (hi : l[i]? = some a) (hkeep : P a → P b) (h : ∃ x ∈ l, P x) : ∃ x ∈ l.set i b, P x := by
  obtain ⟨x, hmem, hx⟩ := h
  obtain ⟨j, hj⟩ := List.getElem?_of_mem hmem
  obtain ⟨hlt, rfl⟩ := List.getElem?_eq_some_iff.mp hi
  by_cases hij : i = j
  · subst hij
    rw [List.getElem?_eq_getElem hlt] at hj
    cases hj
    exact ⟨b, List.mem_set hlt b, hkeep hx⟩
  · exact ⟨x, List.mem_of_getElem? ((List.getElem?_set_ne hij).trans hj), hx⟩

namespace SavedState

/--
Whoever holds the lock to save has the current state, and a file that is behind
is owed a save by some task.
-/
structure Inv (view : σ → τ) (s : SavedState σ) : Prop where
  current : ∀ task ∈ s.tasks, ∀ serialized ∈ task.serialized?, serialized = s.shared
  settles : ∀ task ∈ s.tasks, task.Settles view false
  saved : view s.file = view s.shared ∨ ∃ task ∈ s.tasks, task.Settles view true

theorem inv_start (view : σ → τ) (loaded : σ) : (start loaded).Inv view :=
  ⟨by simp [start], by simp [start], .inl rfl⟩

theorem Inv.move {s : SavedState σ} {i : Nat} {task task' : SavingTask σ} {shared' file' : σ}
    (hs : s.Inv view) (hi : s.tasks[i]? = some task)
    (hcurrent : ∀ serialized ∈ task'.serialized?, serialized = shared')
    (hlock : shared' = s.shared ∨ s.unlocked = true) (hsettles : task'.Settles view false)
    (hsaved : view file' = view shared' ∨ task'.Settles view true ∨
      (view file' = view s.file ∧ view shared' = view s.shared ∧
        (task.Settles view true → task'.Settles view true))) :
    Inv view ⟨shared', file', s.tasks.set i task'⟩ := by
  have hlt : i < s.tasks.length := (List.getElem?_eq_some_iff.mp hi).1
  refine ⟨fun other hother serialized hser => ?_, fun other hother => ?_, ?_⟩
  · rcases List.mem_or_eq_of_mem_set hother with hold | rfl
    · rcases hlock with rfl | hfree
      · exact hs.current other hold serialized hser
      · have hnone : other.holdsLock = false := by
          simpa using List.all_eq_true.mp hfree other hold
        rw [SavingTask.serialized?_eq_none hnone] at hser
        cases hser
    · exact hcurrent serialized hser
  · rcases List.mem_or_eq_of_mem_set hother with hold | rfl
    · exact hs.settles other hold
    · exact hsettles
  · rcases hsaved with heq | howed | ⟨hfile, hshared, hkeep⟩
    · exact .inl heq
    · exact .inr ⟨task', List.mem_set hlt task', howed⟩
    · rcases hs.saved with heq | howed
      · exact .inl (by rw [hfile, hshared, heq])
      · exact .inr (exists_mem_set hi hkeep howed)

theorem Inv.finish {s : SavedState σ} {i : Nat} {task : SavingTask σ} {serialized : σ}
    {rest : Program σ} (hs : s.Inv view) (hi : s.tasks[i]? = some task)
    (hser : task.serialized? = some serialized) (hrest : rest.Settles view false) :
    Inv view { s.setTask i (.free rest) with file := serialized } := by
  have heq : serialized = s.shared := hs.current task (List.mem_of_getElem? hi) serialized hser
  exact hs.move hi (by simp [SavingTask.serialized?]) (.inl rfl) hrest
    (.inl (congrArg view heq))

theorem Inv.advance {s s' : SavedState σ} {i : Nat} (hs : s.Inv view)
    (hstep : s.advance i = some s') : s'.Inv view := by
  unfold SavedState.advance at hstep
  split at hstep
  case h_1 => cases hstep
  case h_2 serialized rest hi =>
    cases hstep
    have hrest : rest.Settles view false := hs.settles _ (List.mem_of_getElem? hi)
    exact hs.finish hi rfl hrest
  case h_3 serialized rest hi =>
    cases hstep
    have hrest : rest.Settles view false := hs.settles _ (List.mem_of_getElem? hi)
    exact hs.finish hi rfl hrest
  case h_4 => cases hstep
  case h_5 next hi =>
    split at hstep <;> cases hstep
    have hnext : ∀ x, (next x).Settles view false := hs.settles _ (List.mem_of_getElem? hi)
    exact hs.move hi (by simp [SavingTask.serialized?]) (.inl rfl) (hnext s.shared)
      (.inr (.inr ⟨rfl, rfl, fun howed => howed s.shared⟩))
  case h_6 f next hi =>
    split at hstep <;> cases hstep
    case isTrue hfree =>
      have hnext := hs.settles _ (List.mem_of_getElem? hi) s.shared
      refine hs.move hi (by simp [SavingTask.serialized?]) (.inr hfree) hnext.1 (.inr ?_)
      by_cases hview : view (f s.shared) = view s.shared
      · exact .inr ⟨rfl, hview, fun howed => (howed s.shared).1⟩
      · exact .inl (hnext.2 hview)
  case h_7 f next hi =>
    split at hstep <;> cases hstep
    case isTrue hfree =>
      have hnext : next.Settles view false := hs.settles _ (List.mem_of_getElem? hi)
      exact hs.move hi (by simp [SavingTask.serialized?]) (.inr hfree) hnext (.inr (.inl hnext))
  case h_8 next hi =>
    split at hstep <;> cases hstep
    have hnext : next.Settles view false := hs.settles _ (List.mem_of_getElem? hi)
    exact hs.move hi (by simp [SavingTask.serialized?]) (.inl rfl) hnext (.inr (.inl hnext))

theorem Inv.spawn {s : SavedState σ} {program : Program σ} (hs : s.Inv view)
    (hprogram : program.Settles view false) :
    Inv view { s with tasks := s.tasks ++ [.free program] } := by
  refine ⟨fun task htask serialized hser => ?_, fun task htask => ?_, ?_⟩
  · rcases List.mem_append.mp htask with hold | hnew
    · exact hs.current task hold serialized hser
    · cases List.mem_singleton.mp hnew
      cases hser
  · rcases List.mem_append.mp htask with hold | hnew
    · exact hs.settles task hold
    · cases List.mem_singleton.mp hnew
      exact hprogram
  · refine hs.saved.imp_right ?_
    rintro ⟨task, hmem, howed⟩
    exact ⟨task, List.mem_append_left _ hmem, howed⟩

theorem Inv.step {program : ω → Program σ} (hprogram : ∀ op, (program op).Settles view false)
    {s s' : SavedState σ} {e : SavingEvent ω} (hs : s.Inv view)
    (hstep : s.step program e = some s') : s'.Inv view := by
  cases e with
  | spawn op =>
      cases hstep
      exact hs.spawn (hprogram op)
  | advance i => exact hs.advance hstep

theorem file_eq_of_allDone {s : SavedState σ} (hs : s.Inv view) (hdone : s.allDone = true) :
    view s.file = view s.shared := by
  refine hs.saved.resolve_right ?_
  rintro ⟨task, hmem, howed⟩
  exact SavingTask.not_settles_of_isDone (List.all_eq_true.mp hdone task hmem) howed

theorem file_eq_of_run {program : ω → Program σ}
    (hprogram : ∀ op, (program op).Settles view false) {loaded : σ}
    {events : List (SavingEvent ω)} {t : SavedState σ}
    (hrun : Run (step program) (fun _ _ => True) (start loaded) events t)
    (hdone : t.allDone = true) : view t.file = view t.shared :=
  file_eq_of_allDone
    (hrun.invariant (fun _ _ _ _ hstep hs => hs.step hprogram hstep) (inv_start view loaded)) hdone

end SavedState

end

end Girasol.Foundation
