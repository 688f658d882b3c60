import Mathlib.Data.List.Basic
import Mathlib.Data.List.Forall2

/-!
# Checked computations

A check either passes or stops a computation with an error.  A computation that
succeeds has passed every one of its checks.
-/

namespace Girasol.Foundation

universe u v w

variable {ε : Type u} {α β : Type v}

def reject (bad : Bool) (error : ε) : Except ε Unit :=
  if bad then .error error else .ok ()

@[simp]
theorem reject_eq_ok {bad : Bool} {error : ε} {u : Unit} :
    reject bad error = .ok u ↔ bad = false := by
  cases bad <;> simp [reject]

theorem bind_eq_ok {x : Except ε α} {f : α → Except ε β} {b : β} :
    x >>= f = .ok b ↔ ∃ a, x = .ok a ∧ f a = .ok b := by
  cases x with
  | error e => simp [bind, Except.bind]
  | ok a => simp [bind, Except.bind]

@[simp] theorem toOption_eq_some {x : Except ε α} {a : α} : x.toOption = some a ↔ x = .ok a := by
  cases x <;> simp [Except.toOption]

@[simp] theorem toOption_bind_ok (x : Except ε α) (f : α → β) :
    (x >>= fun a => (.ok (f a) : Except ε β)).toOption = x.toOption.map f := by
  cases x <;> rfl

@[simp] theorem mapError_eq_ok {ε' : Type*} {f : ε → ε'} {x : Except ε α} {a : α} :
    x.mapError f = .ok a ↔ x = .ok a := by
  cases x <;> simp [Except.mapError]

theorem isOk_iff {x : Except ε α} : x.isOk = true ↔ ∃ a, x = .ok a := by
  cases x <;> simp [Except.isOk, Except.toBool]

theorem forall_of_foldlM_ok {α : Type w} {σ : Type v} {f : σ → α → Except ε σ}
    (checked : α → Prop) (hstep : ∀ s a s', f s a = .ok s' → checked a) {items : List α} {s t : σ}
    (hok : items.foldlM f s = .ok t) : ∀ a ∈ items, checked a := by
  induction items generalizing s with
  | nil => simp
  | cons a items ih =>
      rw [List.foldlM_cons, bind_eq_ok] at hok
      obtain ⟨s', hfirst, hrest⟩ := hok
      simp only [List.forall_mem_cons]
      exact ⟨hstep s a s' hfirst, ih hrest⟩

/-! ## Folds -/

theorem foldlM_congr {m : Type v → Type*} [Monad m] {α : Type w} {σ : Type v} {f g : σ → α → m σ}
    {items : List α} (h : ∀ a ∈ items, ∀ s, f s a = g s a) (s : σ) :
    items.foldlM f s = items.foldlM g s := by
  induction items generalizing s with
  | nil => rfl
  | cons a items ih =>
      rw [List.foldlM_cons, List.foldlM_cons, h a List.mem_cons_self]
      exact bind_congr fun s' => ih (fun b hb => h b (List.mem_cons_of_mem a hb)) s'

theorem isSome_foldlM {α : Type w} {σ : Type v} {f : σ → α → Option σ} {defined : α → Bool}
    (hf : ∀ s a, (f s a).isSome = defined a) (items : List α) (s : σ) :
    (items.foldlM f s).isSome = items.all defined := by
  induction items generalizing s with
  | nil => rfl
  | cons a items ih =>
      rw [List.foldlM_cons, List.all_cons, ← hf s a]
      cases f s a with
      | none => rfl
      | some s' => simpa using ih s'

/-! ## Lookups of every item of a list -/

theorem mapM_eq_some_iff {α β : Type*} {f : α → Option β} {l : List α} {r : List β} :
    l.mapM f = some r ↔ List.Forall₂ (fun a b => f a = some b) l r := by
  induction l generalizing r with
  | nil => cases r <;> simp
  | cons a l ih =>
      rw [List.mapM_cons, List.forall₂_cons_left_iff]
      simp only [Option.bind_eq_bind, Option.bind_eq_some_iff, ih, Option.pure_def,
        Option.some.injEq]
      constructor
      · rintro ⟨b, hb, r', hr', rfl⟩
        exact ⟨b, r', hb, hr', rfl⟩
      · rintro ⟨b, r', hb, hr', rfl⟩
        exact ⟨b, hb, r', hr', rfl⟩

theorem isSome_mapM {α β : Type*} {f : α → Option β} {l : List α}
    (h : ∀ a ∈ l, (f a).isSome = true) : (l.mapM f).isSome = true := by
  induction l with
  | nil => rfl
  | cons a l ih =>
      obtain ⟨b, hb⟩ := Option.isSome_iff_exists.mp (h a List.mem_cons_self)
      obtain ⟨r, hr⟩ := Option.isSome_iff_exists.mp
        (ih fun a' ha' => h a' (List.mem_cons_of_mem a ha'))
      simp [List.mapM_cons, hb, hr]

theorem exists_of_mem_mapM {α β : Type*} {f : α → Option β} {l : List α} {r : List β}
    (h : l.mapM f = some r) {b : β} (hb : b ∈ r) : ∃ a ∈ l, f a = some b := by
  have hall := mapM_eq_some_iff.mp h
  clear h
  induction hall with
  | nil => cases hb
  | @cons a b' l r ha hrest ih =>
      rcases List.mem_cons.mp hb with rfl | hmem
      · exact ⟨a, List.mem_cons_self, ha⟩
      · obtain ⟨a', ha', hf⟩ := ih hmem
        exact ⟨a', List.mem_cons_of_mem a ha', hf⟩

end Girasol.Foundation
