import Mathlib.Data.List.AList

/-!
# Stores

A store is a finite map.  `update` covers what a lock section does to the entry
of one key: change it when it is there, or drop it.
-/

namespace Girasol.Foundation

abbrev Store (κ : Type*) (ν : Type*) := AList (fun _ : κ => ν)

namespace Store

variable {κ ν : Type*} [DecidableEq κ]

def update (k : κ) (f : ν → Option ν) (s : Store κ ν) : Store κ ν :=
  match s.lookup k with
  | none => s
  | some v =>
      match f v with
      | none => s.erase k
      | some v' => s.insert k v'

@[simp] theorem lookup_update_self (k : κ) (f : ν → Option ν) (s : Store κ ν) :
    (update k f s).lookup k = (s.lookup k).bind f := by
  unfold update
  split
  case h_1 h => simp [h]
  case h_2 v h =>
    rw [h]
    cases hf : f v with
    | none => simp [hf]
    | some v' => simp [hf]

@[simp] theorem lookup_update_ne {k k' : κ} (hk : k' ≠ k) (f : ν → Option ν)
    (s : Store κ ν) : (update k f s).lookup k' = s.lookup k' := by
  unfold update
  split
  case h_1 => rfl
  case h_2 v _ =>
    cases f v with
    | none => exact AList.lookup_erase_ne hk
    | some v' => exact AList.lookup_insert_ne hk

theorem lookup_update (k k' : κ) (f : ν → Option ν) (s : Store κ ν) :
    (update k f s).lookup k' =
      if k' = k then (s.lookup k').bind f else s.lookup k' := by
  split
  case isTrue hk =>
    subst hk
    exact lookup_update_self k' f s
  case isFalse hk => exact lookup_update_ne hk f s

theorem lookup_erase_eq (k k' : κ) (s : Store κ ν) :
    (s.erase k).lookup k' = if k' = k then none else s.lookup k' := by
  split
  case isTrue hk =>
    subst hk
    exact AList.lookup_erase k' s
  case isFalse hk => exact AList.lookup_erase_ne hk

theorem lookup_insert_eq (k k' : κ) (v : ν) (s : Store κ ν) :
    (AList.insert k v s).lookup k' = if k' = k then some v else s.lookup k' := by
  split
  case isTrue hk =>
    subst hk
    exact AList.lookup_insert s
  case isFalse hk => exact AList.lookup_insert_ne hk

/-! ## Properties of every value -/

def All (good : ν → Prop) (s : Store κ ν) : Prop := ∀ k v, s.lookup k = some v → good v

variable {good : ν → Prop} {s : Store κ ν}

theorem All.update {k : κ} {f : ν → Option ν} (hs : All good s)
    (hf : ∀ v v', s.lookup k = some v → f v = some v' → good v') : All good (update k f s) := by
  intro k' v' hlook
  rw [lookup_update] at hlook
  split at hlook
  case isTrue hk =>
    obtain ⟨v, hopen, heq⟩ := Option.bind_eq_some_iff.mp hlook
    exact hf v v' (hk ▸ hopen) heq
  case isFalse => exact hs k' v' hlook

theorem All.insert {k : κ} {v : ν} (hs : All good s) (hv : good v) :
    All good (AList.insert k v s) := by
  intro k' v' hlook
  rw [lookup_insert_eq] at hlook
  split at hlook
  · cases hlook
    exact hv
  · exact hs k' v' hlook

theorem All.erase {k : κ} (hs : All good s) : All good (s.erase k) := by
  intro k' v' hlook
  rw [lookup_erase_eq] at hlook
  split at hlook
  · cases hlook
  · exact hs k' v' hlook

/-! ## Erasing a list of keys -/

def eraseIf (drop : κ → Bool) (keys : List κ) (s : Store κ ν) : Store κ ν :=
  keys.foldl (fun s k => if drop k then s.erase k else s) s

theorem lookup_eraseIf (drop : κ → Bool) (keys : List κ) (s : Store κ ν) (k : κ) :
    (eraseIf drop keys s).lookup k =
      if k ∈ keys ∧ drop k = true then none else s.lookup k := by
  induction keys generalizing s with
  | nil => simp [eraseIf]
  | cons k₀ keys ih =>
      have hfold : eraseIf drop (k₀ :: keys) s =
          eraseIf drop keys (if drop k₀ then s.erase k₀ else s) := rfl
      rw [hfold, ih]
      by_cases hdrop : drop k₀ = true
      · rw [if_pos hdrop, lookup_erase_eq]
        by_cases hk : k = k₀
        · subst hk
          simp [hdrop]
        · simp [hk]
      · rw [if_neg hdrop]
        by_cases hk : k = k₀
        · subst hk
          simp [hdrop]
        · simp [hk]

end Store

end Girasol.Foundation
