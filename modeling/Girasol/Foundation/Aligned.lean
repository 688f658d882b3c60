import Mathlib.Data.List.ReduceOption
import Mathlib.Data.List.Basic

/-!
# Lists of lookups with the failed ones left out

A list of lookups loses its gaps when it is reduced to the entries found.  The
positions survive when every gap comes after the last entry found.
-/

namespace Girasol.Foundation

variable {α : Type*}

/-- The entries kept stand where they are listed. -/
def Aligned (listed : List (Option α)) (kept : List α) : Prop :=
  ∀ (i : Nat) (h : i < kept.length), listed[i]? = some (some kept[i])

instance [DecidableEq α] (listed : List (Option α)) (kept : List α) :
    Decidable (Aligned listed kept) :=
  inferInstanceAs (Decidable (∀ (i : Nat) (h : i < kept.length), listed[i]? = some (some kept[i])))

def GapsLast (listed : List (Option α)) : Prop :=
  listed.Pairwise fun a b => b.isSome → a.isSome

instance (listed : List (Option α)) : Decidable (GapsLast listed) :=
  inferInstanceAs (Decidable (List.Pairwise _ _))

theorem reduceOption_map_eq {ι : Type*} (f : ι → Option α) (items : List ι) :
    (items.map f).reduceOption = items.filterMap f := by
  rw [List.reduceOption, List.filterMap_map]
  rfl

@[simp] theorem aligned_nil (listed : List (Option α)) : Aligned listed [] :=
  fun _ h => absurd h (Nat.not_lt_zero _)

@[simp] theorem aligned_cons_some (a : α) (listed : List (Option α)) (kept : List α) :
    Aligned (some a :: listed) (a :: kept) ↔ Aligned listed kept := by
  constructor
  · intro h i hi
    exact h (i + 1) (Nat.succ_lt_succ hi)
  · intro h i hi
    cases i with
    | zero => rfl
    | succ i => exact h i (Nat.lt_of_succ_lt_succ hi)

theorem not_aligned_cons_none (a : α) (listed : List (Option α)) (kept : List α) :
    ¬ Aligned (none :: listed) (a :: kept) :=
  fun h => by simpa using h 0 (by simp)

theorem aligned_reduceOption_iff (listed : List (Option α)) :
    Aligned listed listed.reduceOption ↔ GapsLast listed := by
  induction listed with
  | nil => exact iff_of_true (aligned_nil []) .nil
  | cons entry listed ih =>
      unfold GapsLast
      rw [List.pairwise_cons]
      cases entry with
      | some a =>
          rw [List.reduceOption_cons_of_some, aligned_cons_some, ih]
          simp [GapsLast]
      | none =>
          rw [List.reduceOption_cons_of_none]
          cases hkept : listed.reduceOption with
          | nil =>
              have hgaps : ∀ b ∈ listed, b.isSome → (none : Option α).isSome := by
                intro b hb hsome
                obtain ⟨a, rfl⟩ := Option.isSome_iff_exists.mp hsome
                have hmem := List.reduceOption_mem_iff.mpr hb
                rw [hkept] at hmem
                cases hmem
              refine iff_of_true (aligned_nil _) ⟨hgaps, ?_⟩
              exact List.Pairwise.imp_of_mem (R := fun _ _ => True)
                (fun _ hb _ hsome => by simpa using hgaps _ hb hsome)
                (List.pairwise_of_forall fun _ _ => trivial)
          | cons a kept =>
              refine iff_of_false (not_aligned_cons_none a listed kept) ?_
              rintro ⟨hgaps, -⟩
              have hmem : a ∈ listed.reduceOption := by
                rw [hkept]
                exact List.mem_cons_self
              simpa using hgaps (some a) (List.reduceOption_mem_iff.mp hmem) rfl

end Girasol.Foundation
