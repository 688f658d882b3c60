import Mathlib.Data.List.Nodup
import Mathlib.Logic.Equiv.Basic
import Mathlib.Algebra.Group.End

/-!
# Tables with their entries renumbered

A table is permuted by a permutation of the indices that keeps the indices
outside the table.
-/

namespace Girasol.Foundation

variable {α : Type*}

/-- The entry at `i` has moved to `σ i`. -/
def Renumbered (σ : Equiv.Perm Nat) (xs ys : List α) : Prop := ∀ i, ys[σ i]? = xs[i]?

namespace Renumbered

variable {σ : Equiv.Perm Nat} {xs ys : List α}

theorem mem_iff (h : Renumbered σ xs ys) (a : α) : a ∈ ys ↔ a ∈ xs := by
  rw [List.mem_iff_getElem?, List.mem_iff_getElem?]
  constructor
  · rintro ⟨i, hi⟩
    exact ⟨σ.symm i, by rw [← h, Equiv.apply_symm_apply, hi]⟩
  · rintro ⟨i, hi⟩
    exact ⟨σ i, by rw [h, hi]⟩

theorem nodup (h : Renumbered σ xs ys) (hxs : xs.Nodup) : ys.Nodup := by
  rw [List.nodup_iff_getElem?_ne_getElem?]
  intro i j hij hj heq
  have hi : ys[i]? = xs[σ.symm i]? := by rw [← h, Equiv.apply_symm_apply]
  have hj' : ys[j]? = xs[σ.symm j]? := by rw [← h, Equiv.apply_symm_apply]
  rw [hi, hj'] at heq
  have hlt : σ.symm i < xs.length := by
    by_contra hge
    rw [List.getElem?_eq_none (Nat.le_of_not_lt hge), ← hj', List.getElem?_eq_getElem hj] at heq
    cases heq
  have hsame := (List.getElem?_inj hlt hxs).mp heq
  exact hij.ne (σ.symm.injective hsame)

theorem idxOf? [BEq α] [LawfulBEq α] (h : Renumbered σ xs ys) (hys : ys.Nodup) (a : α) :
    ys.idxOf? a = (xs.idxOf? a).map σ := by
  cases hxs : xs.idxOf? a with
  | none =>
      have hmem : a ∉ ys := by
        rw [h.mem_iff]
        exact List.idxOf?_eq_none_iff.mp hxs
      exact List.idxOf?_eq_none_iff.mpr hmem
  | some i =>
      obtain ⟨hi, ha, -⟩ := List.findIdx?_eq_some_iff_getElem.mp hxs
      have hget : ys[σ i]? = some a := by
        rw [h, List.getElem?_eq_getElem hi]
        simpa using ha
      obtain ⟨hlt, heq⟩ := List.getElem?_eq_some_iff.mp hget
      refine List.findIdx?_eq_some_iff_getElem.mpr ⟨hlt, by simp [heq], fun j hj => ?_⟩
      have hne : ys[j] ≠ ys[σ i] := fun hsame =>
        hj.ne ((List.Nodup.getElem_inj_iff hys).mp hsame)
      simpa [← heq] using hne

end Renumbered

section

variable (σ : Equiv.Perm Nat)

theorem lt_of_fixed {n : Nat} (hσ : ∀ i, n ≤ i → σ i = i) {i : Nat} (h : i < n) : σ i < n := by
  by_contra hge
  have hfixed := hσ (σ i) (Nat.le_of_not_lt hge)
  have heq := σ.injective hfixed
  omega

/-- The table of `n` entries with `σ` applied to its indices. -/
def renumber (n : Nat) (default : α) (xs : List α) : List α :=
  (List.range n).map fun i => xs.getD (σ.symm i) default

theorem renumbered_renumber {xs : List α} (default : α)
    (hσ : ∀ i, xs.length ≤ i → σ i = i) :
    Renumbered σ xs (renumber σ xs.length default xs) := by
  intro i
  by_cases hi : i < xs.length
  · simp [renumber, lt_of_fixed σ hσ hi, hi]
  · have hfixed := hσ i (Nat.le_of_not_lt hi)
    simp [renumber, hfixed, hi]

theorem getD_renumber {n : Nat} {xs : List α} (default : α) (hσ : ∀ i, n ≤ i → σ i = i)
    (hlength : xs.length ≤ n) (i : Nat) :
    (renumber σ n default xs).getD (σ i) default = xs.getD i default := by
  by_cases hi : i < n
  · simp [renumber, lt_of_fixed σ hσ hi]
  · have hle := Nat.le_of_not_lt hi
    simp [renumber, hσ i hle, hi, List.getElem?_eq_none (hlength.trans hle)]

end

end Girasol.Foundation
