import Mathlib.Algebra.Ring.Nat
import Mathlib.Data.List.Basic

/-!
# Counting in a list

How a count changes when an item is put in front or changed in place.
-/

namespace Girasol.Foundation

variable {α : Type*}

theorem countP_cons_toNat (check : α → Bool) (x : α) (xs : List α) :
    (x :: xs).countP check = (check x).toNat + xs.countP check := by
  rw [List.countP_cons]
  cases check x <;> simp [Nat.add_comm]

@[simp] theorem countP_modify (check : α → Bool) (f : α → α) {xs : List α} {i : Nat} {x : α}
    (hx : xs[i]? = some x) :
    (xs.modify i f).countP check + (check x).toNat =
      xs.countP check + (check (f x)).toNat := by
  induction xs generalizing i with
  | nil => cases hx
  | cons y xs ih =>
      cases i with
      | zero =>
          cases hx
          rw [List.modify_zero_cons, countP_cons_toNat, countP_cons_toNat]
          omega
      | succ i =>
          have hrest := ih hx
          rw [List.modify_succ_cons, countP_cons_toNat, countP_cons_toNat]
          omega

theorem sum_map_modify (weight : α → Nat) (f : α → α) {xs : List α} {i : Nat} {x : α}
    (hx : xs[i]? = some x) :
    ((xs.modify i f).map weight).sum + weight x = (xs.map weight).sum + weight (f x) := by
  induction xs generalizing i with
  | nil => cases hx
  | cons y xs ih =>
      cases i with
      | zero =>
          cases hx
          simp only [List.modify_zero_cons, List.map_cons, List.sum_cons]
          omega
      | succ i =>
          have hrest := ih hx
          simp only [List.modify_succ_cons, List.map_cons, List.sum_cons]
          omega

theorem sum_map_set (f : α → Nat) {l : List α} {i : Nat} {a : α}
    (hi : l[i]? = some a) (b : α) :
    ((l.set i b).map f).sum + f a = (l.map f).sum + f b := by
  induction l generalizing i with
  | nil => cases hi
  | cons x l ih =>
      cases i with
      | zero =>
          cases hi
          simp only [List.set_cons_zero, List.map_cons, List.sum_cons]
          omega
      | succ i =>
          have hrest := ih (i := i) hi
          simp only [List.set_cons_succ, List.map_cons, List.sum_cons]
          omega

end Girasol.Foundation
