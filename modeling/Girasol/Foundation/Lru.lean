import Mathlib.Algebra.Order.Ring.Nat
import Mathlib.Data.List.Basic

/-!
# A cache of the entries used last

The entries stand in the order of their last use, at most `capacity` of them.
Asking whether a key is there is no use of it.
-/

namespace Girasol.Foundation

structure LruCache (κ ν : Type*) (capacity : Nat) where
  /-- The entry used last comes first. -/
  entries : List (κ × ν)
  nodup : (entries.map Prod.fst).Nodup
  bounded : entries.length ≤ capacity

namespace LruCache

variable {κ ν : Type*} {capacity : Nat} [DecidableEq κ]

def empty : LruCache κ ν capacity := ⟨[], .nil, Nat.zero_le _⟩

def contains (c : LruCache κ ν capacity) (k : κ) : Bool := c.entries.any fun e => e.1 == k

def others (c : LruCache κ ν capacity) (k : κ) : List (κ × ν) :=
  c.entries.filter fun e => e.1 != k

theorem others_sublist (c : LruCache κ ν capacity) (k : κ) :
    (c.others k).Sublist c.entries :=
  List.filter_sublist

theorem nodup_others (c : LruCache κ ν capacity) (k : κ) :
    ((c.others k).map Prod.fst).Nodup :=
  c.nodup.sublist ((c.others_sublist k).map Prod.fst)

theorem ne_of_mem_others {c : LruCache κ ν capacity} {k : κ} {e : κ × ν}
    (he : e ∈ c.others k) : e.1 ≠ k := by
  simpa using (List.mem_filter.mp he).2

theorem nodup_front (c : LruCache κ ν capacity) (k : κ) (v : ν) {kept : List (κ × ν)}
    (hkept : kept.Sublist (c.others k)) : (((k, v) :: kept).map Prod.fst).Nodup := by
  rw [List.map_cons, List.nodup_cons]
  refine ⟨fun hmem => ?_, (c.nodup_others k).sublist (hkept.map Prod.fst)⟩
  obtain ⟨e, he, hk⟩ := List.mem_map.mp hmem
  exact ne_of_mem_others (hkept.subset he) hk

def pop (c : LruCache κ ν capacity) (k : κ) : LruCache κ ν capacity where
  entries := c.others k
  nodup := c.nodup_others k
  bounded := Nat.le_trans (c.others_sublist k).length_le c.bounded

/-- A use of a key brings its entry to the front. -/
def get (c : LruCache κ ν capacity) (k : κ) : Option ν × LruCache κ ν capacity :=
  match hfound : c.entries.find? fun e => e.1 == k with
  | none => (none, c)
  | some e => (some e.2, {
      entries := (k, e.2) :: c.others k
      nodup := c.nodup_front k e.2 (List.Sublist.refl _)
      bounded := by
        have hlt : (c.others k).length < c.entries.length := by
          refine List.length_filter_lt_length_iff_exists.mpr
            ⟨e, List.mem_of_find?_eq_some hfound, ?_⟩
          simpa using List.find?_some hfound
        have hbounded := c.bounded
        rw [List.length_cons]
        omega })

def put [NeZero capacity] (c : LruCache κ ν capacity) (k : κ) (v : ν) :
    LruCache κ ν capacity where
  entries := (k, v) :: (c.others k).take (capacity - 1)
  nodup := c.nodup_front k v (List.take_sublist _ _)
  bounded := by
    have hpos : 0 < capacity := Nat.pos_of_neZero capacity
    have hle := List.length_take_le (capacity - 1) (c.others k)
    rw [List.length_cons]
    omega

end LruCache

end Girasol.Foundation
