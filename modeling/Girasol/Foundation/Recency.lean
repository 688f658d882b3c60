import Girasol.Foundation.Lru

/-!
# What a cache of the entries used last holds

The uses of a cache, the latest first, say which keys it holds, in which order,
and with which values: its content is a function of its history.
-/

namespace Girasol.Foundation

variable {κ ν : Type*} {capacity : Nat} [DecidableEq κ]

abbrev CacheUse (κ ν : Type*) := κ × Option ν

/-- The keys that were used, each at its last use. -/
def recents : List κ → List κ
  | [] => []
  | k :: used => k :: (recents used).filter (· != k)

/-- The value stored last for a key. -/
def lastStored (k : κ) : List (CacheUse κ ν) → Option ν
  | [] => none
  | (k', some v) :: uses => if k' = k then some v else lastStored k uses
  | (_, none) :: uses => lastStored k uses

@[simp] theorem lastStored_cons_of_ne {k k' : κ} (hne : k' ≠ k) (stored : Option ν)
    (uses : List (CacheUse κ ν)) : lastStored k ((k', stored) :: uses) = lastStored k uses := by
  cases stored with
  | none => rfl
  | some v => rw [lastStored, if_neg hne]

/-! ## Dropping a key from a prefix -/

theorem filter_ne_of_notMem {k : κ} {keys : List κ} (hk : k ∉ keys) :
    keys.filter (· != k) = keys := by
  refine List.filter_eq_self.mpr fun k' hk' => ?_
  simp only [bne_iff_ne]
  rintro rfl
  exact hk hk'

theorem filter_take_of_mem {k : κ} {n : Nat} {keys : List κ} (hnodup : keys.Nodup)
    (hk : k ∈ keys.take (n + 1)) :
    (keys.take (n + 1)).filter (· != k) = (keys.filter (· != k)).take n := by
  induction keys generalizing n with
  | nil => cases hk
  | cons k' keys ih =>
      rw [List.nodup_cons] at hnodup
      rw [List.take_succ_cons] at hk ⊢
      by_cases heq : k' = k
      · subst heq
        have hrest : k' ∉ keys.take n := fun hmem => hnodup.1 (List.mem_of_mem_take hmem)
        simp only [List.filter_cons, bne_self_eq_false, Bool.false_eq_true, if_false]
        rw [filter_ne_of_notMem hrest, filter_ne_of_notMem hnodup.1]
      · have hkeep : (k' != k) = true := by simpa using heq
        have hlater : k ∈ keys.take n := by
          rcases List.mem_cons.mp hk with hhead | hlater
          · exact absurd hhead.symm heq
          · exact hlater
        simp only [List.filter_cons, hkeep, if_true]
        cases n with
        | zero => cases hlater
        | succ n => rw [ih hnodup.2 hlater, List.take_succ_cons]

theorem take_filter_of_notMem {k : κ} {n : Nat} {keys : List κ} (hk : k ∉ keys.take n) :
    (keys.filter (· != k)).take n = keys.take n := by
  induction keys generalizing n with
  | nil => rfl
  | cons k' keys ih =>
      cases n with
      | zero => rfl
      | succ n =>
          rw [List.take_succ_cons, List.mem_cons, not_or] at hk
          have hkeep : (k' != k) = true := by simpa using Ne.symm hk.1
          simp only [List.filter_cons, hkeep, if_true, List.take_succ_cons]
          rw [ih hk.2]

theorem nodup_recents (used : List κ) : (recents used).Nodup := by
  induction used with
  | nil => exact .nil
  | cons k used ih =>
      refine List.nodup_cons.mpr ⟨fun hmem => ?_, ih.filter _⟩
      simp at hmem

theorem take_recents_cons (k : κ) (used : List κ) (n : Nat) :
    (recents (k :: used)).take (n + 1) =
      k :: (((recents used).take (n + 1)).filter (· != k)).take n := by
  rw [recents, List.take_succ_cons]
  congr 1
  by_cases hk : k ∈ (recents used).take (n + 1)
  · rw [filter_take_of_mem (nodup_recents used) hk, List.take_take, Nat.min_self]
  · rw [filter_ne_of_notMem hk, List.take_take, Nat.min_eq_left (Nat.le_succ n)]
    exact take_filter_of_notMem fun hmem => hk (List.take_subset_take_left _ (Nat.le_succ n) hmem)

/-! ## The history of a cache -/

namespace LruCache

def keys (c : LruCache κ ν capacity) : List κ := c.entries.map Prod.fst

structure Reflects (c : LruCache κ ν capacity) (uses : List (CacheUse κ ν)) : Prop where
  keys : c.keys = (recents (uses.map Prod.fst)).take capacity
  values : ∀ e ∈ c.entries, lastStored e.1 uses = some e.2

theorem reflects_empty : (empty : LruCache κ ν capacity).Reflects [] :=
  ⟨by simp [empty, LruCache.keys, recents], fun _ he => nomatch he⟩

variable {c : LruCache κ ν capacity} {k : κ} {uses : List (CacheUse κ ν)}

theorem keys_others : (c.others k).map Prod.fst = c.keys.filter (· != k) := by
  simp [others, LruCache.keys, List.filter_map, Function.comp_def]

@[simp] theorem find?_eq_some_iff {v : ν} :
    (c.entries.find? fun e => e.1 == k) = some (k, v) ↔ (k, v) ∈ c.entries := by
  have hnodup := c.nodup
  revert hnodup
  induction c.entries with
  | nil => simp
  | cons e entries ih =>
      intro hnodup
      rw [List.map_cons, List.nodup_cons] at hnodup
      by_cases heq : e.1 = k
      · have hrest : (k, v) ∉ entries := fun hmem =>
          hnodup.1 (heq ▸ List.mem_map_of_mem (f := Prod.fst) hmem)
        simp only [List.find?_cons, heq, beq_self_eq_true, List.mem_cons, hrest, or_false,
          Option.some.injEq]
        exact eq_comm
      · have hne : (k, v) ≠ e := fun h => heq (congrArg Prod.fst h).symm
        simp only [List.find?_cons, beq_false_of_ne heq, List.mem_cons, hne, false_or]
        exact ih hnodup.2

theorem get_fst : (c.get k).1 = (c.entries.find? fun e => e.1 == k).map Prod.snd := by
  unfold get
  split
  case h_1 hnone => exact (congrArg (Option.map Prod.snd) hnone).symm
  case h_2 e hfound => exact (congrArg (Option.map Prod.snd) hfound).symm

@[simp] theorem get_fst_eq_some_iff {v : ν} : (c.get k).1 = some v ↔ (k, v) ∈ c.entries := by
  rw [get_fst, ← find?_eq_some_iff, Option.map_eq_some_iff]
  constructor
  · rintro ⟨⟨k', v'⟩, hfound, rfl⟩
    have hk : k' = k := by simpa using List.find?_some hfound
    rw [hfound, hk]
  · intro hfound
    exact ⟨_, hfound, rfl⟩

@[simp] theorem get_of_none (h : (c.get k).1 = none) : (c.get k).2 = c := by
  unfold get at h ⊢
  split
  · rfl
  · rename_i heq
    split at h
    · rename_i hnone
      cases hnone.symm.trans heq
    · cases h

theorem entries_get {v : ν} (h : (c.get k).1 = some v) :
    (c.get k).2.entries = (k, v) :: c.others k := by
  unfold get at h ⊢
  split
  · rename_i hnone
    split at h
    · cases h
    · rename_i hsome
      cases hnone.symm.trans hsome
  · rename_i e hfound
    split at h
    · cases h
    · rename_i e' hfound'
      cases hfound.symm.trans hfound'
      cases h
      rfl

theorem mem_of_mem_get {e : κ × ν} (he : e ∈ (c.get k).2.entries) : e ∈ c.entries := by
  cases hget : (c.get k).1 with
  | none => rwa [get_of_none hget] at he
  | some v =>
      rw [entries_get hget] at he
      rcases List.mem_cons.mp he with rfl | hother
      · exact get_fst_eq_some_iff.mp hget
      · exact (c.others_sublist k).subset hother

theorem mem_of_mem_put [NeZero capacity] {v : ν} {e : κ × ν} (he : e ∈ (c.put k v).entries) :
    e = (k, v) ∨ e ∈ c.entries := by
  rcases List.mem_cons.mp he with heq | hkept
  · exact .inl heq
  · exact .inr ((c.others_sublist k).subset (List.mem_of_mem_take hkept))

omit [DecidableEq κ] in
theorem mem_keys_iff : k ∈ c.keys ↔ ∃ v, (k, v) ∈ c.entries := by
  simp [LruCache.keys]

theorem values_front {c' : LruCache κ ν capacity} {v : ν} {stored : Option ν}
    (hentries : ∀ e ∈ c'.entries, e = (k, v) ∨ e ∈ c.others k)
    (hstored : lastStored k ((k, stored) :: uses) = some v)
    (hvalues : ∀ e ∈ c.entries, lastStored e.1 uses = some e.2) :
    ∀ e ∈ c'.entries, lastStored e.1 ((k, stored) :: uses) = some e.2 := by
  intro e he
  rcases hentries e he with rfl | hother
  · exact hstored
  · rw [lastStored_cons_of_ne (ne_of_mem_others hother).symm]
    exact hvalues e ((c.others_sublist k).subset hother)

theorem reflects_get [NeZero capacity] {v : ν} (hc : c.Reflects uses)
    (h : (c.get k).1 = some v) : (c.get k).2.Reflects ((k, none) :: uses) := by
  have hmem : (k, v) ∈ c.entries := get_fst_eq_some_iff.mp h
  have hentries := entries_get h
  constructor
  · obtain ⟨n, hn⟩ := Nat.exists_eq_succ_of_ne_zero (NeZero.ne capacity)
    subst hn
    have hkey : k ∈ (recents (uses.map Prod.fst)).take (n + 1) :=
      hc.keys ▸ mem_keys_iff.mpr ⟨v, hmem⟩
    rw [LruCache.keys, hentries, List.map_cons, keys_others, List.map_cons, take_recents_cons,
      ← hc.keys]
    congr 1
    refine (List.take_of_length_le ?_).symm
    rw [hc.keys, filter_take_of_mem (nodup_recents _) hkey]
    exact List.length_take_le _ _
  · refine values_front (v := v) (fun e he => ?_) (hc.values _ hmem) hc.values
    rw [hentries] at he
    exact List.mem_cons.mp he

theorem reflects_put [NeZero capacity] (hc : c.Reflects uses) (v : ν) :
    (c.put k v).Reflects ((k, some v) :: uses) := by
  constructor
  · obtain ⟨n, hn⟩ := Nat.exists_eq_succ_of_ne_zero (NeZero.ne capacity)
    subst hn
    rw [LruCache.keys, put, List.map_cons, List.map_take, keys_others, List.map_cons,
      take_recents_cons, ← hc.keys]
    rfl
  · refine values_front (v := v) (fun e he => ?_) (by rw [lastStored, if_pos rfl]) hc.values
    rcases List.mem_cons.mp he with rfl | hkept
    · exact .inl rfl
    · exact .inr (List.mem_of_mem_take hkept)

theorem get_eq_some_iff (hc : c.Reflects uses) {v : ν} :
    (c.get k).1 = some v ↔
      k ∈ (recents (uses.map Prod.fst)).take capacity ∧ lastStored k uses = some v := by
  rw [get_fst_eq_some_iff, ← hc.keys]
  constructor
  · intro hmem
    exact ⟨mem_keys_iff.mpr ⟨v, hmem⟩, hc.values _ hmem⟩
  · rintro ⟨hkey, hstored⟩
    obtain ⟨v', hmem⟩ := mem_keys_iff.mp hkey
    cases (hc.values _ hmem).symm.trans hstored
    exact hmem

end LruCache

end Girasol.Foundation
