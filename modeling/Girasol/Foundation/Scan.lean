import Mathlib.Data.List.Basic

/-!
# Loops that act on the first item of a kind

A loop over a list tries one or two parsers on every item and keeps the first
success of each.  Both loop shapes below find what `firstHit` finds.
-/

namespace Girasol.Foundation

variable {ι α β : Type*}

def firstHit (parse : ι → Option α) (items : List ι) : Option (ι × α) :=
  items.findSome? fun i => (parse i).map fun a => (i, a)

@[simp]
theorem firstHit_nil (parse : ι → Option α) : firstHit parse [] = none := rfl

theorem firstHit_cons (parse : ι → Option α) (i : ι) (items : List ι) :
    firstHit parse (i :: items) =
      ((parse i).map fun a => (i, a)).or (firstHit parse items) := by
  rw [firstHit, List.findSome?_cons]
  cases parse i <;> rfl

theorem parse_of_firstHit {parse : ι → Option α} {items : List ι} {i : ι} {a : α}
    (h : firstHit parse items = some (i, a)) : i ∈ items ∧ parse i = some a := by
  obtain ⟨i', hmem, heq⟩ := List.exists_of_findSome?_eq_some h
  obtain ⟨a', hparse, hpair⟩ := Option.map_eq_some_iff.mp heq
  cases hpair
  exact ⟨hmem, hparse⟩

theorem findSome?_eq_find? {f : ι → Option α} {shape : ι → Bool}
    (hshape : ∀ i, (f i).isSome = shape i) (items : List ι) :
    items.findSome? f = (items.find? shape).bind f := by
  induction items with
  | nil => rfl
  | cons i items ih =>
      rw [List.findSome?_cons, List.find?_cons, ← hshape i]
      cases hi : f i with
      | none => simpa using ih
      | some a => simp [hi]

theorem findSome?_forall₂ {κ : Type*} {R : ι → κ → Prop} {f : ι → Option α} {g : κ → Option α}
    (hfg : ∀ i j, R i j → g j = f i) {items : List ι} {items' : List κ}
    (h : List.Forall₂ R items items') : items'.findSome? g = items.findSome? f := by
  induction h with
  | nil => rfl
  | @cons i j _ _ hij _ ih => rw [List.findSome?_cons, List.findSome?_cons, hfg i j hij, ih]

theorem findSome?_of_unique {f : ι → Option α} {i : ι} (items : List ι)
    (hone : ∀ j, f j ≠ none → j = i) (hmem : f i ≠ none → i ∈ items) :
    items.findSome? f = f i := by
  cases hfound : items.findSome? f with
  | none =>
      by_contra hi
      exact hi (List.findSome?_eq_none_iff.mp hfound i (hmem (Ne.symm hi))).symm
  | some a =>
      obtain ⟨j, -, hj⟩ := List.exists_of_findSome?_eq_some hfound
      rw [← hone j (by simp [hj]), hj]

theorem findSome?_zipIdx_eq_some_iff {f : ι × Nat → Option α} {items : List ι} {a : α} :
    items.zipIdx.findSome? f = some a ↔
      ∃ i item, items[i]? = some item ∧ f (item, i) = some a ∧
        ∀ j < i, ∀ earlier ∈ items[j]?, f (earlier, j) = none := by
  rw [List.findSome?_eq_some_iff]
  constructor
  · rintro ⟨before, ⟨item, i⟩, after, hsplit, hfound, hnone⟩
    have hhere : items.zipIdx[before.length]? = some (item, i) := by
      rw [hsplit, List.getElem?_append_right (Nat.le_refl _)]
      simp
    obtain ⟨hitem, rfl⟩ : items[before.length]? = some item ∧ before.length = i := by
      simpa [List.getElem?_zipIdx] using hhere
    refine ⟨before.length, item, hitem, hfound, ?_⟩
    intro j hj earlier hearlier
    apply hnone
    have hthere : items.zipIdx[j]? = some (earlier, j) := by
      simpa [List.getElem?_zipIdx] using hearlier
    rw [hsplit, List.getElem?_append_left hj] at hthere
    exact List.mem_of_getElem? hthere
  · rintro ⟨i, item, hitem, hfound, hnone⟩
    have hhere : items.zipIdx[i]? = some (item, i) := by
      simp [List.getElem?_zipIdx, hitem]
    obtain ⟨hlt, hget⟩ := List.getElem?_eq_some_iff.mp hhere
    refine ⟨items.zipIdx.take i, (item, i), items.zipIdx.drop (i + 1), ?_, hfound, ?_⟩
    · rw [← hget, List.getElem_cons_drop, List.take_append_drop]
    · rintro ⟨earlier, j⟩ hmem
      obtain ⟨k, hk⟩ := List.mem_iff_getElem?.mp hmem
      rw [List.getElem?_take] at hk
      split at hk
      case isTrue hlt' =>
        obtain ⟨hearlier, rfl⟩ : items[k]? = some earlier ∧ k = j := by
          simpa [List.getElem?_zipIdx] using hk
        exact hnone k hlt' earlier hearlier
      case isFalse => cases hk

theorem forall_mem_getD_findSome? {f : ι → Option (List α)} {good : α → Prop}
    (hf : ∀ i found, f i = some found → ∀ a ∈ found, good a) (items : List ι) :
    ∀ a ∈ (items.findSome? f).getD [], good a := by
  cases hfirst : items.findSome? f with
  | none => simp
  | some found =>
      obtain ⟨i, -, hi⟩ := List.exists_of_findSome?_eq_some hfirst
      exact hf i found hi

theorem firstHit_eq {parse : ι → Option α} {shape : ι → Bool}
    (hshape : ∀ i, (parse i).isSome = shape i) (items : List ι) :
    firstHit parse items =
      (items.find? shape).bind fun i => (parse i).map fun a => (i, a) :=
  findSome?_eq_find? (fun i => by rw [Option.isSome_map, hshape i]) items

theorem firstHit_map_fst {parse : ι → Option α} {shape : ι → Bool}
    (hshape : ∀ i, (parse i).isSome = shape i) (items : List ι) :
    (firstHit parse items).map Prod.fst = items.find? shape := by
  rw [firstHit_eq hshape]
  cases hfind : items.find? shape with
  | none => rfl
  | some i =>
      have hsome := List.find?_some hfind
      rw [← hshape i] at hsome
      obtain ⟨a, ha⟩ := Option.isSome_iff_exists.mp hsome
      simp [ha]

theorem firstHit_forall₂ {κ γ : Type*} {R : ι → κ → Prop} {parse : ι → Option α}
    {parse' : κ → Option β} {f : α → γ} {g : β → γ}
    (hparse : ∀ i j, R i j → (parse i).map f = (parse' j).map g)
    {items : List ι} {items' : List κ} (h : List.Forall₂ R items items') :
    (firstHit parse items).map (fun hit => f hit.2) =
      (firstHit parse' items').map fun hit => g hit.2 := by
  induction h with
  | nil => rfl
  | @cons i j _ _ hij _ ih =>
      have hhead := hparse i j hij
      rw [firstHit_cons, firstHit_cons]
      cases hi : parse i <;> cases hj : parse' j
      · simpa using ih
      · simp [hi, hj] at hhead
      · simp [hi, hj] at hhead
      · simpa [hi, hj] using hhead

theorem find?_narrowed {shape narrow : ι → Bool} {items : List ι} {i : ι}
    (hnarrow : ∀ i, narrow i → shape i) (hfind : items.find? shape = some i)
    (hi : narrow i) : items.find? narrow = some i := by
  obtain ⟨-, before, after, rfl, hbefore⟩ := List.find?_eq_some_iff_append.mp hfind
  refine List.find?_eq_some_iff_append.mpr ⟨hi, before, after, rfl, fun j hj => ?_⟩
  cases hj' : narrow j with
  | false => rfl
  | true => simpa [hnarrow j hj'] using hbefore j hj

def scanBoth (parseA : ι → Option α) (parseB : ι → Option β) :
    Option (ι × α) → Option (ι × β) → List ι → Option (ι × α) × Option (ι × β)
  | foundA, foundB, [] => (foundA, foundB)
  | foundA, foundB, i :: items =>
      let foundA := if foundA.isNone then (parseA i).map fun a => (i, a) else foundA
      let foundB := if foundB.isNone then (parseB i).map fun b => (i, b) else foundB
      if foundA.isSome && foundB.isSome then (foundA, foundB)
      else scanBoth parseA parseB foundA foundB items

theorem scanBoth_eq (parseA : ι → Option α) (parseB : ι → Option β)
    (foundA : Option (ι × α)) (foundB : Option (ι × β)) (items : List ι) :
    scanBoth parseA parseB foundA foundB items =
      (foundA.or (firstHit parseA items), foundB.or (firstHit parseB items)) := by
  induction items generalizing foundA foundB with
  | nil => cases foundA <;> cases foundB <;> rfl
  | cons i items ih =>
      simp only [scanBoth, ih, firstHit_cons]
      cases foundA <;> cases foundB <;> cases parseA i <;> cases parseB i <;> simp

def emitFirsts (check : ι → Option α × Option β) : Bool → Bool → List ι → List (ι × (α ⊕ β))
  | _, _, [] => []
  | foundA, foundB, i :: items =>
      let checked := check i
      (if foundA then [] else checked.1.toList.map fun a => (i, .inl a)) ++
        (if foundB then [] else checked.2.toList.map fun b => (i, .inr b)) ++
          emitFirsts check (foundA || checked.1.isSome) (foundB || checked.2.isSome) items

theorem emitFirsts_forall₂ {κ : Type*} {R : ι → κ → Prop} {check : ι → Option α × Option β}
    {check' : κ → Option α × Option β} (hcheck : ∀ i j, R i j → check' j = check i)
    {foundA foundB : Bool} {items : List ι} {items' : List κ} (h : List.Forall₂ R items items') :
    (emitFirsts check' foundA foundB items').map Prod.snd =
      (emitFirsts check foundA foundB items).map Prod.snd := by
  induction h generalizing foundA foundB with
  | nil => rfl
  | @cons i j _ _ hij _ ih =>
      simp only [emitFirsts, hcheck i j hij, List.map_append, ih]
      cases foundA <;> cases foundB <;> cases (check i).1 <;> cases (check i).2 <;> rfl

theorem inl_mem_emitFirsts {check : ι → Option α × Option β} {foundA foundB : Bool}
    {items : List ι} {i : ι} {a : α} :
    (i, .inl a) ∈ emitFirsts check foundA foundB items ↔
      foundA = false ∧ firstHit (fun i => (check i).1) items = some (i, a) := by
  induction items generalizing foundA foundB with
  | nil => simp [emitFirsts]
  | cons j items ih =>
      simp only [emitFirsts, List.mem_append, ih, firstHit_cons]
      cases foundA <;> cases foundB <;> cases (check j).1 <;> cases (check j).2 <;>
        simp [eq_comm]

theorem inr_mem_emitFirsts {check : ι → Option α × Option β} {foundA foundB : Bool}
    {items : List ι} {i : ι} {b : β} :
    (i, .inr b) ∈ emitFirsts check foundA foundB items ↔
      foundB = false ∧ firstHit (fun i => (check i).2) items = some (i, b) := by
  induction items generalizing foundA foundB with
  | nil => simp [emitFirsts]
  | cons j items ih =>
      simp only [emitFirsts, List.mem_append, ih, firstHit_cons]
      cases foundA <;> cases foundB <;> cases (check j).1 <;> cases (check j).2 <;>
        simp [eq_comm]

theorem filterMap_inl_emitFirsts {γ : Type*} {check : ι → Option α × Option β}
    {foundA foundB : Bool} {items : List ι} {f : ι × (α ⊕ β) → Option γ}
    (hf : ∀ i b, f (i, .inr b) = none) :
    (emitFirsts check foundA foundB items).filterMap f =
      if foundA then []
      else ((firstHit (fun i => (check i).1) items).bind fun (i, a) => f (i, .inl a)).toList := by
  induction items generalizing foundA foundB with
  | nil => cases foundA <;> rfl
  | cons i items ih =>
      rw [emitFirsts, List.filterMap_append, List.filterMap_append, ih, firstHit_cons]
      cases foundA <;> cases foundB <;> cases (check i).1 <;> cases (check i).2 <;>
        simp [hf, List.filterMap_cons] <;> cases f _ <;> rfl

theorem filterMap_inr_emitFirsts {γ : Type*} {check : ι → Option α × Option β}
    {foundA foundB : Bool} {items : List ι} {f : ι × (α ⊕ β) → Option γ}
    (hf : ∀ i a, f (i, .inl a) = none) :
    (emitFirsts check foundA foundB items).filterMap f =
      if foundB then []
      else ((firstHit (fun i => (check i).2) items).bind fun (i, b) => f (i, .inr b)).toList := by
  induction items generalizing foundA foundB with
  | nil => cases foundB <;> rfl
  | cons i items ih =>
      rw [emitFirsts, List.filterMap_append, List.filterMap_append, ih, firstHit_cons]
      cases foundA <;> cases foundB <;> cases (check i).1 <;> cases (check i).2 <;>
        simp [hf, List.filterMap_cons] <;> cases f _ <;> rfl

end Girasol.Foundation
