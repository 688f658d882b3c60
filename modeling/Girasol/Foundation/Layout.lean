import Girasol.Foundation.Bytes
import Mathlib.Data.BitVec
import Mathlib.Logic.Equiv.Defs

/-!
# Records of fixed width

A layout writes the values of a type in a fixed number of bytes and reads any
such bytes back.  Layouts of fields compose to the layout of a record.
-/

namespace Girasol.Foundation

@[simp] theorem leBytes_leValue (bytes : List UInt8) : leBytes bytes.length
    (leValue bytes) = bytes := by
  induction bytes with
  | nil => rfl
  | cons b bytes ih =>
      have hbyte := b.toNat_lt
      have hlow : (b.toNat + 256 * leValue bytes) % 256 = b.toNat := by omega
      have hhigh : (b.toNat + 256 * leValue bytes) / 256 = leValue bytes := by omega
      rw [List.length_cons, leValue, leBytes, hlow, hhigh, ih]
      simp

structure Layout (α : Type) where
  width : Nat
  bytes : α → List UInt8
  read : List UInt8 → Option (α × List UInt8)
  length_bytes : ∀ a, (bytes a).length = width
  read_append : ∀ a rest, read (bytes a ++ rest) = some (a, rest)
  eq_of_read : ∀ {data a rest}, read data = some (a, rest) → data = bytes a ++ rest
  read_isSome : ∀ {data}, width ≤ data.length → (read data).isSome = true

namespace Layout

variable {α β : Type}

/-! ## Fields -/

def raw (n : Nat) : Layout { bytes : List UInt8 // bytes.length = n } where
  width := n
  bytes := Subtype.val
  read := fun data =>
    if h : n ≤ data.length then
      some (⟨data.take n, by rw [List.length_take, Nat.min_eq_left h]⟩, data.drop n)
    else none
  length_bytes := Subtype.property
  read_append := by
    rintro ⟨bytes, rfl⟩ rest
    simp
  eq_of_read := by
    intro data a rest h
    split at h
    case isFalse => cases h
    case isTrue =>
      cases h
      exact (List.take_append_drop n data).symm
  read_isSome := by
    intro data h
    simp [h]

/-- An unsigned integer of `k` bytes, little-endian. -/
def uint (k : Nat) : Layout (BitVec (8 * k)) where
  width := k
  bytes := fun v => leBytes k v.toNat
  read := fun data =>
    if k ≤ data.length then some (BitVec.ofNat (8 * k) (leValue (data.take k)), data.drop k)
    else none
  length_bytes := fun v => length_leBytes k v.toNat
  read_append := by
    intro v rest
    have hlength := length_leBytes k v.toNat
    have hvalue : leValue (leBytes k v.toNat) = v.toNat := by
      rw [leValue_leBytes]
      apply Nat.mod_eq_of_lt
      have := v.isLt
      rwa [Nat.pow_mul] at this
    rw [List.take_left' hlength, List.drop_left' hlength, hvalue, BitVec.ofNat_toNat]
    simp
  eq_of_read := by
    intro data a rest h
    split at h
    case isFalse => cases h
    case isTrue hlength =>
      cases h
      have htake : (data.take k).length = k := by rw [List.length_take, Nat.min_eq_left hlength]
      have hlt := leValue_lt (data.take k)
      rw [htake] at hlt
      have hvalue : (BitVec.ofNat (8 * k) (leValue (data.take k))).toNat =
          leValue (data.take k) := by
        rw [BitVec.toNat_ofNat, Nat.pow_mul]
        exact Nat.mod_eq_of_lt hlt
      have hbytes := leBytes_leValue (data.take k)
      rw [htake] at hbytes
      rw [hvalue, hbytes, List.take_append_drop]
  read_isSome := by
    intro data h
    simp [h]

/-! ## Records -/

def pair (first : Layout α) (second : Layout β) : Layout (α × β) where
  width := first.width + second.width
  bytes := fun a => first.bytes a.1 ++ second.bytes a.2
  read := fun data => do
    let (a, data) ← first.read data
    let (b, rest) ← second.read data
    return ((a, b), rest)
  length_bytes := by
    intro a
    rw [List.length_append, first.length_bytes, second.length_bytes]
  read_append := by
    intro a rest
    simp [List.append_assoc, first.read_append, second.read_append]
  eq_of_read := by
    intro data a rest h
    simp only [Option.bind_eq_bind, Option.bind_eq_some_iff] at h
    obtain ⟨⟨x, middle⟩, hfirst, ⟨y, rest'⟩, hsecond, heq⟩ := h
    cases heq
    have hmiddle : middle = second.bytes y ++ rest' := second.eq_of_read hsecond
    rw [first.eq_of_read hfirst, hmiddle, List.append_assoc]
  read_isSome := by
    intro data h
    obtain ⟨⟨x, middle⟩, hfirst⟩ :=
      Option.isSome_iff_exists.mp (first.read_isSome (Nat.le_of_add_right_le h))
    have hlength : second.width ≤ middle.length := by
      rw [first.eq_of_read hfirst, List.length_append, first.length_bytes] at h
      omega
    obtain ⟨⟨y, rest⟩, hsecond⟩ := Option.isSome_iff_exists.mp (second.read_isSome hlength)
    simp [hfirst, hsecond]

/-- The same bytes read as another type. -/
def map (l : Layout α) (e : α ≃ β) : Layout β where
  width := l.width
  bytes := fun b => l.bytes (e.symm b)
  read := fun data => (l.read data).map fun (a, rest) => (e a, rest)
  length_bytes := fun b => l.length_bytes (e.symm b)
  read_append := by
    intro b rest
    simp [l.read_append]
  eq_of_read := by
    intro data b rest h
    obtain ⟨⟨a, rest'⟩, hread, heq⟩ := Option.map_eq_some_iff.mp h
    cases heq
    rw [Equiv.symm_apply_apply]
    exact l.eq_of_read hread
  read_isSome := by
    intro data h
    rw [Option.isSome_map]
    exact l.read_isSome h

def array (l : Layout α) : (n : Nat) → Layout { items : List α // items.length = n }
  | 0 => (raw 0).map
      { toFun := fun _ => ⟨[], rfl⟩
        invFun := fun _ => ⟨[], rfl⟩
        left_inv := fun ⟨_, h⟩ => Subtype.ext (List.length_eq_zero_iff.mp h).symm
        right_inv := fun ⟨_, h⟩ => Subtype.ext (List.length_eq_zero_iff.mp h).symm }
  | n + 1 => (l.pair (array l n)).map
      { toFun := fun (a, ⟨items, h⟩) => ⟨a :: items, by rw [List.length_cons, h]⟩
        invFun := fun
          | ⟨a :: items, h⟩ => (a, ⟨items, Nat.succ.inj h⟩)
          | ⟨[], h⟩ => absurd h (by simp)
        left_inv := fun _ => rfl
        right_inv := fun
          | ⟨_ :: _, _⟩ => rfl
          | ⟨[], h⟩ => absurd h (by simp) }

/-! ## Whole slices -/

variable (l : Layout α)

def fromSlice (data : List UInt8) : Option α :=
  match l.read data with
  | some (a, []) => some a
  | _ => none

variable {l}

@[simp] theorem fromSlice_eq_some_iff {data : List UInt8} {a : α} :
    l.fromSlice data = some a ↔ data = l.bytes a := by
  constructor
  · intro h
    simp only [fromSlice] at h
    split at h
    case h_1 b hread =>
      cases h
      rw [l.eq_of_read hread, List.append_nil]
    case h_2 => cases h
  · rintro rfl
    have hread := l.read_append a []
    rw [List.append_nil] at hread
    simp only [fromSlice, hread]

theorem fromSlice_take_eq_some_iff {data : List UInt8} {a : α} (hlength : l.width ≤ data.length) :
    l.fromSlice (data.take l.width) = some a ↔ ∃ rest, data = l.bytes a ++ rest := by
  rw [fromSlice_eq_some_iff]
  constructor
  · intro h
    exact ⟨data.drop l.width, by rw [← h, List.take_append_drop]⟩
  · rintro ⟨rest, rfl⟩
    exact List.take_left' (l.length_bytes a)

theorem fromSlice_isSome {data : List UInt8} (hlength : data.length = l.width) :
    (l.fromSlice data).isSome = true := by
  obtain ⟨⟨a, rest⟩, hread⟩ := Option.isSome_iff_exists.mp (l.read_isSome hlength.ge)
  have hdata := l.eq_of_read hread
  have hrest : rest = [] := by
    rw [hdata, List.length_append, l.length_bytes] at hlength
    exact List.eq_nil_of_length_eq_zero (by omega)
  subst hrest
  simp [fromSlice, hread]

end Layout

end Girasol.Foundation
