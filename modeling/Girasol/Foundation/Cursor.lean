import Girasol.Foundation.Checks
import Mathlib.Algebra.Order.Ring.Nat

/-!
# Reading a byte slice at offsets

Offsets are machine integers of 64 bits.  A computation over them returns
nothing where a checked operation fails, and panics where an unchecked one does.
-/

namespace Girasol.Foundation

/-- The bytes of a slice, of which there are at most half as many as addresses. -/
structure DataSlice where
  bytes : List UInt8
  length_lt : bytes.length < 2 ^ 63

inductive Halt where
  /-- The computation returns `None`. -/
  | absent
  /-- A panic: an index or a range beyond the slice. -/
  | outOfBounds
  /-- A panic: an unchecked sum that does not fit. -/
  | overflow
  deriving DecidableEq, Repr

abbrev Cursor (α : Type*) := Except Halt α

namespace Cursor

variable {α β : Type}

def ofOption : Option α → Cursor α
  | none => .error .absent
  | some a => .ok a

/-- `a.checked_add(b)?`. -/
def checkedAdd (a b : Nat) : Cursor Nat :=
  if a + b < 2 ^ 64 then .ok (a + b) else .error .absent

/-- `a.checked_mul(b)?`. -/
def checkedMul (a b : Nat) : Cursor Nat :=
  if a * b < 2 ^ 64 then .ok (a * b) else .error .absent

/-- `a + b`. -/
def add (a b : Nat) : Cursor Nat :=
  if a + b < 2 ^ 64 then .ok (a + b) else .error .overflow

/-- `data[i]`. -/
def index (data : List UInt8) (i : Nat) : Cursor UInt8 :=
  match data[i]? with
  | some b => .ok b
  | none => .error .outOfBounds

/-- `data[start..stop]`. -/
def slice (data : List UInt8) (start stop : Nat) : Cursor (List UInt8) :=
  if start ≤ stop ∧ stop ≤ data.length then .ok ((data.drop start).take (stop - start))
  else .error .outOfBounds

/-- `data.get(i)?`. -/
def get (data : List UInt8) (i : Nat) : Cursor UInt8 := ofOption data[i]?

/-- `data.get(start..stop)?`. -/
def getSlice (data : List UInt8) (start stop : Nat) : Cursor (List UInt8) :=
  if start ≤ stop ∧ stop ≤ data.length then .ok ((data.drop start).take (stop - start))
  else .error .absent

/-! ## Operations within their bounds -/

@[simp]
theorem ok_bind (a : α) (f : α → Cursor β) : ((.ok a : Cursor α) >>= f) = f a := rfl

@[simp]
theorem error_bind (h : Halt) (f : α → Cursor β) :
    ((.error h : Cursor α) >>= f) = .error h := rfl

@[simp] theorem checkedAdd_ok {a b : Nat} (h : a + b < 2 ^ 64) : checkedAdd a b = .ok
    (a + b) := if_pos h

theorem eq_of_checkedAdd {a b n : Nat} (h : checkedAdd a b = .ok n) : n = a + b := by
  unfold checkedAdd at h
  split at h <;> cases h
  rfl

@[simp] theorem checkedMul_ok {a b : Nat} (h : a * b < 2 ^ 64) : checkedMul a b = .ok
    (a * b) := if_pos h

@[simp] theorem add_ok {a b : Nat} (h : a + b < 2 ^ 64) : add a b = .ok (a + b) := if_pos h

@[simp] theorem slice_ok {data : List UInt8} {start n : Nat} (h : start + n ≤ data.length) :
    slice data start (start + n) = .ok ((data.drop start).take n) := by
  rw [slice, if_pos ⟨Nat.le_add_right start n, h⟩, Nat.add_sub_cancel_left]

theorem getSlice_eq (data : List UInt8) (start n : Nat) :
    getSlice data start (start + n) =
      if start + n ≤ data.length then .ok ((data.drop start).take n) else .error .absent := by
  rw [getSlice, Nat.add_sub_cancel_left]
  simp only [Nat.le_add_right, true_and]

theorem absent_of_ofOption {x : Option α} {halt : Halt} (hx : ofOption x = .error halt) :
    halt = .absent := by
  cases x with
  | none =>
      cases hx
      rfl
  | some a => cases hx

end Cursor

end Girasol.Foundation
