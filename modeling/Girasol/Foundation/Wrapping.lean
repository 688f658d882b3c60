import Mathlib.Algebra.Order.Ring.Nat

/-!
# Wrapping arithmetic

Unsigned machine arithmetic in a release build wraps without a word.  A
`Wrapped` value is what the machine holds, together with whether every
operation that led to it gave its mathematical result.
-/

namespace Girasol.Foundation

structure Wrapped (α : Type) where
  value : α
  exact : Bool
  deriving DecidableEq, Repr

namespace Wrapped

instance : Monad Wrapped where
  pure a := ⟨a, true⟩
  bind x f := ⟨(f x.value).value, x.exact && (f x.value).exact⟩

variable {α β : Type}

@[simp] theorem value_pure (a : α) : (pure a : Wrapped α).value = a := rfl

@[simp] theorem exact_pure (a : α) : (pure a : Wrapped α).exact = true := rfl

@[simp] theorem value_bind (x : Wrapped α) (f : α → Wrapped β) :
    (x >>= f).value = (f x.value).value := rfl

@[simp] theorem exact_bind (x : Wrapped α) (f : α → Wrapped β) :
    (x >>= f).exact = (x.exact && (f x.value).exact) := rfl

/-- The low `w` bits of a number, exact when these are all of it. -/
def low (w n : Nat) : Wrapped Nat := ⟨n % 2 ^ w, decide (n < 2 ^ w)⟩

def add (w a b : Nat) : Wrapped Nat := low w (a + b)

def mul (w a b : Nat) : Wrapped Nat := low w (a * b)

/-- Subtraction of two `w`-bit numbers. -/
def sub (w a b : Nat) : Wrapped Nat := ⟨(a + 2 ^ w - b) % 2 ^ w, decide (b ≤ a)⟩

def div (a b : Nat) : Wrapped Nat := ⟨a / b, decide (b ≠ 0)⟩

@[simp] theorem exact_low (w n : Nat) : (low w n).exact = true ↔ n < 2 ^ w := by
  simp [low]

@[simp] theorem exact_add (w a b : Nat) : (add w a b).exact = true ↔ a + b < 2 ^ w :=
  exact_low w (a + b)

@[simp] theorem exact_mul (w a b : Nat) : (mul w a b).exact = true ↔ a * b < 2 ^ w :=
  exact_low w (a * b)

@[simp] theorem exact_sub (w a b : Nat) : (sub w a b).exact = true ↔ b ≤ a := by
  simp [sub]

@[simp] theorem exact_div (a b : Nat) : (div a b).exact = true ↔ b ≠ 0 := by
  simp [div]

@[simp] theorem pure_bind (a : α) (f : α → Wrapped β) : (pure a >>= f) = f a := by
  change Wrapped.mk (f a).value (true && (f a).exact) = f a
  rw [Bool.true_and]

theorem bind_congr (x : Wrapped α) {f g : α → Wrapped β} (h : f x.value = g x.value) :
    (x >>= f) = (x >>= g) := by
  change Wrapped.mk (f x.value).value (x.exact && (f x.value).exact) = _
  rw [h]
  rfl

/-! An operation that fits is the mathematical one. -/

theorem low_eq_pure {w n : Nat} (h : n < 2 ^ w) : low w n = pure n := by
  simp only [low, Nat.mod_eq_of_lt h, h, decide_true]
  rfl

theorem add_eq_pure {w a b : Nat} (h : a + b < 2 ^ w) : add w a b = pure (a + b) :=
  low_eq_pure h

theorem mul_eq_pure {w a b : Nat} (h : a * b < 2 ^ w) : mul w a b = pure (a * b) :=
  low_eq_pure h

theorem sub_eq_pure {w a b : Nat} (ha : a < 2 ^ w) (h : b ≤ a) : sub w a b = pure (a - b) := by
  have hshift : a + 2 ^ w - b = (a - b) + 2 ^ w := by omega
  have hvalue : (a + 2 ^ w - b) % 2 ^ w = a - b := by
    rw [hshift, Nat.add_mod_right]
    exact Nat.mod_eq_of_lt (by omega)
  simp only [sub, hvalue, h, decide_true]
  rfl

theorem div_eq_pure {a b : Nat} (h : b ≠ 0) : div a b = pure (a / b) := by
  simp only [div, h, ne_eq, not_false_eq_true, decide_true]
  rfl

theorem value_low_le (w n : Nat) : (low w n).value ≤ n := Nat.mod_le n _

theorem value_mul_le (w a b : Nat) : (mul w a b).value ≤ a * b := value_low_le w (a * b)

end Wrapped

end Girasol.Foundation
