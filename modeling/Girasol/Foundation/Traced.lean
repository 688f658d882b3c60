import Mathlib.Data.List.Basic

/-!
# Fallible computations that leave a trace

A computation emits a list of effects and then fails or returns.  What it
emitted before it failed stays emitted.
-/

namespace Girasol.Foundation

universe u v w

structure Traced (τ : Type u) (ε : Type v) (α : Type w) where
  trace : List τ
  result : Except ε α

namespace Traced

variable {τ : Type u} {ε : Type v} {α β : Type w}

def lift (x : Except ε α) : Traced τ ε α := ⟨[], x⟩

def emit (effects : List τ) : Traced τ ε PUnit := ⟨effects, .ok ⟨⟩⟩

def after (effects : List τ) (x : Traced τ ε α) : Traced τ ε α :=
  ⟨effects ++ x.trace, x.result⟩

def mapError {ε' : Type*} (f : ε → ε') (x : Traced τ ε α) : Traced τ ε' α :=
  ⟨x.trace, x.result.mapError f⟩

instance : Monad (Traced τ ε) where
  pure a := lift (.ok a)
  bind x f :=
    match x.result with
    | .error e => ⟨x.trace, .error e⟩
    | .ok a => (f a).after x.trace

@[simp]
theorem pure_trace (a : α) : (pure a : Traced τ ε α).trace = [] := rfl

@[simp]
theorem pure_result (a : α) : (pure a : Traced τ ε α).result = .ok a := rfl

theorem bind_eq {x : Traced τ ε α} {f : α → Traced τ ε β} :
    x >>= f = match x.result with
      | .error e => ⟨x.trace, .error e⟩
      | .ok a => (f a).after x.trace := rfl

theorem bind_result_eq_ok {x : Traced τ ε α} {f : α → Traced τ ε β} {b : β} :
    (x >>= f).result = .ok b ↔ ∃ a, x.result = .ok a ∧ (f a).result = .ok b := by
  rw [bind_eq]
  cases x.result <;> simp [after]

theorem mem_bind_trace {x : Traced τ ε α} {f : α → Traced τ ε β} {effect : τ} :
    effect ∈ (x >>= f).trace ↔
      effect ∈ x.trace ∨ ∃ a, x.result = .ok a ∧ effect ∈ (f a).trace := by
  rw [bind_eq]
  cases x.result <;> simp [after]

@[simp]
theorem lift_error_bind (e : ε) (f : α → Traced τ ε β) :
    (lift (.error e) : Traced τ ε α) >>= f = lift (.error e) := rfl

@[simp]
theorem lift_ok_bind (a : α) (f : α → Traced τ ε β) :
    (lift (.ok a) : Traced τ ε α) >>= f = f a := rfl

@[simp]
theorem emit_bind (effects : List τ) (f : PUnit → Traced τ ε β) :
    (emit effects : Traced τ ε PUnit) >>= f = (f ⟨⟩).after effects := rfl

@[simp]
theorem after_trace (effects : List τ) (x : Traced τ ε α) :
    (x.after effects).trace = effects ++ x.trace := rfl

@[simp]
theorem after_result (effects : List τ) (x : Traced τ ε α) :
    (x.after effects).result = x.result := rfl

@[simp]
theorem lift_trace (x : Except ε α) : (lift x : Traced τ ε α).trace = [] := rfl

@[simp]
theorem mapError_result {ε' : Type*} (f : ε → ε') (x : Traced τ ε α) :
    (x.mapError f).result = x.result.mapError f := rfl

@[simp]
theorem mapError_trace {ε' : Type*} (f : ε → ε') (x : Traced τ ε α) :
    (x.mapError f).trace = x.trace := rfl

@[simp]
theorem emit_trace (effects : List τ) :
    (emit effects : Traced τ ε PUnit).trace = effects := rfl

@[simp]
theorem lift_result (x : Except ε α) : (lift x : Traced τ ε α).result = x := rfl

end Traced

end Girasol.Foundation
