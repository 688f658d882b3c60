import Girasol.Foundation.Runs

/-!
# Fair executions

An execution goes on forever, and may pause.  It is fair to an event that is
taken again and again whenever it is possible again and again.
-/

namespace Girasol.Foundation

variable {σ ε : Type*}

structure Execution (step : σ → ε → Option σ) (s : σ) where
  state : Nat → σ
  /-- No event is a pause. -/
  event : Nat → Option ε
  start : state 0 = s
  next : ∀ n, (event n).elim (some (state n)) (step (state n)) = some (state (n + 1))

namespace Execution

variable {step : σ → ε → Option σ} {s : σ}

theorem next_of_event (x : Execution step s) {n : Nat} {e : ε} (he : x.event n = some e) :
    step (x.state n) e = some (x.state (n + 1)) := by
  have hnext := x.next n
  rwa [he] at hnext

theorem next_of_pause (x : Execution step s) {n : Nat} (he : x.event n = none) :
    x.state (n + 1) = x.state n := by
  have hnext := x.next n
  rw [he] at hnext
  exact (Option.some.inj hnext).symm

theorem invariant (x : Execution step s) {inv : σ → Prop}
    (hstep : ∀ s e s', step s e = some s' → inv s → inv s') (hs : inv s) (n : Nat) :
    inv (x.state n) := by
  induction n with
  | zero =>
      rw [x.start]
      exact hs
  | succ n ih =>
      cases he : x.event n with
      | none =>
          rw [x.next_of_pause he]
          exact ih
      | some e => exact hstep _ _ _ (x.next_of_event he) ih

theorem rel_of_step (x : Execution step s) {r : σ → σ → Prop} (hrefl : ∀ s, r s s)
    (htrans : ∀ s t u, r s t → r t u → r s u) (hstep : ∀ s e s', step s e = some s' → r s s')
    {n m : Nat} (hle : n ≤ m) : r (x.state n) (x.state m) := by
  induction hle with
  | refl => exact hrefl _
  | @step m _ ih =>
      cases he : x.event m with
      | none =>
          rw [Nat.succ_eq_add_one, x.next_of_pause he]
          exact ih
      | some e => exact htrans _ _ _ ih (hstep _ _ _ (x.next_of_event he))

theorem exists_run (x : Execution step s) {allowed : σ → ε → Prop}
    (hallowed : ∀ n e, x.event n = some e → allowed (x.state n) e) (n : Nat) :
    ∃ es, Run step allowed s es (x.state n) := by
  induction n with
  | zero =>
      rw [x.start]
      exact ⟨[], .nil s⟩
  | succ n ih =>
      obtain ⟨es, hrun⟩ := ih
      cases he : x.event n with
      | none =>
          rw [x.next_of_pause he]
          exact ⟨es, hrun⟩
      | some e =>
          exact ⟨es ++ [e], hrun.append (.cons (hallowed n e he) (x.next_of_event he) (.nil _))⟩

def Fair (x : Execution step s) (e : ε) : Prop :=
  (∀ n, ∃ m, n ≤ m ∧ (step (x.state m) e).isSome = true) →
    ∀ n, ∃ m, n ≤ m ∧ x.event m = some e

section

variable (x : Execution step s) {e : ε} {p : σ → Prop} {n : Nat}

theorem keep_of_step
    (hkeep : ∀ m e' s', p (x.state m) → e' ≠ e → step (x.state m) e' = some s' → p s')
    (m : Nat) (hm : p (x.state m)) (he : x.event m ≠ some e) : p (x.state (m + 1)) := by
  cases hevent : x.event m with
  | none =>
      rw [x.next_of_pause hevent]
      exact hm
  | some e' =>
      have hne : e' ≠ e := fun heq => he (by rw [hevent, heq])
      exact hkeep m e' _ hm hne (x.next_of_event hevent)

/--
An event that is fair is taken in a state with a property that only this event
ends, if it is possible again and again while the property lasts.
-/
theorem taken (hfair : x.Fair e)
    (hkeep : ∀ m e' s', p (x.state m) → e' ≠ e → step (x.state m) e' = some s' → p s')
    (henabled : (∀ m, n ≤ m → p (x.state m)) →
      ∀ k, ∃ m, k ≤ m ∧ (step (x.state m) e).isSome = true)
    (hprop : p (x.state n)) :
    ∃ m, n ≤ m ∧ p (x.state m) ∧ x.event m = some e := by
  by_contra hnever
  have hlasts (m : Nat) (hm : n ≤ m) : p (x.state m) := by
    induction hm with
    | refl => exact hprop
    | @step m hm ih => exact x.keep_of_step hkeep m ih fun he => hnever ⟨m, hm, ih, he⟩
  obtain ⟨m, hm, he⟩ := hfair (henabled hlasts) n
  exact hnever ⟨m, hm, hlasts m hm, he⟩

theorem taken_of_enabled (hfair : x.Fair e)
    (hkeep : ∀ m e' s', p (x.state m) → e' ≠ e → step (x.state m) e' = some s' → p s')
    (henabled : ∀ m, p (x.state m) → (step (x.state m) e).isSome = true)
    (hprop : p (x.state n)) :
    ∃ m, n ≤ m ∧ p (x.state m) ∧ x.event m = some e := by
  refine x.taken hfair hkeep (fun hlasts k => ?_) hprop
  exact ⟨max k n, Nat.le_max_left k n, henabled _ (hlasts _ (Nat.le_max_right k n))⟩

end

end Execution

theorem Run.exists_paused {step : σ → ε → Option σ} {allowed : σ → ε → Prop} {s t : σ}
    {es : List ε} (hrun : Run step allowed s es t) :
    ∃ x : Execution step s, (∀ n, x.event n = es[n]?) ∧
      (∀ n, es.length ≤ n → x.state n = t) ∧
      (∀ n e, x.event n = some e → allowed (x.state n) e) ∧
      ∀ e, step t e = none → x.Fair e := by
  suffices h : ∃ x : Execution step s, (∀ n, x.event n = es[n]?) ∧
      (∀ n, es.length ≤ n → x.state n = t) ∧
      ∀ n e, x.event n = some e → allowed (x.state n) e by
    obtain ⟨x, hevent, hstate, hallowed⟩ := h
    refine ⟨x, hevent, hstate, hallowed, fun e he hagain => ?_⟩
    obtain ⟨m, hm, henabled⟩ := hagain es.length
    rw [hstate m hm, he] at henabled
    cases henabled
  induction hrun with
  | nil s =>
      exact ⟨⟨fun _ => s, fun _ => none, rfl, fun _ => rfl⟩, fun _ => rfl, fun _ _ => rfl,
        by simp⟩
  | @cons s s' t e es hallowed hnext _ ih =>
      obtain ⟨x, hevent, hstate, hrest⟩ := ih
      refine ⟨⟨fun n => n.casesOn s x.state, fun n => n.casesOn (some e) x.event, rfl, ?_⟩,
        ?_, ?_, ?_⟩
      · intro n
        cases n with
        | zero =>
            change step s e = some (x.state 0)
            rw [x.start]
            exact hnext
        | succ n => exact x.next n
      · intro n
        cases n with
        | zero => rfl
        | succ n => exact hevent n
      · intro n hn
        cases n with
        | zero => cases hn
        | succ n => exact hstate n (Nat.le_of_succ_le_succ hn)
      · intro n e' he'
        cases n with
        | zero =>
            cases he'
            exact hallowed
        | succ n => exact hrest n e' he'

end Girasol.Foundation
