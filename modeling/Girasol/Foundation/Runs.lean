import Mathlib.Data.List.Basic

/-!
# Runs of a labelled transition function

`step s e = some s'` says that event `e` takes state `s` to state `s'`.  A run
is a list of events, each taken in a state that allows it.  The side condition
`allowed` restricts a run without changing the system.
-/

namespace Girasol.Foundation

variable {σ ε : Type*} {step : σ → ε → Option σ} {allowed : σ → ε → Prop}

/-- The events `es` lead from one state to another, each in a state that allows it. -/
inductive Run (step : σ → ε → Option σ) (allowed : σ → ε → Prop) :
    σ → List ε → σ → Prop
  | nil (s : σ) : Run step allowed s [] s
  | cons {s s' t : σ} {e : ε} {es : List ε} :
      allowed s e → step s e = some s' → Run step allowed s' es t →
      Run step allowed s (e :: es) t

theorem Run.invariant {inv : σ → Prop}
    (hstep : ∀ s e s', allowed s e → step s e = some s' → inv s → inv s')
    {s t : σ} {es : List ε} (hrun : Run step allowed s es t) (hs : inv s) :
    inv t := by
  induction hrun with
  | nil => exact hs
  | cons hallowed hnext _ ih => exact ih (hstep _ _ _ hallowed hnext hs)

theorem Run.mono {weaker : σ → ε → Prop} (h : ∀ s e, allowed s e → weaker s e)
    {s t : σ} {es : List ε} (hrun : Run step allowed s es t) :
    Run step weaker s es t := by
  induction hrun with
  | nil s => exact .nil s
  | cons hallowed hnext _ ih => exact .cons (h _ _ hallowed) hnext ih

theorem Run.split {s t : σ} {before after : List ε}
    (hrun : Run step allowed s (before ++ after) t) :
    ∃ u, Run step allowed s before u ∧ Run step allowed u after t := by
  induction before generalizing s with
  | nil => exact ⟨s, .nil s, hrun⟩
  | cons e before ih =>
      cases hrun with
      | cons hallowed hnext hrest =>
          obtain ⟨u, hbefore, hafter⟩ := ih hrest
          exact ⟨u, .cons hallowed hnext hbefore, hafter⟩

theorem Run.append {s u t : σ} {before after : List ε} (hbefore : Run step allowed s before u)
    (hafter : Run step allowed u after t) : Run step allowed s (before ++ after) t := by
  induction hbefore with
  | nil => exact hafter
  | cons hallowed hnext _ ih => exact .cons hallowed hnext (ih hafter)

def exec (step : σ → ε → Option σ) (allowed : σ → ε → Prop)
    [∀ s e, Decidable (allowed s e)] : σ → List ε → Option σ
  | s, [] => some s
  | s, e :: es =>
      if allowed s e then (step s e).bind fun s' => exec step allowed s' es
      else none

theorem run_of_exec [∀ s e, Decidable (allowed s e)] {s t : σ} {es : List ε}
    (h : exec step allowed s es = some t) : Run step allowed s es t := by
  induction es generalizing s with
  | nil =>
      cases h
      exact .nil _
  | cons e es ih =>
      simp only [exec] at h
      split at h
      case isTrue hallowed =>
        obtain ⟨s', hnext, hrest⟩ := Option.bind_eq_some_iff.mp h
        exact .cons hallowed hnext (ih hrest)
      case isFalse => cases h

theorem exists_run_of_exec [∀ s e, Decidable (allowed s e)] {s : σ} {es : List ε}
    {check : σ → Bool} (h : (exec step allowed s es).map check = some true) :
    ∃ t, Run step allowed s es t ∧ check t = true := by
  obtain ⟨t, ht, hcheck⟩ := Option.map_eq_some_iff.mp h
  exact ⟨t, run_of_exec ht, hcheck⟩

/-! ## What a run shows -/

section

variable {β : Type*} {view : σ → ε → σ → List β}

/-- What the steps of a list of events show, up to the first impossible one. -/
def gather (step : σ → ε → Option σ) (view : σ → ε → σ → List β) : σ → List ε → List β
  | _, [] => []
  | s, e :: es =>
      match step s e with
      | none => []
      | some s' => view s e s' ++ gather step view s' es

theorem gather_cons {s s' : σ} {e : ε} (hnext : step s e = some s') (es : List ε) :
    gather step view s (e :: es) = view s e s' ++ gather step view s' es := by
  simp only [gather, hnext]

theorem Run.gather_append {s t : σ} {before after : List ε}
    (hrun : Run step allowed s before t) :
    gather step view s (before ++ after) =
      gather step view s before ++ gather step view t after := by
  induction hrun with
  | nil s => rfl
  | cons hallowed hnext hrest ih =>
      rw [List.cons_append, gather_cons hnext, gather_cons hnext, ih, List.append_assoc]

theorem Run.gather_events {shown : ε → List β} {s t : σ} {es : List ε}
    (hrun : Run step allowed s es t) :
    gather step (fun _ e _ => shown e) s es = es.flatMap shown := by
  induction hrun with
  | nil => rfl
  | cons _ hnext _ ih => rw [gather_cons hnext, ih, List.flatMap_cons]

theorem gather_hom {γ : Type*} (f : List β → List γ) (hnil : f [] = [])
    (happend : ∀ xs ys, f (xs ++ ys) = f xs ++ f ys) (s : σ) (es : List ε) :
    f (gather step view s es) = gather step (fun s e s' => f (view s e s')) s es := by
  induction es generalizing s with
  | nil => exact hnil
  | cons e es ih =>
      cases hnext : step s e with
      | none => simp only [gather, hnext, hnil]
      | some s' => rw [gather_cons hnext, gather_cons hnext, happend, ih]

theorem Run.conserve {content : σ → List β} {input output : σ → ε → σ → List β}
    (hstep : ∀ s e s', step s e = some s' →
      content s ++ input s e s' = output s e s' ++ content s')
    {s t : σ} {es : List ε} (hrun : Run step allowed s es t) :
    content s ++ gather step input s es = gather step output s es ++ content t := by
  induction hrun with
  | nil => simp [gather]
  | cons _ hnext _ ih =>
      rw [gather_cons hnext, gather_cons hnext, ← List.append_assoc, hstep _ _ _ hnext,
        List.append_assoc, ih, List.append_assoc]

theorem Run.project {σ' ε' : Type*} {step' : σ' → ε' → Option σ'} {allowed' : σ' → ε' → Prop}
    {part : σ → σ'} {view : σ → ε → σ → List ε'}
    (hstep : ∀ s e s', step s e = some s' → Run step' allowed' (part s) (view s e s') (part s'))
    {s t : σ} {es : List ε} (hrun : Run step allowed s es t) :
    Run step' allowed' (part s) (gather step view s es) (part t) := by
  induction hrun with
  | nil s => exact .nil (part s)
  | cons _ hnext _ ih =>
      rw [gather_cons hnext]
      exact (hstep _ _ _ hnext).append ih

theorem Run.invariant_gather {inv : σ → List β → Prop}
    (hstep : ∀ s e s' shown, allowed s e → step s e = some s' → inv s shown →
      inv s' (shown ++ view s e s'))
    {s t : σ} {es : List ε} {shown : List β} (hrun : Run step allowed s es t)
    (hs : inv s shown) : inv t (shown ++ gather step view s es) := by
  induction hrun generalizing shown with
  | nil => simpa [gather] using hs
  | cons hallowed hnext _ ih =>
      rw [gather_cons hnext, ← List.append_assoc]
      exact ih (hstep _ _ _ _ hallowed hnext hs)

theorem forall_mem_gather {prop : β → Prop}
    (hview : ∀ s e s', step s e = some s' → ∀ x ∈ view s e s', prop x) (s : σ) (es : List ε) :
    ∀ x ∈ gather step view s es, prop x := by
  induction es generalizing s with
  | nil => simp [gather]
  | cons e es ih =>
      intro x hx
      cases hnext : step s e with
      | none => simp [gather, hnext] at hx
      | some s' =>
          rw [gather_cons hnext, List.mem_append] at hx
          rcases hx with hx | hx
          · exact hview s e s' hnext x hx
          · exact ih s' x hx

end

/-! ## Conditions on every step -/

/-- A condition holds of every step of a list of events, up to the first impossible one. -/
def Along (step : σ → ε → Option σ) (cond : σ → ε → σ → Prop) : σ → List ε → Prop
  | _, [] => True
  | s, e :: es =>
      match step s e with
      | none => True
      | some s' => cond s e s' ∧ Along step cond s' es

instance decidableAlong {cond : σ → ε → σ → Prop} [∀ s e s', Decidable (cond s e s')] :
    ∀ (s : σ) (es : List ε), Decidable (Along step cond s es)
  | _, [] => isTrue trivial
  | s, e :: es =>
      match hnext : step s e with
      | none => isTrue (by simp [Along, hnext])
      | some s' =>
          let _ : Decidable (Along step cond s' es) := decidableAlong s' es
          decidable_of_iff (cond s e s' ∧ Along step cond s' es) (by simp [Along, hnext])

theorem Along.imp {cond cond' : σ → ε → σ → Prop}
    (h : ∀ s e s', cond s e s' → cond' s e s') {s : σ} {es : List ε}
    (halong : Along step cond s es) : Along step cond' s es := by
  induction es generalizing s with
  | nil => trivial
  | cons e es ih =>
      simp only [Along] at halong ⊢
      cases hnext : step s e with
      | none => trivial
      | some s' =>
          rw [hnext] at halong
          exact ⟨h s e s' halong.1, ih halong.2⟩

theorem Along.and_mem {cond : σ → ε → σ → Prop} {prop : ε → Prop} {s : σ} {es : List ε}
    (halong : Along step cond s es) (hmem : ∀ e ∈ es, prop e) :
    Along step (fun s e s' => cond s e s' ∧ prop e) s es := by
  induction es generalizing s with
  | nil => trivial
  | cons e es ih =>
      simp only [Along] at halong ⊢
      cases hnext : step s e with
      | none => trivial
      | some s' =>
          rw [hnext] at halong
          exact ⟨⟨halong.1, hmem e List.mem_cons_self⟩,
            ih halong.2 fun e' he' => hmem e' (List.mem_cons_of_mem _ he')⟩

theorem Along.of_invariant {inv : σ → Prop} {cond prop : σ → ε → σ → Prop}
    (hstep : ∀ s e s', inv s → cond s e s' → step s e = some s' → inv s' ∧ prop s e s')
    {s : σ} {es : List ε} (hs : inv s) (halong : Along step cond s es) :
    Along step prop s es := by
  induction es generalizing s with
  | nil => trivial
  | cons e es ih =>
      simp only [Along] at halong ⊢
      cases hnext : step s e with
      | none => trivial
      | some s' =>
          rw [hnext] at halong
          obtain ⟨hs', hprop⟩ := hstep s e s' hs halong.1 hnext
          exact ⟨hprop, ih hs' halong.2⟩

theorem along_congr {inv : σ → Prop} {cond cond' : σ → ε → σ → Prop}
    (hinv : ∀ s e s', step s e = some s' → inv s → inv s')
    (hstep : ∀ s e s', inv s → step s e = some s' → (cond s e s' ↔ cond' s e s'))
    {s : σ} (hs : inv s) (es : List ε) :
    Along step cond s es ↔ Along step cond' s es := by
  induction es generalizing s with
  | nil => exact Iff.rfl
  | cons e es ih =>
      simp only [Along]
      cases hnext : step s e with
      | none => exact Iff.rfl
      | some s' => exact and_congr (hstep s e s' hs hnext) (ih (hinv s e s' hnext hs))

/--
If a step from a good state leads to a good state exactly under a condition,
then all states on the way are good exactly when all steps meet the condition.
-/
theorem along_iff {good : σ → Prop} {cond : σ → ε → Prop}
    (hstep : ∀ s e s', good s → step s e = some s' → (good s' ↔ cond s e))
    {s : σ} (hs : good s) (es : List ε) :
    Along step (fun _ _ s' => good s') s es ↔ Along step (fun s e _ => cond s e) s es := by
  induction es generalizing s with
  | nil => exact Iff.rfl
  | cons e es ih =>
      simp only [Along]
      cases hnext : step s e with
      | none => exact Iff.rfl
      | some s' =>
          have hiff := hstep s e s' hs hnext
          constructor
          · rintro ⟨hgood, hrest⟩
            exact ⟨hiff.mp hgood, (ih hgood).mp hrest⟩
          · rintro ⟨hcond, hrest⟩
            have hgood := hiff.mpr hcond
            exact ⟨hgood, (ih hgood).mpr hrest⟩

/-! ## Machines with an output for every input -/

section

variable {τ ι ω : Type*} {next : σ → ι → ω × σ} {next' : τ → ι → ω × τ}

def outputs (next : σ → ι → ω × σ) : σ → List ι → List ω
  | _, [] => []
  | s, i :: is => (next s i).1 :: outputs next (next s i).2 is

theorem outputs_map (f : σ → τ)
    (hstep : ∀ s i, next' (f s) i = ((next s i).1, f (next s i).2)) (s : σ) (is : List ι) :
    outputs next' (f s) is = outputs next s is := by
  induction is generalizing s with
  | nil => rfl
  | cons i is ih => simp only [outputs, hstep, ih]

end

end Girasol.Foundation
