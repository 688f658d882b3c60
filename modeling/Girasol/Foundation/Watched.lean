import Girasol.Foundation.Runs

/-!
# A watched value behind a debounced channel

Every change of the value raises a notification, which a thread moves into a
bounded channel.  The consumer waits for one, lets the value settle, drains the
channel and then reads; the value may change again before it acts on what it read.
-/

namespace Girasol.Foundation

variable {γ τ : Type*}

inductive ConsumerPhase (γ : Type*) where
  | waiting
  | settling
  | draining
  | loaded (content : γ)

namespace ConsumerPhase

def rank : ConsumerPhase γ → Nat
  | .waiting => 0
  | .loaded _ => 1
  | .draining => 2
  | .settling => 3

def isWaiting : ConsumerPhase γ → Bool
  | .waiting => true
  | _ => false

end ConsumerPhase

structure Watched (γ τ : Type*) where
  content : γ
  raised : Nat
  queue : Nat
  phase : ConsumerPhase γ
  state : τ

inductive WatchEvent (γ : Type*) where
  | change (content : γ)
  | deliver
  | receive
  | settle
  | drain
  | read
  | act

def WatchEvent.changed? : WatchEvent γ → Option γ
  | .change content => some content
  | _ => none

namespace Watched

variable (capacity : Nat) (react : γ → τ → τ)

def start (content : γ) (state : τ) : Watched γ τ := ⟨content, 0, 0, .waiting, state⟩

def step (s : Watched γ τ) : WatchEvent γ → Option (Watched γ τ)
  | .change content => some { s with content := content, raised := s.raised + 1 }
  | .deliver =>
      if 0 < s.raised ∧ s.queue < capacity then
        some { s with raised := s.raised - 1, queue := s.queue + 1 }
      else none
  | .receive =>
      match s.phase with
      | .waiting =>
          if 0 < s.queue then some { s with queue := s.queue - 1, phase := .settling } else none
      | _ => none
  | .settle =>
      match s.phase with
      | .settling => some { s with phase := .draining }
      | _ => none
  | .drain =>
      match s.phase with
      | .draining => if 0 < s.queue then some { s with queue := s.queue - 1 } else none
      | _ => none
  | .read =>
      match s.phase with
      | .draining => if s.queue = 0 then some { s with phase := .loaded s.content } else none
      | _ => none
  | .act =>
      match s.phase with
      | .loaded content => some { s with phase := .waiting, state := react content s.state }
      | _ => none

/-- No notification is on its way and the consumer waits for one. -/
def idle (s : Watched γ τ) : Bool := s.raised == 0 && s.queue == 0 && s.phase.isWaiting

def acted (s : Watched γ τ) : WatchEvent γ → Watched γ τ → List γ
  | .act, _ =>
      match s.phase with
      | .loaded content => [content]
      | _ => []
  | _, _ => []

variable {capacity : Nat} {react : γ → τ → τ} {s s' t : Watched γ τ}

/-- The steps, each with the phase it needs and what it changes. -/
inductive Step (capacity : Nat) (react : γ → τ → τ) (s : Watched γ τ) :
    WatchEvent γ → Watched γ τ → Prop
  | change (content : γ) : Step capacity react s (.change content)
      { s with content := content, raised := s.raised + 1 }
  | deliver (hraised : 0 < s.raised) (hroom : s.queue < capacity) : Step capacity react s .deliver
      { s with raised := s.raised - 1, queue := s.queue + 1 }
  | receive (hphase : s.phase = .waiting) (hqueue : 0 < s.queue) : Step capacity react s .receive
      { s with queue := s.queue - 1, phase := .settling }
  | settle (hphase : s.phase = .settling) : Step capacity react s .settle
      { s with phase := .draining }
  | drain (hphase : s.phase = .draining) (hqueue : 0 < s.queue) : Step capacity react s .drain
      { s with queue := s.queue - 1 }
  | read (hphase : s.phase = .draining) (hqueue : s.queue = 0) : Step capacity react s .read
      { s with phase := .loaded s.content }
  | act (content : γ) (hphase : s.phase = .loaded content) : Step capacity react s .act
      { s with phase := .waiting, state := react content s.state }

theorem step_cases {e : WatchEvent γ} (hstep : step capacity react s e = some s') :
    Step capacity react s e s' := by
  cases e with
  | change content =>
      cases hstep
      exact .change content
  | deliver =>
      simp only [step, Option.ite_none_right_eq_some] at hstep
      obtain ⟨⟨hraised, hroom⟩, hstep⟩ := hstep
      cases hstep
      exact .deliver hraised hroom
  | receive =>
      simp only [step] at hstep
      split at hstep
      case h_1 hphase =>
        simp only [Option.ite_none_right_eq_some] at hstep
        obtain ⟨hqueue, hstep⟩ := hstep
        cases hstep
        exact .receive hphase hqueue
      case h_2 => cases hstep
  | settle =>
      simp only [step] at hstep
      split at hstep <;> cases hstep
      case h_1 hphase => exact .settle hphase
  | drain =>
      simp only [step] at hstep
      split at hstep
      case h_1 hphase =>
        simp only [Option.ite_none_right_eq_some] at hstep
        obtain ⟨hqueue, hstep⟩ := hstep
        cases hstep
        exact .drain hphase hqueue
      case h_2 => cases hstep
  | read =>
      simp only [step] at hstep
      split at hstep
      case h_1 hphase =>
        simp only [Option.ite_none_right_eq_some] at hstep
        obtain ⟨hqueue, hstep⟩ := hstep
        cases hstep
        exact .read hphase hqueue
      case h_2 => cases hstep
  | act =>
      simp only [step] at hstep
      split at hstep <;> cases hstep
      case h_1 content hphase => exact .act content hphase

/-! ## What is acted on -/

def Held (known : γ → Prop) (s : Watched γ τ) : Prop :=
  known s.content ∧ ∀ content, s.phase = .loaded content → known content

theorem held_step {known : γ → Prop} {e : WatchEvent γ}
    (hstep : step capacity react s e = some s') (hs : s.Held known)
    (hchange : ∀ content, e.changed? = some content → known content) :
    s'.Held known ∧ (∀ content ∈ s.acted e s', known content) ∧
      s'.state = (s.acted e s').foldl (fun state content => react content state) s.state := by
  obtain ⟨hcontent, hloaded⟩ := hs
  cases step_cases hstep with
  | change content =>
      exact ⟨⟨hchange content rfl, hloaded⟩, fun _ hmem => (nomatch hmem), rfl⟩
  | deliver hraised hroom => exact ⟨⟨hcontent, hloaded⟩, fun _ hmem => (nomatch hmem), rfl⟩
  | receive hphase hqueue =>
      exact ⟨⟨hcontent, fun _ h => (nomatch h)⟩, fun _ hmem => (nomatch hmem), rfl⟩
  | settle hphase =>
      exact ⟨⟨hcontent, fun _ h => (nomatch h)⟩, fun _ hmem => (nomatch hmem), rfl⟩
  | drain hphase hqueue => exact ⟨⟨hcontent, hloaded⟩, fun _ hmem => (nomatch hmem), rfl⟩
  | read hphase hqueue =>
      refine ⟨⟨hcontent, fun content h => ?_⟩, fun _ hmem => (nomatch hmem), rfl⟩
      cases h
      exact hcontent
  | act content hphase =>
      have hacted : s.acted .act { s with phase := .waiting, state := react content s.state } =
          [content] := by simp only [acted, hphase]
      rw [hacted]
      refine ⟨⟨hcontent, fun _ h => (nomatch h)⟩, fun other hmem => ?_, rfl⟩
      cases List.mem_singleton.mp hmem
      exact hloaded content hphase

theorem state_run {known : γ → Prop} {events : List (WatchEvent γ)}
    (hrun : Run (step capacity react) (fun _ _ => True) s events t) (hs : s.Held known)
    (hchanges : ∀ content ∈ events.filterMap WatchEvent.changed?, known content) :
    (∀ content ∈ gather (step capacity react) acted s events, known content) ∧
      t.state = (gather (step capacity react) acted s events).foldl
        (fun state content => react content state) s.state := by
  induction hrun with
  | nil => exact ⟨fun _ hmem => (nomatch hmem), rfl⟩
  | @cons s s' t e events _ hnext _ ih =>
      have hnow : ∀ content, e.changed? = some content → known content := fun content heq =>
        hchanges content (List.mem_filterMap.mpr ⟨e, List.mem_cons_self, heq⟩)
      have hlater : ∀ content ∈ events.filterMap WatchEvent.changed?, known content := by
        intro content hmem
        obtain ⟨e', he', heq⟩ := List.mem_filterMap.mp hmem
        exact hchanges content (List.mem_filterMap.mpr ⟨e', List.mem_cons_of_mem e he', heq⟩)
      obtain ⟨hheld, hacted, hstate⟩ := held_step hnext hs hnow
      obtain ⟨hrest, hstate'⟩ := ih hheld hlater
      rw [gather_cons hnext]
      refine ⟨fun content hmem => ?_, by rw [List.foldl_append, ← hstate, hstate']⟩
      exact (List.mem_append.mp hmem).elim (hacted content) (hrest content)

/-! ## No change is missed -/

def Noticed (s : Watched γ τ) : Prop := 0 < s.raised + s.queue

/--
A consumer that waits has acted on the value or will be notified, and one that
has read it holds the value or will be notified.
-/
def Fresh (react : γ → τ → τ) (s : Watched γ τ) : Prop :=
  match s.phase with
  | .waiting => s.Noticed ∨ ∃ before, s.state = react s.content before
  | .settling | .draining => True
  | .loaded content => s.Noticed ∨ content = s.content

theorem fresh_change (react : γ → τ → τ) (s : Watched γ τ) (content : γ) :
    Fresh react { s with content := content, raised := s.raised + 1 } := by
  have hnoticed : Noticed { s with content := content, raised := s.raised + 1 } := by
    simp only [Noticed]
    omega
  unfold Fresh
  split
  · exact .inl hnoticed
  · trivial
  · trivial
  · exact .inl hnoticed

theorem Fresh.step {e : WatchEvent γ} (hstep : step capacity react s e = some s')
    (hs : s.Fresh react) : s'.Fresh react := by
  cases step_cases hstep with
  | change content => exact fresh_change react s content
  | deliver hraised hroom =>
      have hnoticed : Noticed { s with raised := s.raised - 1, queue := s.queue + 1 } := by
        simp only [Noticed]
        omega
      unfold Fresh
      split
      · exact .inl hnoticed
      · trivial
      · trivial
      · exact .inl hnoticed
  | receive hphase hqueue => trivial
  | settle hphase => trivial
  | drain hphase hqueue =>
      unfold Fresh
      rw [hphase]
      trivial
  | read hphase hqueue => exact .inr rfl
  | act content hphase =>
      unfold Fresh at hs
      rw [hphase] at hs
      rcases hs with hnoticed | rfl
      · exact .inl hnoticed
      · exact .inr ⟨s.state, rfl⟩

theorem fresh_of_change {events : List (WatchEvent γ)}
    (hrun : Run (step capacity react) (fun _ _ => True) s events t)
    (hchange : events.filterMap WatchEvent.changed? ≠ []) : t.Fresh react := by
  induction hrun with
  | nil => exact absurd rfl hchange
  | @cons s s' t e events _ hnext hrest ih =>
      cases he : e.changed? with
      | none => exact ih (by rwa [List.filterMap_cons_none he] at hchange)
      | some content =>
          have hfresh : s'.Fresh react := by
            cases step_cases hnext with
            | change content' => exact fresh_change react s content'
            | _ => cases he
          exact hrest.invariant (fun _ _ _ _ hstep hs => hs.step hstep) hfresh

theorem Fresh.of_idle (hs : s.Fresh react) (hidle : s.idle = true) :
    ∃ before, s.state = react s.content before := by
  simp only [idle, Bool.and_eq_true, beq_iff_eq] at hidle
  obtain ⟨⟨hraised, hqueue⟩, hwaiting⟩ := hidle
  have hphase : s.phase = .waiting := by
    cases hcase : s.phase with
    | waiting => rfl
    | _ => rw [hcase] at hwaiting; cases hwaiting
  unfold Fresh at hs
  rw [hphase] at hs
  refine hs.resolve_left ?_
  rw [Noticed, hraised, hqueue]
  exact Nat.lt_irrefl 0

/-! ## The notifications run out -/

def rank (s : Watched γ τ) : Nat := 5 * s.raised + 4 * s.queue + s.phase.rank

theorem rank_step {e : WatchEvent γ} (hstep : step capacity react s e = some s')
    (hquiet : e.changed? = none) : s'.rank + 1 ≤ s.rank := by
  cases step_cases hstep with
  | change content => cases hquiet
  | deliver hraised hroom =>
      simp only [rank]
      omega
  | receive hphase hqueue =>
      simp only [rank, hphase, ConsumerPhase.rank]
      omega
  | settle hphase => simp only [rank, hphase, ConsumerPhase.rank, Nat.le_refl]
  | drain hphase hqueue =>
      simp only [rank]
      omega
  | read hphase hqueue => simp only [rank, hphase, ConsumerPhase.rank, Nat.le_refl]
  | act content hphase => simp only [rank, hphase, ConsumerPhase.rank, Nat.le_refl]

theorem length_le_rank {events : List (WatchEvent γ)}
    (hrun : Run (step capacity react) (fun _ e => e.changed? = none) s events t) :
    events.length + t.rank ≤ s.rank := by
  induction hrun with
  | nil => simp
  | cons hquiet hnext _ ih =>
      have hstep := rank_step hnext hquiet
      rw [List.length_cons]
      omega

theorem exists_step_of_not_idle (hcapacity : 0 < capacity) (hbusy : s.idle = false) :
    ∃ e, e.changed? = none ∧ (step capacity react s e).isSome = true := by
  cases hphase : s.phase with
  | settling => exact ⟨.settle, rfl, by simp only [step, hphase, Option.isSome_some]⟩
  | loaded content => exact ⟨.act, rfl, by simp only [step, hphase, Option.isSome_some]⟩
  | draining =>
      by_cases hqueue : s.queue = 0
      · exact ⟨.read, rfl, by simp only [step, hphase, hqueue, if_true, Option.isSome_some]⟩
      · have hpos : 0 < s.queue := Nat.pos_of_ne_zero hqueue
        exact ⟨.drain, rfl, by simp only [step, hphase, hpos, if_true, Option.isSome_some]⟩
  | waiting =>
      by_cases hqueue : s.queue = 0
      · have hraised : 0 < s.raised := by
          rcases Nat.eq_zero_or_pos s.raised with hzero | hpos
          · simp [idle, hzero, hqueue, hphase, ConsumerPhase.isWaiting] at hbusy
          · exact hpos
        have hroom : s.queue < capacity := by omega
        exact ⟨.deliver, rfl, by simp only [step, hraised, hroom, and_self, if_true,
          Option.isSome_some]⟩
      · have hpos : 0 < s.queue := Nat.pos_of_ne_zero hqueue
        exact ⟨.receive, rfl, by simp only [step, hphase, hpos, if_true, Option.isSome_some]⟩

end Watched

end Girasol.Foundation
