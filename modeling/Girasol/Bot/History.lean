import Girasol.Bot.Frame

/-!
# The history of a position

The log is newest first.  The life of a position is the part of the log since
its mint was last opened, and calls of the sell pipeline are counted in it.
-/

namespace Girasol

variable {p : Platform}

def lifeOf (mint : Mint) : List LogEntry → List LogEntry
  | [] => []
  | e :: rest => if e = .opened mint then [] else e :: lifeOf mint rest

@[simp]
theorem lifeOf_opened (mint : Mint) (log : List LogEntry) :
    lifeOf mint (.opened mint :: log) = [] := by
  simp [lifeOf]

@[simp] theorem lifeOf_cons {mint : Mint} {e : LogEntry} (he : e ≠ .opened mint)
    (log : List LogEntry) : lifeOf mint (e :: log) = e :: lifeOf mint log := by
  simp [lifeOf, he]

def SellOrder.isFor (o : SellOrder) (mint : Mint) (l : Level) : Bool :=
  o.mint == mint && o.level == some l

namespace LogEntry

def callsFor (mint : Mint) (l : Level) : LogEntry → Bool
  | .started queued => queued.order.isFor mint l
  | .opened _ | .accumulated _ | .mirrorHandled _ _ | .finished _ _ => false

def booksFor (mint : Mint) (l : Level) : LogEntry → Bool
  | .finished queued .executed => queued.order.isFor mint l
  | .finished _ .failed | .finished _ .skipped | .opened _ | .accumulated _
  | .mirrorHandled _ _ | .started _ => false

def failsFor (mint : Mint) (l : Level) : LogEntry → Bool
  | .finished queued .failed | .finished queued .skipped => queued.order.isFor mint l
  | .finished _ .executed | .opened _ | .accumulated _ | .mirrorHandled _ _
  | .started _ => false

end LogEntry

def levelCalls (mint : Mint) (l : Level) (log : List LogEntry) : Nat :=
  (lifeOf mint log).countP (LogEntry.callsFor mint l)

def levelBooked (mint : Mint) (l : Level) (log : List LogEntry) : Nat :=
  (lifeOf mint log).countP (LogEntry.booksFor mint l)

def levelFailed (mint : Mint) (l : Level) (log : List LogEntry) : Nat :=
  (lifeOf mint log).countP (LogEntry.failsFor mint l)

def Executor.runs (mint : Mint) (l : Level) : Executor → Nat
  | .selling queued => (queued.order.isFor mint l).toNat
  | .idle | .checking _ => 0

/-! ## One more entry -/

def SameCounts (mint : Mint) (log log' : List LogEntry) : Prop :=
  ∀ l, levelCalls mint l log' = levelCalls mint l log ∧
    levelBooked mint l log' = levelBooked mint l log ∧
    levelFailed mint l log' = levelFailed mint l log

theorem SameCounts.refl (mint : Mint) (log : List LogEntry) : SameCounts mint log log :=
  fun _ => ⟨rfl, rfl, rfl⟩

theorem SameCounts.cons {mint : Mint} {e : LogEntry} (he : e ≠ .opened mint)
    (hcounts : ∀ l, e.callsFor mint l = false ∧ e.booksFor mint l = false ∧
      e.failsFor mint l = false)
    (log : List LogEntry) : SameCounts mint log (e :: log) := by
  intro l
  obtain ⟨hcalls, hbooks, hfails⟩ := hcounts l
  simp [levelCalls, levelBooked, levelFailed, lifeOf_cons he, hcalls, hbooks, hfails]

theorem levelCounts_opened (mint : Mint) (l : Level) (log : List LogEntry) :
    levelCalls mint l (.opened mint :: log) = 0 ∧
      levelBooked mint l (.opened mint :: log) = 0 ∧
      levelFailed mint l (.opened mint :: log) = 0 := by
  simp [levelCalls, levelBooked, levelFailed]

theorem levelCounts_started (mint : Mint) (l : Level) (queued : QueuedOrder)
    (log : List LogEntry) :
    levelCalls mint l (.started queued :: log) =
        levelCalls mint l log + (Executor.selling queued).runs mint l ∧
      levelBooked mint l (.started queued :: log) = levelBooked mint l log ∧
      levelFailed mint l (.started queued :: log) = levelFailed mint l log := by
  have hlife : lifeOf mint (.started queued :: log) = .started queued :: lifeOf mint log :=
    lifeOf_cons (by simp) log
  cases hfor : queued.order.isFor mint l <;>
    simp [levelCalls, levelBooked, levelFailed, hlife, LogEntry.callsFor,
      LogEntry.booksFor, LogEntry.failsFor, Executor.runs, hfor]

theorem levelCounts_finished (mint : Mint) (l : Level) (queued : QueuedOrder)
    (outcome : SellOutcome) (log : List LogEntry) :
    levelCalls mint l (.finished queued outcome :: log) = levelCalls mint l log ∧
      levelBooked mint l (.finished queued outcome :: log) =
        levelBooked mint l log +
          (if outcome = .executed then (Executor.selling queued).runs mint l else 0) ∧
      levelFailed mint l (.finished queued outcome :: log) =
        levelFailed mint l log +
          (if outcome = .executed then 0 else (Executor.selling queued).runs mint l) := by
  have hlife : lifeOf mint (.finished queued outcome :: log) =
      .finished queued outcome :: lifeOf mint log := lifeOf_cons (by simp) log
  cases hfor : queued.order.isFor mint l <;> cases outcome <;>
    simp [levelCalls, levelBooked, levelFailed, hlife, LogEntry.callsFor,
      LogEntry.booksFor, LogEntry.failsFor, Executor.runs, hfor]

@[simp] theorem Executor.runs_of_mint_ne {mint : Mint} {queued : QueuedOrder}
    (hne : queued.order.mint ≠ mint) (l : Level) :
    (Executor.selling queued).runs mint l = 0 := by
  simp [runs, SellOrder.isFor, hne]

@[simp] theorem Executor.runs_of_level_none {mint : Mint} {queued : QueuedOrder}
    (hlevel : queued.order.level = none) (l : Level) :
    (Executor.selling queued).runs mint l = 0 := by
  simp [runs, SellOrder.isFor, hlevel]

theorem Executor.runs_eq_one {mint : Mint} {queued : QueuedOrder} {l : Level}
    (h : (Executor.selling queued).runs mint l ≠ 0) :
    queued.order.mint = mint ∧ queued.order.level = some l ∧
      (Executor.selling queued).runs mint l = 1 := by
  cases hfor : queued.order.isFor mint l with
  | false => simp [runs, hfor] at h
  | true =>
      simp only [SellOrder.isFor, Bool.and_eq_true, beq_iff_eq] at hfor
      exact ⟨hfor.1, hfor.2, by simp [runs, SellOrder.isFor, hfor]⟩

theorem Bot.Quiet.sameCounts {s s' : Bot p} (hquiet : s.Quiet s') (mint : Mint) :
    SameCounts mint s.log s'.log := by
  rcases hquiet.log with heq | ⟨mirror, heq⟩
  · rw [heq]
    exact .refl mint s.log
  · rw [heq]
    exact .cons (by simp) (fun _ => ⟨rfl, rfl, rfl⟩) s.log

end Girasol
