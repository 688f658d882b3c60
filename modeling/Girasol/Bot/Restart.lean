import Girasol.Bot.PendingFlag
import Girasol.Bot.Registration

/-!
# Crashes and restarts

A life of the bot is a list of steps, of steps whose write to the file is lost,
and of restarts, each from the file as it was last written.
-/

namespace Girasol

open Foundation

variable {p : Platform}

inductive LifeEvent (p : Platform) where
  | step (e : Event p)
  | unsaved (e : Event p)
  | restart (settings : ValidSettings p) (hasPayer : Bool)

namespace Bot

def restart (s : Bot p) (settings : ValidSettings p) (hasPayer : Bool) : Bot p :=
  start settings hasPayer s.disk

def lifeStep (s : Bot p) : LifeEvent p → Option (Bot p)
  | .step e => s.step e
  | .unsaved e => (s.step e).map fun s' => { s' with disk := s.disk }
  | .restart settings hasPayer => some (s.restart settings hasPayer)

/-- After a crash in this state and a restart, no position has a sell in flight. -/
def RestartsWatched (s : Bot p) : Prop :=
  ∀ (settings : ValidSettings p) (hasPayer : Bool) (mint : Mint) (h : Holding),
    (s.restart settings hasPayer).positions.lookup mint = some h →
      (s.restart settings hasPayer).orders = [] ∧ h.pendingSell = false

theorem restartsWatched_iff {s : Bot p} : s.RestartsWatched ↔ s.disk.noPending = true := by
  rw [Positions.noPending_iff]
  constructor
  · intro hwatched mint
    by_contra hpending
    obtain ⟨h, hlook, hflag⟩ := Positions.pending_eq_true.mp (Bool.not_eq_false _ ▸ hpending)
    have hnot := (hwatched s.settings s.hasPayer mint h hlook).2
    rw [hflag] at hnot
    cases hnot
  · intro hnone settings hasPayer mint h hlook
    refine ⟨rfl, ?_⟩
    by_contra hflag
    have hpending := Positions.pending_eq_true.mpr ⟨h, hlook, Bool.not_eq_false _ ▸ hflag⟩
    exact absurd hpending (by simp [restart, start, hnone mint])

def SavesUnflagged (s : Bot p) (e : Event p) : Prop :=
  match e with
  | .buyRegister _ => ∀ r ∈ s.registration e, r.alreadyHolding = true →
      s.positions.noPending = true
  | .buyPersist _ | .revalidateEnd | .validateEnd => s.positions.noPending = true
  | .execFinish .executed => ∀ queued ∈ s.executor.held, ∀ mint, mint ≠ queued.order.mint →
      s.positions.pending mint = false
  | _ => True

def LifeSavesUnflagged (s : Bot p) : LifeEvent p → Prop
  | .step e => s.SavesUnflagged e
  | .unsaved _ | .restart _ _ => True

section

variable {s s' : Bot p}

theorem disk_of_not_saves {e : Event p} (hstep : s.step e = some s') (hsaves : e.saves = false) :
    s'.disk = s.disk := by
  cases htask : e.task with
  | none => exact (step_outside hstep htask).disk hsaves
  | some i =>
      obtain ⟨task, phase, -, hmove⟩ := step_task hstep htask
      exact hmove.disk hsaves

private theorem savesUnflagged_of_not_saves {e : Event p} (hsaves : e.saves = false) :
    s.SavesUnflagged e := by
  cases e with
  | execFinish outcome =>
      cases outcome with
      | executed => cases hsaves
      | _ => trivial
  | buyRegister _ | buyPersist _ | revalidateEnd | validateEnd => cases hsaves
  | _ => trivial

private theorem noPending_accumulatePosition (r : Rounding) (mint : Mint) (amount : Nat) (price : ℚ)
    (cost : Option ℚ) (positions : Positions) :
    (positions.accumulatePosition r mint amount price cost).noPending = true ↔
      positions.noPending = true := by
  simp only [Positions.noPending_iff, Positions.pending_accumulatePosition]

private theorem noPending_settle_executed (order : SellOrder) (positions : Positions) :
    (positions.settle order .executed).noPending = true ↔
      ∀ mint, mint ≠ order.mint → positions.pending mint = false := by
  simp only [Positions.noPending_iff, Positions.pending_settle (by simp : SellOutcome.executed ≠
    .skipped), Bool.and_eq_false_iff, bne_eq_false_iff_eq]
  constructor
  · exact fun h mint hne => (h mint).resolve_right hne
  · intro h mint
    by_cases hmint : mint = order.mint
    · exact .inr hmint
    · exact .inl (h mint hmint)

private theorem disk_noPending_iff {e : Event p} (hs : s.disk.noPending = true)
    (hstep : s.step e = some s') : s'.disk.noPending = true ↔ s.SavesUnflagged e := by
  cases hsaves : e.saves with
  | false =>
      rw [disk_of_not_saves hstep hsaves]
      exact iff_of_true hs (savesUnflagged_of_not_saves hsaves)
  | true =>
      cases e with
      | buyRegister i =>
          obtain ⟨detected, result, ⟨hbuy, rfl⟩ | ⟨hbuy, rfl⟩⟩ := buyRegister_inv hstep
          · simp [SavesUnflagged, registration, hbuy, noPending_accumulatePosition]
          · simp only [SavesUnflagged, registration, hbuy]
            exact iff_of_true hs (by simp)
      | buyPersist i =>
          simp only [step, buyPersist] at hstep
          split at hstep <;> cases hstep
          exact Iff.rfl
      | revalidateEnd =>
          simp only [step, revalidateEnd] at hstep
          split at hstep <;> cases hstep
          exact Iff.rfl
      | validateEnd =>
          simp only [step, validateEnd] at hstep
          split at hstep <;> cases hstep
          exact Iff.rfl
      | execFinish outcome =>
          cases outcome with
          | executed =>
              obtain ⟨queued, hexec, rfl⟩ := execFinish_inv hstep
              simp only [SavesUnflagged, hexec, Executor.held, List.mem_singleton, forall_eq,
                if_true]
              exact noPending_settle_executed queued.order s.positions
          | _ => cases hsaves
      | _ => cases hsaves

private theorem lifeStep_iff {e : LifeEvent p} (hs : s.disk.noPending = true)
    (hstep : s.lifeStep e = some s') : s'.disk.noPending = true ↔ s.LifeSavesUnflagged e := by
  cases e with
  | step e => exact disk_noPending_iff hs hstep
  | unsaved e =>
      obtain ⟨u, -, rfl⟩ := Option.map_eq_some_iff.mp hstep
      exact iff_of_true hs trivial
  | restart settings hasPayer =>
      cases hstep
      exact iff_of_true hs trivial

end

/--
Over every life that begins with unflagged positions, a restart at any point
finds every position watched exactly when no write of the file finds another
position with a sell in flight.
-/
theorem restarts_watched_iff (settings : ValidSettings p) (hasPayer : Bool)
    (loaded : Positions) (hloaded : loaded.noPending = true) (life : List (LifeEvent p)) :
    Along lifeStep (fun _ _ s' => s'.RestartsWatched) (start settings hasPayer loaded) life ↔
      Along lifeStep (fun s e _ => s.LifeSavesUnflagged e) (start settings hasPayer loaded)
        life := by
  simp only [restartsWatched_iff]
  apply along_iff
  · exact fun s e s' hs hstep => lifeStep_iff hs hstep
  · exact hloaded

def savedInFlight : List (LifeEvent .plain) :=
  (profitSent ++ ([.tickMark, .detectBuy otherBuy 0, .buyConfigure 0, .buyAcquire 0,
    .buyLook 0, .buyCount 0, .buyResult 0 (.bought .plain), .buyRegister 0, .buyPersist 0] :
      List (Event .plain))).map .step

theorem restarts_watched_iff_savedInFlight :
    Along lifeStep (fun _ _ s' => s'.RestartsWatched) plain savedInFlight ↔
      Along lifeStep (fun s e _ => s.LifeSavesUnflagged e) plain savedInFlight :=
  restarts_watched_iff .plain false .single (by decide) savedInFlight

theorem restart_unwatched :
    ¬ Along lifeStep (fun _ _ s' => s'.RestartsWatched) plain savedInFlight := by
  simp only [restartsWatched_iff]
  decide +kernel

end Bot

end Girasol
