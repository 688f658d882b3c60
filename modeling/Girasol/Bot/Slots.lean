import Girasol.Bot.BuySteps
import Girasol.Foundation.Counting
import Girasol.Foundation.Runs

/-!
# The pending-buy slots

A task holds the slot of its mint from `try_acquire_buy` to `release_buy`.  The
set holds the slots of the tasks, a mint is never held twice, and a task that
found no position keeps its mint free of others until it registers.
-/

namespace Girasol

open Foundation

variable {p : Platform}

namespace BuyPhase

def holdsSlot : BuyPhase p → Bool
  | .acquired _ | .counting _ | .buying _ | .registering _ _ | .persisting
  | .releasing _ => true
  | .spawned | .configured _ | .done _ => false

def foundNothing : BuyPhase p → Bool
  | .counting _ => true
  | .buying alreadyHolding | .registering alreadyHolding _ => !alreadyHolding
  | .spawned | .configured _ | .acquired _ | .persisting | .releasing _ | .done _ => false

/-- How many steps a task has left at most. -/
def rank : BuyPhase p → Nat
  | .spawned => 8
  | .configured _ => 7
  | .acquired _ => 6
  | .counting _ => 5
  | .buying _ => 4
  | .registering _ _ => 3
  | .persisting => 2
  | .releasing _ => 1
  | .done _ => 0

private theorem holdsSlot_of_foundNothing {phase : BuyPhase p} (h : phase.foundNothing = true) :
    phase.holdsSlot = true := by
  cases phase <;> simp_all [holdsSlot, foundNothing]

end BuyPhase

namespace BuyTask

def slot (task : BuyTask p) : Option Mint :=
  if task.phase.holdsSlot then some task.detected.mint else none

def opens (task : BuyTask p) : Option Mint :=
  if task.phase.foundNothing then some task.detected.mint else none

theorem slot_of_opens {task : BuyTask p} {mint : Mint} (h : task.opens = some mint) :
    task.slot = some mint := by
  simp only [opens, Option.ite_none_right_eq_some] at h
  rw [slot, if_pos (BuyPhase.holdsSlot_of_foundNothing h.1), h.2]

end BuyTask

namespace Bot

def slot (s : Bot p) (i : Nat) : Option Mint := (s.buys[i]?).bind BuyTask.slot

def opens (s : Bot p) (i : Nat) : Option Mint := (s.buys[i]?).bind BuyTask.opens

structure SlotInv (s : Bot p) : Prop where
  nodup : s.pendingBuys.Nodup
  pending : ∀ mint, mint ∈ s.pendingBuys ↔ ∃ i, s.slot i = some mint
  exclusive : ∀ mint i j, s.slot i = some mint → s.slot j = some mint → i = j
  unseen : ∀ i mint, s.opens i = some mint → s.positions.hasPosition mint = false

/-! ## One step -/

section

variable {s s' : Bot p}

theorem slot_of_opens {i : Nat} {mint : Mint} (h : s.opens i = some mint) :
    s.slot i = some mint := by
  obtain ⟨task, htask, hopens⟩ := Option.bind_eq_some_iff.mp h
  exact Option.bind_eq_some_iff.mpr ⟨task, htask, BuyTask.slot_of_opens hopens⟩

theorem Outside.view {f : BuyTask p → Option Mint} {e : Event p} (hout : s.Outside e s')
    (hnew : ∀ detected, f ⟨detected, .spawned⟩ = none) (j : Nat) :
    (s'.buys[j]?).bind f = (s.buys[j]?).bind f := by
  rcases hout.getElem? j with heq | ⟨hnone, detected, hspawned⟩
  · rw [heq]
  · rw [hnone, hspawned]
    exact hnew detected

theorem view_setPhase {f : BuyTask p → Option Mint} {i : Nat} {task : BuyTask p}
    (htask : s.buys[i]? = some task) (phase : BuyPhase p) (j : Nat) :
    ((s.setPhase i phase).buys[j]?).bind f =
      if i = j then f { task with phase := phase } else (s.buys[j]?).bind f := by
  rw [getElem?_setPhase]
  split
  case isTrue hij =>
    rw [← hij, htask]
    rfl
  case isFalse => rfl

theorem SlotInv.of_slot_eq (hs : s.SlotInv) (hslot : ∀ j, s'.slot j = s.slot j)
    (hpending : s'.pendingBuys = s.pendingBuys)
    (hunseen : ∀ j mint, s'.opens j = some mint → s'.positions.hasPosition mint = false) :
    s'.SlotInv := by
  refine ⟨?_, ?_, ?_, hunseen⟩
  · rw [hpending]
    exact hs.nodup
  · intro mint
    simp only [hpending, hslot]
    exact hs.pending mint
  · intro mint i j
    rw [hslot, hslot]
    exact hs.exclusive mint i j

theorem SlotInv.outside {e : Event p} (hout : s.Outside e s') (hs : s.SlotInv) : s'.SlotInv := by
  have hslot (j : Nat) : s'.slot j = s.slot j := hout.view (fun _ => rfl) j
  have hopens (j : Nat) : s'.opens j = s.opens j := hout.view (fun _ => rfl) j
  refine hs.of_slot_eq hslot hout.pendingBuys fun j mint h => ?_
  have hclosed := hs.unseen j mint (hopens j ▸ h)
  by_contra hopen
  have hbefore := hout.positions mint (Bool.not_eq_false _ ▸ hopen)
  rw [hclosed] at hbefore
  cases hbefore

theorem SlotInv.keep {i : Nat} {task : BuyTask p} {phase : BuyPhase p}
    (htask : s.buys[i]? = some task) (hbuys : s'.buys = (s.setPhase i phase).buys)
    (hpending : s'.pendingBuys = s.pendingBuys)
    (hholds : phase.holdsSlot = task.phase.holdsSlot)
    (hunseen : phase.foundNothing = true →
      s'.positions.hasPosition task.detected.mint = false)
    (hothers : ∀ j mint, i ≠ j → s.opens j = some mint →
      s'.positions.hasPosition mint = false)
    (hs : s.SlotInv) : s'.SlotInv := by
  refine hs.of_slot_eq (fun j => ?_) hpending fun j mint h => ?_
  · rw [slot, hbuys, view_setPhase htask]
    split
    case isTrue hij =>
      rw [← hij, slot, htask]
      simp [BuyTask.slot, hholds]
    case isFalse => rfl
  · rw [opens, hbuys, view_setPhase htask] at h
    split at h
    case isTrue =>
      simp only [BuyTask.opens, Option.ite_none_right_eq_some] at h
      cases h.2
      exact hunseen h.1
    case isFalse hne => exact hothers j mint hne h

theorem SlotInv.acquire {i : Nat} {task : BuyTask p} {cfg : ValidSettings p}
    (htask : s.buys[i]? = some task) (hbefore : s.slot i = none)
    (hfree : task.detected.mint ∉ s.pendingBuys) (hs : s.SlotInv) :
    SlotInv { s.setPhase i (.acquired cfg) with
      pendingBuys := task.detected.mint :: s.pendingBuys } := by
  have hslot (j : Nat) : slot { s.setPhase i (.acquired cfg) with
      pendingBuys := task.detected.mint :: s.pendingBuys } j =
        if i = j then some task.detected.mint else s.slot j :=
    view_setPhase htask (.acquired cfg) j
  have hnone (j : Nat) : s.slot j ≠ some task.detected.mint :=
    fun h => hfree ((hs.pending _).mpr ⟨j, h⟩)
  refine ⟨List.nodup_cons.mpr ⟨hfree, hs.nodup⟩, fun mint => ?_, fun mint j k => ?_,
    fun j mint h => ?_⟩
  · simp only [List.mem_cons, hs.pending mint, hslot]
    constructor
    · rintro (rfl | ⟨j, hj⟩)
      · exact ⟨i, if_pos rfl⟩
      · have hij : i ≠ j := by
          rintro rfl
          simp [hbefore] at hj
        exact ⟨j, by rw [if_neg hij, hj]⟩
    · rintro ⟨j, hj⟩
      split at hj
      · exact .inl (Option.some.inj hj).symm
      · exact .inr ⟨j, hj⟩
  · rw [hslot, hslot]
    split <;> split
    · omega
    · rintro ⟨⟩ hk
      exact absurd hk (hnone k)
    · rintro hj ⟨⟩
      exact absurd hj (hnone j)
    · exact hs.exclusive mint j k
  · have hview := view_setPhase (f := BuyTask.opens) htask (.acquired cfg) j
    rw [opens, hview] at h
    split at h
    · cases h
    · exact hs.unseen j mint h

theorem SlotInv.release {i : Nat} {task : BuyTask p} {registered : Bool}
    (htask : s.buys[i]? = some task) (hbefore : s.slot i = some task.detected.mint)
    (hs : s.SlotInv) :
    SlotInv { s.setPhase i (.done registered) with
      pendingBuys := s.pendingBuys.erase task.detected.mint } := by
  have hslot (j : Nat) : slot { s.setPhase i (.done registered) with
      pendingBuys := s.pendingBuys.erase task.detected.mint } j =
        if i = j then none else s.slot j :=
    view_setPhase htask (.done registered) j
  refine ⟨hs.nodup.erase _, fun mint => ?_, fun mint j k => ?_, fun j mint h => ?_⟩
  · simp only [hs.nodup.mem_erase_iff, hs.pending mint, hslot]
    constructor
    · rintro ⟨hne, j, hj⟩
      have hij : i ≠ j := by
        rintro rfl
        exact hne (Option.some.inj (hj.symm.trans hbefore))
      exact ⟨j, by rw [if_neg hij, hj]⟩
    · rintro ⟨j, hj⟩
      split at hj
      case isTrue => cases hj
      case isFalse hij =>
        refine ⟨?_, j, hj⟩
        rintro rfl
        exact hij (hs.exclusive _ i j hbefore hj)
  · rw [hslot, hslot]
    split
    · rintro ⟨⟩
    · split
      · rintro _ ⟨⟩
      · exact hs.exclusive mint j k
  · have hview := view_setPhase (f := BuyTask.opens) htask (.done registered) j
    rw [opens, hview] at h
    split at h
    · cases h
    · exact hs.unseen j mint h

theorem SlotInv.task {i : Nat} {task : BuyTask p} {e : Event p} {phase : BuyPhase p}
    (htask : s.buys[i]? = some task)
    (hmove : BuyStep s i task.detected e task.phase phase s') (hs : s.SlotInv) :
    s'.SlotInv := by
  obtain ⟨detected, before⟩ := task
  have hunseen : before.foundNothing = true →
      s.positions.hasPosition detected.mint = false := by
    intro hfound
    exact hs.unseen i detected.mint (by simp [opens, htask, BuyTask.opens, hfound])
  cases hmove with
  | configure | refused _ | seen _ _ | full _ | gaveUp _ _ | persisted =>
      exact hs.keep htask rfl rfl rfl (by simp [BuyPhase.foundNothing])
        fun j mint _ => hs.unseen j mint
  | acquired cfg hfree =>
      exact hs.acquire htask (by simp [slot, htask, BuyTask.slot, BuyPhase.holdsSlot]) hfree
  | unseen cfg hclosed =>
      exact hs.keep htask rfl rfl rfl (fun _ => hclosed) fun j mint _ => hs.unseen j mint
  | room cfg _ =>
      exact hs.keep htask rfl rfl rfl (fun _ => hunseen rfl) fun j mint _ => hs.unseen j mint
  | bought held result =>
      exact hs.keep htask rfl rfl rfl hunseen fun j mint _ => hs.unseen j mint
  | accumulated result =>
      refine hs.keep htask rfl rfl rfl (by simp [BuyPhase.foundNothing]) fun j mint _ h => ?_
      have hclosed := hs.unseen j mint h
      by_contra hopen
      have hopen' := Positions.hasPosition_of_update (Bool.not_eq_false _ ▸ hopen)
      rw [hclosed] at hopen'
      cases hopen'
  | opened result =>
      refine hs.keep htask rfl rfl rfl (by simp [BuyPhase.foundNothing])
        fun j mint hij h => ?_
      have hne : mint ≠ detected.mint := by
        rintro rfl
        exact hij (hs.exclusive _ i j
          (by simp [slot, htask, BuyTask.slot, BuyPhase.holdsSlot]) (slot_of_opens h))
      simp only [Positions.hasPosition, Positions.addPosition, Store.lookup_insert_eq,
        if_neg hne]
      exact hs.unseen j mint h
  | released registered =>
      exact hs.release htask (by simp [slot, htask, BuyTask.slot, BuyPhase.holdsSlot])

theorem SlotInv.step {e : Event p} (hstep : s.step e = some s') (hs : s.SlotInv) :
    s'.SlotInv := by
  cases htask : e.task with
  | none => exact hs.outside (step_outside hstep htask)
  | some i =>
      obtain ⟨task, phase, hbuy, hmove⟩ := step_task hstep htask
      exact hs.task hbuy hmove

end

theorem slotInv_start (settings : ValidSettings p) (hasPayer : Bool) (loaded : Positions) :
    (start settings hasPayer loaded).SlotInv where
  nodup := .nil
  pending := by simp [start, slot]
  exclusive := by simp [start, slot]
  unseen := by simp [start, opens]

/-! ## Whole runs -/

def slotHeld (s : Bot p) (i : Nat) : Bool := (s.slot i).isSome

def rank (s : Bot p) (i : Nat) : Nat := ((s.buys[i]?).map fun task => task.phase.rank).getD 8

end Bot

namespace Event

def acquires (i : Nat) : Event p → Bool
  | .buyAcquire task => i == task
  | _ => false

def releases (i : Nat) : Event p → Bool
  | .buyRelease task => i == task
  | _ => false

theorem not_acquires {e : Event p} {i : Nat} (h : e.task ≠ some i) : e.acquires i = false := by
  cases e with
  | buyAcquire task =>
      have hne : i ≠ task := fun heq => h (congrArg some heq.symm)
      simpa [acquires] using hne
  | _ => rfl

theorem not_releases {e : Event p} {i : Nat} (h : e.task ≠ some i) : e.releases i = false := by
  cases e with
  | buyRelease task =>
      have hne : i ≠ task := fun heq => h (congrArg some heq.symm)
      simpa [releases] using hne
  | _ => rfl

end Event

namespace Bot

def acquisitions (i : Nat) : Bot p → List (Event p) → Nat
  | _, [] => 0
  | s, e :: es =>
      match s.step e with
      | none => 0
      | some s' => (e.acquires i && s'.slotHeld i).toNat + acquisitions i s' es

section

variable {s s' t : Bot p}

theorem outside_of_ne {e : Event p} {i : Nat} (hstep : s.step e = some s')
    (hne : e.task ≠ some i) : s'.slot i = s.slot i ∧ s'.rank i = s.rank i := by
  cases htask : e.task with
  | none =>
      have hout := step_outside hstep htask
      refine ⟨hout.view (fun _ => rfl) i, ?_⟩
      rcases hout.getElem? i with heq | ⟨hnone, detected, hspawned⟩
      · rw [rank, heq, rank]
      · rw [rank, hspawned, rank, hnone]
        rfl
  | some j =>
      obtain ⟨task, phase, hbuy, hmove⟩ := step_task hstep htask
      have hji : j ≠ i := fun heq => hne (heq ▸ htask)
      constructor
      · rw [slot, hmove.buys, view_setPhase hbuy, if_neg hji]
        rfl
      · rw [rank, hmove.buys, getElem?_setPhase, if_neg hji]
        rfl

theorem rank_step {e : Event p} {i : Nat} (hstep : s.step e = some s') :
    (e.task == some i).toNat + s'.rank i ≤ s.rank i := by
  by_cases htask : e.task = some i
  · obtain ⟨⟨detected, before⟩, phase, hbuy, hmove⟩ := step_task hstep htask
    have hrank : s'.rank i = phase.rank := by
      rw [rank, hmove.buys, getElem?_setPhase, if_pos rfl, hbuy]
      rfl
    have hrank' : s.rank i = before.rank := by
      rw [rank, hbuy]
      rfl
    have hlt : phase.rank < before.rank := by
      cases hmove <;> simp [BuyPhase.rank]
    simp only [htask, beq_self_eq_true, Bool.toNat_true]
    omega
  · rw [(outside_of_ne hstep htask).2, beq_false_of_ne htask]
    simp

theorem slot_step {e : Event p} {i : Nat} (hstep : s.step e = some s') :
    (e.acquires i && s'.slotHeld i).toNat + (s.slotHeld i).toNat =
      (e.releases i).toNat + (s'.slotHeld i).toNat := by
  by_cases htask : e.task = some i
  · obtain ⟨⟨detected, before⟩, phase, hbuy, hmove⟩ := step_task hstep htask
    have hheld : s'.slotHeld i = phase.holdsSlot := by
      rw [slotHeld, slot, hmove.buys, view_setPhase hbuy, if_pos rfl, BuyTask.slot]
      cases phase.holdsSlot <;> rfl
    have hheld' : s.slotHeld i = before.holdsSlot := by
      rw [slotHeld, slot, hbuy, Option.bind_some, BuyTask.slot]
      cases before.holdsSlot <;> rfl
    rw [hheld, hheld']
    cases hmove <;> simp [Event.acquires, Event.releases, BuyPhase.holdsSlot]
  · rw [Event.not_acquires htask, Event.not_releases htask, slotHeld, slotHeld,
      (outside_of_ne hstep htask).1]
    simp

theorem rank_run {es : List (Event p)} (i : Nat)
    (hrun : Run Bot.step (fun _ _ => True) s es t) :
    es.countP (fun e => e.task == some i) + t.rank i ≤ s.rank i := by
  induction hrun with
  | nil s => simp
  | @cons s s' t e es _ hnext _ ih =>
      have hstep := rank_step (i := i) hnext
      rw [countP_cons_toNat]
      omega

theorem slot_run {es : List (Event p)} (i : Nat)
    (hrun : Run Bot.step (fun _ _ => True) s es t) :
    acquisitions i s es + (s.slotHeld i).toNat =
      es.countP (Event.releases i) + (t.slotHeld i).toNat := by
  induction hrun with
  | nil s => simp [acquisitions]
  | @cons s s' t e es _ hnext _ ih =>
      have hstep := slot_step (i := i) hnext
      simp only [acquisitions, hnext, countP_cons_toNat]
      omega

private theorem rank_of_acquires {e : Event p} {i : Nat} (hstep : s.step e = some s')
    (hacquires : e.acquires i = true) : s.rank i = 7 ∧ s'.rank i < 7 := by
  have htask : e.task = some i := by
    by_contra hne
    rw [Event.not_acquires hne] at hacquires
    cases hacquires
  obtain ⟨⟨detected, before⟩, phase, hbuy, hmove⟩ := step_task hstep htask
  have hrank : s.rank i = 7 := by
    rw [rank, hbuy]
    cases hmove <;> first | rfl | cases hacquires
  refine ⟨hrank, ?_⟩
  have hle := rank_step (i := i) hstep
  rw [hrank, htask, beq_self_eq_true, Bool.toNat_true] at hle
  omega

private theorem acquisitions_le {es : List (Event p)} (i : Nat)
    (hrun : Run Bot.step (fun _ _ => True) s es t) :
    acquisitions i s es ≤ if 7 ≤ s.rank i then 1 else 0 := by
  induction hrun with
  | nil s => simp [acquisitions]
  | @cons s s' t e es _ hnext _ ih =>
      simp only [acquisitions, hnext]
      cases hacquires : e.acquires i with
      | false =>
          have hrank := rank_step (i := i) hnext
          simp only [Bool.false_and, Bool.toNat_false, Nat.zero_add]
          split at ih <;> split <;> omega
      | true =>
          obtain ⟨hrank, hlt⟩ := rank_of_acquires hnext hacquires
          rw [if_neg (not_le.mpr hlt)] at ih
          rw [if_pos hrank.ge]
          have hle := Bool.toNat_le (true && s'.slotHeld i)
          omega

private theorem exists_step_of_slotHeld {i : Nat} (hheld : t.slotHeld i = true) :
    ∃ e : Event p, e.task = some i ∧ (t.step e).isSome = true := by
  obtain ⟨mint, hslot⟩ := Option.isSome_iff_exists.mp hheld
  obtain ⟨⟨detected, phase⟩, hbuy, hholds⟩ := Option.bind_eq_some_iff.mp hslot
  cases phase with
  | spawned | configured _ | done _ => cases hholds
  | acquired cfg =>
      refine ⟨.buyLook i, rfl, ?_⟩
      simp only [Bot.step, buyLook, hbuy]
      split <;> rfl
  | counting cfg =>
      refine ⟨.buyCount i, rfl, ?_⟩
      simp only [Bot.step, buyCount, hbuy]
      split <;> rfl
  | buying held => exact ⟨.buyResult i .failed, rfl, by simp [Bot.step, buyResult, hbuy]⟩
  | registering held result =>
      refine ⟨.buyRegister i, rfl, ?_⟩
      cases held <;> simp [Bot.step, buyRegister, hbuy]
  | persisting => exact ⟨.buyPersist i, rfl, by simp [Bot.step, buyPersist, hbuy]⟩
  | releasing registered =>
      exact ⟨.buyRelease i, rfl, by simp [Bot.step, buyRelease, hbuy]⟩

end

/-- What a run makes of the slots. -/
structure SlotDiscipline (s : Bot p) (es : List (Event p)) (t : Bot p) : Prop where
  pending : ∀ mint, mint ∈ t.pendingBuys ↔ ∃ i, t.slot i = some mint
  exclusive : ∀ mint i j, t.slot i = some mint → t.slot j = some mint → i = j
  once : ∀ i, acquisitions i s es ≤ 1 ∧
    acquisitions i s es = es.countP (Event.releases i) + (t.slotHeld i).toNat
  last : ∀ i before after, es = before ++ .buyRelease i :: after →
    ∀ e ∈ after, e.task ≠ some i
  proceeds : ∀ i, t.slotHeld i = true → ∃ e, e.task = some i ∧ (t.step e).isSome = true
  bounded : ∀ i, es.countP (fun e => e.task == some i) ≤ 8
  opensNew : ∀ (i : Nat) (detected : DetectedBuy) (result : Bought),
    t.buys[i]? = some ⟨detected, .registering false result⟩ →
    t.positions.lookup detected.mint = none

/--
In every run a mint's slot is held by at most one task, every task that got a
slot gives it back once and as its last step, and no task opens a position
over another.
-/
theorem slot_discipline (settings : ValidSettings p) (hasPayer : Bool) (loaded : Positions)
    (es : List (Event p)) (t : Bot p)
    (hrun : Run Bot.step (fun _ _ => True) (start settings hasPayer loaded) es t) :
    SlotDiscipline (start settings hasPayer loaded) es t := by
  have hinv : t.SlotInv :=
    hrun.invariant (fun _ _ _ _ => SlotInv.step) (slotInv_start settings hasPayer loaded)
  have hrank (i : Nat) : (start settings hasPayer loaded).rank i = 8 := rfl
  constructor
  case pending => exact hinv.pending
  case exclusive => exact hinv.exclusive
  case proceeds => exact fun i => exists_step_of_slotHeld
  case once =>
    intro i
    have hle := acquisitions_le i hrun
    have hbalance := slot_run i hrun
    have hnone : (start settings hasPayer loaded).slotHeld i = false := rfl
    rw [hrank] at hle
    rw [hnone] at hbalance
    exact ⟨by simpa using hle, by simpa using hbalance⟩
  case bounded =>
    intro i
    have hle := rank_run i hrun
    rw [hrank] at hle
    omega
  case last =>
    rintro i before after rfl e he htask
    obtain ⟨u, -, hrun'⟩ := hrun.split
    cases hrun' with
    | @cons _ u' _ _ _ _ hnext hafter =>
        have hzero : u'.rank i = 0 := by
          obtain ⟨⟨detected, phase⟩, phase', hbuy, hmove⟩ := step_task hnext rfl
          rw [rank, hmove.buys, getElem?_setPhase, if_pos rfl, hbuy]
          cases hmove
          rfl
        have hle := rank_run i hafter
        have hpos : 0 < after.countP fun e => e.task == some i :=
          List.countP_pos_iff.mpr ⟨e, he, by simp [htask]⟩
        omega
  case opensNew =>
    intro i detected result hbuy
    have hclosed := hinv.unseen i detected.mint
      (by simp [opens, hbuy, BuyTask.opens, BuyPhase.foundNothing])
    simpa [Positions.hasPosition] using hclosed

def twoBuysOfOneMint : List (Event .plain) :=
  [.detectBuy .plain 0, .detectBuy { DetectedBuy.plain with signature := "again" } 0,
    .buyConfigure 0, .buyConfigure 1, .buyAcquire 0, .buyAcquire 1, .buyLook 0, .buyCount 0,
    .buyResult 0 (.bought .plain), .buyRegister 0, .buyPersist 0, .buyRelease 0]

theorem slot_discipline_twoBuys :
    ∃ t, Run Bot.step (fun _ _ => True) (start .plain false ∅) twoBuysOfOneMint t ∧
      t.positions.hasPosition "mint" = true ∧
      SlotDiscipline (start .plain false ∅) twoBuysOfOneMint t := by
  have hexec : (exec Bot.step (fun _ _ => True) (start .plain false ∅)
      twoBuysOfOneMint).map (fun t => t.positions.hasPosition "mint") = some true := by
    decide +kernel
  obtain ⟨t, hrun, hopen⟩ := exists_run_of_exec hexec
  exact ⟨t, hrun, hopen, slot_discipline .plain false ∅ twoBuysOfOneMint t hrun⟩

end Bot

end Girasol
