import Girasol.Bot.BuySteps
import Girasol.Foundation.Runs

/-!
# The flag of a sell in flight

The monitor sends an order and sets the flag in two steps, the executor clears
it when it is done with the order, and the flag is part of every saved file.
-/

namespace Girasol

open Foundation

variable {p : Platform}

namespace Positions

def pending (mint : Mint) (positions : Positions) : Bool :=
  ((positions.lookup mint).map Holding.pendingSell).getD false

def noPending (positions : Positions) : Bool :=
  positions.keys.all fun mint => !positions.pending mint

variable {mint mint' : Mint} {positions positions' : Positions}

theorem pending_eq_true :
    positions.pending mint = true ↔
      ∃ h, positions.lookup mint = some h ∧ h.pendingSell = true := by
  unfold pending
  cases positions.lookup mint <;> simp

theorem noPending_iff : positions.noPending = true ↔ ∀ mint, positions.pending mint = false := by
  unfold noPending
  rw [List.all_eq_true]
  constructor
  · intro hall mint
    by_contra hpending
    obtain ⟨h, hlook, hflag⟩ := pending_eq_true.mp (Bool.not_eq_false _ ▸ hpending)
    have hmem : mint ∈ positions.keys := AList.lookup_isSome.mp (by simp [hlook])
    have hnot := hall mint hmem
    simp [pending, hlook, hflag] at hnot
  · intro hnone mint _
    simp [hnone mint]

theorem KeepsTrade.pending (hkeeps : positions.KeepsTrade positions')
    (hpending : positions'.pending mint = true) : positions.pending mint = true := by
  obtain ⟨h', hlook', hflag⟩ := pending_eq_true.mp hpending
  obtain ⟨h, hlook, hsame⟩ := hkeeps mint h' hlook'
  exact pending_eq_true.mpr ⟨h, hlook, hsame.pendingSell ▸ hflag⟩

theorem pending_setPendingSell (hpending : (positions.setPendingSell mint).pending mint' = true) :
    positions.pending mint' = true ∨ mint' = mint ∧ positions.hasPosition mint = true := by
  obtain ⟨h', hlook', hflag⟩ := pending_eq_true.mp hpending
  rw [setPendingSell, Store.lookup_update] at hlook'
  split at hlook'
  case isTrue heq =>
    obtain ⟨h, hlook, -⟩ := Option.bind_eq_some_iff.mp hlook'
    exact .inr ⟨heq, Option.isSome_iff_exists.mpr ⟨h, heq ▸ hlook⟩⟩
  case isFalse => exact .inl (pending_eq_true.mpr ⟨h', hlook', hflag⟩)

theorem pending_settle {order : SellOrder} {outcome : SellOutcome}
    (hdone : outcome ≠ .skipped) (mint : Mint) :
    (positions.settle order outcome).pending mint =
      (positions.pending mint && mint != order.mint) := by
  by_cases hmint : mint = order.mint
  · subst hmint
    rw [bne_self_eq_false, Bool.and_false]
    cases outcome with
    | skipped => exact absurd rfl hdone
    | failed =>
        simp only [settle, clearPendingSell, pending, Store.lookup_update_self]
        cases positions.lookup order.mint <;> rfl
    | executed =>
        simp only [settle, updateAfterSell, pending, Store.lookup_update_self]
        cases positions.lookup order.mint with
        | none => rfl
        | some h =>
            rw [Option.bind_some]
            cases hafter : h.afterSell order.amount order.reason order.levelIndex with
            | none => rfl
            | some h' => simp [Holding.afterSell_pendingSell hafter]
  · have hne : (mint != order.mint) = true := bne_iff_ne.mpr hmint
    rw [hne, Bool.and_true, pending, lookup_settle_ne hmint]
    rfl

theorem pending_accumulatePosition (r : Rounding) (amount : Nat) (price : ℚ)
    (cost : Option ℚ) :
    (positions.accumulatePosition r mint amount price cost).pending mint' =
      positions.pending mint' := by
  simp only [accumulatePosition, pending, Store.lookup_update]
  split
  · cases positions.lookup mint' <;> rfl
  · rfl

theorem pending_addPosition {h : Holding} (hflag : h.pendingSell = false)
    (hpending : (positions.addPosition mint h).pending mint' = true) :
    positions.pending mint' = true := by
  rw [addPosition, pending, Store.lookup_insert_eq] at hpending
  split at hpending
  · simp [hflag] at hpending
  · exact hpending

end Positions

namespace Bot

def inProgress (s : Bot p) (mint : Mint) : Bool :=
  (s.executor.held ++ s.orders).any fun queued => queued.order.mint == mint

/-- The executor updates or clears the flag at the end of every order. -/
def EndsOrder : Event p → Prop
  | .execFinish .skipped => False
  | _ => True

instance (e : Event p) : Decidable (EndsOrder e) := by
  induction e using Event.casesOn with
  | execFinish outcome =>
      induction outcome using SellOutcome.casesOn with
      | skipped => exact isFalse not_false
      | _ => exact isTrue trivial
  | _ => exact isTrue trivial

/-- The monitor sets a flag while an order for the mint is still on its way. -/
def MarksInProgress (s : Bot p) : Event p → Prop
  | .tickMark => ∀ mint ∈ s.monitor.marks,
      s.positions.hasPosition mint = true → s.inProgress mint = true
  | _ => True

instance (s : Bot p) (e : Event p) : Decidable (MarksInProgress s e) := by
  induction e using Event.casesOn with
  | tickMark => exact inferInstanceAs (Decidable (∀ mint ∈ s.monitor.marks, _))
  | _ => exact isTrue trivial

def FlagInv (s : Bot p) : Prop :=
  ∀ mint, s.positions.pending mint = true → s.inProgress mint = true

namespace FlagInv

variable {s s' : Bot p}

theorem mono (hs : s.FlagInv)
    (hpending : ∀ mint, s'.positions.pending mint = true → s.positions.pending mint = true)
    (horders : ∀ mint, s.inProgress mint = true → s'.inProgress mint = true) : s'.FlagInv :=
  fun mint h => horders mint (hs mint (hpending mint h))

theorem of_orders_eq (hs : s.FlagInv)
    (hpending : ∀ mint, s'.positions.pending mint = true → s.positions.pending mint = true)
    (hexec : s'.executor = s.executor) (horders : s'.orders = s.orders) : s'.FlagInv := by
  refine hs.mono hpending fun mint h => ?_
  rw [inProgress, hexec, horders]
  exact h

theorem of_orders_append {queued : QueuedOrder} (hs : s.FlagInv)
    (hpos : s'.positions = s.positions) (hexec : s'.executor = s.executor)
    (horders : s'.orders = s.orders ++ [queued]) : s'.FlagInv := by
  refine hs.mono (fun mint h => hpos ▸ h) fun mint h => ?_
  obtain ⟨q, hq, hmint⟩ := List.any_eq_true.mp h
  refine List.any_eq_true.mpr ⟨q, ?_, hmint⟩
  rw [hexec, horders, ← List.append_assoc]
  exact List.mem_append_left _ hq

theorem buyRegister {i : Nat} (hs : s.FlagInv) (hstep : s.buyRegister i = some s') :
    s'.FlagInv := by
  obtain ⟨detected, result, ⟨-, rfl⟩ | ⟨-, rfl⟩⟩ := buyRegister_inv hstep
  · exact hs.of_orders_eq
      (fun mint h => (Positions.pending_accumulatePosition _ _ _ _) ▸ h) rfl rfl
  · have hflag : (registered detected result).pendingSell = false := result.untouched.2.2.2
    exact hs.of_orders_eq (fun mint h => Positions.pending_addPosition hflag h) rfl rfl

private theorem tickMark (hs : s.FlagInv) (hallowed : MarksInProgress s .tickMark)
    (hstep : s.tickMark = some s') : s'.FlagInv := by
  obtain ⟨cfg, mint, later, rest, hmon, rfl⟩ := tickMark_inv hstep
  intro mint' hpending
  rcases Positions.pending_setPendingSell hpending with hbefore | ⟨rfl, hopen⟩
  · exact hs mint' hbefore
  · exact hallowed mint' (by simp [hmon, Monitor.marks]) hopen

private theorem execCheck (hs : s.FlagInv) (hstep : s.execCheck = some s') : s'.FlagInv := by
  obtain ⟨queued, hexec, ⟨-, rfl⟩ | ⟨hclosed, rfl⟩⟩ := execCheck_inv hstep
  · refine hs.mono (fun _ => id) fun mint h => ?_
    rw [inProgress, hexec] at h
    exact h
  · intro mint hpending
    have hprogress := hs mint hpending
    obtain ⟨q, hq, hmint⟩ := List.any_eq_true.mp hprogress
    rw [hexec] at hq
    rcases List.mem_append.mp hq with hheld | hqueued
    · cases List.mem_singleton.mp hheld
      obtain ⟨h, hlook, -⟩ := Positions.pending_eq_true.mp hpending
      rw [← beq_iff_eq.mp hmint, hclosed] at hlook
      cases hlook
    · exact List.any_eq_true.mpr ⟨q, List.mem_append_right _ hqueued, hmint⟩

private theorem execFinish {outcome : SellOutcome} (hs : s.FlagInv) (hdone : outcome ≠ .skipped)
    (hstep : s.execFinish outcome = some s') : s'.FlagInv := by
  obtain ⟨queued, hexec, rfl⟩ := execFinish_inv hstep
  intro mint hpending
  simp only [Positions.pending_settle hdone, Bool.and_eq_true, bne_iff_ne] at hpending
  obtain ⟨q, hq, hmint⟩ := List.any_eq_true.mp (hs mint hpending.1)
  rw [hexec] at hq
  rcases List.mem_append.mp hq with hheld | hqueued
  · cases List.mem_singleton.mp hheld
    exact absurd (beq_iff_eq.mp hmint).symm hpending.2
  · exact List.any_eq_true.mpr ⟨q, List.mem_append_right _ hqueued, hmint⟩

private theorem step {e : Event p} (hallowed : EndsOrder e ∧ MarksInProgress s e)
    (hstep : s.step e = some s') (hs : s.FlagInv) : s'.FlagInv := by
  cases hquiet : e.quiet with
  | true =>
      have hstill := step_quiet hstep hquiet
      exact hs.of_orders_eq (fun _ => hstill.positions.pending) hstill.executor hstill.orders
  | false =>
      cases e with
      | buyRegister i => exact hs.buyRegister hstep
      | mirrorLoad =>
          obtain ⟨mirror, -, ⟨h, -, rfl⟩ | ⟨-, rfl⟩⟩ := mirrorLoad_inv hstep
          · exact hs.of_orders_eq (fun _ => id) rfl rfl
          · exact hs.of_orders_eq (fun _ => id) rfl rfl
      | mirrorSend =>
          obtain ⟨mirror, order, -, rfl⟩ := mirrorSend_inv hstep
          exact hs.of_orders_append rfl rfl rfl
      | tickStart order =>
          obtain ⟨-, -, rfl⟩ := tickStart_inv hstep
          exact hs.of_orders_eq (fun _ => id) rfl rfl
      | tickPrice reading now =>
          obtain ⟨mint, h, rest, heval⟩ := tickPrice_inv hstep
          exact hs.of_orders_eq (fun _ => heval.positions.pending) heval.executor heval.orders
      | tickCurve liquidity =>
          obtain ⟨mint, h, rest, heval⟩ := tickCurve_inv hstep
          exact hs.of_orders_eq (fun _ => heval.positions.pending) heval.executor heval.orders
      | tickSend =>
          obtain ⟨cfg, order, later, rest, -, rfl⟩ := tickSend_inv hstep
          exact hs.of_orders_append rfl rfl rfl
      | tickMark => exact hs.tickMark hallowed.2 hstep
      | execRecv =>
          obtain ⟨queued, rest, hidle, horders, rfl⟩ := execRecv_inv hstep
          refine hs.mono (fun _ => id) fun mint h => ?_
          rw [inProgress, hidle, horders] at h
          exact h
      | execCheck => exact hs.execCheck hstep
      | execFinish outcome =>
          refine hs.execFinish ?_ hstep
          rintro rfl
          exact hallowed.1
      | _ => cases hquiet

end FlagInv

/--
From unflagged positions, if the monitor marks a position only while an order
for it is on its way, then a position without such an order is not flagged.
-/
theorem no_stale_flag (settings : ValidSettings p) (hasPayer : Bool) (loaded : Positions)
    (hloaded : loaded.noPending = true) (es : List (Event p)) (t : Bot p)
    (hrun : Run Bot.step (fun s e => EndsOrder e ∧ MarksInProgress s e)
      (start settings hasPayer loaded) es t)
    (mint : Mint) (h : Holding) (hopen : t.positions.lookup mint = some h)
    (hnone : t.inProgress mint = false) : h.pendingSell = false := by
  have hstart : (start settings hasPayer loaded).FlagInv := by
    intro m hpending
    have hnot : loaded.pending m = false := Positions.noPending_iff.mp hloaded m
    simp [start, hnot] at hpending
  have hinv : t.FlagInv := hrun.invariant (fun _ _ _ => FlagInv.step) hstart
  by_contra hflag
  have hprogress := hinv mint
    (Positions.pending_eq_true.mpr ⟨h, hopen, Bool.not_eq_false _ ▸ hflag⟩)
  rw [hnone] at hprogress
  cases hprogress

def profitSent : List (Event .plain) :=
  [.tickStart ["mint"], .tickPrice (.price 2) 0, .tickSend]

def settledWith (flag : Bool) (t : Bot .plain) : Bool :=
  !t.inProgress "mint" && (match t.monitor with | .idle => true | _ => false) &&
    (t.positions.lookup "mint").map Holding.pendingSell == some flag

theorem settledWith_iff {flag : Bool} {t : Bot .plain} (hsettled : settledWith flag t = true) :
    t.inProgress "mint" = false ∧ t.monitor.atRest ∧
      ∃ h, t.positions.lookup "mint" = some h ∧ h.pendingSell = flag := by
  simp only [settledWith, Bool.and_eq_true, Bool.not_eq_true', beq_iff_eq,
    Option.map_eq_some_iff] at hsettled
  obtain ⟨⟨hnone, hidle⟩, hopen⟩ := hsettled
  refine ⟨hnone, ?_, hopen⟩
  cases hmon : t.monitor <;> simp_all [Monitor.atRest]

theorem no_stale_flag_profit :
    ∃ t h, Run Bot.step (fun s e => EndsOrder e ∧ MarksInProgress s e) plain
        (profitSent ++ [.tickMark] ++ executeOne) t ∧
      t.positions.lookup "mint" = some h ∧ h.pendingSell = false := by
  have hexec : (exec Bot.step (fun s e => EndsOrder e ∧ MarksInProgress s e) plain
      (profitSent ++ [.tickMark] ++ executeOne)).map (settledWith false) = some true := by
    decide +kernel
  obtain ⟨t, hrun, hcheck⟩ := exists_run_of_exec hexec
  obtain ⟨hnone, -, h, hopen, -⟩ := settledWith_iff hcheck
  exact ⟨t, h, hrun, hopen,
    no_stale_flag .plain false .single (by decide) _ t hrun "mint" h hopen hnone⟩

theorem stale_flag :
    ∃ t h, Run Bot.step (fun _ e => EndsOrder e) plain
        (profitSent ++ executeOne ++ [.tickMark]) t ∧
      t.inProgress "mint" = false ∧ t.monitor.atRest ∧
      t.positions.lookup "mint" = some h ∧ h.pendingSell = true := by
  have hexec : (exec Bot.step (fun _ e => EndsOrder e) plain
      (profitSent ++ executeOne ++ [.tickMark])).map (settledWith true) = some true := by
    decide +kernel
  obtain ⟨t, hrun, hcheck⟩ := exists_run_of_exec hexec
  obtain ⟨hnone, hrest, h, hopen, hflag⟩ := settledWith_iff hcheck
  exact ⟨t, h, hrun, hnone, hrest, hopen, hflag⟩

end Bot

end Girasol
