import Girasol.Bot.Frame
import Girasol.Foundation.Runs

/-!
# The size of an order when the executor starts it

An order is sized on a snapshot of the position.  It still fits the position
when the executor starts it, as long as the amount it was sized on has not
changed under it, or has changed harmlessly.
-/

namespace Girasol

open Foundation

variable {p : Platform}

theorem SellOrder.fits_of_amount_eq {o : SellOrder} {h h' : Holding} (hfits : o.fits h)
    (hamount : h'.amount = h.amount) : o.fits h' := by
  simpa [SellOrder.fits, hamount] using hfits

theorem SellOrder.fits_of_partial {o : SellOrder} {h : Holding} {amount : Nat}
    (hbelow : o.isFinal = false ∧ o.amount < amount) (hamount : h.amount = amount) :
    o.fits h := by
  subst hamount
  refine ⟨hbelow.2.le, ?_⟩
  simp [hbelow.1, hbelow.2.ne]

theorem mirrorAmount_le (r : Rounding) (sell : DetectedSell) (h : Holding) :
    mirrorAmount r sell h ≤ h.amount := by
  unfold mirrorAmount
  split
  · split
    · exact Nat.min_le_right _ _
    · exact le_refl _
  · exact le_refl _

theorem mirrorOrder_fits (r : Rounding) (sell : DetectedSell) (h : Holding) :
    (mirrorOrder r sell h).fits h := by
  have hle := mirrorAmount_le r sell h
  refine ⟨hle, ?_⟩
  simp only [mirrorOrder, SellOrder.ofHolding, decide_eq_true_eq]
  omega

def Executor.waiting : Executor → List SellOrder
  | .checking queued => [queued.order]
  | .idle | .selling _ => []

namespace Bot

def waiting (s : Bot p) : List SellOrder :=
  s.executor.waiting ++ s.orders.map QueuedOrder.order ++ s.monitor.unsent ++ s.main.unsent

def SizesFit (s : Bot p) : Prop :=
  ∀ o ∈ s.waiting, ∀ h, s.positions.lookup o.mint = some h → o.fits h

/-! ## Where an amount changes under an order -/

def resizes (s : Bot p) : Event p → Option (Mint × Nat)
  | .execFinish .executed =>
      match s.executor with
      | .selling queued =>
          match s.positions.lookup queued.order.mint with
          | some h =>
              if queued.order.amount < h.amount then
                some (queued.order.mint, h.amount - queued.order.amount)
              else none
          | none => none
      | _ => none
  | .buyRegister task =>
      match s.buys[task]? with
      | some ⟨detected, .registering true result⟩ =>
          (s.positions.lookup detected.mint).map fun h =>
            (detected.mint, u64Add h.amount result.holding.amount)
      | some ⟨detected, .registering false result⟩ =>
          some (detected.mint, result.holding.amount)
      | _ => none
  | _ => none

def builds (s : Bot p) (e : Event p) : List (Holding × SellOrder) :=
  match s.monitor.watched, s.monitor.unsent, s.step e with
  | (_, h) :: _, [], some s' => s'.monitor.unsent.map fun o => (h, o)
  | _, _, _ => []

/--
An order whose amount was taken from an older amount of the position is a
partial one for less than the actual amount.
-/
def KeepsSizes (s : Bot p) (e : Event p) : Prop :=
  (∀ resized ∈ (s.resizes e).toList,
      (s.positions.lookup resized.1).map Holding.amount = some resized.2 ∨
        ∀ o ∈ s.waiting, o.mint = resized.1 →
          o.isFinal = false ∧ o.amount < resized.2) ∧
    ∀ built ∈ s.builds e, ∀ h ∈ (s.positions.lookup built.2.mint).toList,
      built.1.amount = h.amount ∨ (built.2.isFinal = false ∧ built.2.amount < h.amount)

instance (s : Bot p) (e : Event p) : Decidable (s.KeepsSizes e) :=
  inferInstanceAs (Decidable (_ ∧ _))

/-! ## Steps -/

@[simp] theorem mem_waiting {s : Bot p} {o : SellOrder} :
    o ∈ s.waiting ↔ o ∈ s.executor.waiting ∨ o ∈ s.orders.map QueuedOrder.order ∨
      o ∈ s.monitor.unsent ∨ o ∈ s.main.unsent := by
  simp only [waiting, List.mem_append]
  tauto

theorem mem_waiting_of_congr {s s' : Bot p} {o : SellOrder} (ho : o ∈ s'.waiting)
    (hexec : s'.executor.waiting = s.executor.waiting) (horders : s'.orders = s.orders)
    (hmon : s'.monitor.unsent = s.monitor.unsent)
    (hmain : s'.main.unsent = s.main.unsent) : o ∈ s.waiting := by
  rwa [waiting, hexec, horders, hmon, hmain] at ho

theorem SizesFit.mono {s s' : Bot p} (hs : s.SizesFit)
    (hsub : ∀ o ∈ s'.waiting, o ∈ s.waiting)
    (hkeeps : s.positions.KeepsTrade s'.positions) : s'.SizesFit := by
  intro o ho h' hopen'
  obtain ⟨h, hopen, htrade⟩ := hkeeps o.mint h' hopen'
  exact SellOrder.fits_of_amount_eq (hs o (hsub o ho) h hopen) htrade.amount

theorem SizesFit.quiet {s s' : Bot p} (hs : s.SizesFit) (hquiet : s.Quiet s') :
    s'.SizesFit := by
  have hunsent : s'.monitor.unsent = s.monitor.unsent := by
    rcases hquiet.monitor with heq | ⟨hrest, hrest'⟩
    · rw [heq]
    · rw [(Monitor.views_atRest hrest).2.1, (Monitor.views_atRest hrest').2.1]
  refine hs.mono (fun o ho => ?_) hquiet.positions
  exact mem_waiting_of_congr ho (by rw [hquiet.executor]) hquiet.orders hunsent
    hquiet.main_unsent

theorem SizesFit.evaluates {s s' : Bot p} {e : Event p} {mint : Mint} {h : Holding}
    {rest : List (Mint × Holding)} (hs : s.SizesFit) (hallowed : s.KeepsSizes e)
    (hstep : s.step e = some s') (heval : Evaluates s s' mint h rest) :
    s'.SizesFit := by
  intro o ho h' hopen'
  obtain ⟨hnow, hopen, htrade⟩ := heval.positions o.mint h' hopen'
  refine SellOrder.fits_of_amount_eq (h := hnow) ?_ htrade.amount
  rw [mem_waiting, heval.executor, heval.orders, heval.main] at ho
  rcases ho with ho | ho | ho | ho
  · exact hs o (mem_waiting.mpr (.inl ho)) hnow hopen
  · exact hs o (mem_waiting.mpr (.inr (.inl ho))) hnow hopen
  · rcases heval.result with ⟨-, hnone⟩ | ⟨-, -, hbuilt⟩
    · simp [hnone] at ho
    · have hmem : (h, o) ∈ s.builds e := by
        simp only [builds, heval.entry, heval.unsent, hstep]
        exact List.mem_map_of_mem ho
      rcases hallowed.2 (h, o) hmem hnow (by simpa using hopen) with hsame | hbelow
      · exact SellOrder.fits_of_amount_eq (hbuilt o ho).fits hsame.symm
      · exact SellOrder.fits_of_partial hbelow rfl
  · exact hs o (mem_waiting.mpr (.inr (.inr (.inr ho)))) hnow hopen

theorem SizesFit.resized {s : Bot p} {e : Event p} {mint : Mint} {amount : Nat}
    (hs : s.SizesFit) (hallowed : s.KeepsSizes e)
    (hresizes : s.resizes e = some (mint, amount)) {o : SellOrder} (ho : o ∈ s.waiting)
    (hmint : o.mint = mint) {h' : Holding} (hamount : h'.amount = amount) :
    o.fits h' := by
  rcases hallowed.1 (mint, amount) (by simp [hresizes]) with hsame | hbelow
  · obtain ⟨h, hopen, heq⟩ := Option.map_eq_some_iff.mp hsame
    exact SellOrder.fits_of_amount_eq (hs o ho h (hmint ▸ hopen)) (hamount.trans heq.symm)
  · exact SellOrder.fits_of_partial (hbelow o ho hmint) hamount

theorem SizesFit.buyRegister {s s' : Bot p} {task : Nat} (hs : s.SizesFit)
    (hallowed : s.KeepsSizes (.buyRegister task))
    (hstep : s.buyRegister task = some s') : s'.SizesFit := by
  obtain ⟨detected, result, ⟨hbuy, rfl⟩ | ⟨hbuy, rfl⟩⟩ := buyRegister_inv hstep
  · intro o ho h' hopen'
    replace ho : o ∈ s.waiting := ho
    simp only [Positions.accumulatePosition, Store.lookup_update] at hopen'
    split at hopen'
    case isFalse => exact hs o ho h' hopen'
    case isTrue hmint =>
      obtain ⟨h, hopen, heq⟩ := Option.bind_eq_some_iff.mp hopen'
      cases heq
      rw [hmint] at hopen
      have hresizes : s.resizes (.buyRegister task) =
          some (detected.mint, u64Add h.amount result.holding.amount) := by
        simp [resizes, hbuy, hopen]
      exact hs.resized hallowed hresizes ho hmint rfl
  · intro o ho h' hopen'
    replace ho : o ∈ s.waiting := ho
    simp only [Positions.addPosition, Store.lookup_insert_eq] at hopen'
    split at hopen'
    case isFalse => exact hs o ho h' hopen'
    case isTrue hmint =>
      cases hopen'
      have hresizes : s.resizes (.buyRegister task) =
          some (detected.mint, result.holding.amount) := by
        simp [resizes, hbuy]
      exact hs.resized hallowed hresizes ho hmint rfl

theorem SizesFit.execFinish {s s' : Bot p} {outcome : SellOutcome} (hs : s.SizesFit)
    (hallowed : s.KeepsSizes (.execFinish outcome))
    (hstep : s.execFinish outcome = some s') : s'.SizesFit := by
  obtain ⟨queued, hexec, rfl⟩ := execFinish_inv hstep
  intro o ho h' hopen'
  have hwait : o ∈ s.waiting := by
    rw [mem_waiting] at ho ⊢
    simpa [hexec, Executor.waiting] using ho
  cases outcome with
  | skipped => exact hs o hwait h' hopen'
  | failed =>
      simp only [Positions.settle, Positions.clearPendingSell, Store.lookup_update]
        at hopen'
      split at hopen'
      case isFalse => exact hs o hwait h' hopen'
      case isTrue =>
        obtain ⟨h, hopen, heq⟩ := Option.bind_eq_some_iff.mp hopen'
        cases heq
        exact SellOrder.fits_of_amount_eq (hs o hwait h hopen) rfl
  | executed =>
      simp only [Positions.settle, Positions.updateAfterSell, Store.lookup_update]
        at hopen'
      split at hopen'
      case isFalse => exact hs o hwait h' hopen'
      case isTrue hmint =>
        obtain ⟨h, hopen, heq⟩ := Option.bind_eq_some_iff.mp hopen'
        have hleft := Holding.afterSell_amount heq
        have hlt : queued.order.amount < h.amount := by
          by_contra hge
          rw [Holding.afterSell_eq_none.mpr (not_lt.mp hge)] at heq
          cases heq
        rw [hmint] at hopen
        have hresizes : s.resizes (.execFinish .executed) =
            some (queued.order.mint, h.amount - queued.order.amount) := by
          simp [resizes, hexec, hopen, hlt]
        exact hs.resized hallowed hresizes hwait hmint hleft

theorem SizesFit.step {s s' : Bot p} {e : Event p} (hallowed : s.KeepsSizes e)
    (hstep : s.step e = some s') (hs : s.SizesFit) : s'.SizesFit := by
  cases hq : e.quiet with
  | true => exact hs.quiet (step_quiet hstep hq)
  | false =>
      cases e with
      | mirrorLoad =>
          obtain ⟨mirror, hmain, ⟨h, hopen, rfl⟩ | ⟨hclosed, rfl⟩⟩ := mirrorLoad_inv hstep
          · intro o ho h' hopen'
            rw [mem_waiting] at ho
            rcases ho with ho | ho | ho | ho
            · exact hs o (mem_waiting.mpr (.inl ho)) h' hopen'
            · exact hs o (mem_waiting.mpr (.inr (.inl ho))) h' hopen'
            · exact hs o (mem_waiting.mpr (.inr (.inr (.inl ho)))) h' hopen'
            · cases List.mem_singleton.mp ho
              cases hopen.symm.trans hopen'
              exact mirrorOrder_fits p.rounding mirror.sell h
          · refine hs.mono ?_ (.refl _)
            intro o ho
            rw [mem_waiting] at ho ⊢
            simpa [mirrorDone, hmain, MainLoop.unsent] using ho
      | mirrorSend =>
          obtain ⟨mirror, order, hmain, rfl⟩ := mirrorSend_inv hstep
          refine hs.mono ?_ (.refl _)
          intro o ho
          rw [mem_waiting] at ho ⊢
          simp only [mirrorDone, MainLoop.unsent, hmain, List.map_append,
            List.mem_append, List.map_cons, List.map_nil] at ho ⊢
          tauto
      | buyRegister task => exact hs.buyRegister hallowed hstep
      | tickStart order =>
          obtain ⟨hidle, -, rfl⟩ := tickStart_inv hstep
          refine hs.mono (fun o ho => mem_waiting_of_congr ho rfl rfl ?_ rfl) (.refl _)
          rw [hidle]
          exact Monitor.unsent_proceed _ _
      | tickPrice reading now =>
          obtain ⟨mint, h, rest, heval⟩ := tickPrice_inv hstep
          exact hs.evaluates hallowed hstep heval
      | tickCurve liquidity =>
          obtain ⟨mint, h, rest, heval⟩ := tickCurve_inv hstep
          exact hs.evaluates hallowed hstep heval
      | tickSend =>
          obtain ⟨cfg, order, later, rest, hmon, rfl⟩ := tickSend_inv hstep
          refine hs.mono ?_ (.refl _)
          intro o ho
          rw [mem_waiting] at ho ⊢
          simp only [hmon, Monitor.unsent, List.map_append, List.mem_append,
            List.map_cons, List.map_nil, List.mem_cons, List.not_mem_nil] at ho ⊢
          tauto
      | tickMark =>
          obtain ⟨cfg, mint, later, rest, hmon, rfl⟩ := tickMark_inv hstep
          intro o ho h' hopen'
          have hwait : o ∈ s.waiting :=
            mem_waiting_of_congr ho rfl rfl
              (by rw [hmon]; exact Monitor.unsent_emit _ _ _) rfl
          simp only [Positions.setPendingSell, Store.lookup_update] at hopen'
          split at hopen'
          case isFalse => exact hs o hwait h' hopen'
          case isTrue =>
            obtain ⟨h, hopen, heq⟩ := Option.bind_eq_some_iff.mp hopen'
            cases heq
            exact SellOrder.fits_of_amount_eq (hs o hwait h hopen) rfl
      | execRecv =>
          obtain ⟨queued, rest, hidle, horders, rfl⟩ := execRecv_inv hstep
          refine hs.mono ?_ (.refl _)
          intro o ho
          rw [mem_waiting] at ho ⊢
          simp only [Executor.waiting, horders, List.map_cons, List.mem_cons,
            List.not_mem_nil] at ho ⊢
          tauto
      | execCheck =>
          obtain ⟨queued, hexec, ⟨-, rfl⟩ | ⟨-, rfl⟩⟩ := execCheck_inv hstep
          all_goals
            refine hs.mono ?_ (.refl _)
            intro o ho
            rw [mem_waiting] at ho ⊢
            simp only [Executor.waiting, List.not_mem_nil, false_or] at ho
            exact .inr ho
      | execFinish outcome => exact hs.execFinish hallowed hstep
      | reload | listenerSell | detectBuy | mirrorRecv | mirrorCheck | buyConfigure
      | buyAcquire | buyLook | buyCount | buyResult | buyPersist | buyRelease
      | revalidateStart | revalidateCheck | revalidateEnd | validateStart
      | validateCheck | validateEnd => cases hq

theorem sizesFit_start (settings : ValidSettings p) (hasPayer : Bool)
    (loaded : Positions) : (start settings hasPayer loaded).SizesFit := by
  intro o ho
  simp [waiting, start, Executor.waiting, Monitor.unsent, MainLoop.unsent] at ho

def starting (s : Bot p) : Option (QueuedOrder × Holding) :=
  match s.executor with
  | .checking queued =>
      (s.positions.lookup queued.order.mint).map fun h => (queued, h)
  | .idle | .selling _ => none

/--
In every run that resizes a position only under partial orders, an order the
executor is about to start is for at most the position's amount, and final
exactly when it is for all of it.
-/
theorem started_order_fits (settings : ValidSettings p) (hasPayer : Bool)
    (loaded : Positions) (es : List (Event p)) (t : Bot p)
    (hrun : Run Bot.step KeepsSizes (start settings hasPayer loaded) es t)
    (queued : QueuedOrder) (h : Holding) (hstarting : t.starting = some (queued, h)) :
    queued.order.amount ≤ h.amount ∧
      (queued.order.isFinal = true ↔ queued.order.amount = h.amount) := by
  have hfits : t.SizesFit :=
    hrun.invariant (fun _ _ _ => SizesFit.step) (sizesFit_start settings hasPayer loaded)
  simp only [starting] at hstarting
  split at hstarting
  case h_1 queued' hchecking =>
    obtain ⟨h', hopen, heq⟩ := Option.map_eq_some_iff.mp hstarting
    cases heq
    refine hfits queued.order ?_ h hopen
    rw [mem_waiting, hchecking]
    exact .inl List.mem_cons_self
  all_goals cases hstarting

/-! ## Two mirror orders sized on the same amount -/

theorem started_order_fits_plain :
    ∃ t queued h, Run Bot.step KeepsSizes plain (mirrorSell "sig" 50 ++ [.execRecv]) t ∧
      t.starting = some (queued, h) ∧ queued.order.amount ≤ h.amount ∧
      (queued.order.isFinal = true ↔ queued.order.amount = h.amount) := by
  have hexec : (exec Bot.step KeepsSizes plain (mirrorSell "sig" 50 ++ [.execRecv])).map
      (fun t => t.starting.isSome) = some true := by decide +kernel
  obtain ⟨t, hrun, hstarting⟩ := exists_run_of_exec hexec
  obtain ⟨⟨queued, h⟩, heq⟩ := Option.isSome_iff_exists.mp hstarting
  exact ⟨t, queued, h, hrun, heq,
    started_order_fits .plain false .single _ t hrun queued h heq⟩

theorem started_order_misfits :
    ∃ t queued h,
      Run Bot.step (fun _ _ => True) plain
        (mirrorSell "sig1" 50 ++ mirrorSell "sig2" 50 ++
          [.execRecv, .execCheck, .execFinish .executed, .execRecv]) t ∧
      t.starting = some (queued, h) ∧
      ¬ (queued.order.amount ≤ h.amount ∧
        (queued.order.isFinal = true ↔ queued.order.amount = h.amount)) := by
  have hexec : (exec Bot.step (fun _ _ => True) plain
      (mirrorSell "sig1" 50 ++ mirrorSell "sig2" 50 ++
        [.execRecv, .execCheck, .execFinish .executed, .execRecv])).map
      (fun t => t.starting.any fun x => decide (¬ (x.1.order.amount ≤ x.2.amount ∧
        (x.1.order.isFinal = true ↔ x.1.order.amount = x.2.amount)))) = some true := by
    decide +kernel
  obtain ⟨t, hrun, hmisfit⟩ := exists_run_of_exec hexec
  obtain ⟨⟨queued, h⟩, heq, hnot⟩ := (Option.any_eq_true _ _).mp hmisfit
  exact ⟨t, queued, h, hrun, heq, of_decide_eq_true hnot⟩

end Bot

end Girasol
