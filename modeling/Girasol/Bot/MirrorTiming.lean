import Girasol.Bot.MirrorSteps
import Girasol.Foundation.Runs

/-!
# Mirrored sells and the buys they end

The mirror-sell arm looks for the position at once; the buy task registers it
only when the buy is through.  A sell in between finds nothing and is dropped.
-/

namespace Girasol

open Foundation

variable {p : Platform}

namespace BuyPhase

def inFlight : BuyPhase p → Bool
  | .spawned | .configured _ | .acquired _ | .counting _ | .buying _
  | .registering _ _ => true
  | .persisting | .releasing _ | .done _ => false

def succeeded : BuyPhase p → Bool
  | .persisting => true
  | .releasing registered | .done registered => registered
  | .spawned | .configured _ | .acquired _ | .counting _ | .buying _
  | .registering _ _ => false

def gaveUp : BuyPhase p → Bool
  | .releasing registered | .done registered => !registered
  | .spawned | .configured _ | .acquired _ | .counting _ | .buying _
  | .registering _ _ | .persisting => false

def sawPosition : BuyPhase p → Bool
  | .buying alreadyHolding | .registering alreadyHolding _ => alreadyHolding
  | .persisting => true
  | .releasing registered | .done registered => registered
  | .spawned | .configured _ | .acquired _ | .counting _ => false

theorem sawPosition_of_succeeded {phase : BuyPhase p} (h : phase.succeeded = true) :
    phase.sawPosition = true := by
  cases phase <;> simp_all [succeeded, sawPosition]

theorem not_succeeded_of_gaveUp {phase : BuyPhase p} (h : phase.gaveUp = true) :
    phase.succeeded = false := by
  cases phase <;> simp_all [succeeded, gaveUp]

theorem inFlight_or (phase : BuyPhase p) :
    phase.inFlight = true ∨ phase.succeeded = true ∨ phase.gaveUp = true := by
  cases phase <;> simp [inFlight, succeeded, gaveUp]

end BuyPhase

/-- An order that mirrors the sell. -/
def QueuedOrder.Mirrors (queued : QueuedOrder) (mirror : MirrorSell) : Prop :=
  queued.order.mint = mirror.sell.mint ∧ queued.order.reason = .mirrorSell ∧
    queued.signature = some mirror.sell.signature

namespace Bot

/-! ## Detected sells -/

/-- The sell that a listener puts into the channel, with the buys dispatched so far. -/
def detectedSell (s : Bot p) : Event p → Bot p → List MirrorSell
  | .listenerSell sell, _ => [⟨sell, s.buys.length⟩]
  | _, _ => []

/-- The sells that were handled, the one in hand and those in the channel. -/
def mirrorsDetected (s : Bot p) : List MirrorSell :=
  s.mirrorsHandled.map Prod.fst ++ s.main.handling.toList ++ s.mirrorSells

def mirrorsQueued (s : Bot p) : List MirrorSell :=
  (s.mirrorsHandled.filter Prod.snd).map Prod.fst

def buyInFlight (s : Bot p) (mirror : MirrorSell) : Bool :=
  (s.buys.take mirror.dispatched).any fun task =>
    task.detected.mint == mirror.sell.mint && task.phase.inFlight

def closes (s : Bot p) (mint : Mint) : Event p → Bool
  | .execFinish .executed =>
      match s.executor with
      | .selling queued => queued.order.mint == mint &&
          (s.positions.lookup mint).any fun h => h.amount ≤ queued.order.amount
      | .idle | .checking _ => false
  | .revalidateCheck check =>
      match s.monitor with
      | .revalidating cfg (checked :: _) => checked == mint && check.removes p cfg.val
      | _ => false
  | .validateCheck check =>
      match s.validation with
      | .checking (checked :: _) => checked == mint && check.removes p s.settings.val
      | _ => false
  | _ => false

/-- A reload does not switch `mirror_sells` off. -/
def KeepsMirroring (_ : Bot p) (e : Event p) : Prop :=
  match e with
  | .reload cfg => cfg.val.mirrorSells = true
  | _ => True

/--
The arm looks for the position of the mint only when the buys of it that were
dispatched before the sell are through or the position is registered, and
nothing closes this position.
-/
def SellsAfterRegistration (mint : Mint) (s : Bot p) (e : Event p) : Prop :=
  s.KeepsMirroring e ∧ s.closes mint e = false ∧
    match e, s.main with
    | .mirrorCheck, .gotSell mirror => mirror.sell.mint = mint →
        s.buyInFlight mirror = true → s.positions.hasPosition mint = true
    | _, _ => True

instance (s : Bot p) (e : Event p) : Decidable (s.KeepsMirroring e) := by
  unfold KeepsMirroring
  induction e using Event.casesOn with
  | reload cfg => infer_instance
  | _ => exact isTrue trivial

instance (mint : Mint) (s : Bot p) (e : Event p) :
    Decidable (SellsAfterRegistration mint s e) := by
  unfold SellsAfterRegistration
  refine @instDecidableAnd _ _ inferInstance (@instDecidableAnd _ _ inferInstance ?_)
  generalize s.main = main
  induction e using Event.casesOn with
  | mirrorCheck =>
      induction main using MainLoop.casesOn with
      | gotSell mirror => infer_instance
      | _ => exact isTrue trivial
  | _ => exact isTrue trivial

/--
For every handled sell that was detected after a buy of the mint was dispatched,
as the `n`-th or later, an order is queued if this buy succeeds.
-/
def QueuesSells (mint : Mint) (n : Nat) (s : Bot p) : Prop :=
  ∀ mirror queued, (mirror, queued) ∈ s.mirrorsHandled → mirror.sell.mint = mint →
    ∀ i task, n ≤ i → i < mirror.dispatched → s.buys[i]? = some task →
      task.detected.mint = mint → task.phase.succeeded = true → queued = true

def CountsDispatched (s : Bot p) : Prop :=
  ∀ mirror ∈ s.mirrorsDetected, mirror.dispatched ≤ s.buys.length

structure TimingInv (mint : Mint) (n : Nat) (s : Bot p) : Prop where
  counts : s.CountsDispatched
  seen : ∀ i task, n ≤ i → s.buys[i]? = some task → task.detected.mint = mint →
    task.phase.sawPosition = true → s.positions.hasPosition mint = true
  holds : ∀ mirror, s.main = .holdsMint mirror → mirror.sell.mint = mint →
    n < mirror.dispatched → s.positions.hasPosition mint = true
  dropped : ∀ mirror, (mirror, false) ∈ s.mirrorsHandled → mirror.sell.mint = mint →
    ∀ i task, n ≤ i → i < mirror.dispatched → s.buys[i]? = some task →
      task.detected.mint = mint → task.phase.gaveUp = true

variable {s s' : Bot p} {e : Event p} {mint : Mint} {n : Nat}

/-! ## One step -/

theorem mirrorsDetected_step (hstep : s.step e = some s') :
    s'.mirrorsDetected = s.mirrorsDetected ++ s.detectedSell e s' := by
  cases hmirror : e.onMirror with
  | false =>
      have hsame := mirror_untouched hstep hmirror
      have hnone : s.detectedSell e s' = [] := by
        cases e <;> first | rfl | cases hmirror
      simp only [mirrorsDetected, hsame.handled, hsame.main, hsame.mirrorSells, hnone,
        List.append_nil]
  | true =>
      have hmove := step_mirror hstep hmirror
      cases hmove with
      | detected sell => simp [mirrorsDetected, mirrorsHandled, detectedSell]
      | entered detected now armed s' hmain hmain' hchannel hlog =>
          simp [mirrorsDetected, mirrorsHandled, detectedSell, hmain, hmain', hlog,
            hchannel.mirrorSells, MainLoop.handling]
      | received mirror rest hmain hchannel =>
          simp [mirrorsDetected, mirrorsHandled, detectedSell, hmain, hchannel,
            MainLoop.handling]
      | found mirror hmain | loaded mirror h hmain =>
          simp [mirrorsDetected, mirrorsHandled, detectedSell, hmain, MainLoop.handling]
      | missed mirror hmain | vanished mirror hmain | sent mirror order hmain =>
          simp [mirrorsDetected, detectedSell, hmain, MainLoop.handling]
          simp [mirrorsHandled, mirrorDone]

theorem task_step {i : Nat} {task' : BuyTask p} (hstep : s.step e = some s')
    (htask' : s'.buys[i]? = some task') :
    s.buys[i]? = none ∧ task'.phase = .spawned ∨
      ∃ task, s.buys[i]? = some task ∧ task'.detected = task.detected ∧
        (task.phase.gaveUp = true → task'.phase.gaveUp = true) ∧
        (task'.phase.sawPosition = true → task.phase.sawPosition = true ∨
          s'.positions.hasPosition task.detected.mint = true) := by
  cases htask : e.task with
  | none =>
      rcases (step_outside hstep htask).getElem? i with heq | ⟨hnone, detected, hnew⟩
      · exact .inr ⟨task', heq ▸ htask', rfl, id, .inl⟩
      · rw [hnew] at htask'
        cases htask'
        exact .inl ⟨hnone, rfl⟩
  | some j =>
      obtain ⟨⟨detected, before⟩, phase, hj, hmove⟩ := step_task hstep htask
      rw [hmove.buys, getElem?_setPhase] at htask'
      split at htask'
      case isFalse => exact .inr ⟨task', htask', rfl, id, .inl⟩
      case isTrue hij =>
        subst hij
        rw [hj] at htask'
        cases htask'
        refine .inr ⟨_, hj, rfl, ?_, ?_⟩
        · cases hmove <;> simp [BuyPhase.gaveUp]
        · cases hmove with
          | seen cfg hopen => exact fun _ => .inr hopen
          | opened result =>
              intro _
              right
              simp [Positions.hasPosition, Positions.addPosition]
          | bought | released => exact .inl
          | _ => simp [BuyPhase.sawPosition]

private theorem hasPosition_update {f : Holding → Option Holding} {other : Mint}
    {positions : Positions} (hopen : positions.hasPosition mint = true)
    (hf : other = mint → ∀ h, positions.lookup mint = some h → (f h).isSome = true) :
    Positions.hasPosition mint (Store.update other f positions) = true := by
  simp only [Positions.hasPosition, Store.lookup_update]
  split
  case isTrue heq =>
    obtain ⟨h, hlook⟩ := Option.isSome_iff_exists.mp hopen
    rw [hlook, Option.bind_some]
    exact hf heq.symm h hlook
  case isFalse => exact hopen

private theorem hasPosition_applyCheck {cfg : Settings} {check : TokenCheck} {checked : Mint}
    (hcloses : checked = mint → check.removes p cfg = false)
    (hopen : s.positions.hasPosition mint = true) :
    (s.applyCheck cfg check checked).positions.hasPosition mint = true := by
  simp only [applyCheck]
  split
  case isTrue hremoves =>
    have hne : checked ≠ mint := fun heq => by simp [hcloses heq] at hremoves
    simpa [Positions.hasPosition, Positions.removePosition, Store.lookup_erase_eq,
      hne.symm] using hopen
  case isFalse => exact hopen

theorem hasPosition_step (hstep : s.step e = some s') (hcloses : s.closes mint e = false)
    (hopen : s.positions.hasPosition mint = true) : s'.positions.hasPosition mint = true := by
  cases hedits : e.edits with
  | false => rwa [positions_eq_of_not_edits hstep hedits]
  | true =>
      cases e with
      | buyRegister task =>
          obtain ⟨detected, result, ⟨-, rfl⟩ | ⟨-, rfl⟩⟩ := buyRegister_inv hstep
          · exact hasPosition_update hopen (by simp)
          · simp only [Positions.hasPosition, Positions.addPosition, Store.lookup_insert_eq]
            split
            · rfl
            · exact hopen
      | tickPrice reading now =>
          obtain ⟨other, positions, monitor, rfl, rfl | rfl | ⟨watermark, rfl⟩⟩ :=
            tickPrice_local hstep
          · exact hopen
          · exact hasPosition_update hopen (by simp)
          · exact hasPosition_update hopen (by simp)
      | tickCurve liquidity =>
          obtain ⟨other, h, monitor, rfl⟩ := tickCurve_local hstep
          simp only [Positions.noteLiquidity]
          split
          · exact hasPosition_update hopen (by simp)
          · exact hopen
      | tickMark =>
          obtain ⟨cfg, other, later, rest, -, rfl⟩ := tickMark_inv hstep
          exact hasPosition_update hopen (by simp)
      | revalidateCheck check =>
          simp only [step, revalidateCheck] at hstep
          split at hstep <;> cases hstep
          case h_1 cfg checked rest hmonitor =>
            simp only [closes, hmonitor, Bool.and_eq_false_imp, beq_iff_eq] at hcloses
            exact hasPosition_applyCheck hcloses hopen
      | validateCheck check =>
          simp only [step, validateCheck] at hstep
          split at hstep <;> cases hstep
          case h_1 checked rest hvalidation =>
            simp only [closes, hvalidation, Bool.and_eq_false_imp, beq_iff_eq] at hcloses
            exact hasPosition_applyCheck hcloses hopen
      | execFinish outcome =>
          obtain ⟨queued, hexec, rfl⟩ := execFinish_inv hstep
          cases outcome with
          | executed =>
              refine hasPosition_update hopen fun heq h hlook => ?_
              have hsome : ¬ h.amount ≤ queued.order.amount := by
                simpa [closes, hexec, heq, hlook] using hcloses
              rw [← Option.ne_none_iff_isSome]
              exact fun hnone => hsome (Holding.afterSell_eq_none.mp hnone)
          | failed => exact hasPosition_update hopen (by simp)
          | skipped => exact hopen
      | _ => cases hedits

theorem holds_step {mirror : MirrorSell} (hstep : s.step e = some s')
    (hholds : s'.main = .holdsMint mirror) :
    s.main = .holdsMint mirror ∨ s.positions.hasPosition mirror.sell.mint = true ∧
      s'.positions = s.positions := by
  cases hmirror : e.onMirror with
  | false =>
      rw [(mirror_untouched hstep hmirror).main] at hholds
      exact .inl hholds
  | true =>
      have hmove := step_mirror hstep hmirror
      cases hmove with
      | detected => exact .inl hholds
      | entered _ _ _ _ _ hmain' => simp [hmain'] at hholds
      | found other _ hopen =>
          cases hholds
          exact .inr ⟨hopen, rfl⟩
      | received | loaded | missed | vanished | sent => cases hholds

theorem dropped_step {mirror : MirrorSell} (hstep : s.step e = some s')
    (hdropped : (mirror, false) ∈ s'.mirrorsHandled) :
    (mirror, false) ∈ s.mirrorsHandled ∨
      s.positions.hasPosition mirror.sell.mint = false ∧ s'.buys = s.buys ∧
        (e = .mirrorCheck ∧ s.main = .gotSell mirror ∨ s.main = .holdsMint mirror) := by
  cases hmirror : e.onMirror with
  | false =>
      rw [(mirror_untouched hstep hmirror).handled] at hdropped
      exact .inl hdropped
  | true =>
      have hmove := step_mirror hstep hmirror
      cases hmove with
      | detected | received | found | loaded => exact .inl hdropped
      | entered _ _ _ _ _ _ _ hlog =>
          rw [mirrorsHandled, hlog] at hdropped
          exact .inl hdropped
      | missed other hmain hclosed =>
          simp only [mirrorsHandled_mirrorDone, List.mem_append, List.mem_singleton,
            Prod.mk.injEq] at hdropped
          rcases hdropped with hold | ⟨rfl, -⟩
          · exact .inl hold
          · exact .inr ⟨hclosed, rfl, .inl ⟨rfl, hmain⟩⟩
      | vanished other hmain hclosed =>
          simp only [mirrorsHandled_mirrorDone, List.mem_append, List.mem_singleton,
            Prod.mk.injEq] at hdropped
          rcases hdropped with hold | ⟨rfl, -⟩
          · exact .inl hold
          · exact .inr ⟨hclosed, rfl, .inr hmain⟩
      | sent other order hmain =>
          simp only [mirrorsHandled_mirrorDone, List.mem_append, List.mem_singleton,
            Prod.mk.injEq, Bool.false_eq_true, and_false, or_false] at hdropped
          exact .inl hdropped

/-! ## The invariant -/

private theorem buys_length_le (hstep : s.step e = some s') : s.buys.length ≤ s'.buys.length := by
  cases htask : e.task with
  | none =>
      rcases (step_outside hstep htask).buys with heq | ⟨detected, happend⟩
      · rw [heq]
      · simp [happend]
  | some i =>
      obtain ⟨task, phase, -, hmove⟩ := step_task hstep htask
      rw [hmove.buys, setPhase, List.length_modify]

theorem CountsDispatched.step (hs : s.CountsDispatched) (hstep : s.step e = some s') :
    s'.CountsDispatched := by
  intro mirror hmem
  have hle := buys_length_le hstep
  rw [mirrorsDetected_step hstep, List.mem_append] at hmem
  rcases hmem with hold | hnew
  · exact (hs mirror hold).trans hle
  · cases e with
    | listenerSell sell =>
        cases List.mem_singleton.mp hnew
        exact hle
    | _ => cases hnew

namespace TimingInv

theorem seen_step (hs : s.TimingInv mint n) (hcloses : s.closes mint e = false)
    (hstep : s.step e = some s') {i : Nat} {task : BuyTask p} (hi : n ≤ i)
    (htask : s'.buys[i]? = some task) (hmint : task.detected.mint = mint)
    (hsaw : task.phase.sawPosition = true) : s'.positions.hasPosition mint = true := by
  rcases task_step hstep htask with ⟨-, hspawned⟩ | ⟨before, hbefore, hdetected, -, hsees⟩
  · rw [hspawned] at hsaw
    cases hsaw
  · rw [hdetected] at hmint
    rcases hsees hsaw with hold | hopen
    · exact hasPosition_step hstep hcloses (hs.seen i before hi hbefore hmint hold)
    · exact hmint ▸ hopen

private theorem dropped_gaveUp (hs : s.TimingInv mint n)
    (hallowed : SellsAfterRegistration mint s e)
    {mirror : MirrorSell} (hclosed : s.positions.hasPosition mint = false)
    (hmint : mirror.sell.mint = mint)
    (hat : e = .mirrorCheck ∧ s.main = .gotSell mirror ∨ s.main = .holdsMint mirror)
    {i : Nat} {task : BuyTask p} (hi : n ≤ i) (hlt : i < mirror.dispatched)
    (htask : s.buys[i]? = some task) (hdetected : task.detected.mint = mint) :
    task.phase.gaveUp = true := by
  rcases hat with ⟨rfl, hmain⟩ | hmain
  · rcases task.phase.inFlight_or with hflight | hdone | hgave
    · have hbuy : s.buyInFlight mirror = true := by
        refine List.any_eq_true.mpr ⟨task, ?_, by simp [hmint, hdetected, hflight]⟩
        exact List.mem_of_getElem? (i := i) (by rw [List.getElem?_take, if_pos hlt, htask])
      have hcond := hallowed.2.2
      rw [hmain] at hcond
      rw [hcond hmint hbuy] at hclosed
      cases hclosed
    · rw [hs.seen i task hi htask hdetected (BuyPhase.sawPosition_of_succeeded hdone)] at hclosed
      cases hclosed
    · exact hgave
  · rw [hs.holds mirror hmain hmint (hi.trans_lt hlt)] at hclosed
    cases hclosed

theorem step (hallowed : SellsAfterRegistration mint s e) (hstep : s.step e = some s')
    (hs : s.TimingInv mint n) : s'.TimingInv mint n := by
  refine ⟨hs.counts.step hstep, ?_, ?_, ?_⟩
  · intro i task hi htask hmint hsaw
    exact hs.seen_step hallowed.2.1 hstep hi htask hmint hsaw
  · intro mirror hmain hmint hn
    rcases holds_step hstep hmain with hold | ⟨hopen, hpositions⟩
    · exact hasPosition_step hstep hallowed.2.1 (hs.holds mirror hold hmint hn)
    · rw [hpositions, ← hmint]
      exact hopen
  · intro mirror hmem hmint i task hi hlt htask hdetected
    rcases dropped_step hstep hmem with hold | ⟨hclosed, hbuys, hat⟩
    · have hle := hs.counts mirror (by simp [mirrorsDetected, List.mem_map_of_mem hold])
      rcases task_step hstep htask with ⟨hnone, -⟩ | ⟨before, hbefore, heq, hgave, -⟩
      · rw [List.getElem?_eq_none_iff] at hnone
        omega
      · rw [heq] at hdetected
        exact hgave (hs.dropped mirror hold hmint i before hi hlt hbefore hdetected)
    · rw [hbuys] at htask
      exact hs.dropped_gaveUp hallowed (hmint ▸ hclosed) hmint hat hi hlt htask hdetected

theorem queuesSells (hs : s.TimingInv mint n) : s.QueuesSells mint n := by
  intro mirror queued hmem hmint i task hi hlt htask hdetected hsucceeded
  by_contra hnot
  rw [Bool.not_eq_true] at hnot
  rw [hnot] at hmem
  have hgave := hs.dropped mirror hmem hmint i task hi hlt htask hdetected
  rw [BuyPhase.not_succeeded_of_gaveUp hgave] at hsucceeded
  cases hsucceeded

end TimingInv

theorem CountsDispatched.timingInv (hs : s.CountsDispatched) (mint : Mint) :
    s.TimingInv mint s.buys.length := by
  have hlate {mirror : MirrorSell} {i : Nat} (hmem : mirror ∈ s.mirrorsDetected)
      (hi : s.buys.length ≤ i) : ¬ i < mirror.dispatched := by
    have hle := hs mirror hmem
    omega
  refine ⟨hs, ?_, ?_, ?_⟩
  · intro i task hi htask
    rw [List.getElem?_eq_none hi] at htask
    cases htask
  · intro mirror hmain _ hn
    refine absurd hn (hlate ?_ le_rfl)
    simp [mirrorsDetected, hmain, MainLoop.handling]
  · intro mirror hmem _ i _ hi hlt
    exact absurd hlt (hlate (by simp [mirrorsDetected, List.mem_map_of_mem hmem]) hi)

/-! ## The mirror orders -/

structure OrdersInv (s : Bot p) (orders : List QueuedOrder) : Prop where
  sending : ∀ mirror order, s.main = .sendingOrder mirror order →
    QueuedOrder.Mirrors ⟨order, some mirror.sell.signature⟩ mirror
  queued : List.Forall₂ QueuedOrder.Mirrors orders s.mirrorsQueued

@[simp] private theorem mirrorsQueued_mirrorDone (mirror : MirrorSell) (queued : Bool) :
    (s.mirrorDone mirror queued).mirrorsQueued =
      s.mirrorsQueued ++ if queued then [mirror] else [] := by
  cases queued <;> simp [mirrorsQueued]

theorem OrdersInv.mono {orders : List QueuedOrder} (hs : s.OrdersInv orders)
    (hmain : ∀ mirror order, s'.main = .sendingOrder mirror order →
      QueuedOrder.Mirrors ⟨order, some mirror.sell.signature⟩ mirror)
    (hqueued : s'.mirrorsQueued = s.mirrorsQueued) (horders : s.mirrorOrders e s' = []) :
    s'.OrdersInv (orders ++ s.mirrorOrders e s') := by
  rw [horders, List.append_nil]
  exact ⟨hmain, hqueued ▸ hs.queued⟩

theorem OrdersInv.step {orders : List QueuedOrder} (hs : s.OrdersInv orders)
    (hstep : s.step e = some s') : s'.OrdersInv (orders ++ s.mirrorOrders e s') := by
  cases hmirror : e.onMirror with
  | false =>
      have hsame := mirror_untouched hstep hmirror
      refine hs.mono ?_ ?_ hsame.orders
      · rw [hsame.main]
        exact hs.sending
      · rw [mirrorsQueued, hsame.handled]
        rfl
  | true =>
      have hmove := step_mirror hstep hmirror
      cases hmove with
      | detected sell => exact hs.mono hs.sending rfl (by simp [mirrorOrders])
      | entered _ _ _ _ _ hmain' _ hlog horders =>
          refine hs.mono (by simp [hmain']) ?_ (by simp [mirrorOrders, horders])
          rw [mirrorsQueued, mirrorsHandled, hlog]
          rfl
      | received | found => exact hs.mono (by simp) rfl (by simp [mirrorOrders])
      | loaded mirror h =>
          refine hs.mono ?_ rfl (by simp [mirrorOrders])
          rintro m o ⟨⟩
          exact ⟨rfl, rfl, rfl⟩
      | missed mirror | vanished mirror =>
          refine hs.mono (by simp [mirrorDone]) ?_ (by simp [mirrorOrders, mirrorDone])
          rw [mirrorsQueued_mirrorDone]
          exact List.append_nil _
      | sent mirror order hmain =>
          refine ⟨by simp [mirrorDone], ?_⟩
          rw [mirrorsQueued_mirrorDone]
          have hone : s.mirrorOrders .mirrorSend
              (({ s with
                orders := s.orders ++ [⟨order, some mirror.sell.signature⟩] }
                  : Bot p).mirrorDone mirror true) =
              [⟨order, some mirror.sell.signature⟩] := by
            simp [mirrorOrders, mirrorDone]
          rw [hone]
          exact List.rel_append hs.queued (.cons (hs.sending mirror order hmain) .nil)

end Bot

end Girasol
