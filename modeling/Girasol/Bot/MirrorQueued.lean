import Girasol.Bot.MirrorTiming
import Girasol.Foundation.Fairness

/-!
# Every mirrored sell gets its turn

As long as `mirror_sells` is on the arm is armed whenever the loop waits.  It
then takes the sells out of the channel one by one, in the order in which they
were detected, and none of them is lost on the way.
-/

namespace Girasol

open Foundation

variable {p : Platform}

def MainLoop.turn : MainLoop → Event p
  | .selecting _ => .mirrorRecv
  | .gotSell _ => .mirrorCheck
  | .holdsMint _ => .mirrorLoad
  | .sendingOrder _ _ => .mirrorSend

def MainLoop.turns : MainLoop → Nat
  | .selecting _ => 0
  | .gotSell _ => 3
  | .holdsMint _ => 2
  | .sendingOrder _ _ => 1

namespace Bot

variable {s s' : Bot p} {e : Event p}

/-! ## The arm -/

def Armed (s : Bot p) : Prop :=
  s.settings.val.mirrorSells = true ∧ ∀ armed, s.main = .selecting armed → armed = true

theorem armed_start {settings : ValidSettings p} (hasPayer : Bool) (loaded : Positions)
    (hmirrors : settings.val.mirrorSells = true) : (start settings hasPayer loaded).Armed := by
  refine ⟨hmirrors, ?_⟩
  rintro armed ⟨⟩
  exact hmirrors

theorem settings_step (hstep : s.step e = some s') :
    s'.settings = s.settings ∨ e = .reload s'.settings := by
  cases htask : e.task with
  | none => exact (step_outside hstep htask).settings
  | some i =>
      obtain ⟨task, phase, -, hmove⟩ := step_task hstep htask
      exact .inl hmove.settings

theorem Armed.step (hs : s.Armed) (hkeeps : s.KeepsMirroring e) (hstep : s.step e = some s') :
    s'.Armed := by
  refine ⟨?_, ?_⟩
  · rcases settings_step hstep with heq | rfl
    · rw [heq]
      exact hs.1
    · exact hkeeps
  · intro armed hmain'
    cases hmirror : e.onMirror with
    | false =>
        rw [(mirror_untouched hstep hmirror).main] at hmain'
        exact hs.2 armed hmain'
    | true =>
        have hmove := step_mirror hstep hmirror
        cases hmove with
        | detected => exact hs.2 armed hmain'
        | entered _ _ _ _ _ hentered =>
            rw [hentered] at hmain'
            cases hmain'
            exact hs.1
        | received | found | loaded => cases hmain'
        | missed | vanished | sent =>
            cases hmain'
            exact hs.1

theorem main_of_not_turn (hhand : s.main.handling.isSome = true) (hturn : e ≠ s.main.turn)
    (hstep : s.step e = some s') : s'.main = s.main := by
  cases hmirror : e.onMirror with
  | false => exact (mirror_untouched hstep hmirror).main
  | true =>
      have hmove := step_mirror hstep hmirror
      cases hmove with
      | detected => rfl
      | entered _ _ _ _ hmain | received _ _ hmain =>
          rw [hmain] at hhand
          cases hhand
      | found _ hmain | missed _ hmain | loaded _ _ hmain | vanished _ hmain
      | sent _ _ hmain =>
          rw [hmain] at hturn
          exact absurd rfl hturn

theorem turn_enabled (hhand : s.main.handling.isSome = true)
    (hroom : s.orders.length < channelCapacity) : (s.step s.main.turn).isSome = true := by
  cases hmain : s.main with
  | selecting armed =>
      rw [hmain] at hhand
      cases hhand
  | gotSell mirror =>
      simp only [MainLoop.turn, step, mirrorCheck, hmain]
      split <;> rfl
  | holdsMint mirror =>
      simp only [MainLoop.turn, step, mirrorLoad, hmain]
      split <;> rfl
  | sendingOrder mirror order => simp [MainLoop.turn, step, mirrorSend, hmain, hroom]

theorem turn_step (hhand : s.main.handling.isSome = true)
    (hstep : s.step s.main.turn = some s') :
    s'.mirrorsHandled.length = s.mirrorsHandled.length + 1 ∨
      s'.main.handling.isSome = true ∧ s'.main.turns < s.main.turns := by
  have hmirror : (s.main.turn : Event p).onMirror = true := by cases s.main <;> rfl
  have hmove := step_mirror hstep hmirror
  generalize hturn : (s.main.turn : Event p) = e at hmove
  cases hmove with
  | detected | entered => cases hmain : s.main <;> simp [hmain, MainLoop.turn] at hturn
  | received _ _ hmain =>
      rw [hmain] at hhand
      cases hhand
  | found _ hmain | loaded _ _ hmain =>
      right
      rw [hmain]
      exact ⟨rfl, by simp [MainLoop.turns]⟩
  | missed | vanished | sent =>
      left
      simp [mirrorsHandled, mirrorDone, LogEntry.mirrored]

private theorem mirrorsHandled_grows (hstep : s.step e = some s') :
    s.mirrorsHandled <+: s'.mirrorsHandled := by
  cases hmirror : e.onMirror with
  | false => rw [(mirror_untouched hstep hmirror).handled]
  | true =>
      have hmove := step_mirror hstep hmirror
      cases hmove with
      | detected | received | found | loaded => exact List.prefix_rfl
      | entered _ _ _ _ _ _ _ hlog =>
          rw [mirrorsHandled, mirrorsHandled, hlog]
      | missed | vanished | sent =>
          rw [mirrorsHandled_mirrorDone]
          exact List.prefix_append _ _

/-! ## Fair executions -/

/--
The loop and the executor are scheduled: the arm gets its turns, and the order
channel has room again and again.
-/
structure ServesMirrors (mint : Mint) (x : Execution Bot.step s) : Prop where
  inTime : ∀ n e, x.event n = some e → SellsAfterRegistration mint (x.state n) e
  fair : ∀ main : MainLoop, x.Fair main.turn
  room : ∀ n, ∃ m, n ≤ m ∧ (x.state m).orders.length < channelCapacity

def HandlesMore (x : Execution Bot.step s) (n : Nat) : Prop :=
  ∃ m, n ≤ m ∧ (x.state n).mirrorsHandled.length < (x.state m).mirrorsHandled.length

section

variable {x : Execution Bot.step s} {mint : Mint} {n m : Nat}

private theorem handled_grows (x : Execution Bot.step s) (hle : n ≤ m) :
    (x.state n).mirrorsHandled <+: (x.state m).mirrorsHandled :=
  x.rel_of_step (r := fun s s' => s.mirrorsHandled <+: s'.mirrorsHandled)
    (fun _ => List.prefix_rfl) (fun _ _ _ => List.IsPrefix.trans)
    (fun _ _ _ => mirrorsHandled_grows) hle

theorem detected_grows (x : Execution Bot.step s) (hle : n ≤ m) :
    (x.state n).mirrorsDetected <+: (x.state m).mirrorsDetected :=
  x.rel_of_step (r := fun s s' => s.mirrorsDetected <+: s'.mirrorsDetected)
    (fun _ => List.prefix_rfl) (fun _ _ _ => List.IsPrefix.trans)
    (fun _ _ _ hstep => ⟨_, (mirrorsDetected_step hstep).symm⟩) hle

theorem HandlesMore.of_le (hle : n ≤ m) (h : HandlesMore x m) : HandlesMore x n := by
  obtain ⟨k, hk, hlt⟩ := h
  exact ⟨k, hle.trans hk, (handled_grows x hle).length_le.trans_lt hlt⟩

theorem ServesMirrors.armed (hx : ServesMirrors mint x) (hs : s.Armed) (n : Nat) :
    (x.state n).Armed := by
  obtain ⟨es, hrun⟩ := x.exists_run hx.inTime n
  exact hrun.invariant (fun _ _ _ hallowed hstep hs => hs.step hallowed.1 hstep) hs

theorem ServesMirrors.handles_hand (hx : ServesMirrors mint x) (turns : Nat) :
    ∀ n, (x.state n).main.handling.isSome = true → (x.state n).main.turns ≤ turns →
      HandlesMore x n := by
  induction turns with
  | zero =>
      intro n hhand hturns
      cases hmain : (x.state n).main <;> simp [hmain, MainLoop.handling, MainLoop.turns] at *
  | succ turns ih =>
      intro n hhand hturns
      obtain ⟨m, hnm, hmain, hevent⟩ := x.taken (p := fun s => s.main = (x.state n).main)
        (hx.fair (x.state n).main)
        (fun m e' s' hmain hne hstep => by
          rw [← hmain] at hhand hne ⊢
          exact main_of_not_turn hhand hne hstep)
        (fun hlasts k => by
          obtain ⟨m, hm, hroom⟩ := hx.room (max k n)
          have hmain := hlasts m ((Nat.le_max_right k n).trans hm)
          refine ⟨m, (Nat.le_max_left k n).trans hm, ?_⟩
          rw [← hmain] at hhand ⊢
          exact turn_enabled hhand hroom)
        rfl
      have hnext := x.next_of_event hevent
      rw [← hmain] at hhand hturns hnext
      refine .of_le hnm ?_
      rcases turn_step hhand hnext with hhandled | ⟨hhand', hfewer⟩
      · exact ⟨m + 1, Nat.le_succ m, by omega⟩
      · exact .of_le (Nat.le_succ m) (ih (m + 1) hhand' (by omega))

theorem ServesMirrors.handles_channel (hx : ServesMirrors mint x) (hs : s.Armed)
    {armed : Bool} (hmain : (x.state n).main = .selecting armed)
    (hchannel : (x.state n).mirrorSells ≠ []) : HandlesMore x n := by
  cases (hx.armed hs n).2 armed hmain
  obtain ⟨m, hnm, -, hevent⟩ := x.taken_of_enabled
    (p := fun s => s.main = .selecting true ∧ s.mirrorSells ≠ [])
    (hx.fair (.selecting true))
    (fun m e' s' hm hne hstep => by
      obtain ⟨hmain, hchannel⟩ := hm
      cases hmirror : e'.onMirror with
      | false =>
          have hsame := mirror_untouched hstep hmirror
          exact ⟨hsame.main.trans hmain, hsame.mirrorSells ▸ hchannel⟩
      | true =>
          have hmove := step_mirror hstep hmirror
          cases hmove with
          | detected => exact ⟨hmain, by simp⟩
          | entered _ _ _ _ _ hmain' hsame =>
              rw [(hx.armed hs m).1] at hmain'
              exact ⟨hmain', hsame.mirrorSells ▸ hchannel⟩
          | received => exact absurd rfl hne
          | found _ hbusy | missed _ hbusy | loaded _ _ hbusy | vanished _ hbusy
          | sent _ _ hbusy =>
              rw [hmain] at hbusy
              cases hbusy)
    (fun m hm => by
      obtain ⟨hmain, hchannel⟩ := hm
      obtain ⟨mirror, rest, hcons⟩ := List.exists_cons_of_ne_nil hchannel
      simp [MainLoop.turn, step, mirrorRecv, hmain, hcons])
    ⟨hmain, hchannel⟩
  have hmove := step_mirror (x.next_of_event hevent) rfl
  have hhand : (x.state (m + 1)).main.handling.isSome = true := by
    generalize x.state (m + 1) = s' at hmove
    cases hmove
    rfl
  exact .of_le (hnm.trans (Nat.le_succ m)) (hx.handles_hand _ (m + 1) hhand le_rfl)

theorem ServesMirrors.handles_all (hx : ServesMirrors mint x) (hs : s.Armed) (n : Nat) :
    ∃ m, n ≤ m ∧
      (x.state n).mirrorsDetected <+: (x.state m).mirrorsHandled.map Prod.fst := by
  have hcount (k : Nat) (hk : k ≤ (x.state n).mirrorsDetected.length) :
      ∃ m, n ≤ m ∧ k ≤ (x.state m).mirrorsHandled.length := by
    induction k with
    | zero => exact ⟨n, le_rfl, Nat.zero_le _⟩
    | succ k ih =>
        obtain ⟨m, hnm, hle⟩ := ih (Nat.le_of_succ_le hk)
        by_cases hlt : k < (x.state m).mirrorsHandled.length
        · exact ⟨m, hnm, hlt⟩
        · have hmore : HandlesMore x m := by
            have hlen := hk.trans (detected_grows x hnm).length_le
            cases hhand : (x.state m).main.handling with
            | some mirror => exact hx.handles_hand _ m (by rw [hhand]; rfl) le_rfl
            | none =>
                cases hmain : (x.state m).main with
                | selecting armed =>
                    refine hx.handles_channel hs hmain fun hnil => ?_
                    simp only [mirrorsDetected, hhand, hnil, Option.toList_none,
                      List.append_nil, List.length_map] at hlen
                    exact hlt hlen
                | gotSell | holdsMint | sendingOrder =>
                    rw [hmain] at hhand
                    cases hhand
          obtain ⟨m', hm', hlt'⟩ := hmore
          exact ⟨m', hnm.trans hm', by omega⟩
  obtain ⟨m, hnm, hle⟩ := hcount _ le_rfl
  refine ⟨m, hnm, List.prefix_of_prefix_length_le (detected_grows x hnm) ?_ (by simpa using hle)⟩
  rw [mirrorsDetected, List.append_assoc]
  exact List.prefix_append _ _

end

theorem run_from_start {settings : ValidSettings p} {hasPayer : Bool} {loaded : Positions}
    {before after : List (Event p)} {mint : Mint} {t : Bot p}
    (hbefore : Run Bot.step KeepsMirroring (start settings hasPayer loaded) before s)
    (hafter : Run Bot.step (SellsAfterRegistration mint) s after t) :
    Run Bot.step (fun _ _ => True) (start settings hasPayer loaded) (before ++ after) t :=
  (hbefore.mono fun _ _ _ => trivial).append (hafter.mono fun _ _ _ => trivial)

theorem timingInv_of_run {settings : ValidSettings p} {hasPayer : Bool} {loaded : Positions}
    {before after : List (Event p)} {mint : Mint} {t : Bot p}
    (hbefore : Run Bot.step KeepsMirroring (start settings hasPayer loaded) before s)
    (hafter : Run Bot.step (SellsAfterRegistration mint) s after t) :
    t.TimingInv mint s.buys.length := by
  have hstart : (start settings hasPayer loaded).CountsDispatched := by
    simp [CountsDispatched, mirrorsDetected, mirrorsHandled, start, MainLoop.handling]
  have hs : s.CountsDispatched :=
    hbefore.invariant (fun _ _ _ _ hstep hs => hs.step hstep) hstart
  exact hafter.invariant (fun _ _ _ => TimingInv.step) (hs.timingInv mint)

/--
From a point on, let the arm find the buys of a mint registered and nothing
close its position.  Then every detected sell is in the channel, in hand or
handled, in order; the orders put into the channel are those of the sells that
count as queued, and with a buy dispatched since that succeeds, every sell of
the mint detected after it does.  When the tasks are scheduled, every detected
sell is handled in the end.
-/
theorem mirror_sell_queued (settings : ValidSettings p) (hasPayer : Bool) (loaded : Positions)
    (hmirrors : settings.val.mirrorSells = true) (before : List (Event p)) (s : Bot p)
    (hbefore : Run Bot.step KeepsMirroring (start settings hasPayer loaded) before s)
    (mint : Mint) :
    (∀ after t, Run Bot.step (SellsAfterRegistration mint) s after t →
      t.mirrorsDetected =
          gather Bot.step detectedSell (start settings hasPayer loaded) (before ++ after) ∧
        List.Forall₂ QueuedOrder.Mirrors
          (gather Bot.step mirrorOrders (start settings hasPayer loaded) (before ++ after))
          t.mirrorsQueued ∧
        t.QueuesSells mint s.buys.length) ∧
      ∀ x : Execution Bot.step s, ServesMirrors mint x → ∀ n, ∃ m, n ≤ m ∧
        (x.state n).mirrorsDetected <+: (x.state m).mirrorsHandled.map Prod.fst ∧
          (x.state m).QueuesSells mint s.buys.length := by
  refine ⟨fun after t hafter => ?_, fun x hx n => ?_⟩
  · have hrun := run_from_start hbefore hafter
    refine ⟨?_, ?_, (timingInv_of_run hbefore hafter).queuesSells⟩
    · exact hrun.invariant_gather
        (fun s _ _ shown _ hstep (hs : s.mirrorsDetected = shown) =>
          hs ▸ mirrorsDetected_step hstep) rfl
    · have hstart : (start settings hasPayer loaded).OrdersInv [] := by
        refine ⟨by simp [start], ?_⟩
        simp [mirrorsQueued, mirrorsHandled, start]
      exact (hrun.invariant_gather (fun _ _ _ _ _ hstep hs => hs.step hstep) hstart).queued
  · have hs : s.Armed := hbefore.invariant
      (fun _ _ _ hkeeps hstep hs => hs.step hkeeps hstep) (armed_start hasPayer loaded hmirrors)
    obtain ⟨m, hnm, hall⟩ := hx.handles_all hs n
    obtain ⟨after, hafter⟩ := x.exists_run hx.inTime m
    exact ⟨m, hnm, hall, (timingInv_of_run hbefore hafter).queuesSells⟩

/-! ## A sell in the middle of the buy -/

def empty : Bot .plain := start .plain false ∅

def buyUnderWay : List (Event .plain) :=
  [.detectBuy .plain 0, .buyConfigure 0, .buyAcquire 0, .buyLook 0, .buyCount 0]

def buyThrough : List (Event .plain) :=
  [.buyResult 0 (.bought .plain), .buyRegister 0, .buyPersist 0]

def boughtAndSold : List (Event .plain) := buyUnderWay ++ buyThrough ++ mirrorSell "sig" 50

def soldMeanwhile : List (Event .plain) :=
  buyUnderWay ++ [.listenerSell (.plain "sig" 50), .mirrorRecv, .mirrorCheck] ++ buyThrough

def SellAfterBuy (queued : Bool) (t : Bot .plain) : Prop :=
  ∃ mirror task, t.mirrorsHandled = [(mirror, queued)] ∧ t.buys = [task] ∧
    0 < mirror.dispatched ∧ mirror.sell.mint = DetectedBuy.plain.mint ∧
    task.detected.mint = DetectedBuy.plain.mint ∧ task.phase.succeeded = true

def sellAfterBuy (queued : Bool) (t : Bot .plain) : Bool :=
  match t.mirrorsHandled, t.buys with
  | [(mirror, queued')], [task] => queued' == queued && 0 < mirror.dispatched &&
      mirror.sell.mint == DetectedBuy.plain.mint &&
      task.detected.mint == DetectedBuy.plain.mint && task.phase.succeeded
  | _, _ => false

theorem SellAfterBuy.of_check {queued : Bool} {t : Bot .plain}
    (h : sellAfterBuy queued t = true) : t.SellAfterBuy queued := by
  unfold sellAfterBuy at h
  split at h
  case h_1 mirror queued' task hhandled hbuys =>
    simp only [Bool.and_eq_true, beq_iff_eq, decide_eq_true_eq] at h
    obtain ⟨⟨⟨⟨rfl, hdispatched⟩, hmint⟩, hdetected⟩, hsucceeded⟩ := h
    exact ⟨mirror, task, hhandled, hbuys, hdispatched, hmint, hdetected, hsucceeded⟩
  case h_2 => cases h

private theorem turn_eq_none {t : Bot .plain} (hmain : t.main = .selecting true)
    (hchannel : t.mirrorSells = []) (main : MainLoop) : t.step main.turn = none := by
  cases main <;> simp [MainLoop.turn, step, mirrorRecv, mirrorCheck, mirrorLoad, mirrorSend,
    hmain, hchannel]

theorem mirror_sell_queued_empty :
    ∃ t, Run Bot.step (SellsAfterRegistration DetectedBuy.plain.mint) empty
        boughtAndSold t ∧ t.SellAfterBuy true ∧
      ∃ x : Execution Bot.step empty, ServesMirrors DetectedBuy.plain.mint x ∧
        ∀ n, ∃ m, n ≤ m ∧
          (x.state n).mirrorsDetected <+: (x.state m).mirrorsHandled.map Prod.fst := by
  have hqueued := mirror_sell_queued .plain false ∅ rfl [] empty (.nil _) DetectedBuy.plain.mint
  have hexec : (exec Bot.step (SellsAfterRegistration DetectedBuy.plain.mint) empty
      boughtAndSold).map (fun t =>
        (sellAfterBuy true t || sellAfterBuy false t) && t.main == .selecting true &&
          t.mirrorSells.isEmpty && t.orders.length == 1) = some true := by
    decide +kernel
  obtain ⟨t, hrun, hcheck⟩ := exists_run_of_exec hexec
  simp only [Bool.and_eq_true, beq_iff_eq, List.isEmpty_iff] at hcheck
  obtain ⟨⟨⟨hafter, hmain⟩, hchannel⟩, horders⟩ := hcheck
  have hsell : t.SellAfterBuy true := by
    rcases Bool.or_eq_true_iff.mp hafter with htrue | hfalse
    · exact .of_check htrue
    · obtain ⟨mirror, task, hhandled, hbuys, hdispatched, hmint, hdetected, hsucceeded⟩ :=
        SellAfterBuy.of_check hfalse
      have htrue := (hqueued.1 _ t hrun).2.2 mirror false (by simp [hhandled]) hmint 0 task
        (Nat.zero_le _) hdispatched (by rw [hbuys]; rfl) hdetected hsucceeded
      cases htrue
  obtain ⟨x, hevent, hstate, hallowed, hfair⟩ := hrun.exists_paused
  have hx : ServesMirrors DetectedBuy.plain.mint x := by
    refine ⟨hallowed, fun main => hfair _ (turn_eq_none hmain hchannel main), fun n => ?_⟩
    refine ⟨max n boughtAndSold.length, Nat.le_max_left _ _, ?_⟩
    rw [hstate _ (Nat.le_max_right _ _), horders]
    decide
  refine ⟨t, hrun, hsell, x, hx, fun n => ?_⟩
  obtain ⟨m, hnm, hall, -⟩ := hqueued.2 x hx n
  exact ⟨m, hnm, hall⟩

theorem mirror_sell_dropped :
    ∃ t, Run Bot.step (fun s e => s.KeepsMirroring e ∧ s.closes DetectedBuy.plain.mint e = false)
        empty soldMeanwhile t ∧
      t.SellAfterBuy false ∧ ¬ t.QueuesSells DetectedBuy.plain.mint 0 := by
  have hexec : (exec Bot.step
      (fun s e => s.KeepsMirroring e ∧ s.closes DetectedBuy.plain.mint e = false) empty
      soldMeanwhile).map (sellAfterBuy false) = some true := by
    decide +kernel
  obtain ⟨t, hrun, hcheck⟩ := exists_run_of_exec hexec
  have hsell : t.SellAfterBuy false := .of_check hcheck
  refine ⟨t, hrun, hsell, fun hqueues => ?_⟩
  obtain ⟨mirror, task, hhandled, hbuys, hdispatched, hmint, hdetected, hsucceeded⟩ := hsell
  have hqueued := hqueues mirror false (by simp [hhandled]) hmint 0 task le_rfl hdispatched
    (by rw [hbuys]; rfl) hdetected hsucceeded
  cases hqueued

end Bot

end Girasol
