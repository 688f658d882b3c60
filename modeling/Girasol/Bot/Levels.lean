import Girasol.Bot.History
import Girasol.Foundation.Runs

/-!
# At most one executed order for each level

The flag `pending_sell` keeps the monitor from ordering twice for a position.
It works as long as nothing but the monitor's own order clears it: an executed
order marks its level before the monitor looks at the position again.
-/

namespace Girasol

open Foundation

variable {p : Platform}

def SellOrder.fromMonitor (o : SellOrder) : Bool :=
  match o.reason with
  | .mirrorSell => false
  | .takeProfit _ | .stopLoss _ | .trailingStop _ | .rugDetected _ => true

theorem SellOrder.level_of_not_fromMonitor {o : SellOrder} (h : o.fromMonitor = false) :
    o.level = none := by
  unfold fromMonitor at h
  unfold level
  split at h
  case h_1 hreason => rw [hreason]
  all_goals cases h

/-! ## The monitor inside a tick -/

structure Monitor.OneAtATime (mon : Monitor p) : Prop where
  unsent_le : mon.unsent.length ≤ 1
  nodup : (mon.watched.map Prod.fst).Nodup
  unsent_fresh : ∀ o ∈ mon.unsent, o.mint ∉ mon.watched.map Prod.fst
  marks_fresh : ∀ mint, mon.marks = some mint →
    mint ∉ mon.watched.map Prod.fst ∧ mon.unsent = []

namespace Monitor.OneAtATime

theorem of_views {mon : Monitor p} (hnodup : (mon.watched.map Prod.fst).Nodup)
    (hunsent : mon.unsent = []) (hmarks : mon.marks = none) : mon.OneAtATime :=
  ⟨by simp [hunsent], hnodup, by simp [hunsent], by simp [hmarks]⟩

theorem atRest {mon : Monitor p} (h : mon.atRest) : mon.OneAtATime := by
  obtain ⟨hwatched, hunsent, hmarks⟩ := Monitor.views_atRest h
  exact of_views (by simp [hwatched]) hunsent hmarks

theorem evaluates {s s' : Bot p} {mint : Mint} {h : Holding}
    {rest : List (Mint × Holding)} (hone : s.monitor.OneAtATime)
    (heval : Bot.Evaluates s s' mint h rest) : s'.monitor.OneAtATime := by
  have hnodup := hone.nodup
  rw [heval.entry, List.map_cons, List.nodup_cons] at hnodup
  rcases heval.result with ⟨hwatched, hunsent⟩ | ⟨hwatched, hle, hbuilt⟩
  · refine of_views ?_ hunsent heval.marks.2
    rw [hwatched, ← heval.entry]
    exact hone.nodup
  · refine ⟨hle, by rw [hwatched]; exact hnodup.2, ?_, by simp [heval.marks.2]⟩
    intro o ho
    rw [hwatched, (hbuilt o ho).mint_eq]
    exact hnodup.1

theorem sent {cfg : ValidSettings p} {order : SellOrder} {later : List SellOrder}
    {rest : List (Mint × Holding)}
    (hone : (Monitor.sending cfg order later rest).OneAtATime) :
    (Monitor.marking cfg order.mint later rest).OneAtATime ∧ later = [] := by
  have hlater : later = [] := by
    have hle := hone.unsent_le
    simp only [Monitor.unsent, List.length_cons] at hle
    exact List.eq_nil_of_length_eq_zero (by omega)
  subst hlater
  refine ⟨⟨by simp [Monitor.unsent], hone.nodup, by simp [Monitor.unsent], ?_⟩, rfl⟩
  rintro mint ⟨⟩
  exact ⟨hone.unsent_fresh order List.mem_cons_self, rfl⟩

theorem marked {cfg : ValidSettings p} {mint : Mint} {later : List SellOrder}
    {rest : List (Mint × Holding)}
    (hone : (Monitor.marking cfg mint later rest).OneAtATime) :
    (Monitor.emit cfg rest later).OneAtATime ∧ later = [] := by
  have hlater : later = [] := (hone.marks_fresh mint rfl).2
  subst hlater
  refine ⟨of_views ?_ (by simp) (by simp), rfl⟩
  rw [Monitor.watched_emit]
  exact hone.nodup

end Monitor.OneAtATime

namespace Bot

/-! ## The invariant -/

def monitorOrders (s : Bot p) (mint : Mint) : List QueuedOrder :=
  (s.executor.held ++ s.orders).filter fun queued =>
    queued.order.mint == mint && queued.order.fromMonitor

@[simp] theorem mem_monitorOrders {s : Bot p} {mint : Mint} {queued : QueuedOrder} :
    queued ∈ s.monitorOrders mint ↔
      (queued ∈ s.executor.held ∨ queued ∈ s.orders) ∧ queued.order.mint = mint ∧
        queued.order.fromMonitor = true := by
  simp [monitorOrders, or_and_right]

structure LevelsInv (mint : Mint) (s : Bot p) : Prop where
  one : s.monitor.OneAtATime
  main : ∀ o ∈ s.main.unsent, o.fromMonitor = false
  queue_le : (s.monitorOrders mint).length ≤ 1
  flagged : s.monitorOrders mint ≠ [] → ∀ h, s.positions.lookup mint = some h →
    h.pendingSell = true ∨ s.monitor.marks = some mint
  watched : ∀ h, (mint, h) ∈ s.monitor.watched → s.monitorOrders mint = [] ∧
    ∀ l, levelBooked mint l s.log ≠ 0 → h.marked l
  unsent : ∀ o ∈ s.monitor.unsent, o.mint = mint → s.monitorOrders mint = [] ∧
    ∀ l, o.level = some l → levelBooked mint l s.log = 0
  marked : ∀ l, levelBooked mint l s.log ≠ 0 → ∀ h, s.positions.lookup mint = some h →
    h.marked l
  queued : ∀ queued ∈ s.monitorOrders mint, ∀ l, queued.order.level = some l →
    levelBooked mint l s.log = 0
  booked_le : ∀ l, levelBooked mint l s.log ≤ 1
  calls : ∀ l, levelCalls mint l s.log =
    levelBooked mint l s.log + levelFailed mint l s.log + s.executor.runs mint l

/--
A step that adds no order, no snapshot and no booking preserves the invariant,
when what it does to the flag is accounted for.
-/
theorem LevelsInv.shrink {mint : Mint} {s s' : Bot p} (hs : s.LevelsInv mint)
    (hone : s'.monitor.OneAtATime) (hmain : ∀ o ∈ s'.main.unsent, o.fromMonitor = false)
    (horders : (s'.monitorOrders mint).Sublist (s.monitorOrders mint))
    (hflagged : s.monitorOrders mint ≠ [] → ∀ h', s'.positions.lookup mint = some h' →
      h'.pendingSell = true ∨ s'.monitor.marks = some mint)
    (hmarked : ∀ h', s'.positions.lookup mint = some h' →
      ∃ h, s.positions.lookup mint = some h ∧ ∀ l, h'.marked l ↔ h.marked l)
    (hwatched : ∀ h, (mint, h) ∈ s'.monitor.watched → (mint, h) ∈ s.monitor.watched)
    (hunsent : ∀ o ∈ s'.monitor.unsent, o.mint = mint → o ∈ s.monitor.unsent)
    (hruns : ∀ l, s'.executor.runs mint l = s.executor.runs mint l)
    (hcounts : SameCounts mint s.log s'.log) : s'.LevelsInv mint := by
  have hnil (h : s.monitorOrders mint = []) : s'.monitorOrders mint = [] := by
    rw [h] at horders
    exact List.sublist_nil.mp horders
  refine
    { one := hone
      main := hmain
      queue_le := horders.length_le.trans hs.queue_le
      flagged := fun hne => hflagged fun heq => hne (hnil heq)
      watched := ?_
      unsent := ?_
      marked := ?_
      queued := ?_
      booked_le := ?_
      calls := ?_ }
  · intro h hmem
    obtain ⟨hempty, hbooked⟩ := hs.watched h (hwatched h hmem)
    exact ⟨hnil hempty, fun l hl => hbooked l ((hcounts l).2.1 ▸ hl)⟩
  · intro o ho hmint
    obtain ⟨hempty, hbooked⟩ := hs.unsent o (hunsent o ho hmint) hmint
    exact ⟨hnil hempty, fun l hl => (hcounts l).2.1.trans (hbooked l hl)⟩
  · intro l hl h' hopen'
    obtain ⟨h, hopen, hsame⟩ := hmarked h' hopen'
    exact (hsame l).mpr (hs.marked l ((hcounts l).2.1 ▸ hl) h hopen)
  · intro queued hmem l hl
    exact (hcounts l).2.1.trans (hs.queued queued (horders.subset hmem) l hl)
  · intro l
    rw [(hcounts l).2.1]
    exact hs.booked_le l
  · intro l
    rw [(hcounts l).1, (hcounts l).2.1, (hcounts l).2.2, hruns l]
    exact hs.calls l

theorem LevelsInv.mono {mint : Mint} {s s' : Bot p} (hs : s.LevelsInv mint)
    (hone : s'.monitor.OneAtATime) (hmain : ∀ o ∈ s'.main.unsent, o.fromMonitor = false)
    (horders : (s'.monitorOrders mint).Sublist (s.monitorOrders mint))
    (hkeeps : ∀ h', s'.positions.lookup mint = some h' →
      ∃ h, s.positions.lookup mint = some h ∧ h.SameTrade h')
    (hwatched : ∀ h, (mint, h) ∈ s'.monitor.watched → (mint, h) ∈ s.monitor.watched)
    (hunsent : ∀ o ∈ s'.monitor.unsent, o.mint = mint → o ∈ s.monitor.unsent)
    (hmarks : s.monitor.marks = some mint → s'.monitor.marks = some mint)
    (hruns : ∀ l, s'.executor.runs mint l = s.executor.runs mint l)
    (hcounts : SameCounts mint s.log s'.log) : s'.LevelsInv mint := by
  refine hs.shrink hone hmain horders ?_ ?_ hwatched hunsent hruns hcounts
  · intro hne h' hopen'
    obtain ⟨h, hopen, htrade⟩ := hkeeps h' hopen'
    rw [htrade.pendingSell]
    exact (hs.flagged hne h hopen).imp id hmarks
  · intro h' hopen'
    obtain ⟨h, hopen, htrade⟩ := hkeeps h' hopen'
    exact ⟨h, hopen, htrade.marked⟩

/-! ## The condition -/

/--
Nothing takes the flag away under an order of the monitor: a buy of the mint
opens a position only when no earlier order is left, and never accumulates; and
a mirror order that leaves the position open does not finish while an order of
the monitor waits with its flag set.
-/
def KeepsFlag (mint : Mint) (s : Bot p) : Event p → Prop
  | .buyRegister task =>
      match s.buys[task]? with
      | some ⟨detected, .registering true _⟩ => detected.mint ≠ mint
      | some ⟨detected, .registering false _⟩ =>
          detected.mint = mint → s.monitorOrders mint = []
      | _ => True
  | .execFinish outcome =>
      match s.executor with
      | .selling queued =>
          queued.order.mint = mint → queued.order.fromMonitor = false →
            (∃ h ∈ (s.positions.lookup mint).toList,
              outcome = .failed ∨ outcome = .executed ∧ queued.order.amount < h.amount) →
            s.monitorOrders mint = [] ∨ s.monitor.marks = some mint
      | _ => True
  | _ => True

instance (mint : Mint) (s : Bot p) (e : Event p) : Decidable (KeepsFlag mint s e) := by
  unfold KeepsFlag
  repeat' split
  all_goals infer_instance

/-! ## Steps -/

theorem monitorOrders_congr {s s' : Bot p} (mint : Mint)
    (hexec : s'.executor.held = s.executor.held) (horders : s'.orders = s.orders) :
    s'.monitorOrders mint = s.monitorOrders mint := by
  rw [monitorOrders, monitorOrders, hexec, horders]

namespace LevelsInv

variable {mint : Mint} {s s' : Bot p}

theorem quiet (hs : s.LevelsInv mint) (hquiet : s.Quiet s') : s'.LevelsInv mint := by
  have hmon : s'.monitor.OneAtATime ∧ s'.monitor.watched = s.monitor.watched ∧
      s'.monitor.unsent = s.monitor.unsent ∧ s'.monitor.marks = s.monitor.marks := by
    rcases hquiet.monitor with heq | ⟨hrest, hrest'⟩
    · rw [heq]
      exact ⟨hs.one, rfl, rfl, rfl⟩
    · obtain ⟨hw, hu, hm⟩ := Monitor.views_atRest hrest
      obtain ⟨hw', hu', hm'⟩ := Monitor.views_atRest hrest'
      exact ⟨.atRest hrest', hw'.trans hw.symm, hu'.trans hu.symm, hm'.trans hm.symm⟩
  obtain ⟨hone, hwatched, hunsent, hmarks⟩ := hmon
  refine hs.mono hone (hquiet.main_unsent ▸ hs.main) ?_ (hquiet.positions mint) ?_ ?_ ?_ ?_
    (hquiet.sameCounts mint)
  · rw [monitorOrders_congr mint (by rw [hquiet.executor]) hquiet.orders]
  · rw [hwatched]
    exact fun _ => id
  · rw [hunsent]
    exact fun _ ho _ => ho
  · rw [hmarks]
    exact id
  · rw [hquiet.executor]
    exact fun _ => rfl

theorem mirrorLoad (hs : s.LevelsInv mint) (hstep : s.mirrorLoad = some s') :
    s'.LevelsInv mint := by
  obtain ⟨mirror, hmain, ⟨h, hopen, rfl⟩ | ⟨hclosed, rfl⟩⟩ := mirrorLoad_inv hstep
  · refine hs.mono hs.one ?_ (.refl _) (Positions.KeepsTrade.refl _ mint) (fun _ => id)
      (fun _ ho _ => ho) id (fun _ => rfl) (.refl _ _)
    intro o ho
    cases List.mem_singleton.mp ho
    rfl
  · exact hs.mono hs.one (by simp [mirrorDone, MainLoop.unsent]) (.refl _)
      (Positions.KeepsTrade.refl _ mint) (fun _ => id) (fun _ ho _ => ho) id
      (fun _ => rfl)
      (.cons (by simp) (fun _ => ⟨rfl, rfl, rfl⟩) s.log)

theorem mirrorSend (hs : s.LevelsInv mint) (hstep : s.mirrorSend = some s') :
    s'.LevelsInv mint := by
  obtain ⟨mirror, order, hmain, rfl⟩ := mirrorSend_inv hstep
  have hmirror : order.fromMonitor = false :=
    hs.main order (by rw [hmain]; exact List.mem_cons_self)
  refine hs.mono hs.one (by simp [mirrorDone, MainLoop.unsent]) ?_
    (Positions.KeepsTrade.refl _ mint) (fun _ => id) (fun _ ho _ => ho) id (fun _ => rfl)
    (.cons (by simp) (fun _ => ⟨rfl, rfl, rfl⟩) s.log)
  simp [monitorOrders, mirrorDone, hmirror]

theorem tickStart {order : List Mint} (hs : s.LevelsInv mint)
    (hstep : s.tickStart order = some s') : s'.LevelsInv mint := by
  obtain ⟨hidle, hperm, rfl⟩ := tickStart_inv hstep
  have hsub := List.filter_sublist (p := fun x : Mint × Holding =>
    !x.2.migrated && !x.2.pendingSell) (l := s.positions.snapshot order)
  refine { hs with
    one := .of_views ?_ (Monitor.unsent_proceed _ _) (Monitor.marks_proceed _ _)
    flagged := ?_
    watched := ?_
    unsent := ?_ }
  · rw [Monitor.watched_proceed]
    exact (Positions.snapshot_nodup hperm).sublist (hsub.map Prod.fst)
  · intro hne h hopen
    rcases hs.flagged hne h hopen with hpending | hmarks
    · exact .inl hpending
    · simp [hidle, Monitor.marks] at hmarks
  · intro h hmem
    rw [Monitor.watched_proceed] at hmem
    obtain ⟨hsnap, hskip⟩ := List.mem_filter.mp hmem
    have hopen := Positions.mem_snapshot hsnap
    refine ⟨?_, fun l hl => hs.marked l hl h hopen⟩
    by_contra hne
    rcases hs.flagged hne h hopen with hpending | hmarks
    · simp [hpending] at hskip
    · simp [hidle, Monitor.marks] at hmarks
  · intro o ho
    rw [Monitor.unsent_proceed] at ho
    cases ho

theorem evaluates {m : Mint} {h : Holding} {rest : List (Mint × Holding)}
    (hs : s.LevelsInv mint) (heval : Evaluates s s' m h rest) : s'.LevelsInv mint := by
  have horders := monitorOrders_congr (s := s) mint (by rw [heval.executor]) heval.orders
  have hwatched : ∀ x ∈ s'.monitor.watched, x ∈ s.monitor.watched := by
    rw [heval.entry]
    rcases heval.result with ⟨hw, -⟩ | ⟨hw, -⟩
    · rw [hw]
      exact fun x => id
    · rw [hw]
      exact fun x => List.mem_cons_of_mem _
  refine
    { one := hs.one.evaluates heval
      main := by rw [heval.main]; exact hs.main
      queue_le := by rw [horders]; exact hs.queue_le
      flagged := ?_
      watched := ?_
      unsent := ?_
      marked := ?_
      queued := by rw [horders, heval.log]; exact hs.queued
      booked_le := by rw [heval.log]; exact hs.booked_le
      calls := by rw [heval.log, heval.executor]; exact hs.calls }
  · rw [horders]
    intro hne h' hopen'
    obtain ⟨h₀, hopen, htrade⟩ := heval.positions mint h' hopen'
    rcases hs.flagged hne h₀ hopen with hpending | hmarks
    · exact .inl (htrade.pendingSell.trans hpending)
    · simp [heval.marks.1] at hmarks
  · rw [horders, heval.log]
    exact fun h' hmem => hs.watched h' (hwatched _ hmem)
  · intro o ho hmint
    rw [horders, heval.log]
    rcases heval.result with ⟨-, hnone⟩ | ⟨-, -, hbuilt⟩
    · simp [hnone] at ho
    · have hb := hbuilt o ho
      have hm : m = mint := hb.mint_eq.symm.trans hmint
      obtain ⟨hempty, hbooked⟩ := hs.watched h (by
        rw [heval.entry, hm]
        exact List.mem_cons_self)
      refine ⟨hempty, fun l hl => ?_⟩
      by_contra hne
      exact hb.unmarked l hl (hbooked l hne)
  · rw [heval.log]
    intro l hl h' hopen'
    obtain ⟨h₀, hopen, htrade⟩ := heval.positions mint h' hopen'
    exact (htrade.marked l).mpr (hs.marked l hl h₀ hopen)

theorem tickSend (hs : s.LevelsInv mint) (hstep : s.tickSend = some s') :
    s'.LevelsInv mint := by
  obtain ⟨cfg, order, later, rest, hmon, rfl⟩ := tickSend_inv hstep
  have hone : (Monitor.sending cfg order later rest).OneAtATime := hmon ▸ hs.one
  obtain ⟨hone', hlater⟩ := hone.sent
  have hself : order ∈ s.monitor.unsent := by
    rw [hmon]
    exact List.mem_cons_self
  by_cases hours : order.mint = mint ∧ order.fromMonitor = true
  · obtain ⟨hempty, hbooked⟩ := hs.unsent order hself hours.1
    have hsent : ({ s with
        orders := s.orders ++ [⟨order, none⟩]
        monitor := .marking cfg order.mint later rest } : Bot p).monitorOrders mint =
        [⟨order, none⟩] := by
      have happend : ∀ held : List QueuedOrder, held ++ (s.orders ++ [⟨order, none⟩]) =
          (held ++ s.orders) ++ [⟨order, none⟩] := by simp
      simp only [monitorOrders] at hempty ⊢
      rw [happend, List.filter_append, hempty]
      simp [hours]
    refine
      { one := hone'
        main := hs.main
        queue_le := by rw [hsent]; exact le_refl _
        flagged := fun _ _ _ => .inr (by rw [← hours.1]; rfl)
        watched := ?_
        unsent := by simp [Monitor.unsent, hlater]
        marked := hs.marked
        queued := ?_
        booked_le := hs.booked_le
        calls := hs.calls }
    · intro h hmem
      have hfresh := hone.unsent_fresh order List.mem_cons_self
      rw [hours.1] at hfresh
      exact absurd (List.mem_map_of_mem hmem) hfresh
    · rw [hsent]
      intro queued hmem l hl
      cases List.mem_singleton.mp hmem
      exact hbooked l hl
  · have hsame : ({ s with
        orders := s.orders ++ [⟨order, none⟩]
        monitor := .marking cfg order.mint later rest } : Bot p).monitorOrders mint =
        s.monitorOrders mint := by
      have hfalse : (order.mint == mint && order.fromMonitor) = false := by
        simpa using hours
      simp [monitorOrders, hfalse]
    refine hs.mono hone' hs.main (by rw [hsame]) (Positions.KeepsTrade.refl _ mint)
      ?_ ?_ ?_ (fun _ => rfl) (.refl _ _)
    · rw [hmon]
      exact fun _ => id
    · simp [Monitor.unsent, hlater]
    · simp [hmon, Monitor.marks]

theorem tickMark (hs : s.LevelsInv mint) (hstep : s.tickMark = some s') :
    s'.LevelsInv mint := by
  obtain ⟨cfg, m, later, rest, hmon, rfl⟩ := tickMark_inv hstep
  have hone : (Monitor.marking cfg m later rest).OneAtATime := hmon ▸ hs.one
  obtain ⟨hone', hlater⟩ := hone.marked
  have hback : ∀ h', (s.positions.setPendingSell m).lookup mint = some h' →
      ∃ h, s.positions.lookup mint = some h ∧ (∀ l, h'.marked l ↔ h.marked l) ∧
        (h'.pendingSell = true ∨ h'.pendingSell = h.pendingSell ∧ m ≠ mint) := by
    intro h' hopen'
    simp only [Positions.setPendingSell, Store.lookup_update] at hopen'
    split at hopen'
    case isTrue =>
      obtain ⟨h, hopen, heq⟩ := Option.bind_eq_some_iff.mp hopen'
      cases heq
      exact ⟨h, hopen, fun l => by cases l <;> rfl, .inl rfl⟩
    case isFalse hne => exact ⟨h', hopen', fun _ => .rfl, .inr ⟨rfl, Ne.symm hne⟩⟩
  refine hs.shrink hone' hs.main (.refl _) ?_ ?_ ?_ (by simp [Monitor.unsent_emit, hlater])
    (fun _ => rfl) (.refl _ _)
  · intro hne h' hopen'
    obtain ⟨h, hopen, -, hflag | ⟨hflag, hm⟩⟩ := hback h' hopen'
    · exact .inl hflag
    · rcases hs.flagged hne h hopen with hpending | hmarks
      · exact .inl (hflag.trans hpending)
      · rw [hmon] at hmarks
        exact absurd (Option.some.inj hmarks) hm
  · intro h' hopen'
    obtain ⟨h, hopen, hmarked, -⟩ := hback h' hopen'
    exact ⟨h, hopen, hmarked⟩
  · intro h hmem
    rw [Monitor.watched_emit] at hmem
    rw [hmon]
    exact hmem

theorem execRecv (hs : s.LevelsInv mint) (hstep : s.execRecv = some s') :
    s'.LevelsInv mint := by
  obtain ⟨queued, rest, hidle, horders, rfl⟩ := execRecv_inv hstep
  refine hs.mono hs.one hs.main ?_ (Positions.KeepsTrade.refl _ mint) (fun _ => id)
    (fun _ ho _ => ho) id ?_ (.refl _ _)
  · simp [monitorOrders, hidle, horders, Executor.held]
  · simp [hidle, Executor.runs]

theorem execCheck (hs : s.LevelsInv mint) (hstep : s.execCheck = some s') :
    s'.LevelsInv mint := by
  obtain ⟨queued, hexec, ⟨-, rfl⟩ | ⟨-, rfl⟩⟩ := execCheck_inv hstep
  · have hsame : ({ s with
        executor := .selling queued
        log := .started queued :: s.log } : Bot p).monitorOrders mint =
        s.monitorOrders mint :=
      monitorOrders_congr mint (by rw [hexec]; rfl) rfl
    have hcounts := fun l => levelCounts_started mint l queued s.log
    refine { hs with
      queue_le := by rw [hsame]; exact hs.queue_le
      flagged := by rw [hsame]; exact hs.flagged
      watched := ?_
      unsent := ?_
      marked := ?_
      queued := ?_
      booked_le := ?_
      calls := ?_ }
    · rw [hsame]
      intro h hmem
      simp only [(hcounts _).2.1]
      exact hs.watched h hmem
    · rw [hsame]
      intro o ho hmint
      simp only [(hcounts _).2.1]
      exact hs.unsent o ho hmint
    · intro l
      simp only [(hcounts l).2.1]
      exact hs.marked l
    · rw [hsame]
      intro q hq l
      simp only [(hcounts l).2.1]
      exact hs.queued q hq l
    · intro l
      simp only [(hcounts l).2.1]
      exact hs.booked_le l
    · intro l
      obtain ⟨hcalls, hbooked, hfailed⟩ := hcounts l
      have hbefore := hs.calls l
      simp only [hcalls, hbooked, hfailed, hexec, Executor.runs] at hbefore ⊢
      omega
  · refine hs.mono hs.one hs.main ?_ (Positions.KeepsTrade.refl _ mint) (fun _ => id)
      (fun _ ho _ => ho) id ?_ (.refl _ _)
    · simp only [monitorOrders, hexec, Executor.held, List.nil_append]
      exact (List.sublist_append_right _ _).filter _
    · simp [hexec, Executor.runs]

theorem exists_of_runs {l : Level} (hruns : s.executor.runs mint l ≠ 0) :
    ∃ queued ∈ s.monitorOrders mint, queued.order.level = some l ∧
      s.executor.runs mint l = 1 := by
  cases hexec : s.executor with
  | idle => simp [hexec, Executor.runs] at hruns
  | checking queued => simp [hexec, Executor.runs] at hruns
  | selling queued =>
      rw [hexec] at hruns
      obtain ⟨hmint, hlevel, hone⟩ := Executor.runs_eq_one hruns
      have hmon : queued.order.fromMonitor = true := by
        by_contra hnot
        rw [SellOrder.level_of_not_fromMonitor (by simpa using hnot)] at hlevel
        cases hlevel
      exact ⟨queued, mem_monitorOrders.mpr
        ⟨.inl (by rw [hexec]; exact List.mem_cons_self), hmint, hmon⟩, hlevel, hone⟩

private theorem runs_eq_zero (hempty : s.monitorOrders mint = []) (l : Level) :
    s.executor.runs mint l = 0 := by
  by_contra hne
  obtain ⟨queued, hmem, -⟩ := exists_of_runs hne
  rw [hempty] at hmem
  cases hmem

private theorem buyRegister {task : Nat} (hs : s.LevelsInv mint)
    (hallowed : KeepsFlag mint s (.buyRegister task))
    (hstep : s.buyRegister task = some s') : s'.LevelsInv mint := by
  obtain ⟨detected, result, ⟨hbuy, rfl⟩ | ⟨hbuy, rfl⟩⟩ := buyRegister_inv hstep
  · simp only [KeepsFlag, hbuy] at hallowed
    refine hs.mono hs.one hs.main (.refl _) ?_ (fun _ => id) (fun _ ho _ => ho) id
      (fun _ => rfl) (.cons (by simp) (fun _ => ⟨rfl, rfl, rfl⟩) s.log)
    intro h' hopen'
    simp only [Positions.accumulatePosition, Store.lookup_update,
      if_neg (Ne.symm hallowed)] at hopen'
    exact ⟨h', hopen', ⟨rfl, rfl, rfl, rfl⟩⟩
  · simp only [KeepsFlag, hbuy] at hallowed
    by_cases hm : detected.mint = mint
    · have hempty := hallowed hm
      have hcounts := fun l => levelCounts_opened detected.mint l s.log
      rw [hm] at hcounts
      have hlog : (LogEntry.opened detected.mint :: s.log) = .opened mint :: s.log := by
        rw [hm]
      refine
        { one := hs.one
          main := hs.main
          queue_le := hs.queue_le
          flagged := fun hne => absurd hempty hne
          watched := ?_
          unsent := ?_
          marked := ?_
          queued := ?_
          booked_le := ?_
          calls := ?_ }
      · intro h _
        exact ⟨hempty, fun l hl => absurd (hlog ▸ (hcounts l).2.1) hl⟩
      · intro o _ _
        exact ⟨hempty, fun l _ => hlog ▸ (hcounts l).2.1⟩
      · intro l hl
        exact absurd (hlog ▸ (hcounts l).2.1) hl
      · intro q _ l _
        exact hlog ▸ (hcounts l).2.1
      · intro l
        have hzero : levelBooked mint l (.opened detected.mint :: s.log) = 0 :=
          hlog ▸ (hcounts l).2.1
        simp only [hzero, zero_le]
      · intro l
        obtain ⟨hcalls, hbooked, hfailed⟩ := hcounts l
        have hruns : (s.setPhase task .persisting).executor.runs mint l = 0 :=
          runs_eq_zero hempty l
        simp only [hlog, hcalls, hbooked, hfailed, hruns]
    · refine hs.mono hs.one hs.main (.refl _) ?_ (fun _ => id) (fun _ ho _ => ho) id
        (fun _ => rfl) (.cons (by simpa using hm) (fun _ => ⟨rfl, rfl, rfl⟩) s.log)
      intro h' hopen'
      simp only [Positions.addPosition, Store.lookup_insert_eq, if_neg (Ne.symm hm)]
        at hopen'
      exact ⟨h', hopen', ⟨rfl, rfl, rfl, rfl⟩⟩

private theorem execFinish_own {queued : QueuedOrder} {outcome : SellOutcome}
    (hs : s.LevelsInv mint) (hexec : s.executor = .selling queued)
    (hmint : queued.order.mint = mint) (hmon : queued.order.fromMonitor = true)
    (hstep : s.execFinish outcome = some s') : s'.LevelsInv mint := by
  obtain ⟨queued', hexec', rfl⟩ := execFinish_inv hstep
  cases hexec.symm.trans hexec'
  have hmem : queued ∈ s.monitorOrders mint :=
    mem_monitorOrders.mpr ⟨.inl (by rw [hexec]; exact List.mem_cons_self), hmint, hmon⟩
  have hbusy : s.monitorOrders mint ≠ [] := List.ne_nil_of_mem hmem
  have hrest : s.orders.filter (fun queued =>
      queued.order.mint == mint && queued.order.fromMonitor) = [] := by
    have hle := hs.queue_le
    simp only [monitorOrders, hexec, Executor.held, List.singleton_append,
      List.filter_cons, hmint, hmon, beq_self_eq_true, Bool.and_self, if_true,
      List.length_cons] at hle
    exact List.eq_nil_of_length_eq_zero (by omega)
  have hcounts := fun l => levelCounts_finished mint l queued outcome s.log
  refine
    { one := hs.one
      main := hs.main
      queue_le := by simp [monitorOrders, Executor.held, hrest]
      flagged := fun hne => absurd (by simp [monitorOrders, Executor.held, hrest]) hne
      watched := fun h hw => absurd (hs.watched h hw).1 hbusy
      unsent := fun o ho hm => absurd (hs.unsent o ho hm).1 hbusy
      marked := ?_
      queued := by simp [monitorOrders, Executor.held, hrest]
      booked_le := ?_
      calls := ?_ }
  · intro l hl h' hopen'
    rw [(hcounts l).2.1] at hl
    rw [← hmint] at hopen'
    obtain ⟨h, hopen, hmarked, -, -⟩ := Positions.lookup_settle hopen'
    rw [hmint] at hopen
    rw [hmarked l]
    by_cases hold : levelBooked mint l s.log = 0
    · rw [hold, zero_add] at hl
      split at hl
      case isTrue hout => exact .inr ⟨hout, (Executor.runs_eq_one hl).2.1⟩
      case isFalse => exact absurd rfl hl
    · exact .inl (hs.marked l hold h hopen)
  · intro l
    rw [(hcounts l).2.1]
    split
    case isFalse => exact hs.booked_le l
    case isTrue =>
      by_cases hrun : (Executor.selling queued).runs mint l = 0
      · rw [hrun]
        exact hs.booked_le l
      · obtain ⟨-, hlevel, hone⟩ := Executor.runs_eq_one hrun
        rw [hs.queued queued hmem l hlevel, hone]
  · intro l
    have hbefore := hs.calls l
    rw [hexec] at hbefore
    simp only [(hcounts l).1, (hcounts l).2.1, (hcounts l).2.2, Executor.runs] at hbefore ⊢
    split <;> omega

private theorem execFinish_other {queued : QueuedOrder} {outcome : SellOutcome}
    (hs : s.LevelsInv mint) (hallowed : KeepsFlag mint s (.execFinish outcome))
    (hexec : s.executor = .selling queued)
    (hother : queued.order.mint ≠ mint ∨ queued.order.fromMonitor = false)
    (hstep : s.execFinish outcome = some s') : s'.LevelsInv mint := by
  obtain ⟨queued', hexec', rfl⟩ := execFinish_inv hstep
  cases hexec.symm.trans hexec'
  have hruns : ∀ l, (Executor.selling queued).runs mint l = 0 := by
    intro l
    rcases hother with hne | hmirror
    · exact Executor.runs_of_mint_ne hne l
    · exact Executor.runs_of_level_none (SellOrder.level_of_not_fromMonitor hmirror) l
  have hsame : (s.orders.filter fun queued =>
      queued.order.mint == mint && queued.order.fromMonitor) = s.monitorOrders mint := by
    have hfalse : (queued.order.mint == mint && queued.order.fromMonitor) = false := by
      rcases hother with hne | hmirror
      · simp [hne]
      · simp [hmirror]
    simp [monitorOrders, hexec, Executor.held, hfalse]
  have hcounts : SameCounts mint s.log (.finished queued outcome :: s.log) := by
    intro l
    have hfinished := levelCounts_finished mint l queued outcome s.log
    simpa [hruns l] using hfinished
  have hruns' : ∀ l, Executor.idle.runs mint l = s.executor.runs mint l := by
    intro l
    rw [hexec, hruns l]
    rfl
  by_cases hmint : queued.order.mint = mint
  case neg =>
    refine hs.mono hs.one hs.main ?_ ?_ (fun _ => id) (fun _ ho _ => ho) id hruns' hcounts
    · change List.Sublist (s.orders.filter _) _
      rw [hsame]
    · intro h' hopen'
      rw [Positions.lookup_settle_ne (Ne.symm hmint)] at hopen'
      exact Positions.KeepsTrade.refl _ mint h' hopen'
  case pos =>
    have hmirror : queued.order.fromMonitor = false := by
      rcases hother with hne | hmirror
      · exact absurd hmint hne
      · exact hmirror
    have hlevel := SellOrder.level_of_not_fromMonitor hmirror
    have hback : ∀ h', (s.positions.settle queued.order outcome).lookup mint = some h' →
        ∃ h, s.positions.lookup mint = some h ∧ (∀ l, h'.marked l ↔ h.marked l) ∧
          (outcome = .executed → queued.order.amount < h.amount) ∧
          (outcome = .skipped → h' = h) := by
      intro h' hopen'
      rw [← hmint] at hopen'
      obtain ⟨h, hopen, hmarked, hamount, hskip⟩ := Positions.lookup_settle hopen'
      rw [hmint] at hopen
      refine ⟨h, hopen, fun l => ?_, hamount, hskip⟩
      rw [hmarked l, hlevel]
      simp
    refine hs.shrink hs.one hs.main ?_ ?_ ?_ (fun _ => id) (fun _ ho _ => ho) hruns' hcounts
    · change List.Sublist (s.orders.filter _) _
      rw [hsame]
    · intro hne h' hopen'
      obtain ⟨h, hopen, -, hamount, hskip⟩ := hback h' hopen'
      simp only [KeepsFlag, hexec] at hallowed
      by_cases hskipped : outcome = .skipped
      · rw [hskip hskipped]
        exact hs.flagged hne h hopen
      · have hcleared : outcome = .failed ∨
            outcome = .executed ∧ queued.order.amount < h.amount := by
          cases outcome with
          | executed => exact .inr ⟨rfl, hamount rfl⟩
          | failed => exact .inl rfl
          | skipped => exact absurd rfl hskipped
        rcases hallowed hmint hmirror ⟨h, by simpa using hopen, hcleared⟩ with
          hempty | hmarks
        · exact absurd hempty hne
        · exact .inr hmarks
    · intro h' hopen'
      obtain ⟨h, hopen, hmarked, -, -⟩ := hback h' hopen'
      exact ⟨h, hopen, hmarked⟩

theorem step {e : Event p} (hallowed : KeepsFlag mint s e) (hstep : s.step e = some s')
    (hs : s.LevelsInv mint) : s'.LevelsInv mint := by
  cases hq : e.quiet with
  | true => exact hs.quiet (step_quiet hstep hq)
  | false =>
      cases e with
      | mirrorLoad => exact hs.mirrorLoad hstep
      | mirrorSend => exact hs.mirrorSend hstep
      | buyRegister task => exact hs.buyRegister hallowed hstep
      | tickStart order => exact hs.tickStart hstep
      | tickPrice reading now =>
          obtain ⟨m, h, rest, heval⟩ := tickPrice_inv hstep
          exact hs.evaluates heval
      | tickCurve liquidity =>
          obtain ⟨m, h, rest, heval⟩ := tickCurve_inv hstep
          exact hs.evaluates heval
      | tickSend => exact hs.tickSend hstep
      | tickMark => exact hs.tickMark hstep
      | execRecv => exact hs.execRecv hstep
      | execCheck => exact hs.execCheck hstep
      | execFinish outcome =>
          obtain ⟨queued, hexec, -⟩ := execFinish_inv hstep
          by_cases hown : queued.order.mint = mint ∧ queued.order.fromMonitor = true
          · exact hs.execFinish_own hexec hown.1 hown.2 hstep
          · refine hs.execFinish_other hallowed hexec ?_ hstep
            by_cases hmint : queued.order.mint = mint
            · exact .inr (by simpa [hmint] using hown)
            · exact .inl hmint
      | reload | listenerSell | detectBuy | mirrorRecv | mirrorCheck | buyConfigure
      | buyAcquire | buyLook | buyCount | buyResult | buyPersist | buyRelease
      | revalidateStart | revalidateCheck | revalidateEnd | validateStart
      | validateCheck | validateEnd => cases hq

end LevelsInv

theorem levelsInv_start (mint : Mint) (settings : ValidSettings p) (hasPayer : Bool)
    (loaded : Positions) : (start settings hasPayer loaded).LevelsInv mint where
  one := .atRest trivial
  main := by simp [start, MainLoop.unsent]
  queue_le := by simp [monitorOrders, start, Executor.held]
  flagged := fun hne => absurd (by simp [monitorOrders, start, Executor.held]) hne
  watched := by simp [start, Monitor.watched]
  unsent := by simp [start, Monitor.unsent]
  marked := by simp [start, levelBooked, lifeOf]
  queued := by simp [monitorOrders, start, Executor.held]
  booked_le := by simp [start, levelBooked, lifeOf]
  calls := by simp [start, levelCalls, levelBooked, levelFailed, lifeOf, Executor.runs]

/-! ## Calls that end in an error -/

/-- A call of the pipeline for an order of a level of the mint is executed. -/
def ExecutesLevels (mint : Mint) (s : Bot p) : Event p → Prop
  | .execFinish outcome =>
      match s.executor with
      | .selling queued =>
          queued.order.mint = mint → queued.order.level.isSome → outcome = .executed
      | _ => True
  | _ => True

instance (mint : Mint) (s : Bot p) (e : Event p) : Decidable (ExecutesLevels mint s e) := by
  unfold ExecutesLevels
  repeat' split
  all_goals infer_instance

section

variable {mint : Mint} {s s' : Bot p}

private theorem levelFailed_execFinish {outcome : SellOutcome}
    (hallowed : ExecutesLevels mint s (.execFinish outcome))
    (hstep : s.execFinish outcome = some s') (l : Level) :
    levelFailed mint l s'.log = levelFailed mint l s.log := by
  obtain ⟨queued, hexec, rfl⟩ := execFinish_inv hstep
  simp only [ExecutesLevels, hexec] at hallowed
  rw [(levelCounts_finished mint l queued outcome s.log).2.2]
  by_cases hruns : (Executor.selling queued).runs mint l = 0
  · simp [hruns]
  · obtain ⟨hmint, hlevel, -⟩ := Executor.runs_eq_one hruns
    simp [hallowed hmint (by simp [hlevel])]

theorem levelFailed_step {e : Event p} (hallowed : ExecutesLevels mint s e)
    (hstep : s.step e = some s') {l : Level} (hnone : levelFailed mint l s.log = 0) :
    levelFailed mint l s'.log = 0 := by
  have hsame {log : List LogEntry} (h : SameCounts mint s.log log) :
      levelFailed mint l log = 0 := ((h l).2.2).trans hnone
  cases hq : e.quiet with
  | true => exact hsame ((step_quiet hstep hq).sameCounts mint)
  | false =>
      cases e with
      | mirrorLoad =>
          obtain ⟨mirror, -, ⟨h, -, rfl⟩ | ⟨-, rfl⟩⟩ := mirrorLoad_inv hstep
          · exact hnone
          · exact hsame (.cons (by simp) (fun _ => ⟨rfl, rfl, rfl⟩) s.log)
      | mirrorSend =>
          obtain ⟨mirror, order, -, rfl⟩ := mirrorSend_inv hstep
          exact hsame (.cons (by simp) (fun _ => ⟨rfl, rfl, rfl⟩) s.log)
      | buyRegister task =>
          obtain ⟨detected, result, ⟨-, rfl⟩ | ⟨-, rfl⟩⟩ := buyRegister_inv hstep
          · exact hsame (.cons (by simp) (fun _ => ⟨rfl, rfl, rfl⟩) s.log)
          · by_cases hm : detected.mint = mint
            · simp [hm, (levelCounts_opened mint l s.log).2.2]
            · exact hsame (.cons (by simpa using hm) (fun _ => ⟨rfl, rfl, rfl⟩) s.log)
      | tickStart order =>
          obtain ⟨-, -, rfl⟩ := tickStart_inv hstep
          exact hnone
      | tickPrice reading now =>
          obtain ⟨m, h, rest, heval⟩ := tickPrice_inv hstep
          exact heval.log ▸ hnone
      | tickCurve liquidity =>
          obtain ⟨m, h, rest, heval⟩ := tickCurve_inv hstep
          exact heval.log ▸ hnone
      | tickSend =>
          obtain ⟨cfg, order, later, rest, -, rfl⟩ := tickSend_inv hstep
          exact hnone
      | tickMark =>
          obtain ⟨cfg, m, later, rest, -, rfl⟩ := tickMark_inv hstep
          exact hnone
      | execRecv =>
          obtain ⟨queued, rest, -, -, rfl⟩ := execRecv_inv hstep
          exact hnone
      | execCheck =>
          obtain ⟨queued, -, ⟨-, rfl⟩ | ⟨-, rfl⟩⟩ := execCheck_inv hstep
          · exact ((levelCounts_started mint l queued s.log).2.2).trans hnone
          · exact hnone
      | execFinish outcome => exact (levelFailed_execFinish hallowed hstep l).trans hnone
      | reload | listenerSell | detectBuy | mirrorRecv | mirrorCheck | buyConfigure
      | buyAcquire | buyLook | buyCount | buyResult | buyPersist | buyRelease
      | revalidateStart | revalidateCheck | revalidateEnd | validateStart
      | validateCheck | validateEnd => cases hq

end

/--
In every run in which nothing takes the flag away under an order of the
monitor, each level leads to at most one executed order in the life of a
position; every other call of the pipeline for it has failed.
-/
theorem level_books_once {settings : ValidSettings p} {hasPayer : Bool}
    {loaded : Positions} {mint : Mint} {es : List (Event p)} {t : Bot p}
    (hrun : Run Bot.step (KeepsFlag mint) (start settings hasPayer loaded) es t)
    (l : Level) :
    levelBooked mint l t.log ≤ 1 ∧
      levelCalls mint l t.log ≤ 1 + levelFailed mint l t.log := by
  have hinv : t.LevelsInv mint :=
    hrun.invariant (fun _ _ _ => LevelsInv.step)
      (levelsInv_start mint settings hasPayer loaded)
  refine ⟨hinv.booked_le l, ?_⟩
  have hcalls := hinv.calls l
  have hbooked := hinv.booked_le l
  by_cases hruns : t.executor.runs mint l = 0
  · omega
  · obtain ⟨queued, hmem, hlevel, hone⟩ := LevelsInv.exists_of_runs hruns
    have hnone := hinv.queued queued hmem l hlevel
    omega

/--
In every run in which nothing takes the flag away under an order of the
monitor and every call for a level of the mint is executed, each level leads to
at most one call of the pipeline in the life of a position.
-/
theorem level_executes_once (settings : ValidSettings p) (hasPayer : Bool)
    (loaded : Positions) (mint : Mint) (es : List (Event p)) (t : Bot p)
    (hrun : Run Bot.step (fun s e => KeepsFlag mint s e ∧ ExecutesLevels mint s e)
      (start settings hasPayer loaded) es t) (l : Level) :
    levelCalls mint l t.log ≤ 1 ∧ levelBooked mint l t.log ≤ 1 := by
  obtain ⟨hbooked, hcalls⟩ := level_books_once (hrun.mono fun _ _ h => h.1) l
  have hnone : levelFailed mint l t.log = 0 :=
    hrun.invariant
      (fun s _ _ hallowed hstep (hs : levelFailed mint l s.log = 0) =>
        levelFailed_step hallowed.2 hstep hs)
      (by simp [start, levelFailed, lifeOf])
  omega

/-! ## A mirror order that clears the flag of a waiting order -/

def tickAtProfit : List (Event .plain) :=
  [.tickStart ["mint"], .tickPrice (.price 2) 0, .tickSend, .tickMark]

theorem level_executes_once_plain :
    ∃ t, Run Bot.step (fun s e => KeepsFlag "mint" s e ∧ ExecutesLevels "mint" s e) plain
        (tickAtProfit ++ executeOne) t ∧
      levelBooked "mint" (.takeProfit 0) t.log = 1 ∧
      levelCalls "mint" (.takeProfit 0) t.log ≤ 1 ∧
      levelBooked "mint" (.takeProfit 0) t.log ≤ 1 := by
  have hexec : (exec Bot.step (fun s e => KeepsFlag "mint" s e ∧ ExecutesLevels "mint" s e)
      plain (tickAtProfit ++ executeOne)).map
      (fun t => levelBooked "mint" (.takeProfit 0) t.log == 1) = some true := by
    decide +kernel
  obtain ⟨t, hrun, hbooked⟩ := exists_run_of_exec hexec
  exact ⟨t, hrun, by simpa using hbooked,
    level_executes_once .plain false .single "mint" _ t hrun (.takeProfit 0)⟩

theorem level_executes_twice :
    ∃ t, Run Bot.step (fun _ _ => True) plain
        (mirrorSell "sig" 10 ++ tickAtProfit ++ executeOne ++ tickAtProfit ++
          executeOne ++ executeOne) t ∧
      levelCalls "mint" (.takeProfit 0) t.log = 2 ∧
      levelBooked "mint" (.takeProfit 0) t.log = 2 := by
  have hexec : (exec Bot.step (fun _ _ => True) plain
      (mirrorSell "sig" 10 ++ tickAtProfit ++ executeOne ++ tickAtProfit ++
        executeOne ++ executeOne)).map
      (fun t => levelCalls "mint" (.takeProfit 0) t.log == 2 &&
        levelBooked "mint" (.takeProfit 0) t.log == 2) = some true := by
    decide +kernel
  obtain ⟨t, hrun, hcounts⟩ := exists_run_of_exec hexec
  exact ⟨t, hrun, by simpa using hcounts⟩

end Bot

end Girasol
