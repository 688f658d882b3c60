import Girasol.Bot.Decisions
import Girasol.Bot.Entries
import Girasol.Bot.LevelReload

/-!
# Orders on their way

An order is under way from its creation until the executor has finished it.
Every order of a level was sized on an entry of a tick's snapshot, under the
settings of that tick, and every entry was the position when the tick began.
-/

namespace Girasol

open Foundation

variable {p : Platform}

/-! ## The size of a level's order -/

def levelSize (r : Rounding) (amount : Nat) (sellPercent : ℚ) : Nat :=
  asU64 (r.mul (r.div sellPercent 100) (r.ofU64 amount))

def LevelTerms.sellPercent : LevelTerms → ℚ
  | .takeProfit level => level.sellPercent
  | .stopLoss level => level.sellPercent

def SellOrder.SizedOn (r : Rounding) (cfg : Settings) (h : Holding) (o : SellOrder) : Prop :=
  ∀ l, o.level = some l → ∃ terms, cfg.termsAt l = some terms ∧
    o.amount = min (levelSize r h.originalAmount terms.sellPercent) h.amount

private theorem amount_of_levelAmount {r : Rounding} {h : Holding} {sellPercent : ℚ} {amount : Nat}
    (hamount : levelAmount r h sellPercent = some amount) :
    amount = min (levelSize r h.originalAmount sellPercent) h.amount := by
  simp only [levelAmount] at hamount
  split at hamount
  · cases hamount
  · exact (Option.some.inj hamount).symm

private theorem levelOrder_sized {r : Rounding} {mint : Mint} {h : Holding} {price : ℚ}
    {reason : SellReason} {reached : ℚ → Bool} {marked : List Nat} {levels : List (ℚ × ℚ)}
    {o : SellOrder} (ho : levelOrder r mint h price reason reached marked levels = some o) :
    ∃ level, levels[o.levelIndex]? = some level ∧
      o.amount = min (levelSize r h.originalAmount level.2) h.amount := by
  obtain ⟨⟨i, amount⟩, hfind, rfl⟩ := Option.map_eq_some_iff.mp ho
  obtain ⟨⟨level, j⟩, hmem, hbody⟩ := List.exists_of_findSome?_eq_some hfind
  simp only at hbody
  split at hbody
  case isTrue => cases hbody
  case isFalse =>
    obtain ⟨sold, hsold, heq⟩ := Option.map_eq_some_iff.mp hbody
    obtain ⟨rfl, rfl⟩ := Prod.mk.inj heq
    exact ⟨level, List.mem_zipIdx_iff_getElem?.mp hmem, amount_of_levelAmount hsold⟩

theorem sizedOn_of_levelOrder {α : Type*} {levels : List α} (toLevel : Nat → Level)
    {terms : α → LevelTerms} {pair : α → ℚ × ℚ} {r : Rounding} {cfg : Settings} {mint : Mint}
    {h : Holding} {price : ℚ} {reason : SellReason} {reached : ℚ → Bool} {marked : List Nat}
    {o : SellOrder} (hlevel : o.level = some (toLevel o.levelIndex))
    (hterms : ∀ i, cfg.termsAt (toLevel i) = levels[i]?.map terms)
    (hpercent : ∀ level, (terms level).sellPercent = (pair level).2)
    (ho : levelOrder r mint h price reason reached marked (levels.map pair) = some o) :
    o.SizedOn r cfg h := by
  intro l hl
  obtain rfl : toLevel o.levelIndex = l := Option.some.inj (hlevel.symm.trans hl)
  obtain ⟨sizes, hsizes, hamount⟩ := levelOrder_sized ho
  rw [List.getElem?_map] at hsizes
  obtain ⟨level, hfound, rfl⟩ := Option.map_eq_some_iff.mp hsizes
  refine ⟨terms level, ?_, ?_⟩
  · rw [hterms, hfound, Option.map_some]
  · rw [hpercent, hamount]

private theorem takeProfitOrder_sized {r : Rounding} {cfg : Settings} {mint : Mint} {h : Holding}
    {price : ℚ} {o : SellOrder} (ho : takeProfitOrder r cfg mint h price = some o) :
    o.SizedOn r cfg h := by
  obtain ⟨-, -, hreason, -⟩ := levelOrder_spec ho
  apply sizedOn_of_levelOrder .takeProfit ?_ (fun _ => rfl) (fun _ => rfl) ho
  simp only [SellOrder.level, hreason]

private theorem stopLossOrder_sized {r : Rounding} {cfg : Settings} {mint : Mint} {h : Holding}
    {price : ℚ} {o : SellOrder} (ho : stopLossOrder r cfg mint h price = some o) :
    o.SizedOn r cfg h := by
  obtain ⟨-, -, hreason, -⟩ := levelOrder_spec ho
  apply sizedOn_of_levelOrder .stopLoss ?_ (fun _ => rfl) (fun _ => rfl) ho
  simp only [SellOrder.level, hreason]

theorem levelOrders_sized {r : Rounding} {cfg : Settings} {mint : Mint} {h : Holding} {price : ℚ}
    {o : SellOrder} (ho : o ∈ levelOrders r cfg mint h price) :
    o.mint = mint ∧ o.SizedOn r cfg h := by
  refine ⟨(levelOrders_builtFrom ho).mint_eq, ?_⟩
  simp only [levelOrders, List.mem_append, Option.mem_toList] at ho
  obtain ho | ho := ho
  · exact takeProfitOrder_sized ho
  · exact stopLossOrder_sized ho

theorem rugOrder_sized {r : Rounding} {cfg : Settings} {mint : Mint} {h : Holding} {price : ℚ}
    {liquidity : Option ℚ} {o : SellOrder}
    (ho : rugOrder r cfg mint h price liquidity = some o) : o.mint = mint ∧ o.SizedOn r cfg h := by
  obtain ⟨drop, -, rfl⟩ := Option.map_eq_some_iff.mp ho
  refine ⟨rfl, ?_⟩
  intro l hl
  cases hl

theorem tickOrders_sized {r : Rounding} {cfg : Settings} {mint : Mint} {h : Holding} {price : ℚ}
    {now : Int} {liquidity : Option ℚ} {o : SellOrder}
    (ho : o ∈ tickOrders r cfg mint h price now liquidity) : o.mint = mint ∧ o.SizedOn r cfg h := by
  unfold tickOrders at ho
  split at ho
  case h_2 => exact levelOrders_sized ho
  case h_1 order hexit =>
    obtain rfl := List.mem_singleton.mp ho
    obtain htrailing | ⟨-, hrug⟩ := Option.or_eq_some_iff.mp hexit
    · simp only [trailingStopOrder, Option.ite_none_right_eq_some, Option.some.injEq] at htrailing
      obtain ⟨-, rfl⟩ := htrailing
      refine ⟨rfl, ?_⟩
      intro l hl
      cases hl
    · rw [watchedRugOrder, Option.ite_none_right_eq_some] at hrug
      exact rugOrder_sized hrug.2

/-! ## The entries of a tick -/

def Event.evaluates : Event p → Bool
  | .tickPrice _ _ | .tickCurve _ => true
  | _ => false

namespace Monitor

def entries : Monitor p → List (ValidSettings p × Mint × Holding)
  | .ticking cfg rest | .sending cfg _ _ rest | .marking cfg _ _ rest =>
      rest.map fun entry => (cfg, entry)
  | .probing cfg mint h _ rest => ((mint, h) :: rest).map fun entry => (cfg, entry)
  | .idle | .revalidating _ _ => []

@[simp]
theorem entries_proceed (cfg : ValidSettings p) (rest : List (Mint × Holding)) :
    (proceed cfg rest).entries = rest.map fun entry => (cfg, entry) := by
  cases rest <;> rfl

@[simp]
theorem entries_emit (cfg : ValidSettings p) (rest : List (Mint × Holding))
    (orders : List SellOrder) : (emit cfg rest orders).entries = rest.map fun entry => (cfg, entry)
    := by
  cases orders with
  | nil => exact entries_proceed cfg rest
  | cons order later => rfl

private theorem entries_atRest {m : Monitor p} (h : m.atRest) : m.entries = [] := by
  cases m <;> first | rfl | cases h

end Monitor

namespace Bot

variable {s s' : Bot p}

private theorem entries_tickPrice {reading : PriceReading} {now : Int}
    (hstep : s.tickPrice reading now = some s') : s'.monitor.entries ⊆ s.monitor.entries := by
  obtain ⟨cfg, mint, seen, rest, hticking⟩ := tickPrice_ticking hstep
  have hrest : rest.map (fun entry => (cfg, entry)) ⊆ s.monitor.entries := by
    rw [hticking]
    exact List.subset_cons_self _ _
  obtain ⟨price, rfl, hprice, hbuy⟩ | hskip := evaluated_or_skipped reading seen
  · obtain ⟨monitor, rfl, ⟨rfl, -⟩ | hemit⟩ := tickPrice_evaluates hticking hprice hbuy hstep
    · rw [hticking]
      exact List.Subset.refl _
    · dsimp only
      rw [hemit none, Monitor.entries_emit]
      exact hrest
  · obtain ⟨positions, -, rfl⟩ := tickPrice_passes hticking hskip hstep
    dsimp only
    rw [Monitor.entries_proceed]
    exact hrest

theorem entries_step {e : Event p} (hstep : s.step e = some s') {cfg : ValidSettings p}
    {mint : Mint} {h : Holding} (hmem : (cfg, mint, h) ∈ s'.monitor.entries) :
    (cfg, mint, h) ∈ s.monitor.entries ∨
      (∃ order, e = .tickStart order) ∧ cfg = s.settings ∧ s.positions.lookup mint = some h := by
  cases hticks : e.ticks with
  | false =>
      obtain heq | hrest := monitor_of_not_ticks hstep hticks
      · exact .inl (heq ▸ hmem)
      · rw [Monitor.entries_atRest hrest] at hmem
        cases hmem
  | true =>
      cases e with
      | tickStart order =>
          obtain ⟨-, -, rfl⟩ := tickStart_inv hstep
          rw [Monitor.entries_proceed] at hmem
          obtain ⟨entry, hentry, heq⟩ := List.mem_map.mp hmem
          cases heq
          exact .inr ⟨⟨order, rfl⟩, rfl, Positions.mem_snapshot (List.mem_of_mem_filter hentry)⟩
      | tickPrice reading now => exact .inl (entries_tickPrice hstep hmem)
      | tickCurve liquidity =>
          obtain ⟨cfg', other, seen, price, rest, orders, hprobing, rfl, -⟩ :=
            tickCurve_emits hstep
          rw [Monitor.entries_emit] at hmem
          rw [hprobing]
          exact .inl (List.mem_cons_of_mem _ hmem)
      | tickSend =>
          obtain ⟨cfg', order, later, rest, hsending, rfl⟩ := tickSend_inv hstep
          rw [hsending]
          exact .inl hmem
      | tickMark =>
          obtain ⟨cfg', other, later, rest, hmarking, rfl⟩ := tickMark_inv hstep
          rw [Monitor.entries_emit] at hmem
          rw [hmarking]
          exact .inl hmem
      | _ => cases hticks

/-! ## The orders under way -/

def ordersUnderWay (s : Bot p) : List SellOrder :=
  (s.executor.held ++ s.orders).map QueuedOrder.order ++ s.monitor.unsent ++ s.main.unsent

def Makes (s : Bot p) (o : SellOrder) : Prop :=
  ∃ cfg h, (cfg, o.mint, h) ∈ s.monitor.entries ∧ o.SizedOn p.rounding cfg.val h

@[simp] theorem mem_ordersUnderWay {o : SellOrder} :
    o ∈ s.ordersUnderWay ↔ o ∈ s.executor.held.map QueuedOrder.order ∨
      o ∈ s.orders.map QueuedOrder.order ∨ o ∈ s.monitor.unsent ∨ o ∈ s.main.unsent := by
  simp only [ordersUnderWay, List.map_append, List.mem_append, or_assoc]

private theorem unsent_tickPrice {reading : PriceReading} {now : Int}
    (hstep : s.tickPrice reading now = some s') {o : SellOrder} (ho : o ∈ s'.monitor.unsent) :
    s.Makes o := by
  obtain ⟨cfg, mint, seen, rest, hticking⟩ := tickPrice_ticking hstep
  have hentry : (cfg, mint, seen) ∈ s.monitor.entries := by
    rw [hticking]
    exact List.mem_cons_self
  obtain ⟨price, rfl, hprice, hbuy⟩ | hskip := evaluated_or_skipped reading seen
  · obtain ⟨monitor, rfl, ⟨rfl, -⟩ | hemit⟩ := tickPrice_evaluates hticking hprice hbuy hstep
    · cases ho
    · dsimp only at ho
      rw [hemit none, Monitor.unsent_emit] at ho
      obtain ⟨rfl, hsized⟩ := tickOrders_sized ho
      exact ⟨cfg, seen, hentry, hsized⟩
  · obtain ⟨positions, -, rfl⟩ := tickPrice_passes hticking hskip hstep
    rw [Monitor.unsent_proceed] at ho
    cases ho

private theorem unsent_tickCurve {liquidity : Option ℚ} (hstep : s.tickCurve liquidity = some s')
    {o : SellOrder} (ho : o ∈ s'.monitor.unsent) : s.Makes o := by
  obtain ⟨cfg, mint, seen, price, rest, orders, hprobing, rfl, hfrom⟩ := tickCurve_emits hstep
  have hentry : (cfg, mint, seen) ∈ s.monitor.entries := by
    rw [hprobing]
    exact List.mem_cons_self
  rw [Monitor.unsent_emit] at ho
  obtain hrug | hlevel := hfrom o ho
  · obtain ⟨rfl, hsized⟩ := rugOrder_sized hrug
    exact ⟨cfg, seen, hentry, hsized⟩
  · obtain ⟨rfl, hsized⟩ := levelOrders_sized hlevel
    exact ⟨cfg, seen, hentry, hsized⟩

private theorem ordersUnderWay_eq_of_quiet (hquiet : s.Quiet s') :
    s'.ordersUnderWay = s.ordersUnderWay := by
  have hunsent : s'.monitor.unsent = s.monitor.unsent := by
    rcases hquiet.monitor with heq | ⟨hrest, hrest'⟩
    · rw [heq]
    · rw [(Monitor.views_atRest hrest).2.1, (Monitor.views_atRest hrest').2.1]
  rw [ordersUnderWay, ordersUnderWay, hquiet.executor, hquiet.orders, hunsent, hquiet.main_unsent]

theorem ordersUnderWay_step {e : Event p} (hstep : s.step e = some s') {o : SellOrder}
    (ho : o ∈ s'.ordersUnderWay) :
    o ∈ s.ordersUnderWay ∨
      (e.evaluates = true ∧ o ∈ s'.monitor.unsent ∧ s.Makes o) ∨ o.level = none := by
  cases hquiet : e.quiet with
  | true => exact .inl (ordersUnderWay_eq_of_quiet (step_quiet hstep hquiet) ▸ ho)
  | false =>
      rw [mem_ordersUnderWay] at ho
      rw [mem_ordersUnderWay]
      cases e with
      | mirrorLoad =>
          obtain ⟨mirror, hmain, ⟨h, -, rfl⟩ | ⟨-, rfl⟩⟩ := mirrorLoad_inv hstep
          · obtain ho | ho | ho | ho := ho
            · exact .inl (.inl ho)
            · exact .inl (.inr (.inl ho))
            · exact .inl (.inr (.inr (.inl ho)))
            · obtain rfl := List.mem_singleton.mp ho
              exact .inr (.inr rfl)
          · left
            simpa [mirrorDone, hmain, MainLoop.unsent] using ho
      | mirrorSend =>
          obtain ⟨mirror, order, hmain, rfl⟩ := mirrorSend_inv hstep
          left
          simp only [mirrorDone, hmain, MainLoop.unsent, List.map_append, List.map_cons,
            List.map_nil, List.mem_append, List.mem_singleton, List.not_mem_nil] at ho ⊢
          tauto
      | buyRegister task =>
          obtain ⟨detected, result, ⟨-, rfl⟩ | ⟨-, rfl⟩⟩ := buyRegister_inv hstep
          · exact .inl ho
          · exact .inl ho
      | tickStart order =>
          obtain ⟨-, -, rfl⟩ := tickStart_inv hstep
          simp only [Monitor.unsent_proceed, List.not_mem_nil] at ho
          left
          tauto
      | tickPrice reading now =>
          obtain ⟨mint, h, rest, heval⟩ := tickPrice_inv hstep
          rw [heval.executor, heval.orders, heval.main] at ho
          obtain ho | ho | ho | ho := ho
          · exact .inl (.inl ho)
          · exact .inl (.inr (.inl ho))
          · exact .inr (.inl ⟨rfl, ho, unsent_tickPrice hstep ho⟩)
          · exact .inl (.inr (.inr (.inr ho)))
      | tickCurve liquidity =>
          obtain ⟨mint, h, rest, heval⟩ := tickCurve_inv hstep
          rw [heval.executor, heval.orders, heval.main] at ho
          obtain ho | ho | ho | ho := ho
          · exact .inl (.inl ho)
          · exact .inl (.inr (.inl ho))
          · exact .inr (.inl ⟨rfl, ho, unsent_tickCurve hstep ho⟩)
          · exact .inl (.inr (.inr (.inr ho)))
      | tickSend =>
          obtain ⟨cfg, order, later, rest, hsending, rfl⟩ := tickSend_inv hstep
          left
          simp only [hsending, Monitor.unsent, List.map_append, List.map_cons, List.map_nil,
            List.mem_append, List.mem_cons] at ho ⊢
          tauto
      | tickMark =>
          obtain ⟨cfg, mint, later, rest, hmarking, rfl⟩ := tickMark_inv hstep
          left
          rw [Monitor.unsent_emit] at ho
          rw [hmarking]
          exact ho
      | execRecv =>
          obtain ⟨queued, rest, hidle, horders, rfl⟩ := execRecv_inv hstep
          left
          simp only [hidle, horders, Executor.held, List.map_cons, List.map_nil, List.mem_cons,
            List.not_mem_nil] at ho ⊢
          tauto
      | execCheck =>
          obtain ⟨queued, hexec, ⟨-, rfl⟩ | ⟨-, rfl⟩⟩ := execCheck_inv hstep
          · left
            rw [hexec]
            exact ho
          · left
            simp only [Executor.held, List.map_nil, List.not_mem_nil, false_or] at ho
            exact .inr ho
      | execFinish outcome =>
          obtain ⟨queued, -, rfl⟩ := execFinish_inv hstep
          left
          simp only [Executor.held, List.map_nil, List.not_mem_nil, false_or] at ho
          exact .inr ho
      | _ => cases hquiet

end Bot

end Girasol
