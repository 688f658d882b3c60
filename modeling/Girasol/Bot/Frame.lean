import Girasol.Bot.Step

/-!
# What each step leaves alone

Most steps move a task without touching what sell orders depend on.  `Quiet`
says so once for all of them; the others have a lemma of their own each.
-/

namespace Girasol

open Foundation

variable {p : Platform}

/-! ## Positions -/

structure Holding.SameTrade (h h' : Holding) : Prop where
  amount : h'.amount = h.amount
  pendingSell : h'.pendingSell = h.pendingSell
  tpLevels : h'.triggeredTpLevels = h.triggeredTpLevels
  slLevels : h'.triggeredSlLevels = h.triggeredSlLevels

theorem Holding.SameTrade.marked {h h' : Holding} (hs : h.SameTrade h') (l : Level) :
    h'.marked l ↔ h.marked l := by
  cases l with
  | takeProfit i => simp [Holding.marked, hs.tpLevels]
  | stopLoss i => simp [Holding.marked, hs.slLevels]

namespace Positions

def KeepsTrade (before after : Positions) : Prop :=
  ∀ mint h', after.lookup mint = some h' →
    ∃ h, before.lookup mint = some h ∧ h.SameTrade h'

theorem KeepsTrade.refl (positions : Positions) : positions.KeepsTrade positions :=
  fun _ h' hlook => ⟨h', hlook, ⟨rfl, rfl, rfl, rfl⟩⟩

theorem keepsTrade_update (mint : Mint) {f : Holding → Holding}
    (hf : ∀ h : Holding, h.SameTrade (f h)) (positions : Positions) :
    positions.KeepsTrade (Store.update mint (fun h => some (f h)) positions) := by
  intro m h' hlook
  rw [Store.lookup_update] at hlook
  split at hlook
  · obtain ⟨h, hopen, heq⟩ := Option.bind_eq_some_iff.mp hlook
    cases heq
    exact ⟨h, hopen, hf h⟩
  · exact KeepsTrade.refl positions m h' hlook

theorem keepsTrade_markMigrated (mint : Mint) (positions : Positions) :
    positions.KeepsTrade (positions.markMigrated mint) :=
  keepsTrade_update mint (f := fun h => { h with migrated := true })
    (fun _ => ⟨rfl, rfl, rfl, rfl⟩) positions

theorem keepsTrade_setHighWatermark (mint : Mint) (watermark : ℚ)
    (positions : Positions) :
    positions.KeepsTrade (positions.setHighWatermark mint watermark) :=
  keepsTrade_update mint (f := fun h => { h with highWatermark := some watermark })
    (fun _ => ⟨rfl, rfl, rfl, rfl⟩) positions

private theorem keepsTrade_setEntryLiquidity (mint : Mint) (liquidity : ℚ)
    (positions : Positions) :
    positions.KeepsTrade (positions.setEntryLiquidity mint liquidity) :=
  keepsTrade_update mint (f := fun h => { h with entryLiquiditySol := some liquidity })
    (fun _ => ⟨rfl, rfl, rfl, rfl⟩) positions

theorem keepsTrade_noteLiquidity (mint : Mint) (h : Holding) (liquidity : Option ℚ)
    (positions : Positions) :
    positions.KeepsTrade (positions.noteLiquidity mint h liquidity) := by
  unfold noteLiquidity
  split
  · exact keepsTrade_setEntryLiquidity mint _ positions
  · exact .refl positions

theorem keepsTrade_removePosition (mint : Mint) (positions : Positions) :
    positions.KeepsTrade (positions.removePosition mint) := by
  intro m h' hlook
  rw [removePosition, Store.lookup_erase_eq] at hlook
  split at hlook
  · cases hlook
  · exact KeepsTrade.refl positions m h' hlook

@[simp] theorem lookup_settle_ne {order : SellOrder} {mint : Mint} (hne : mint ≠ order.mint)
    (outcome : SellOutcome) (positions : Positions) :
    (positions.settle order outcome).lookup mint = positions.lookup mint := by
  cases outcome with
  | executed => exact Store.lookup_update_ne hne _ positions
  | failed => exact Store.lookup_update_ne hne _ positions
  | skipped => rfl

theorem lookup_settle {order : SellOrder} {outcome : SellOutcome} {positions : Positions}
    {h' : Holding} (hopen' : (positions.settle order outcome).lookup order.mint = some h') :
    ∃ h, positions.lookup order.mint = some h ∧
      (∀ l, h'.marked l ↔ h.marked l ∨ outcome = .executed ∧ order.level = some l) ∧
      (outcome = .executed → order.amount < h.amount) ∧
      (outcome = .skipped → h' = h) := by
  cases outcome with
  | skipped => exact ⟨h', hopen', by simp, by simp, by simp⟩
  | failed =>
      simp only [settle, clearPendingSell, Store.lookup_update_self] at hopen'
      obtain ⟨h, hopen, heq⟩ := Option.bind_eq_some_iff.mp hopen'
      cases heq
      refine ⟨h, hopen, fun l => ?_, by simp, by simp⟩
      cases l <;> simp [Holding.marked]
  | executed =>
      simp only [settle, updateAfterSell, Store.lookup_update_self] at hopen'
      obtain ⟨h, hopen, heq⟩ := Option.bind_eq_some_iff.mp hopen'
      refine ⟨h, hopen, fun l => ?_, fun _ => ?_, by simp⟩
      · rw [SellOrder.marked_afterSell heq]
        simp
      · by_contra hge
        rw [Holding.afterSell_eq_none.mpr (not_lt.mp hge)] at heq
        cases heq

theorem mem_snapshot {order : List Mint} {positions : Positions} {mint : Mint}
    {h : Holding} (hmem : (mint, h) ∈ positions.snapshot order) :
    positions.lookup mint = some h := by
  obtain ⟨m, -, hm⟩ := List.mem_filterMap.mp hmem
  obtain ⟨h', hlook, heq⟩ := Option.map_eq_some_iff.mp hm
  cases heq
  exact hlook

private theorem snapshot_keys_sublist (order : List Mint) (positions : Positions) :
    ((positions.snapshot order).map Prod.fst).Sublist order := by
  induction order with
  | nil => simp [snapshot]
  | cons m order ih =>
      cases hlook : positions.lookup m with
      | none =>
          simp only [snapshot, List.filterMap_cons, hlook, Option.map_none]
          exact ih.cons m
      | some h =>
          simp only [snapshot, List.filterMap_cons, hlook, Option.map_some,
            List.map_cons]
          exact ih.cons_cons m

theorem snapshot_nodup {order : List Mint} {positions : Positions}
    (hperm : order.Perm positions.keys) :
    ((positions.snapshot order).map Prod.fst).Nodup :=
  (hperm.nodup_iff.mpr positions.keys_nodup).sublist
    (snapshot_keys_sublist order positions)

end Positions

/-! ## Views of the tasks -/

namespace Monitor

def watched : Monitor p → List (Mint × Holding)
  | .ticking _ rest => rest
  | .probing _ mint h _ rest => (mint, h) :: rest
  | .sending _ _ _ rest => rest
  | .marking _ _ _ rest => rest
  | .idle | .revalidating _ _ => []

def unsent : Monitor p → List SellOrder
  | .sending _ order later _ => order :: later
  | .marking _ _ later _ => later
  | .idle | .ticking _ _ | .probing _ _ _ _ _ | .revalidating _ _ => []

def marks : Monitor p → Option Mint
  | .marking _ mint _ _ => some mint
  | .idle | .ticking _ _ | .probing _ _ _ _ _ | .sending _ _ _ _
  | .revalidating _ _ => none

def atRest : Monitor p → Prop
  | .idle | .revalidating _ _ => True
  | .ticking _ _ | .probing _ _ _ _ _ | .sending _ _ _ _ | .marking _ _ _ _ => False

@[simp]
theorem watched_proceed (cfg : ValidSettings p) (rest : List (Mint × Holding)) :
    (proceed cfg rest).watched = rest := by
  cases rest <;> rfl

@[simp]
theorem unsent_proceed (cfg : ValidSettings p) (rest : List (Mint × Holding)) :
    (proceed cfg rest).unsent = [] := by
  cases rest <;> rfl

@[simp]
theorem marks_proceed (cfg : ValidSettings p) (rest : List (Mint × Holding)) :
    (proceed cfg rest).marks = none := by
  cases rest <;> rfl

@[simp]
theorem watched_emit (cfg : ValidSettings p) (rest : List (Mint × Holding))
    (orders : List SellOrder) : (emit cfg rest orders).watched = rest := by
  cases orders with
  | nil => exact watched_proceed cfg rest
  | cons order later => rfl

@[simp]
theorem unsent_emit (cfg : ValidSettings p) (rest : List (Mint × Holding))
    (orders : List SellOrder) : (emit cfg rest orders).unsent = orders := by
  cases orders with
  | nil => exact unsent_proceed cfg rest
  | cons order later => rfl

@[simp]
theorem marks_emit (cfg : ValidSettings p) (rest : List (Mint × Holding))
    (orders : List SellOrder) : (emit cfg rest orders).marks = none := by
  cases orders with
  | nil => exact marks_proceed cfg rest
  | cons order later => rfl

theorem views_atRest {m : Monitor p} (h : m.atRest) :
    m.watched = [] ∧ m.unsent = [] ∧ m.marks = none := by
  cases m <;> simp_all [atRest, watched, unsent, marks]

end Monitor

def Executor.held : Executor → List QueuedOrder
  | .idle => []
  | .checking queued | .selling queued => [queued]

def MainLoop.unsent : MainLoop → List SellOrder
  | .sendingOrder _ order => [order]
  | .selecting _ | .gotSell _ | .holdsMint _ => []

/-! ## Quiet steps -/

def Event.quiet : Event p → Bool
  | .mirrorLoad | .mirrorSend | .buyRegister _ | .tickStart _ | .tickPrice _ _
  | .tickCurve _ | .tickSend | .tickMark | .execRecv | .execCheck
  | .execFinish _ => false
  | .reload _ | .listenerSell _ | .detectBuy _ _ | .mirrorRecv | .mirrorCheck
  | .buyConfigure _ | .buyAcquire _ | .buyLook _ | .buyCount _ | .buyResult _ _
  | .buyPersist _ | .buyRelease _ | .revalidateStart _ | .revalidateCheck _
  | .revalidateEnd | .validateStart _ | .validateCheck _ | .validateEnd => true

namespace Bot

structure Quiet (s s' : Bot p) : Prop where
  positions : s.positions.KeepsTrade s'.positions
  orders : s'.orders = s.orders
  executor : s'.executor = s.executor
  monitor : s'.monitor = s.monitor ∨ s.monitor.atRest ∧ s'.monitor.atRest
  main : s'.main = s.main ∨ s.main.unsent = [] ∧ s'.main.unsent = []
  log : s'.log = s.log ∨ ∃ mirror, s'.log = .mirrorHandled mirror false :: s.log

theorem Quiet.of_eq {s s' : Bot p} (hpos : s'.positions = s.positions)
    (hord : s'.orders = s.orders) (hexec : s'.executor = s.executor)
    (hmon : s'.monitor = s.monitor) (hmain : s'.main = s.main) (hlog : s'.log = s.log) :
    s.Quiet s' :=
  ⟨hpos ▸ .refl _, hord, hexec, .inl hmon, .inl hmain, .inl hlog⟩

theorem Quiet.main_unsent {s s' : Bot p} (hquiet : s.Quiet s') :
    s'.main.unsent = s.main.unsent := by
  rcases hquiet.main with heq | ⟨hnone, hnone'⟩
  · rw [heq]
  · rw [hnone, hnone']

private theorem applyCheck_keepsTrade (cfg : Settings) (check : TokenCheck) (mint : Mint)
    (s : Bot p) : s.positions.KeepsTrade (s.applyCheck cfg check mint).positions := by
  unfold applyCheck
  split
  · exact Positions.keepsTrade_removePosition mint s.positions
  · exact .refl _

theorem step_quiet {s s' : Bot p} {e : Event p} (hstep : s.step e = some s')
    (hquiet : e.quiet = true) : s.Quiet s' := by
  cases e with
  | reload cfg =>
      cases hstep
      exact .of_eq rfl rfl rfl rfl rfl rfl
  | listenerSell sell =>
      simp only [step, listenerSell, Option.ite_none_right_eq_some] at hstep
      cases hstep.2
      exact .of_eq rfl rfl rfl rfl rfl rfl
  | detectBuy detected now =>
      simp only [step, detectBuy] at hstep
      split at hstep
      case h_1 hmain =>
        split at hstep <;> cases hstep <;>
          exact ⟨.refl _, rfl, rfl, .inl rfl, .inr ⟨by rw [hmain]; rfl, rfl⟩, .inl rfl⟩
      case h_2 => cases hstep
  | mirrorRecv =>
      simp only [step, mirrorRecv] at hstep
      split at hstep
      case h_1 hmain _ =>
        cases hstep
        exact ⟨.refl _, rfl, rfl, .inl rfl, .inr ⟨by rw [hmain]; rfl, rfl⟩, .inl rfl⟩
      case h_2 => cases hstep
  | mirrorCheck =>
      simp only [step, mirrorCheck] at hstep
      split at hstep
      case h_1 mirror hmain =>
        split at hstep <;> cases hstep
        · exact ⟨.refl _, rfl, rfl, .inl rfl, .inr ⟨by rw [hmain]; rfl, rfl⟩, .inl rfl⟩
        · exact ⟨.refl _, rfl, rfl, .inl rfl, .inr ⟨by rw [hmain]; rfl, rfl⟩,
            .inr ⟨mirror, rfl⟩⟩
      case h_2 => cases hstep
  | buyConfigure task =>
      simp only [step, buyConfigure] at hstep
      split at hstep <;> cases hstep
      exact .of_eq rfl rfl rfl rfl rfl rfl
  | buyAcquire task =>
      simp only [step, buyAcquire] at hstep
      split at hstep
      case h_1 =>
        split at hstep
        · cases hstep
          exact .of_eq rfl rfl rfl rfl rfl rfl
        · split at hstep <;> cases hstep <;> exact .of_eq rfl rfl rfl rfl rfl rfl
      case h_2 => cases hstep
  | buyLook task =>
      simp only [step, buyLook] at hstep
      split at hstep
      case h_1 =>
        split at hstep <;> cases hstep <;> exact .of_eq rfl rfl rfl rfl rfl rfl
      case h_2 => cases hstep
  | buyCount task =>
      simp only [step, buyCount] at hstep
      split at hstep
      case h_1 =>
        split at hstep <;> cases hstep <;> exact .of_eq rfl rfl rfl rfl rfl rfl
      case h_2 => cases hstep
  | buyResult task outcome =>
      simp only [step, buyResult] at hstep
      split at hstep
      case h_1 =>
        split at hstep <;> cases hstep <;> exact .of_eq rfl rfl rfl rfl rfl rfl
      case h_2 => cases hstep
  | buyPersist task =>
      simp only [step, buyPersist] at hstep
      split at hstep <;> cases hstep
      exact .of_eq rfl rfl rfl rfl rfl rfl
  | buyRelease task =>
      simp only [step, buyRelease] at hstep
      split at hstep <;> cases hstep
      exact .of_eq rfl rfl rfl rfl rfl rfl
  | revalidateStart order =>
      simp only [step, revalidateStart] at hstep
      split at hstep
      case h_1 hmon =>
        simp only [Option.ite_none_right_eq_some] at hstep
        obtain ⟨-, hstep⟩ := hstep
        split at hstep <;> cases hstep
        · exact .of_eq rfl rfl rfl rfl rfl rfl
        · exact ⟨.refl _, rfl, rfl, .inr ⟨by simp [hmon, Monitor.atRest], trivial⟩,
            .inl rfl, .inl rfl⟩
      case h_2 => cases hstep
  | revalidateCheck check =>
      simp only [step, revalidateCheck] at hstep
      split at hstep
      case h_1 cfg mint rest hmon =>
        cases hstep
        exact ⟨applyCheck_keepsTrade cfg.val check mint s, rfl, rfl,
          .inr ⟨by simp [hmon, Monitor.atRest], trivial⟩, .inl rfl, .inl rfl⟩
      case h_2 => cases hstep
  | revalidateEnd =>
      simp only [step, revalidateEnd] at hstep
      split at hstep
      case h_1 hmon =>
        cases hstep
        exact ⟨.refl _, rfl, rfl, .inr ⟨by simp [hmon, Monitor.atRest], trivial⟩,
          .inl rfl, .inl rfl⟩
      case h_2 => cases hstep
  | validateStart order =>
      simp only [step, validateStart] at hstep
      split at hstep
      case h_1 =>
        simp only [Option.ite_none_right_eq_some] at hstep
        cases hstep.2
        exact .of_eq rfl rfl rfl rfl rfl rfl
      case h_2 => cases hstep
  | validateCheck check =>
      simp only [step, validateCheck] at hstep
      split at hstep
      case h_1 mint rest _ =>
        cases hstep
        exact ⟨applyCheck_keepsTrade s.settings.val check mint s, rfl, rfl, .inl rfl,
          .inl rfl, .inl rfl⟩
      case h_2 => cases hstep
  | validateEnd =>
      simp only [step, validateEnd] at hstep
      split at hstep <;> cases hstep
      exact .of_eq rfl rfl rfl rfl rfl rfl
  | mirrorLoad | mirrorSend | buyRegister | tickStart | tickPrice | tickCurve
  | tickSend | tickMark | execRecv | execCheck | execFinish => cases hquiet

/-! ## The other steps, one by one -/

theorem mirrorLoad_inv {s s' : Bot p} (hstep : s.mirrorLoad = some s') :
    ∃ mirror, s.main = .holdsMint mirror ∧
      ((∃ h, s.positions.lookup mirror.sell.mint = some h ∧
          s' = { s with
            main := .sendingOrder mirror (mirrorOrder p.rounding mirror.sell h) }) ∨
        (s.positions.lookup mirror.sell.mint = none ∧ s' = s.mirrorDone mirror false)) := by
  simp only [mirrorLoad] at hstep
  split at hstep
  case h_1 mirror hmain =>
    refine ⟨mirror, hmain, ?_⟩
    split at hstep <;> cases hstep
    case h_1 h hopen => exact .inl ⟨h, hopen, rfl⟩
    case h_2 hclosed => exact .inr ⟨hclosed, rfl⟩
  case h_2 => cases hstep

theorem mirrorSend_inv {s s' : Bot p} (hstep : s.mirrorSend = some s') :
    ∃ mirror order, s.main = .sendingOrder mirror order ∧
      s' = ({ s with
        orders := s.orders ++ [⟨order, some mirror.sell.signature⟩] }
          : Bot p).mirrorDone mirror true := by
  simp only [mirrorSend] at hstep
  split at hstep
  case h_1 mirror order hmain =>
    simp only [Option.ite_none_right_eq_some] at hstep
    cases hstep.2
    exact ⟨mirror, order, hmain, rfl⟩
  case h_2 => cases hstep

theorem buyRegister_inv {s s' : Bot p} {task : Nat}
    (hstep : s.buyRegister task = some s') :
    ∃ detected result,
      (s.buys[task]? = some ⟨detected, .registering true result⟩ ∧
        s' = { s.setPhase task (.releasing true) with
          positions := s.positions.accumulatePosition p.rounding detected.mint
            result.holding.amount result.holding.buyPrice result.holding.buyCostSol
          disk := s.positions.accumulatePosition p.rounding detected.mint
            result.holding.amount result.holding.buyPrice result.holding.buyCostSol
          log := .accumulated detected.mint :: s.log }) ∨
      (s.buys[task]? = some ⟨detected, .registering false result⟩ ∧
        s' = { s.setPhase task .persisting with
          positions := s.positions.addPosition detected.mint (registered detected result)
          log := .opened detected.mint :: s.log }) := by
  simp only [buyRegister] at hstep
  split at hstep
  case h_1 detected result hbuy =>
    cases hstep
    exact ⟨detected, result, .inl ⟨hbuy, rfl⟩⟩
  case h_2 detected result hbuy =>
    cases hstep
    exact ⟨detected, result, .inr ⟨hbuy, rfl⟩⟩
  case h_3 => cases hstep

theorem tickStart_inv {s s' : Bot p} {order : List Mint}
    (hstep : s.tickStart order = some s') :
    s.monitor = .idle ∧ order.Perm s.positions.keys ∧
      s' = { s with
        monitor := .proceed s.settings ((s.positions.snapshot order).filter
          fun (_, h) => !h.migrated && !h.pendingSell) } := by
  simp only [tickStart] at hstep
  split at hstep
  case h_1 hidle =>
    simp only [Option.ite_none_right_eq_some] at hstep
    cases hstep.2
    exact ⟨hidle, hstep.1, rfl⟩
  case h_2 => cases hstep

structure Evaluates (s s' : Bot p) (mint : Mint) (h : Holding)
    (rest : List (Mint × Holding)) : Prop where
  entry : s.monitor.watched = (mint, h) :: rest
  unsent : s.monitor.unsent = []
  marks : s.monitor.marks = none ∧ s'.monitor.marks = none
  positions : s.positions.KeepsTrade s'.positions
  orders : s'.orders = s.orders
  executor : s'.executor = s.executor
  main : s'.main = s.main
  log : s'.log = s.log
  result :
    (s'.monitor.watched = (mint, h) :: rest ∧ s'.monitor.unsent = []) ∨
      (s'.monitor.watched = rest ∧ s'.monitor.unsent.length ≤ 1 ∧
        ∀ o ∈ s'.monitor.unsent, o.BuiltFrom mint h)

theorem Evaluates.emit {s : Bot p} {mint : Mint} {h : Holding}
    {rest : List (Mint × Holding)} {positions : Positions} {mon : Monitor p}
    (hentry : s.monitor.watched = (mint, h) :: rest) (hunsent : s.monitor.unsent = [])
    (hmarks : s.monitor.marks = none) (hkeeps : s.positions.KeepsTrade positions)
    (hwatched : mon.watched = rest) (hmon : mon.marks = none)
    (hle : mon.unsent.length ≤ 1) (hbuilt : ∀ o ∈ mon.unsent, o.BuiltFrom mint h) :
    Evaluates s { s with positions := positions, monitor := mon } mint h rest :=
  ⟨hentry, hunsent, ⟨hmarks, hmon⟩, hkeeps, rfl, rfl, rfl, rfl,
    .inr ⟨hwatched, hle, hbuilt⟩⟩

theorem tickPrice_inv {s s' : Bot p} {reading : PriceReading} {now : Int}
    (hstep : s.tickPrice reading now = some s') :
    ∃ mint h rest, Evaluates s s' mint h rest := by
  simp only [tickPrice] at hstep
  split at hstep
  case h_2 => cases hstep
  case h_1 cfg mint h rest hmon =>
    refine ⟨mint, h, rest, ?_⟩
    have hentry : s.monitor.watched = (mint, h) :: rest := by rw [hmon]; rfl
    have hunsent : s.monitor.unsent = [] := by rw [hmon]; rfl
    have hmarks : s.monitor.marks = none := by rw [hmon]; rfl
    have passed {positions : Positions} (hk : s.positions.KeepsTrade positions) :
        Evaluates s { s with positions := positions, monitor := .proceed cfg rest }
          mint h rest :=
      .emit hentry hunsent hmarks hk (by simp) (by simp) (by simp) (by simp)
    cases reading with
    | error text =>
        cases hstep
        split
        · exact passed (Positions.keepsTrade_markMigrated mint s.positions)
        · exact passed (.refl _)
    | price price =>
        simp only at hstep
        split at hstep
        · cases hstep
          exact passed (Positions.keepsTrade_markMigrated mint s.positions)
        · split at hstep
          · cases hstep
            exact passed (.refl _)
          · have hwater := Positions.keepsTrade_setHighWatermark mint
              (h.watermarkAt price) s.positions
            split at hstep
            case h_1 order horder =>
              cases hstep
              refine .emit hentry hunsent hmarks hwater rfl rfl (le_refl _) ?_
              intro o ho
              cases List.mem_singleton.mp ho
              exact trailingStopOrder_builtFrom horder
            case h_2 =>
              split at hstep <;> cases hstep
              · exact ⟨hentry, hunsent, ⟨hmarks, rfl⟩, hwater, rfl, rfl, rfl, rfl,
                  .inl ⟨rfl, rfl⟩⟩
              · refine .emit hentry hunsent hmarks hwater (by simp) (by simp) ?_ ?_
                · rw [Monitor.unsent_emit]
                  exact levelOrders_length_le cfg mint h price
                · rw [Monitor.unsent_emit]
                  exact fun o ho => levelOrders_builtFrom ho

theorem tickCurve_inv {s s' : Bot p} {liquidity : Option ℚ}
    (hstep : s.tickCurve liquidity = some s') :
    ∃ mint h rest, Evaluates s s' mint h rest := by
  simp only [tickCurve] at hstep
  split at hstep
  case h_2 => cases hstep
  case h_1 cfg mint h price rest hmon =>
    refine ⟨mint, h, rest, ?_⟩
    have hentry : s.monitor.watched = (mint, h) :: rest := by rw [hmon]; rfl
    have hunsent : s.monitor.unsent = [] := by rw [hmon]; rfl
    have hmarks : s.monitor.marks = none := by rw [hmon]; rfl
    have hkeeps := Positions.keepsTrade_noteLiquidity mint h liquidity s.positions
    split at hstep <;> cases hstep
    case h_1 order horder =>
      refine .emit hentry hunsent hmarks hkeeps rfl rfl (le_refl _) ?_
      intro o ho
      cases List.mem_singleton.mp ho
      exact rugOrder_builtFrom horder
    case h_2 =>
      refine .emit hentry hunsent hmarks hkeeps (by simp) (by simp) ?_ ?_
      · rw [Monitor.unsent_emit]
        exact levelOrders_length_le cfg mint h price
      · rw [Monitor.unsent_emit]
        exact fun o ho => levelOrders_builtFrom ho

theorem tickSend_inv {s s' : Bot p} (hstep : s.tickSend = some s') :
    ∃ cfg order later rest, s.monitor = .sending cfg order later rest ∧
      s' = { s with
        orders := s.orders ++ [⟨order, none⟩]
        monitor := .marking cfg order.mint later rest } := by
  simp only [tickSend] at hstep
  split at hstep
  case h_1 cfg order later rest hmon =>
    simp only [Option.ite_none_right_eq_some] at hstep
    cases hstep.2
    exact ⟨cfg, order, later, rest, hmon, rfl⟩
  case h_2 => cases hstep

theorem tickMark_inv {s s' : Bot p} (hstep : s.tickMark = some s') :
    ∃ cfg mint later rest, s.monitor = .marking cfg mint later rest ∧
      s' = { s with
        positions := s.positions.setPendingSell mint
        monitor := .emit cfg rest later } := by
  simp only [tickMark] at hstep
  split at hstep
  case h_1 cfg mint later rest hmon =>
    cases hstep
    exact ⟨cfg, mint, later, rest, hmon, rfl⟩
  case h_2 => cases hstep

theorem execRecv_inv {s s' : Bot p} (hstep : s.execRecv = some s') :
    ∃ queued rest, s.executor = .idle ∧ s.orders = queued :: rest ∧
      s' = { s with orders := rest, executor := .checking queued } := by
  simp only [execRecv] at hstep
  split at hstep
  case h_1 queued rest hidle horders =>
    cases hstep
    exact ⟨queued, rest, hidle, horders, rfl⟩
  case h_2 => cases hstep

theorem execCheck_inv {s s' : Bot p} (hstep : s.execCheck = some s') :
    ∃ queued, s.executor = .checking queued ∧
      ((∃ h, s.positions.lookup queued.order.mint = some h) ∧
          s' = { s with executor := .selling queued, log := .started queued :: s.log } ∨
        s.positions.lookup queued.order.mint = none ∧
          s' = { s with executor := .idle }) := by
  simp only [execCheck] at hstep
  split at hstep
  case h_1 queued hexec =>
    refine ⟨queued, hexec, ?_⟩
    split at hstep <;> cases hstep
    case isTrue hopen => exact .inl ⟨Option.isSome_iff_exists.mp hopen, rfl⟩
    case isFalse hclosed =>
      exact .inr ⟨by simpa [Positions.hasPosition] using hclosed, rfl⟩
  case h_2 => cases hstep

theorem execFinish_inv {s s' : Bot p} {outcome : SellOutcome}
    (hstep : s.execFinish outcome = some s') :
    ∃ queued, s.executor = .selling queued ∧
      s' = { s with
        positions := s.positions.settle queued.order outcome
        disk :=
          if outcome = .executed then s.positions.settle queued.order outcome else s.disk
        executor := .idle
        log := .finished queued outcome :: s.log } := by
  simp only [execFinish] at hstep
  split at hstep
  case h_1 queued hexec =>
    cases hstep
    exact ⟨queued, hexec, rfl⟩
  case h_2 => cases hstep

end Bot

end Girasol
