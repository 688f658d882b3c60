import Girasol.Bot.Entries
import Girasol.Bot.Tradable
import Girasol.Bot.TrailingStop

/-!
# The watermark along the prices of a position

The monitor reads the watermark from a snapshot and writes it back to the
position.  For as long as one position stays open, what it has stored is the
highest price it was evaluated at, and the trailing stop goes by that price.
-/

namespace Girasol

open Foundation

variable {p : Platform}

/-! ## The highest price so far -/

section

variable {α : Type*} [LinearOrder α]

def raise (highest : Option α) (price : α) : Option α := some (max (highest.getD price) price)

private theorem foldl_raise_some (highest : α) (prices : List α) :
    prices.foldl raise (some highest) = some (prices.foldl max highest) := by
  induction prices generalizing highest with
  | nil => rfl
  | cons price prices ih => exact ih (max highest price)

theorem foldl_raise_none (prices : List α) : prices.foldl raise none = prices.max? := by
  cases prices with
  | nil => rfl
  | cons price prices =>
      rw [List.foldl_cons, List.max?_cons', ← foldl_raise_some]
      simp [raise]

theorem max?_le_append {before after : List α} {low high : α} (hlow : before.max? = some low)
    (hhigh : (before ++ after).max? = some high) : low ≤ high := by
  apply (List.max?_le_iff hhigh).mp le_rfl
  exact List.mem_append_left after (List.max?_mem hlow)

end

/-! ## Observations -/

/-- One evaluation of a position: the distance in force, the price, and whether the stop fires. -/
structure Observation where
  trailingStopBps : Nat
  price : ℚ
  stops : Bool
  deriving DecidableEq

def SellReason.isTrailingStop : SellReason → Bool
  | .trailingStop _ => true
  | .takeProfit _ | .stopLoss _ | .rugDetected _ | .mirrorSell => false

/-- The monitor is about to queue the order of a trailing stop. -/
def Monitor.stops : Monitor p → Bool
  | .sending _ order _ _ => order.reason.isTrailingStop
  | .idle | .ticking _ _ | .probing _ _ _ _ _ | .marking _ _ _ _ | .revalidating _ _ => false

namespace Bot

def observation (mint : Mint) (s s' : Bot p) : Event p → Option Observation
  | .tickPrice (.price price) _ =>
      match s.monitor with
      | .ticking cfg ((m, seen) :: _) =>
          if m = mint ∧ 0 < price ∧ 0 < seen.buyPrice then
            some ⟨cfg.val.trailingStopBps, price, s'.monitor.stops⟩
          else none
      | _ => none
  | _ => none

/-- The evaluations of a mint along a run. -/
def observations (mint : Mint) : Bot p → List (Event p) → List Observation :=
  gather Bot.step fun s e s' => (observation mint s s' e).toList

/-- No buy of the mint is registered: the position is neither enlarged nor opened again. -/
def OnePosition (mint : Mint) (s : Bot p) : Event p → Prop
  | .buyRegister task => ∀ buy ∈ s.buys[task]?, buy.detected.mint ≠ mint
  | _ => True

instance (mint : Mint) (s : Bot p) (e : Event p) : Decidable (OnePosition mint s e) := by
  induction e using Event.casesOn with
  | buyRegister task =>
      exact inferInstanceAs (Decidable (∀ buy ∈ s.buys[task]?, buy.detected.mint ≠ mint))
  | _ => exact isTrue trivial

structure Watermarked (mint : Mint) (entry : ℚ) (highest : Option ℚ) (s : Bot p) : Prop where
  stored : ∀ h, s.positions.lookup mint = some h →
    h.buyPrice = entry ∧ h.highWatermark = highest
  seen : ∀ h, (mint, h) ∈ s.monitor.upcoming → h.buyPrice = entry ∧ h.highWatermark = highest
  once : (s.monitor.upcoming.map Prod.fst).count mint ≤ 1

variable {s s' t : Bot p} {mint : Mint} {entry : ℚ} {highest : Option ℚ}

/-! ## One step -/

private theorem stops_emit {r : Rounding} {cfg : ValidSettings p} {seen : Holding} {price : ℚ}
    {now : Int} {liquidity : Option ℚ} {rest : List (Mint × Holding)} :
    (Monitor.emit cfg rest (tickOrders r cfg.val mint seen price now liquidity)).stops =
      trailingStopTriggered r (seen.watermarkAt price) seen.buyPrice price
        cfg.val.trailingStopBps := by
  have hproceed : (Monitor.proceed cfg rest : Monitor p).stops = false := by
    cases rest <;> rfl
  unfold tickOrders
  cases htriggered : trailingStopTriggered r (seen.watermarkAt price) seen.buyPrice price
      cfg.val.trailingStopBps with
  | true =>
      simp only [trailingStopOrder, htriggered, if_true, Option.some_or]
      rfl
  | false =>
      simp only [trailingStopOrder, htriggered, Bool.false_eq_true, if_false, Option.none_or]
      cases hrug : watchedRugOrder r cfg.val mint seen price now liquidity with
      | some order =>
          simp only [watchedRugOrder, rugOrder, Option.ite_none_right_eq_some,
            Option.map_eq_some_iff] at hrug
          obtain ⟨-, drop, -, rfl⟩ := hrug
          rfl
      | none =>
          dsimp only
          cases horders : levelOrders r cfg.val mint seen price with
          | nil => exact hproceed
          | cons order later =>
              have hreason := reason_of_mem_levelOrders
                (horders ▸ List.mem_cons_self : order ∈ levelOrders r cfg.val mint seen price)
              change order.reason.isTrailingStop = false
              cases hcase : order.reason with
              | trailingStop drop => exact absurd hcase (hreason drop)
              | takeProfit | stopLoss | rugDetected | mirrorSell => rfl

theorem Watermarked.observed {o : Observation} {e : Event p}
    (hs : s.Watermarked mint entry highest) (hstep : s.step e = some s')
    (hobserved : observation mint s s' e = some o) :
    s'.Watermarked mint entry (raise highest o.price) ∧ 0 < entry ∧
      o.stops = trailingStopTriggered p.rounding ((raise highest o.price).getD 0) entry o.price
        o.trailingStopBps := by
  cases e with
  | tickPrice reading now =>
      change s.tickPrice reading now = some s' at hstep
      obtain ⟨cfg, m, seen, rest, hticking⟩ := tickPrice_ticking hstep
      cases reading with
      | error text => cases hobserved
      | price price =>
          simp only [observation, hticking, Option.ite_none_right_eq_some] at hobserved
          obtain ⟨⟨rfl, hprice, hbuy⟩, hobserved⟩ := hobserved
          cases hobserved
          have hupcoming : s.monitor.upcoming = (m, seen) :: rest := by
            rw [hticking]
            rfl
          obtain ⟨rfl, rfl⟩ := hs.seen seen (by rw [hupcoming]; exact List.mem_cons_self)
          have hlast : m ∉ rest.map Prod.fst := by
            have honce := hs.once
            rw [hupcoming, List.map_cons, List.count_cons_self] at honce
            exact List.count_eq_zero.mp (by omega)
          have hrest := upcoming_tickPrice hticking hstep
          obtain ⟨monitor, rfl, hmonitor⟩ := tickPrice_evaluates hticking hprice hbuy hstep
          refine ⟨⟨?_, ?_, ?_⟩, hbuy, ?_⟩
          · intro h hlook
            simp only [Positions.setHighWatermark, Store.lookup_update_self] at hlook
            obtain ⟨old, hold, heq⟩ := Option.bind_eq_some_iff.mp hlook
            cases heq
            exact ⟨(hs.stored old hold).1, rfl⟩
          · intro h hmem
            rw [hrest] at hmem
            exact absurd (List.mem_map_of_mem hmem) hlast
          · rw [hrest, List.count_eq_zero.mpr hlast]
            exact zero_le_one
          · obtain ⟨rfl, htrailing, -⟩ | hemit := hmonitor
            · simp only [trailingStopOrder, ite_eq_right_iff, reduceCtorEq, imp_false,
                Bool.not_eq_true] at htrailing
              exact htrailing.symm
            · rw [hemit none]
              exact stops_emit
  | _ => cases hobserved

theorem Watermarked.unobserved {e : Event p} (hs : s.Watermarked mint entry highest)
    (hone : OnePosition mint s e) (hstep : s.step e = some s')
    (hnone : observation mint s s' e = none) : s'.Watermarked mint entry highest := by
  have hstored : ∀ h, s'.positions.lookup mint = some h →
      h.buyPrice = entry ∧ h.highWatermark = highest := by
    intro h' hlook'
    have hentry := step_entry hstep mint
    rw [hlook'] at hentry
    generalize hlook : s.positions.lookup mint = before at hentry
    generalize hafter : some h' = after at hentry
    cases hentry with
    | kept => exact hs.stored h' (hlook.trans hafter.symm)
    | removed => cases hafter
    | noted e h migrated pendingSell liquidity hbefore =>
        cases hafter
        exact hs.stored h (hlook.trans hbefore)
    | evaluated h seen cfg rest price now hbefore hticking hprice hbuy =>
        simp [observation, hticking, hprice, hbuy] at hnone
    | sold h queued hbefore hexec hmint =>
        have hold := hs.stored h (hlook.trans hbefore)
        exact ⟨(Holding.afterSell_buyPrice hafter.symm).trans hold.1,
          (Holding.afterSell_highWatermark hafter.symm).trans hold.2⟩
    | accumulated h task detected result hbefore hbuy hmint =>
        exact absurd hmint (hone _ hbuy)
    | opened task detected result hbuy hmint => exact absurd hmint (hone _ hbuy)
  by_cases hstart : ∃ order, e = .tickStart order
  · obtain ⟨order, rfl⟩ := hstart
    obtain ⟨hpositions, hnodup, hsnapshot⟩ := upcoming_tickStart hstep
    refine ⟨hstored, ?_, List.nodup_iff_count_le_one.mp hnodup mint⟩
    intro h hmem
    exact hs.stored h (hsnapshot mint h hmem)
  · have hsuffix := upcoming_suffix hstep fun order heq => hstart ⟨order, heq⟩
    refine ⟨hstored, fun h hmem => hs.seen h (hsuffix.subset hmem), ?_⟩
    exact ((hsuffix.sublist.map Prod.fst).count_le mint).trans hs.once

/-! ## A whole run -/

/-- The condition of the trailing stop on the prices up to an evaluation. -/
def StopDue (entry : ℚ) (highest : Option ℚ) (o : Observation) : Prop :=
  ∃ high ∈ highest, entry < high ∧ 0 < o.trailingStopBps ∧
    o.price ≤ high * (1 - o.trailingStopBps / 10000)

private theorem stops_iff {o : Observation} (hexact : p.rounding = .exact) (hentry : 0 < entry)
    (hstops : o.stops = trailingStopTriggered p.rounding ((raise highest o.price).getD 0) entry
      o.price o.trailingStopBps) :
    o.stops = true ↔ StopDue entry (raise highest o.price) o := by
  rw [hstops, hexact, trailingStopTriggered_exact_iff hentry]
  simp only [StopDue, raise, Option.getD_some, Option.mem_some_iff, exists_eq_left']
  exact and_left_comm

theorem Watermarked.run (hexact : p.rounding = .exact) {es : List (Event p)}
    (hrun : Run Bot.step (OnePosition mint) s es t) (hs : s.Watermarked mint entry highest) :
    t.Watermarked mint entry (((observations mint s es).map Observation.price).foldl raise highest) ∧
      ∀ (k : Nat) (o : Observation), (observations mint s es)[k]? = some o →
        (o.stops = true ↔ StopDue entry
          ((((observations mint s es).map Observation.price).take (k + 1)).foldl raise highest)
          o) := by
  induction hrun generalizing highest with
  | nil s => exact ⟨hs, by simp [observations, gather]⟩
  | @cons s s' t e es hone hstep hrest ih =>
      rw [observations, gather_cons hstep]
      cases hobserved : observation mint s s' e with
      | none => exact ih (hs.unobserved hone hstep hobserved)
      | some first =>
          obtain ⟨hs', hentry, hstops⟩ := hs.observed hstep hobserved
          obtain ⟨hlast, hlater⟩ := ih hs'
          refine ⟨hlast, ?_⟩
          intro k o ho
          cases k with
          | zero =>
              cases ho
              exact stops_iff hexact hentry hstops
          | succ k => exact hlater k o ho

/-- A position that was just opened, and that no tick has seen yet. -/
structure JustOpened (mint : Mint) (opened : Holding) (s : Bot p) : Prop where
  stored : s.positions.lookup mint = some opened
  unpriced : opened.highWatermark = none
  unseen : ∀ h, (mint, h) ∉ s.monitor.upcoming

theorem JustOpened.watermarked {opened : Holding} (hs : s.JustOpened mint opened) :
    s.Watermarked mint opened.buyPrice none where
  stored h hlook := by
    obtain rfl : opened = h := Option.some.inj (hs.stored.symm.trans hlook)
    exact ⟨rfl, hs.unpriced⟩
  seen h hmem := absurd hmem (hs.unseen h)
  once := by
    have hnone : mint ∉ s.monitor.upcoming.map Prod.fst := by
      intro hmem
      obtain ⟨⟨m, h⟩, hentry, rfl⟩ := List.mem_map.mp hmem
      exact hs.unseen h hentry
    rw [List.count_eq_zero.mpr hnone]
    exact zero_le_one

/--
As long as one position is open and not enlarged, its watermark is the highest
price of its evaluations and never falls.  The trailing stop fires at the
evaluations, and so first at the first of them, where that highest price exceeds
the entry price and the current price has fallen the configured distance below.
-/
theorem watermark_highest (hexact : p.rounding = .exact) (mint : Mint) (opened : Holding)
    (s : Bot p) (hopened : s.JustOpened mint opened) (es : List (Event p)) (t : Bot p)
    (hrun : Run Bot.step (OnePosition mint) s es t) :
    (∀ h, t.positions.lookup mint = some h →
        h.highWatermark = ((observations mint s es).map Observation.price).max?) ∧
      (∀ (before after : List (Event p)) (mid : Bot p), es = before ++ after →
        Run Bot.step (OnePosition mint) s before mid →
        ∀ h h', mid.positions.lookup mint = some h → t.positions.lookup mint = some h' →
          ∀ low ∈ h.highWatermark, ∃ high ∈ h'.highWatermark, low ≤ high) ∧
      {k | ∃ o, (observations mint s es)[k]? = some o ∧ o.stops = true} =
        {k | ∃ o, (observations mint s es)[k]? = some o ∧ StopDue opened.buyPrice
          (((observations mint s es).map Observation.price).take (k + 1)).max? o} := by
  have hstored {es : List (Event p)} {t : Bot p}
      (hrun : Run Bot.step (OnePosition mint) s es t) (h : Holding)
      (hlook : t.positions.lookup mint = some h) :
      h.highWatermark = ((observations mint s es).map Observation.price).max? := by
    rw [← foldl_raise_none]
    exact ((hopened.watermarked.run hexact hrun).1.stored h hlook).2
  refine ⟨hstored hrun, ?_, ?_⟩
  · rintro before after mid rfl hbefore h h' hlook hlook' low hlow
    have hhigh := hstored hrun h' hlook'
    rw [hstored hbefore h hlook] at hlow
    have happend : observations mint s (before ++ after) =
        observations mint s before ++ observations mint mid after := hbefore.gather_append
    rw [happend, List.map_append] at hhigh
    cases hmax : h'.highWatermark with
    | none =>
        rw [hmax] at hhigh
        rw [(List.append_eq_nil_iff.mp (List.max?_eq_none_iff.mp hhigh.symm)).1] at hlow
        cases hlow
    | some high => exact ⟨high, rfl, max?_le_append hlow (hhigh.symm.trans hmax)⟩
  · ext k
    simp only [Set.mem_ofPred_eq, ← foldl_raise_none]
    refine exists_congr fun o => and_congr_right fun ho => ?_
    exact (hopened.watermarked.run hexact hrun).2 k o ho

/-! ## A fall by a quarter -/

theorem trailing_valid :
    { Settings.plain with trailingStopBps := 2500 }.validate .plain = .ok () :=
  Settings.plain_valid

def trailing : Bot .plain := start ⟨_, trailing_valid⟩ false .single

def tickAt (price : ℚ) : List (Event .plain) := [.tickStart ["mint"], .tickPrice (.price price) 0]

theorem watermark_highest_quarter :
    ∃ t, Run Bot.step (OnePosition "mint") trailing (tickAt (6 / 5) ++ tickAt (9 / 10)) t ∧
      (∀ h, t.positions.lookup "mint" = some h → h.highWatermark = some (6 / 5)) ∧
      ∃ o, (observations "mint" trailing (tickAt (6 / 5) ++ tickAt (9 / 10)))[1]? = some o ∧
        StopDue 1 (some (6 / 5)) o := by
  have hexec : (exec Bot.step (OnePosition "mint") trailing
      (tickAt (6 / 5) ++ tickAt (9 / 10))).map (fun t => t.monitor.stops) = some true := by
    decide +kernel
  have hseen : observations "mint" trailing (tickAt (6 / 5) ++ tickAt (9 / 10)) =
      [⟨2500, 6 / 5, false⟩, ⟨2500, 9 / 10, true⟩] := by
    decide +kernel
  have hhighest : [(6 / 5 : ℚ), 9 / 10].max? = some (6 / 5) := by decide +kernel
  obtain ⟨t, hrun, -⟩ := exists_run_of_exec hexec
  have hopened : trailing.JustOpened "mint" .plain := ⟨by decide, rfl, by simp [trailing, start,
    Monitor.upcoming]⟩
  obtain ⟨hstored, -, hstops⟩ := watermark_highest rfl "mint" .plain trailing hopened _ t hrun
  rw [hseen] at hstored hstops ⊢
  refine ⟨t, hrun, fun h hlook => (hstored h hlook).trans hhighest, ?_⟩
  have hsecond : 1 ∈ {k | ∃ o, [(⟨2500, 6 / 5, false⟩ : Observation),
      ⟨2500, 9 / 10, true⟩][k]? = some o ∧ o.stops = true} := ⟨_, rfl, rfl⟩
  rw [hstops] at hsecond
  obtain ⟨o, ho, hdue⟩ := hsecond
  refine ⟨o, ho, ?_⟩
  rw [← hhighest]
  exact hdue

end Bot

end Girasol
