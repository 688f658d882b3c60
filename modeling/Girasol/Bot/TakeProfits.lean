import Girasol.Bot.InFlight
import Girasol.Bot.Registration
import Mathlib.Algebra.BigOperators.Group.Finset.Basic
import Mathlib.Algebra.Order.BigOperators.Group.Finset

/-!
# What the take-profit levels leave of a position

Each level sells its percentage of the amount that the last buy made up, rounded
down to whole tokens.  A buy that adds to a position keeps the marks, so that the
levels already sold have no part in what is added.
-/

namespace Girasol

open Foundation

variable {p : Platform}

/-! ## Shares of an amount -/

theorem sum_insert_sdiff_le {ι : Type*} [DecidableEq ι] (marks spent : Finset ι) (size : ι → Nat)
    (i : ι) :
    ∑ j ∈ insert i marks \ spent, size j ≤
      ∑ j ∈ marks \ spent, size j + if i ∈ spent then 0 else size i := by
  split
  case isTrue hspent =>
    rw [Finset.insert_sdiff_of_mem marks hspent, add_zero]
  case isFalse hspent =>
    rw [Finset.insert_sdiff_of_notMem marks hspent]
    by_cases hmem : i ∈ marks \ spent
    · rw [Finset.insert_eq_of_mem hmem]
      exact Nat.le_add_right _ _
    · rw [Finset.sum_insert hmem, add_comm]

def tpSize (r : Rounding) (tpLevels : List TpLevel) (amount i : Nat) : Nat :=
  (tpLevels[i]?.map fun level => levelSize r amount level.sellPercent).getD 0

/--
What the levels are shares of: the amount of the position when it was opened or
last added to.  The levels that were sold by then have no part in it, nor have
those whose orders were made for the position as it was before.
-/
structure Sizing where
  amount : Nat
  marked : Finset Nat
  late : Finset Nat
  /-- The tick under way has seen the position as it was before. -/
  stale : Bool
  deriving DecidableEq

namespace Sizing

def opened (amount : Nat) : Sizing := ⟨amount, ∅, ∅, false⟩

/-- The levels without a part in the amount. -/
def spent (z : Sizing) : Finset Nat := z.marked ∪ z.late

end Sizing

def SellOrder.takeProfitIndex (o : SellOrder) : Option Nat :=
  match o.level with
  | some (.takeProfit i) => some i
  | some (.stopLoss _) | none => none

@[simp] theorem SellOrder.takeProfitIndex_eq_some {o : SellOrder} {i : Nat} :
    o.takeProfitIndex = some i ↔ o.level = some (.takeProfit i) := by
  unfold takeProfitIndex
  cases o.level with
  | none => simp
  | some l => cases l <;> simp

structure Holding.Shared (r : Rounding) (tpLevels : List TpLevel) (z : Sizing) (sold : List Nat)
    (h : Holding) : Prop where
  original : h.originalAmount = z.amount
  left : h.amount + ∑ i ∈ h.triggeredTpLevels.toFinset \ z.spent, tpSize r tpLevels z.amount i ≤
    z.amount
  remains : ∀ i ∈ h.triggeredTpLevels, i ∉ z.spent → 0 < h.amount
  marks : ∀ i ∈ sold, i ∈ h.triggeredTpLevels

namespace Holding

private theorem markLevel_originalAmount (reason : SellReason) (i : Nat) (h : Holding) :
    (h.markLevel reason i).originalAmount = h.originalAmount := by
  cases reason <;> rfl

variable {r : Rounding} {tpLevels : List TpLevel} {z : Sizing} {sold : List Nat} {h h' : Holding}

private theorem toFinset_afterSell {o : SellOrder}
    (heq : h.afterSell o.amount o.reason o.levelIndex = some h') :
    h'.triggeredTpLevels.toFinset = match o.takeProfitIndex with
      | some i => insert i h.triggeredTpLevels.toFinset
      | none => h.triggeredTpLevels.toFinset := by
  have hmarks (j : Nat) := SellOrder.marked_afterSell heq (l := .takeProfit j)
  simp only [marked, ← SellOrder.takeProfitIndex_eq_some] at hmarks
  ext j
  cases hindex : o.takeProfitIndex with
  | none => simp [hmarks, hindex]
  | some i => simp [hmarks, hindex, or_comm, eq_comm]

theorem Shared.afterSell {o : SellOrder} (hs : h.Shared r tpLevels z sold)
    (hsize : ∀ i, o.takeProfitIndex = some i → i ∉ z.spent →
      tpSize r tpLevels z.amount i ≤ o.amount)
    (heq : h.afterSell o.amount o.reason o.levelIndex = some h') :
    h'.Shared r tpLevels z (sold ++ o.takeProfitIndex.toList) := by
  have hmarks (j : Nat) := SellOrder.marked_afterSell heq (l := .takeProfit j)
  simp only [marked, ← SellOrder.takeProfitIndex_eq_some] at hmarks
  have hset := toFinset_afterSell heq
  obtain ⟨hlt, rfl⟩ := afterSell_inv heq
  have hleft := hs.left
  refine ⟨?_, ?_, ?_, ?_⟩
  · rw [markLevel_originalAmount]
    exact hs.original
  · rw [hset, markLevel_amount]
    cases hindex : o.takeProfitIndex with
    | none =>
        dsimp only
        omega
    | some i =>
        have hsum := sum_insert_sdiff_le h.triggeredTpLevels.toFinset z.spent
          (tpSize r tpLevels z.amount) i
        dsimp only
        split at hsum
        case isTrue => omega
        case isFalse hfresh =>
          have hcovers := hsize i hindex hfresh
          omega
  · intro _ _ _
    rw [markLevel_amount]
    exact Nat.sub_pos_of_lt hlt
  · intro j hj
    rw [hmarks j]
    obtain hj | hj := List.mem_append.mp hj
    · exact .inl (hs.marks j hj)
    · exact .inr (Option.mem_toList.mp hj)

theorem Shared.accumulated {amount : Nat} {price : ℚ} {cost : Option ℚ} {late : Finset Nat}
    {stale : Bool} (hs : h.Shared r tpLevels z sold) :
    (h.accumulated r amount price cost).Shared r tpLevels
      ⟨u64Add h.amount amount, h.triggeredTpLevels.toFinset, late, stale⟩ sold where
  original := rfl
  left := by
    change u64Add h.amount amount + ∑ i ∈ h.triggeredTpLevels.toFinset \ (_ ∪ late), _ ≤ _
    rw [Finset.sdiff_eq_empty_iff_subset.mpr Finset.subset_union_left, Finset.sum_empty, add_zero]
  remains i hi hfresh :=
    absurd (Finset.mem_union_left _ (List.mem_toFinset.mpr hi)) hfresh
  marks := hs.marks

theorem Shared.mono {z' : Sizing} (hs : h.Shared r tpLevels z sold)
    (hamount : z'.amount = z.amount) (hspent : z.spent ⊆ z'.spent) :
    h.Shared r tpLevels z' sold where
  original := hs.original.trans hamount.symm
  left := by
    have hsub : h.triggeredTpLevels.toFinset \ z'.spent ⊆ h.triggeredTpLevels.toFinset \ z.spent :=
      Finset.sdiff_subset_sdiff (Finset.Subset.refl _) hspent
    have hsum := Finset.sum_le_sum_of_subset (f := tpSize r tpLevels z.amount) hsub
    have hleft := hs.left
    rw [hamount]
    omega
  remains i hi hfresh := hs.remains i hi fun hmem => hfresh (hspent hmem)
  marks := hs.marks

end Holding

/-! ## The account along a run -/

namespace Bot

def takeProfitsOf (mint : Mint) (orders : List SellOrder) : Finset Nat :=
  ((orders.filter fun o => o.mint = mint).filterMap SellOrder.takeProfitIndex).toFinset

def watches (s : Bot p) (mint : Mint) : Bool :=
  s.monitor.entries.any fun entry => entry.2.1 == mint

/--
What a step makes of the sizing: a buy that adds to the position renews it, and
an order that a tick makes for the position as it was before is late.
-/
def resize (mint : Mint) (s : Bot p) (z : Sizing) (e : Event p) (s' : Bot p) : Sizing :=
  match e with
  | .buyRegister task =>
      match s.buys[task]?, s.positions.lookup mint with
      | some ⟨detected, .registering true result⟩, some h =>
          if detected.mint = mint then
            { amount := u64Add h.amount result.holding.amount
              marked := h.triggeredTpLevels.toFinset
              late := takeProfitsOf mint s.ordersUnderWay
              stale := s.watches mint }
          else z
      | _, _ => z
  | .tickStart _ => { z with stale := false }
  | .tickPrice _ _ | .tickCurve _ =>
      if z.stale then { z with late := z.late ∪ takeProfitsOf mint s'.monitor.unsent } else z
  | _ => z

/-- The sizing of a position after a run. -/
def sizingAfter (mint : Mint) : Sizing → Bot p → List (Event p) → Sizing
  | z, _, [] => z
  | z, s, e :: es =>
      match s.step e with
      | none => z
      | some s' => sizingAfter mint (s.resize mint z e s') s' es

/-- A buy adds to a position while no order and no tick is about it. -/
def AddsAlone (mint : Mint) (s : Bot p) : Event p → Prop
  | .buyRegister task =>
      match s.buys[task]? with
      | some ⟨detected, .registering true _⟩ =>
          detected.mint = mint →
            takeProfitsOf mint s.ordersUnderWay = ∅ ∧ s.watches mint = false
      | _ => True
  | _ => True

def soldLevel (mint : Mint) (s : Bot p) : Event p → Option Nat
  | .execFinish .executed =>
      match s.executor with
      | .selling queued =>
          if queued.order.mint = mint then queued.order.takeProfitIndex else none
      | .idle | .checking _ => none
  | _ => none

/-- The take-profit levels of a mint whose orders were executed along a run. -/
def soldLevels (mint : Mint) : Bot p → List (Event p) → List Nat :=
  gather Bot.step fun s e _ => (s.soldLevel mint e).toList

/-- The run of one position: its mint is not opened again, and its levels stay as they are. -/
def OneExit (tpLevels : List TpLevel) (mint : Mint) (s : Bot p) : Event p → Prop
  | .reload cfg => cfg.val.tpLevels = tpLevels
  | .buyRegister task => s.openedBy task ≠ some mint
  | _ => True

instance (tpLevels : List TpLevel) (mint : Mint) (s : Bot p) (e : Event p) :
    Decidable (OneExit tpLevels mint s e) := by
  induction e using Event.casesOn with
  | reload cfg => exact inferInstanceAs (Decidable (cfg.val.tpLevels = tpLevels))
  | buyRegister task => exact inferInstanceAs (Decidable (s.openedBy task ≠ some mint))
  | _ => exact isTrue trivial

structure Exits (tpLevels : List TpLevel) (mint : Mint) (z : Sizing) (sold : List Nat)
    (s : Bot p) : Prop where
  settings : s.settings.val.tpLevels = tpLevels
  fits : z.amount ≤ u64Max
  shared : ∀ h, s.positions.lookup mint = some h → h.Shared p.rounding tpLevels z sold
  entries : ∀ cfg h, (cfg, mint, h) ∈ s.monitor.entries → cfg.val.tpLevels = tpLevels ∧
    (z.stale = true ∨ h.originalAmount = z.amount ∧
      ∀ now, s.positions.lookup mint = some now → now.amount ≤ h.amount)
  orders : ∀ o ∈ s.ordersUnderWay, o.mint = mint → ∀ i, o.takeProfitIndex = some i → i ∉ z.spent →
    tpSize p.rounding tpLevels z.amount i ≤ o.amount ∨
      ∀ now, s.positions.lookup mint = some now → now.amount ≤ o.amount

variable {s s' t : Bot p} {tpLevels : List TpLevel} {mint : Mint} {z z' : Sizing}
  {sold : List Nat}

theorem mem_takeProfitsOf {orders : List SellOrder} {o : SellOrder} {i : Nat}
    (ho : o ∈ orders) (hmint : o.mint = mint) (hi : o.takeProfitIndex = some i) :
    i ∈ takeProfitsOf mint orders := by
  simp only [takeProfitsOf, List.mem_toFinset, List.mem_filterMap, List.mem_filter,
    decide_eq_true_eq]
  exact ⟨o, ⟨ho, hmint⟩, hi⟩

theorem watches_of_mem {cfg : ValidSettings p} {h : Holding}
    (hmem : (cfg, mint, h) ∈ s.monitor.entries) : s.watches mint = true :=
  List.any_eq_true.mpr ⟨_, hmem, beq_self_eq_true mint⟩

structure Follows (mint : Mint) (e : Event p) (s s' : Bot p) (z z' : Sizing) : Prop where
  amount : z'.amount = z.amount
  spent : z.spent ⊆ z'.spent
  late : e.evaluates = true → z.stale = true → takeProfitsOf mint s'.monitor.unsent ⊆ z'.spent
  stale : z.stale = true → z'.stale = true ∨ s.monitor.entries = []

theorem Follows.refl {e : Event p} (he : e.evaluates = false) : Follows mint e s s' z z where
  amount := rfl
  spent := Finset.Subset.refl _
  late h := absurd h (by simp [he])
  stale h := .inl h

private theorem follows_evaluates {e : Event p} :
    Follows mint e s s' z
      (if z.stale then { z with late := z.late ∪ takeProfitsOf mint s'.monitor.unsent } else z) := by
  cases hstale : z.stale with
  | false =>
      simp only [Bool.false_eq_true, if_false]
      refine ⟨rfl, Finset.Subset.refl _, fun _ h => ?_, fun h => .inl h⟩
      rw [hstale] at h
      cases h
  | true =>
      simp only [if_true]
      refine ⟨rfl, ?_, fun _ _ => ?_, fun _ => .inl rfl⟩
      · exact Finset.union_subset_union_right Finset.subset_union_left
      · exact Finset.subset_union_right.trans Finset.subset_union_right

private theorem follows_resize {e : Event p} (hstep : s.step e = some s')
    (hbuy : ∀ task, e ≠ .buyRegister task) : Follows mint e s s' z (s.resize mint z e s') := by
  cases e with
  | buyRegister task => exact absurd rfl (hbuy task)
  | tickStart order =>
      obtain ⟨hidle, -, -⟩ := tickStart_inv hstep
      refine ⟨rfl, Finset.Subset.refl _, nofun, fun _ => .inr ?_⟩
      rw [hidle]
      rfl
  | tickPrice reading now => exact follows_evaluates
  | tickCurve liquidity => exact follows_evaluates
  | _ => exact .refl rfl

namespace Exits

private theorem made (hs : s.Exits tpLevels mint z sold) {o : SellOrder} (hmakes : s.Makes o)
    (hmint : o.mint = mint) {i : Nat} (hi : o.takeProfitIndex = some i)
    (hcurrent : z.stale = false) :
    tpSize p.rounding tpLevels z.amount i ≤ o.amount ∨
      ∀ now, s.positions.lookup mint = some now → now.amount ≤ o.amount := by
  obtain ⟨cfg, h, hentry, hsized⟩ := hmakes
  rw [hmint] at hentry
  obtain ⟨hcfg, hknown⟩ := hs.entries cfg h hentry
  obtain ⟨terms, hterms, hamount⟩ := hsized _ (SellOrder.takeProfitIndex_eq_some.mp hi)
  simp only [Settings.termsAt, hcfg] at hterms
  obtain ⟨level, hlevel, rfl⟩ := Option.map_eq_some_iff.mp hterms
  obtain hstale | ⟨horiginal, hbelow⟩ := hknown
  · rw [hcurrent] at hstale
    cases hstale
  · have hsize : tpSize p.rounding tpLevels z.amount i =
        levelSize p.rounding h.originalAmount level.sellPercent := by
      simp [tpSize, hlevel, horiginal]
    rw [hsize, hamount]
    simp only [LevelTerms.sellPercent]
    rcases min_choice (levelSize p.rounding h.originalAmount level.sellPercent) h.amount with
      hmin | hmin
    · exact .inl hmin.ge
    · right
      rw [hmin]
      exact hbelow

theorem keep {sold' : List Nat} {e : Event p} (hs : s.Exits tpLevels mint z sold)
    (hstep : s.step e = some s') (hfollows : Follows mint e s s' z z')
    (hsettings : s'.settings.val.tpLevels = tpLevels)
    (hshared : ∀ h, s'.positions.lookup mint = some h → h.Shared p.rounding tpLevels z sold')
    (hshrinks : ∀ now, s'.positions.lookup mint = some now →
      ∃ h, s.positions.lookup mint = some h ∧ now.amount ≤ h.amount) :
    s'.Exits tpLevels mint z' sold' := by
  have hbelow {amount : Nat}
      (hle : ∀ now, s.positions.lookup mint = some now → now.amount ≤ amount) :
      ∀ now, s'.positions.lookup mint = some now → now.amount ≤ amount := by
    intro now hlook
    obtain ⟨h, hold, hamount⟩ := hshrinks now hlook
    exact hamount.trans (hle h hold)
  refine ⟨hsettings, hfollows.amount ▸ hs.fits,
    fun h hlook => (hshared h hlook).mono hfollows.amount hfollows.spent, ?_, ?_⟩
  · intro cfg h hmem
    rw [hfollows.amount]
    obtain hmem | ⟨-, rfl, hlook⟩ := entries_step hstep hmem
    · obtain ⟨hcfg, hstale | ⟨horiginal, hle⟩⟩ := hs.entries cfg h hmem
      · refine ⟨hcfg, .inl ((hfollows.stale hstale).resolve_right fun hnone => ?_)⟩
        rw [hnone] at hmem
        cases hmem
      · exact ⟨hcfg, .inr ⟨horiginal, hbelow hle⟩⟩
    · refine ⟨hs.settings, .inr ⟨(hs.shared h hlook).original, hbelow ?_⟩⟩
      intro now hnow
      obtain rfl : h = now := Option.some.inj (hlook.symm.trans hnow)
      exact le_rfl
  · intro o ho hmint i hi hfresh
    rw [hfollows.amount]
    obtain ho | ⟨hevaluates, hunsent, hmakes⟩ | hnone := ordersUnderWay_step hstep ho
    · have hbefore : i ∉ z.spent := fun hmem => hfresh (hfollows.spent hmem)
      exact (hs.orders o ho hmint i hi hbefore).imp_right hbelow
    · cases hstale : z.stale with
      | true =>
          exact absurd (hfollows.late hevaluates hstale (mem_takeProfitsOf hunsent hmint hi)) hfresh
      | false => exact (hs.made hmakes hmint hi hstale).imp_right hbelow
    · rw [SellOrder.takeProfitIndex, hnone] at hi
      cases hi

theorem other {e : Event p} (hs : s.Exits tpLevels mint z sold)
    (hallowed : OneExit tpLevels mint s e) (hstep : s.step e = some s')
    (hsale : e ≠ .execFinish .executed) (hbuy : ∀ task, e ≠ .buyRegister task) :
    s'.Exits tpLevels mint (s.resize mint z e s') sold := by
  have hsame : ∀ now, s'.positions.lookup mint = some now → ∃ h,
      s.positions.lookup mint = some h ∧ now.amount = h.amount ∧
        now.Shared p.rounding tpLevels z sold := by
    intro now hnow
    have hentry := step_entry hstep mint
    rw [hnow] at hentry
    generalize hlook : s.positions.lookup mint = before at hentry
    generalize hafter : some now = after at hentry
    cases hentry with
    | kept => exact ⟨now, hafter.symm, rfl, hs.shared now (hlook.trans hafter.symm)⟩
    | removed => cases hafter
    | noted _ h migrated pendingSell liquidity hbefore =>
        cases hafter
        obtain ⟨horiginal, hleft, hremains, hmarks⟩ := hs.shared h (hlook.trans hbefore)
        exact ⟨h, hbefore, rfl, horiginal, hleft, hremains, hmarks⟩
    | evaluated h seen cfg rest price now hbefore =>
        cases hafter
        obtain ⟨horiginal, hleft, hremains, hmarks⟩ := hs.shared h (hlook.trans hbefore)
        exact ⟨h, hbefore, rfl, horiginal, hleft, hremains, hmarks⟩
    | sold => exact absurd rfl hsale
    | accumulated h task => exact absurd rfl (hbuy task)
    | opened task => exact absurd rfl (hbuy task)
  apply hs.keep hstep (follows_resize hstep hbuy)
  · by_cases hreload : ∃ cfg, e = .reload cfg
    · obtain ⟨cfg, rfl⟩ := hreload
      cases hstep
      exact hallowed
    · rw [Recorded.settings_of_step hstep fun cfg heq => hreload ⟨cfg, heq⟩]
      exact hs.settings
  · intro now hnow
    obtain ⟨h, -, -, hshared⟩ := hsame now hnow
    exact hshared
  · intro now hnow
    obtain ⟨h, hlook, hamount, -⟩ := hsame now hnow
    exact ⟨h, hlook, hamount.le⟩

private theorem sale (hs : s.Exits tpLevels mint z sold)
    (hstep : s.execFinish .executed = some s') :
    s'.Exits tpLevels mint z (sold ++ (s.soldLevel mint (.execFinish .executed)).toList) := by
  have hsettings : s'.settings = s.settings :=
    Recorded.settings_of_step (e := .execFinish .executed) hstep fun _ => nofun
  obtain ⟨queued, hexec, rfl⟩ := execFinish_inv hstep
  have hway : queued.order ∈ s.ordersUnderWay := by
    rw [mem_ordersUnderWay, hexec]
    exact .inl (List.mem_singleton_self _)
  apply hs.keep (e := .execFinish .executed) hstep (.refl rfl)
  · rw [hsettings]
    exact hs.settings
  · intro now hnow
    simp only [Positions.settle, Positions.updateAfterSell, Store.lookup_update] at hnow
    simp only [soldLevel, hexec]
    split at hnow
    case isFalse hne =>
      rw [if_neg (Ne.symm hne), Option.toList_none, List.append_nil]
      exact hs.shared now hnow
    case isTrue hmint =>
      rw [if_pos hmint.symm]
      obtain ⟨h, hlook, heq⟩ := Option.bind_eq_some_iff.mp hnow
      apply (hs.shared h hlook).afterSell ?_ heq
      intro i hi hfresh
      obtain hcovers | hall := hs.orders _ hway hmint.symm i hi hfresh
      · exact hcovers
      · exact absurd (hall h hlook) (not_le.mpr (Holding.afterSell_inv heq).1)
  · intro now hnow
    simp only [Positions.settle, Positions.updateAfterSell, Store.lookup_update] at hnow
    split at hnow
    case isFalse => exact ⟨now, hnow, le_rfl⟩
    case isTrue =>
      obtain ⟨h, hlook, heq⟩ := Option.bind_eq_some_iff.mp hnow
      rw [Holding.afterSell_amount heq]
      exact ⟨h, hlook, Nat.sub_le _ _⟩

private theorem enlarge {task : Nat} {detected : DetectedBuy} {result : Bought} {h : Holding}
    (hs : s.Exits tpLevels mint z sold) (hstep : s.buyRegister task = some s')
    (hbuy : s.buys[task]? = some ⟨detected, .registering true result⟩)
    (hmint : detected.mint = mint) (hlook : s.positions.lookup mint = some h) :
    s'.Exits tpLevels mint (s.resize mint z (.buyRegister task) s') sold := by
  have hs' : s' = { s.setPhase task (.releasing true) with
      positions := s.positions.accumulatePosition p.rounding detected.mint
        result.holding.amount result.holding.buyPrice result.holding.buyCostSol
      disk := s.positions.accumulatePosition p.rounding detected.mint
        result.holding.amount result.holding.buyPrice result.holding.buyCostSol
      log := .accumulated detected.mint :: s.log } := by
    simp only [buyRegister, hbuy, Option.some.injEq] at hstep
    exact hstep.symm
  have hresize : s.resize mint z (.buyRegister task) s' =
      ⟨u64Add h.amount result.holding.amount, h.triggeredTpLevels.toFinset,
        takeProfitsOf mint s.ordersUnderWay, s.watches mint⟩ := by
    simp only [resize, hbuy, hlook, if_pos hmint]
  rw [hresize, hs']
  refine ⟨hs.settings, ?_, ?_, ?_, ?_⟩
  · exact Nat.le_sub_one_of_lt (Nat.mod_lt _ (by decide))
  · intro now hnow
    simp only [Positions.accumulatePosition, hmint, Store.lookup_update_self, hlook,
      Option.bind_some, Option.some.injEq] at hnow
    subst hnow
    exact (hs.shared h hlook).accumulated
  · exact fun cfg seen hmem => ⟨(hs.entries cfg seen hmem).1, .inl (watches_of_mem hmem)⟩
  · exact fun o ho homint i hi hfresh =>
      absurd (Finset.mem_union_right _ (mem_takeProfitsOf ho homint hi)) hfresh

private theorem register {task : Nat} (hs : s.Exits tpLevels mint z sold)
    (hallowed : OneExit tpLevels mint s (.buyRegister task))
    (hstep : s.buyRegister task = some s') :
    s'.Exits tpLevels mint (s.resize mint z (.buyRegister task) s') sold := by
  have hsettings : s'.settings = s.settings :=
    Recorded.settings_of_step (e := .buyRegister task) hstep fun _ => nofun
  have hother (hlook' : s'.positions.lookup mint = s.positions.lookup mint)
      (hsame : s.resize mint z (.buyRegister task) s' = z) :
      s'.Exits tpLevels mint (s.resize mint z (.buyRegister task) s') sold := by
    rw [hsame]
    apply hs.keep (e := .buyRegister task) hstep (.refl rfl)
    · rw [hsettings]
      exact hs.settings
    · rw [hlook']
      exact hs.shared
    · rw [hlook']
      exact fun now hnow => ⟨now, hnow, le_rfl⟩
  obtain ⟨detected, result, ⟨hbuy, hs'⟩ | ⟨hbuy, hs'⟩⟩ := buyRegister_inv hstep
  · by_cases hmint : detected.mint = mint
    · cases hlook : s.positions.lookup mint with
      | some h => exact hs.enlarge hstep hbuy hmint hlook
      | none =>
          apply hother
          · rw [hs']
            simp [Positions.accumulatePosition, hmint, Store.lookup_update_self, hlook]
          · simp only [resize, hbuy, hlook]
    · apply hother
      · rw [hs']
        exact Store.lookup_update_ne (Ne.symm hmint) _ s.positions
      · cases hlook : s.positions.lookup mint with
        | none => simp only [resize, hbuy, hlook]
        | some h => simp only [resize, hbuy, hlook, if_neg hmint]
  · have hmint : detected.mint ≠ mint := by
      intro heq
      apply hallowed
      simp only [openedBy, hbuy, heq]
    apply hother
    · rw [hs']
      simp only [Positions.addPosition, Store.lookup_insert_eq, if_neg (Ne.symm hmint)]
    · simp only [resize, hbuy]

private theorem step {e : Event p} (hs : s.Exits tpLevels mint z sold)
    (hallowed : OneExit tpLevels mint s e) (hstep : s.step e = some s') :
    s'.Exits tpLevels mint (s.resize mint z e s') (sold ++ (s.soldLevel mint e).toList) := by
  by_cases hbuy : ∃ task, e = .buyRegister task
  · obtain ⟨task, rfl⟩ := hbuy
    have hsold : s.soldLevel mint (.buyRegister task) = none := rfl
    rw [hsold, Option.toList_none, List.append_nil]
    exact hs.register hallowed hstep
  by_cases hsale : e = .execFinish .executed
  · subst hsale
    exact hs.sale hstep
  have hsold : s.soldLevel mint e = none := by
    cases e with
    | execFinish outcome =>
        cases outcome with
        | executed => exact absurd rfl hsale
        | failed | skipped => rfl
    | _ => rfl
  rw [hsold, Option.toList_none, List.append_nil]
  exact hs.other hallowed hstep hsale fun task heq => hbuy ⟨task, heq⟩

theorem late_eq_empty {es : List (Event p)}
    (halone : Along Bot.step (fun s e _ => s.AddsAlone mint e) s es) (hlate : z.late = ∅)
    (hstale : z.stale = false) : (sizingAfter mint z s es).late = ∅ := by
  induction es generalizing s z with
  | nil => exact hlate
  | cons e es ih =>
      simp only [Along] at halone
      simp only [sizingAfter]
      cases hnext : s.step e with
      | none => exact hlate
      | some s' =>
          rw [hnext] at halone
          have hsame : (s.resize mint z e s').late = ∅ ∧ (s.resize mint z e s').stale = false := by
            unfold resize
            split
            case h_1 task =>
              split
              case h_1 detected result h hbuy hlook =>
                split
                case isTrue hmint =>
                  have hadds := halone.1
                  simp only [AddsAlone, hbuy] at hadds
                  exact hadds hmint
                case isFalse => exact ⟨hlate, hstale⟩
              case h_2 => exact ⟨hlate, hstale⟩
            case h_2 => exact ⟨hlate, rfl⟩
            case h_3 => simpa [hstale] using hlate
            case h_4 => simpa [hstale] using hlate
            case h_5 => exact ⟨hlate, hstale⟩
          exact ih halone.2 hsame.1 hsame.2

theorem run {es : List (Event p)} (hrun : Run Bot.step (OneExit tpLevels mint) s es t)
    (hs : s.Exits tpLevels mint z sold) :
    t.Exits tpLevels mint (sizingAfter mint z s es) (sold ++ soldLevels mint s es) := by
  induction hrun generalizing z sold with
  | nil s =>
      rw [soldLevels, gather, List.append_nil]
      exact hs
  | cons hallowed hstep hrest ih =>
      rw [soldLevels, gather_cons hstep, ← List.append_assoc]
      simp only [sizingAfter, hstep]
      exact ih (hs.step hallowed hstep)

end Exits

end Bot

/-! ## What rounding down leaves over -/

section

variable {tpLevels : List TpLevel} {amount left : Nat} {spent : Finset Nat}

/-- The tokens of a level before they are rounded down. -/
def tpShare (tpLevels : List TpLevel) (amount i : Nat) : ℚ :=
  (tpLevels[i]?.map fun level => level.sellPercent / 100 * (amount : ℚ)).getD 0

theorem sum_tpShare (tpLevels : List TpLevel) (amount : Nat) :
    ∑ i ∈ Finset.range tpLevels.length, tpShare tpLevels amount i =
      (tpLevels.map TpLevel.sellPercent).sum / 100 * amount := by
  induction tpLevels with
  | nil => simp
  | cons level tpLevels ih =>
      rw [List.length_cons, Finset.sum_range_succ', List.map_cons, List.sum_cons]
      change ∑ i ∈ Finset.range tpLevels.length, tpShare tpLevels amount i +
        level.sellPercent / 100 * amount = _
      rw [ih]
      ring

theorem tpShare_lt (hfits : amount ≤ u64Max)
    (hpercent : ∀ level ∈ tpLevels, level.sellPercent ≤ 100) (i : Nat) :
    tpShare tpLevels amount i < tpSize .exact tpLevels amount i + 1 := by
  unfold tpShare tpSize
  cases hlevel : tpLevels[i]? with
  | none => simp
  | some level =>
      simp only [Option.map_some, Option.getD_some]
      have hsmall : level.sellPercent / 100 * amount ≤ u64Max := by
        have hle := hpercent level (List.mem_of_getElem? hlevel)
        exact (percentage_le hle amount).trans (by exact_mod_cast hfits)
      obtain hlt | hmax := asU64_le_iff.mp
        (le_refl (asU64 (level.sellPercent / 100 * (amount : ℚ))))
      · exact hlt
      · have hcast : (u64Max : ℚ) ≤ asU64 (level.sellPercent / 100 * (amount : ℚ)) := by
          exact_mod_cast hmax
        exact lt_of_le_of_lt (hsmall.trans hcast) (lt_add_one _)

private theorem tpSize_eq_tpShare (hfits : amount ≤ u64Max)
    (hpercent : ∀ level ∈ tpLevels, level.sellPercent ≤ 100)
    (hwhole : ∀ level ∈ tpLevels, ∃ k : Nat, level.sellPercent / 100 * amount = k) (i : Nat) :
    (tpSize .exact tpLevels amount i : ℚ) = tpShare tpLevels amount i := by
  unfold tpShare tpSize
  cases hlevel : tpLevels[i]? with
  | none => simp
  | some level =>
      have hmem := List.mem_of_getElem? hlevel
      obtain ⟨k, hk⟩ := hwhole level hmem
      simp only [Option.map_some, Option.getD_some]
      have hsmall : (k : ℚ) ≤ amount := by
        rw [← hk]
        exact percentage_le (hpercent level hmem) amount
      have hkfits : k ≤ u64Max := le_trans (by exact_mod_cast hsmall) hfits
      change (asU64 (level.sellPercent / 100 * (amount : ℚ)) : ℚ) = _
      rw [hk, asU64_natCast hkfits]

theorem length_pos_of_sum (hsum : (tpLevels.map TpLevel.sellPercent).sum = 100) :
    0 < tpLevels.length := by
  apply List.length_pos_of_ne_nil
  rintro rfl
  norm_num at hsum

theorem leftover_le (hsum : (tpLevels.map TpLevel.sellPercent).sum = 100)
    (hfits : amount ≤ u64Max) (hpercent : ∀ level ∈ tpLevels, level.sellPercent ≤ 100)
    (hwhole : ∀ level ∈ tpLevels, ∃ k : Nat, level.sellPercent / 100 * amount = k)
    (hleft : left + ∑ i ∈ Finset.range tpLevels.length \ spent, tpSize .exact tpLevels amount i ≤
      amount) :
    (left : ℚ) ≤ ∑ i ∈ Finset.range tpLevels.length ∩ spent, tpShare tpLevels amount i := by
  have htotal : ∑ i ∈ Finset.range tpLevels.length, tpShare tpLevels amount i = amount := by
    rw [sum_tpShare, hsum, div_self (by norm_num), one_mul]
  have hsplit := Finset.sum_inter_add_sum_sdiff (Finset.range tpLevels.length) spent
    (tpShare tpLevels amount)
  have hcast : (left : ℚ) + ∑ i ∈ Finset.range tpLevels.length \ spent,
      (tpSize .exact tpLevels amount i : ℚ) ≤ amount := by
    exact_mod_cast hleft
  rw [Finset.sum_congr rfl fun i _ => tpSize_eq_tpShare hfits hpercent hwhole i] at hcast
  linarith

private theorem leftover_lt (hsum : (tpLevels.map TpLevel.sellPercent).sum = 100)
    (hfits : amount ≤ u64Max) (hpercent : ∀ level ∈ tpLevels, level.sellPercent ≤ 100)
    (hleft : left + ∑ i ∈ Finset.range tpLevels.length \ spent, tpSize .exact tpLevels amount i ≤
      amount) :
    (left : ℚ) < tpLevels.length +
      ∑ i ∈ Finset.range tpLevels.length ∩ spent, tpShare tpLevels amount i := by
  have htotal : ∑ i ∈ Finset.range tpLevels.length, tpShare tpLevels amount i = amount := by
    rw [sum_tpShare, hsum, div_self (by norm_num), one_mul]
  have hsplit := Finset.sum_inter_add_sum_sdiff (Finset.range tpLevels.length) spent
    (tpShare tpLevels amount)
  have hcast : (left : ℚ) + ∑ i ∈ Finset.range tpLevels.length \ spent,
      (tpSize .exact tpLevels amount i : ℚ) ≤ amount := by
    exact_mod_cast hleft
  have hround : ∑ i ∈ Finset.range tpLevels.length \ spent, tpShare tpLevels amount i <
      ∑ i ∈ Finset.range tpLevels.length \ spent, (tpSize .exact tpLevels amount i : ℚ) +
        tpLevels.length := by
    by_cases hnone : (Finset.range tpLevels.length \ spent) = ∅
    · rw [hnone, Finset.sum_empty, Finset.sum_empty, zero_add]
      exact_mod_cast length_pos_of_sum hsum
    · have hlt := Finset.sum_lt_sum_of_nonempty (Finset.nonempty_iff_ne_empty.mpr hnone)
        fun i _ => tpShare_lt hfits hpercent i
      have hcard : (Finset.range tpLevels.length \ spent).card ≤ tpLevels.length := by
        calc (Finset.range tpLevels.length \ spent).card ≤ (Finset.range tpLevels.length).card :=
              Finset.card_le_card Finset.sdiff_subset
          _ = tpLevels.length := Finset.card_range _
      rw [Finset.sum_add_distrib, Finset.sum_const, nsmul_eq_mul, mul_one] at hlt
      have hcard' : ((Finset.range tpLevels.length \ spent).card : ℚ) ≤ tpLevels.length := by
        exact_mod_cast hcard
      linarith
  linarith

end

namespace Bot

variable {s t : Bot p} {tpLevels : List TpLevel} {mint : Mint} {opened : Holding}

/-- A position that was just opened: no level is sold, and no order or tick is about it. -/
structure Opened (tpLevels : List TpLevel) (mint : Mint) (opened : Holding) (s : Bot p) :
    Prop where
  settings : s.settings.val.tpLevels = tpLevels
  stored : s.positions.lookup mint = some opened
  fits : opened.amount ≤ u64Max
  whole : opened.originalAmount = opened.amount
  unsold : opened.triggeredTpLevels = []
  unseen : mint ∉ s.monitor.entries.map fun entry => entry.2.1
  unordered : ∀ o ∈ s.ordersUnderWay, o.mint ≠ mint

theorem Opened.exits (hs : s.Opened tpLevels mint opened) :
    s.Exits tpLevels mint (.opened opened.amount) [] where
  settings := hs.settings
  fits := hs.fits
  shared h hlook := by
    obtain rfl : opened = h := Option.some.inj (hs.stored.symm.trans hlook)
    refine ⟨hs.whole, ?_, ?_, nofun⟩
    · rw [hs.unsold]
      exact le_rfl
    · rw [hs.unsold]
      exact nofun
  entries cfg h hmem := absurd (List.mem_map_of_mem hmem) hs.unseen
  orders o ho hmint := absurd hmint (hs.unordered o ho)

/--
Once every take-profit level of a position was sold, what remains open is what
rounding leaves of the amount, and the shares that the levels sold before the
last addition, or late for it, would have had in it; no level is late if buys
add to the position while no order and no tick is about it.  In exact
arithmetic, with levels that sell the whole, rounding leaves fewer tokens than
there are levels, and nothing if the shares are whole.
-/
theorem levels_exit (tpLevels : List TpLevel) (mint : Mint) (opened : Holding) (s : Bot p)
    (hopened : s.Opened tpLevels mint opened) (es : List (Event p)) (t : Bot p)
    (hrun : Run Bot.step (OneExit tpLevels mint) s es t)
    (hall : ∀ i < tpLevels.length, i ∈ soldLevels mint s es) (z : Sizing)
    (hz : sizingAfter mint (.opened opened.amount) s es = z) :
    (∀ h, t.positions.lookup mint = some h →
        h.amount + ∑ i ∈ Finset.range tpLevels.length \ z.spent,
          tpSize p.rounding tpLevels z.amount i ≤ z.amount) ∧
      (Along Bot.step (fun s e _ => s.AddsAlone mint e) s es → z.late = ∅) ∧
      (p.rounding = .exact → (tpLevels.map TpLevel.sellPercent).sum = 100 →
        (∀ h, t.positions.lookup mint = some h → (h.amount : ℚ) < tpLevels.length +
            ∑ i ∈ Finset.range tpLevels.length ∩ z.spent, tpShare tpLevels z.amount i) ∧
          ((∀ level ∈ tpLevels, ∃ k : Nat, level.sellPercent / 100 * z.amount = k) →
            (∀ h, t.positions.lookup mint = some h → (h.amount : ℚ) ≤
                ∑ i ∈ Finset.range tpLevels.length ∩ z.spent, tpShare tpLevels z.amount i) ∧
              (z.spent = ∅ → t.positions.lookup mint = none))) := by
  have hexits := hopened.exits.run hrun
  rw [hz, List.nil_append] at hexits
  have hpercent : ∀ level ∈ tpLevels, level.sellPercent ≤ 100 := by
    intro level hmem
    rw [← hopened.settings] at hmem
    exact (s.settings.tpLevel_checked hmem).2.2
  have hleft : ∀ h, t.positions.lookup mint = some h →
      h.amount + ∑ i ∈ Finset.range tpLevels.length \ z.spent,
        tpSize p.rounding tpLevels z.amount i ≤ z.amount := by
    intro h hlook
    have hshared := hexits.shared h hlook
    have hsub : Finset.range tpLevels.length \ z.spent ⊆
        h.triggeredTpLevels.toFinset \ z.spent := by
      apply Finset.sdiff_subset_sdiff _ (Finset.Subset.refl _)
      intro i hi
      exact List.mem_toFinset.mpr (hshared.marks i (hall i (Finset.mem_range.mp hi)))
    have hle := Finset.sum_le_sum_of_subset (f := tpSize p.rounding tpLevels z.amount) hsub
    have hsold := hshared.left
    omega
  refine ⟨hleft, fun halone => hz ▸ Exits.late_eq_empty halone rfl rfl, ?_⟩
  intro hexact hsum
  rw [hexact] at hleft
  refine ⟨fun h hlook => leftover_lt hsum hexits.fits hpercent (hleft h hlook), fun hwhole => ?_⟩
  have hwhole_le (h : Holding) (hlook : t.positions.lookup mint = some h) :=
    leftover_le hsum hexits.fits hpercent hwhole (hleft h hlook)
  refine ⟨hwhole_le, fun hfresh => ?_⟩
  apply Option.eq_none_iff_forall_ne_some.mpr
  intro h hlook
  have hshared := hexits.shared h hlook
  have hpos := hshared.remains 0 (hshared.marks 0 (hall 0 (length_pos_of_sum hsum)))
    (by rw [hfresh]; simp)
  have hnone := hwhole_le h hlook
  rw [hfresh, Finset.inter_empty, Finset.sum_empty] at hnone
  have hzero : h.amount ≤ 0 := by exact_mod_cast hnone
  omega

/-! ## Two levels of a half each -/

theorem halves_valid :
    { Settings.plain with
      allowAccumulate := true
      tpLevels := [⟨30, 50⟩, ⟨60, 50⟩] }.validate .plain = .ok () :=
  Settings.validate_tpLevels accumulating_valid (by decide +kernel)

def halves : ValidSettings .plain := ⟨_, halves_valid⟩

def tokens (amount : Nat) : Holding :=
  { Holding.plain with amount := amount, originalAmount := amount }

def holding (amount : Nat) : Bot .plain :=
  start halves false (Positions.addPosition "mint" ∅ (tokens amount))

private theorem holding_opened {amount : Nat} (hfits : amount ≤ u64Max) :
    (holding amount).Opened halves.val.tpLevels "mint" (tokens amount) where
  settings := rfl
  stored := AList.lookup_insert ∅
  fits := hfits
  whole := rfl
  unsold := rfl
  unseen := nofun
  unordered o ho := by
    change o ∈ [] at ho
    cases ho

def sellLevel : List (Event .plain) := tickAtProfit ++ executeOne

def buyMore : List (Event .plain) :=
  [.detectBuy .plain 0, .buyConfigure 0, .buyAcquire 0, .buyLook 0, .buyResult 0 (.bought .plain),
    .buyRegister 0]

theorem levels_exit_halves :
    ∃ t, Run Bot.step (OneExit halves.val.tpLevels "mint") (holding 100) (sellLevel ++ sellLevel) t ∧
      t.positions.lookup "mint" = none := by
  have hexec : (exec Bot.step (OneExit halves.val.tpLevels "mint") (holding 100)
      (sellLevel ++ sellLevel)).map (fun _ => true) = some true := by
    decide +kernel
  obtain ⟨t, hrun, -⟩ := exists_run_of_exec hexec
  have hall : ∀ i < halves.val.tpLevels.length,
      i ∈ soldLevels "mint" (holding 100) (sellLevel ++ sellLevel) := by
    decide +kernel
  have hexit := levels_exit halves.val.tpLevels "mint" (tokens 100) (holding 100)
    (holding_opened (by decide)) (sellLevel ++ sellLevel) t hrun hall (.opened 100)
    (by decide +kernel)
  refine ⟨t, hrun, ((hexit.2.2 rfl (by decide +kernel)).2 ?_).2 rfl⟩
  intro level hmem
  refine ⟨50, ?_⟩
  have hhalf : level.sellPercent = 50 := by
    revert level
    decide +kernel
  rw [hhalf]
  norm_num [Sizing.opened]

def soldOut (amount : Nat) (es : List (Event .plain)) (left : Nat) : Bool :=
  (exec Bot.step (OneExit halves.val.tpLevels "mint") (holding amount) es).any fun t =>
    (t.positions.lookup "mint").map Holding.amount == some left &&
      decide (∀ i < halves.val.tpLevels.length, i ∈ soldLevels "mint" (holding amount) es)

def LeavesOpen (amount : Nat) (es : List (Event .plain)) (left : Nat) : Prop :=
  ∃ t h, Run Bot.step (OneExit halves.val.tpLevels "mint") (holding amount) es t ∧
    (∀ i < halves.val.tpLevels.length, i ∈ soldLevels "mint" (holding amount) es) ∧
    t.positions.lookup "mint" = some h ∧ h.amount = left

private theorem leavesOpen_of_soldOut {amount left : Nat} {es : List (Event .plain)}
    (hsold : soldOut amount es left = true) : LeavesOpen amount es left := by
  obtain ⟨t, hexec, hcheck⟩ := (Option.any_eq_true _ _).mp hsold
  rw [Bool.and_eq_true, beq_iff_eq, decide_eq_true_eq] at hcheck
  obtain ⟨h, hlook, hleft⟩ := Option.map_eq_some_iff.mp hcheck.1
  exact ⟨t, h, run_of_exec hexec, hcheck.2, hlook, hleft⟩

/--
Both halves of an odd amount are rounded down; an addition after the first level
leaves half of it all; and one while the first level's order is on its way, or
after the tick's snapshot of it, leaves the half of what it adds.
-/
theorem levels_leave_remainder :
    LeavesOpen 101 (sellLevel ++ sellLevel) 1 ∧
      LeavesOpen 100 (sellLevel ++ buyMore ++ sellLevel) 75 ∧
      LeavesOpen 100 (tickAtProfit ++ buyMore ++ executeOne ++ sellLevel) 50 ∧
      LeavesOpen 100 (tickAtProfit.take 1 ++ buyMore ++ tickAtProfit.drop 1 ++ executeOne ++
        sellLevel) 50 :=
  ⟨leavesOpen_of_soldOut (by decide +kernel), leavesOpen_of_soldOut (by decide +kernel),
    leavesOpen_of_soldOut (by decide +kernel), leavesOpen_of_soldOut (by decide +kernel)⟩

end Bot

end Girasol
