import Girasol.Bot.Migration
import Girasol.Bot.Restart

/-!
# The trailing stop across a restart

What the trailing stop decides from a price on depends on a position through one
number: the entry price while it waits to be armed, the watermark afterwards.
A restart keeps the decisions when the file gives the same.
-/

namespace Girasol

open Foundation

/-! ## The decisions for one position -/

structure PriceTick where
  trailingStopBps : Nat
  reading : PriceReading

def Holding.watched (h : Holding) : Bool := !h.migrated && !h.pendingSell

/-- The decision of one tick, as `tickPrice` makes it, and the entry it leaves. -/
def Holding.trailingTick (r : Rounding) (h : Holding) (tick : PriceTick) : Bool × Holding :=
  match tick.reading with
  | .error text => (false, if signalsMigration text then { h with migrated := true } else h)
  | .price price =>
      if price ≤ 0 then (false, { h with migrated := true })
      else if h.buyPrice ≤ 0 then (false, h)
      else
        (trailingStopTriggered r (h.watermarkAt price) h.buyPrice price tick.trailingStopBps,
          { h with highWatermark := some (h.watermarkAt price) })

def trailingTick (r : Rounding) (entry : Option Holding) (tick : PriceTick) :
    Bool × Option Holding :=
  match entry with
  | none => (false, none)
  | some h =>
      if h.watched then
        let decided := h.trailingTick r tick
        (decided.1, some decided.2)
      else (false, some h)

def trailingDecisions (r : Rounding) : Option Holding → List PriceTick → List Bool :=
  outputs (trailingTick r)

/-! ## What they depend on -/

inductive TrailingState where
  | off
  | waiting (entry : ℚ)
  | armed (watermark : ℚ)
  deriving DecidableEq

def Holding.trailingState (h : Holding) : TrailingState :=
  if !h.watched || h.buyPrice ≤ 0 then .off
  else
    match h.highWatermark with
    | none => .waiting h.buyPrice
    | some watermark => if watermark ≤ h.buyPrice then .waiting h.buyPrice else .armed watermark

def trailingState (entry : Option Holding) : TrailingState :=
  (entry.map Holding.trailingState).getD .off

namespace TrailingState

def fallen (r : Rounding) (watermark price : ℚ) (trailingStopBps : Nat) : Bool :=
  trailingStopBps ≠ 0 ∧
    price ≤ r.mul watermark (r.sub 1 (r.div (r.ofU64 trailingStopBps) 10000))

def next (r : Rounding) (state : TrailingState) (tick : PriceTick) : Bool × TrailingState :=
  match state, tick.reading with
  | .off, _ => (false, .off)
  | state, .error text => (false, if signalsMigration text then .off else state)
  | .waiting entry, .price price =>
      if price ≤ 0 then (false, .off)
      else if price ≤ entry then (false, .waiting entry)
      else (fallen r price price tick.trailingStopBps, .armed price)
  | .armed watermark, .price price =>
      if price ≤ 0 then (false, .off)
      else
        let highest := max watermark price
        (fallen r highest price tick.trailingStopBps, .armed highest)

end TrailingState

section

variable {r : Rounding}

theorem trailingStopTriggered_of_le {watermark buyPrice : ℚ} (hle : watermark ≤ buyPrice)
    (price : ℚ) (bps : Nat) :
    trailingStopTriggered r watermark buyPrice price bps = false :=
  if_pos (.inr (.inl hle))

private theorem trailingStopTriggered_of_lt {watermark buyPrice : ℚ} (hpos : 0 < buyPrice)
    (hlt : buyPrice < watermark) (price : ℚ) (bps : Nat) :
    trailingStopTriggered r watermark buyPrice price bps =
      TrailingState.fallen r watermark price bps := by
  have hwatermark : ¬ watermark ≤ 0 := not_le.mpr (hpos.trans hlt)
  by_cases hbps : bps = 0 <;>
    simp [trailingStopTriggered, TrailingState.fallen, hbps, not_le.mpr hlt, hwatermark]

theorem Holding.trailingState_of_pos {h : Holding} (hwatched : h.watched = true)
    (hpos : 0 < h.buyPrice) : h.trailingState =
      match h.highWatermark with
      | none => .waiting h.buyPrice
      | some watermark =>
          if watermark ≤ h.buyPrice then .waiting h.buyPrice else .armed watermark := by
  simp [trailingState, hwatched, not_le.mpr hpos]

@[simp] theorem Holding.trailingState_migrated (h : Holding) :
    ({ h with migrated := true } : Holding).trailingState = .off := by
  simp [trailingState, watched]

theorem Holding.next_trailingState {h : Holding} (hwatched : h.watched = true)
    (hpos : 0 < h.buyPrice) {price : ℚ} (hprice : 0 < price) (bps : Nat) :
    h.trailingState.next r ⟨bps, .price price⟩ =
      (trailingStopTriggered r (h.watermarkAt price) h.buyPrice price bps,
        ({ h with highWatermark := some (h.watermarkAt price) } : Holding).trailingState) := by
  have hafter : ({ h with highWatermark := some (h.watermarkAt price) } : Holding).trailingState =
      if h.watermarkAt price ≤ h.buyPrice then .waiting h.buyPrice
      else .armed (h.watermarkAt price) :=
    trailingState_of_pos (h := { h with highWatermark := some (h.watermarkAt price) })
      hwatched hpos
  have hwaiting (hle : h.highWatermark.getD price ≤ max h.buyPrice price) :
      TrailingState.next r (.waiting h.buyPrice) ⟨bps, .price price⟩ =
        (trailingStopTriggered r (h.watermarkAt price) h.buyPrice price bps,
          if h.watermarkAt price ≤ h.buyPrice then .waiting h.buyPrice
          else .armed (h.watermarkAt price)) := by
    by_cases hentry : price ≤ h.buyPrice
    · have hbelow : h.watermarkAt price ≤ h.buyPrice := by
        rw [max_eq_left hentry] at hle
        exact max_le hle hentry
      simp [TrailingState.next, not_le.mpr hprice, hentry, hbelow,
        trailingStopTriggered_of_le hbelow]
    · have hnew : h.watermarkAt price = price := by
        rw [max_eq_right (not_le.mp hentry).le] at hle
        exact max_eq_right hle
      simp [TrailingState.next, not_le.mpr hprice, hentry, hnew,
        trailingStopTriggered_of_lt hpos (not_le.mp hentry)]
  rw [hafter, trailingState_of_pos hwatched hpos]
  cases hhigh : h.highWatermark with
  | none => exact hwaiting (by simp [hhigh])
  | some watermark =>
      dsimp only
      split
      case isTrue hle => exact hwaiting (by simp [hhigh, hle])
      case isFalse hgt =>
        have habove : h.watermarkAt price = max watermark price := by
          simp [watermarkAt, hhigh]
        have hlt : h.buyPrice < max watermark price := (not_le.mp hgt).trans_le (le_max_left _ _)
        simp [TrailingState.next, not_le.mpr hprice, habove, not_le.mpr hlt,
          trailingStopTriggered_of_lt hpos hlt, -lt_sup_iff, -sup_le_iff]

private theorem next_trailingState (entry : Option Holding) (tick : PriceTick) :
    (trailingState entry).next r tick =
      ((trailingTick r entry tick).1, trailingState (trailingTick r entry tick).2) := by
  obtain ⟨bps, reading⟩ := tick
  cases entry with
  | none => rfl
  | some h =>
      by_cases hwatched : h.watched = true
      case neg =>
        have hoff : h.trailingState = .off := by simp [Holding.trailingState, hwatched]
        simp [trailingState, trailingTick, hwatched, hoff, TrailingState.next]
      case pos =>
        simp only [trailingState, trailingTick, hwatched, if_true, Option.map_some,
          Option.getD_some]
        cases reading with
        | error text =>
            by_cases hsignals : signalsMigration text = true
            · simp only [Holding.trailingTick, hsignals, if_true, h.trailingState_migrated]
              cases h.trailingState <;> simp [TrailingState.next, hsignals]
            · simp only [Holding.trailingTick, hsignals]
              cases hstate : h.trailingState <;> simp [TrailingState.next, hsignals, hstate]
        | price price =>
            rcases le_or_gt price 0 with hprice | hprice
            · simp only [Holding.trailingTick, hprice, if_true, h.trailingState_migrated]
              cases h.trailingState <;> simp [TrailingState.next, hprice]
            · rcases le_or_gt h.buyPrice 0 with hbuy | hbuy
              · have hoff : h.trailingState = .off := by simp [Holding.trailingState, hbuy]
                simp [Holding.trailingTick, not_le.mpr hprice, hbuy, hoff, TrailingState.next]
              · simp only [Holding.trailingTick, not_le.mpr hprice, not_le.mpr hbuy, if_false]
                exact Holding.next_trailingState hwatched hbuy hprice bps

theorem trailingDecisions_eq (entry : Option Holding) (future : List PriceTick) :
    trailingDecisions r entry future = outputs (TrailingState.next r) (trailingState entry) future :=
  (outputs_map trailingState next_trailingState entry future).symm

end

/-! ## In exact arithmetic the state is all they depend on -/

namespace TrailingState

def Sound : TrailingState → Prop
  | .off => True
  | .waiting entry => 0 < entry
  | .armed watermark => 0 < watermark

theorem fallen_half_iff (watermark price : ℚ) :
    fallen .exact watermark price 5000 = true ↔ price ≤ watermark / 2 := by
  have hhalf : Rounding.exact.mul watermark
      (Rounding.exact.sub 1 (Rounding.exact.div (Rounding.exact.ofU64 5000) 10000)) =
        watermark / 2 := by
    simp only [Rounding.mul, Rounding.sub, Rounding.div, Rounding.ofU64, Rounding.exact, id]
    norm_num
    ring
  simp [fallen, hhalf]

def halfTick (price : ℚ) : PriceTick := ⟨5000, .price price⟩

theorem outputs_off (future : List PriceTick) :
    outputs (next .exact) .off future = future.map fun _ => false := by
  induction future with
  | nil => rfl
  | cons tick rest ih => simp [outputs, next, ih]

theorem decides_of_armed {watermark : ℚ} (hpos : 0 < watermark) :
    outputs (next .exact) (.armed watermark) [halfTick (watermark / 2)] = [true] := by
  have hhalf : 0 < watermark / 2 := half_pos hpos
  have hmax : max watermark (watermark / 2) = watermark := max_eq_left (half_le_self hpos.le)
  simp [outputs, next, halfTick, not_le.mpr hhalf, hmax, fallen_half_iff]

theorem spared_of_lower {watermark lower : ℚ} (hpos : 0 < watermark) (hlt : lower < watermark) :
    outputs (next .exact) (.armed lower) [halfTick (watermark / 2)] = [false] := by
  have hhalf : 0 < watermark / 2 := half_pos hpos
  have hbelow : ¬ watermark / 2 ≤ max lower (watermark / 2) / 2 := by
    rw [not_le]
    have hmax : max lower (watermark / 2) < watermark := max_lt hlt (half_lt_self hpos)
    linarith
  have hfallen : fallen .exact (max lower (watermark / 2)) (watermark / 2) 5000 = false := by
    rw [← Bool.not_eq_true, fallen_half_iff]
    exact hbelow
  simp [outputs, next, halfTick, not_le.mpr hhalf, hfallen]

private theorem spared_of_waiting {entry price : ℚ} (hpos : 0 < price) :
    outputs (next .exact) (.waiting entry) [halfTick price] = [false] := by
  have hfallen : fallen .exact price price 5000 = false := by
    rw [← Bool.not_eq_true, fallen_half_iff]
    linarith
  by_cases hle : price ≤ entry <;> simp [outputs, next, halfTick, not_le.mpr hpos, hle, hfallen]

private theorem decides_of_waiting {entry price : ℚ} (hpos : 0 < entry) (hlt : entry < price) :
    outputs (next .exact) (.waiting entry) [halfTick price, halfTick (price / 2)] =
      [false, true] := by
  have hprice : 0 < price := hpos.trans hlt
  have hhalf : 0 < price / 2 := half_pos hprice
  have hfallen : fallen .exact price price 5000 = false := by
    rw [← Bool.not_eq_true, fallen_half_iff]
    linarith
  have hmax : max price (price / 2) = price := max_eq_left (half_le_self hprice.le)
  simp [outputs, next, halfTick, not_le.mpr hprice, not_le.mpr hlt, not_le.mpr hhalf, hfallen,
    hmax, fallen_half_iff]

private theorem spared_of_waiting_twice {entry price : ℚ} (hprice : 0 < price)
    (hle : price ≤ entry) :
    outputs (next .exact) (.waiting entry) [halfTick price, halfTick (price / 2)] =
      [false, false] := by
  have hhalf : 0 < price / 2 := half_pos hprice
  have hbelow : price / 2 ≤ entry := (half_le_self hprice.le).trans hle
  simp [outputs, next, halfTick, not_le.mpr hprice, not_le.mpr hhalf, hle, hbelow]

private theorem exists_outputs_ne {state other : TrailingState} (hstate : state.Sound)
    (hother : other.Sound) (hne : state ≠ other) :
    ∃ future, outputs (next .exact) state future ≠ outputs (next .exact) other future := by
  have hoff {entry : ℚ} (hpos : 0 < entry) : ∃ future,
      outputs (next .exact) (.waiting entry) future ≠ outputs (next .exact) .off future := by
    refine ⟨[halfTick (2 * entry), halfTick (2 * entry / 2)], ?_⟩
    rw [decides_of_waiting hpos (by linarith), outputs_off]
    simp
  have hwaiting {entry entry' : ℚ} (hpos : 0 < entry) (hlt : entry < entry') : ∃ future,
      outputs (next .exact) (.waiting entry) future ≠
        outputs (next .exact) (.waiting entry') future := by
    refine ⟨[halfTick entry', halfTick (entry' / 2)], ?_⟩
    rw [decides_of_waiting hpos hlt, spared_of_waiting_twice (hpos.trans hlt) le_rfl]
    simp
  have harmed {watermark : ℚ} {lower : TrailingState} (hpos : 0 < watermark)
      (hspared : outputs (next .exact) lower [halfTick (watermark / 2)] = [false]) :
      ∃ future, outputs (next .exact) (.armed watermark) future ≠
        outputs (next .exact) lower future := by
    refine ⟨[halfTick (watermark / 2)], ?_⟩
    rw [decides_of_armed hpos, hspared]
    simp
  cases state with
  | off =>
      cases other with
      | off => exact absurd rfl hne
      | waiting entry => exact (hoff hother).imp fun _ => Ne.symm
      | armed watermark =>
          exact (harmed hother (outputs_off [_])).imp fun _ => Ne.symm
  | waiting entry =>
      cases other with
      | off => exact hoff hstate
      | waiting entry' =>
          rcases lt_or_gt_of_ne (fun heq => hne (congrArg waiting heq)) with hlt | hgt
          · exact hwaiting hstate hlt
          · exact (hwaiting hother hgt).imp fun _ => Ne.symm
      | armed watermark =>
          exact (harmed hother (spared_of_waiting (half_pos hother))).imp fun _ => Ne.symm
  | armed watermark =>
      cases other with
      | off => exact harmed hstate (outputs_off [_])
      | waiting entry => exact harmed hstate (spared_of_waiting (half_pos hstate))
      | armed watermark' =>
          rcases lt_or_gt_of_ne (fun heq => hne (congrArg armed heq)) with hlt | hgt
          · exact (harmed hother (spared_of_lower hother hlt)).imp fun _ => Ne.symm
          · exact harmed hstate (spared_of_lower hstate hgt)

end TrailingState

private theorem sound_trailingState (entry : Option Holding) : (trailingState entry).Sound := by
  cases entry with
  | none => trivial
  | some h =>
      simp only [trailingState, Option.map_some, Option.getD_some]
      by_cases hoff : !h.watched || h.buyPrice ≤ 0
      · rw [Holding.trailingState, if_pos hoff]
        trivial
      · have hpos : 0 < h.buyPrice := by
          simp only [Bool.or_eq_true, decide_eq_true_eq, not_or, not_le] at hoff
          exact hoff.2
        rw [Holding.trailingState, if_neg hoff]
        cases h.highWatermark with
        | none => exact hpos
        | some watermark =>
            dsimp only
            split
            case isTrue => exact hpos
            case isFalse hgt => exact hpos.trans (not_le.mp hgt)

theorem trailingDecisions_eq_iff {entry entry' : Option Holding} :
    (∀ future, trailingDecisions .exact entry future = trailingDecisions .exact entry' future) ↔
      trailingState entry = trailingState entry' := by
  constructor
  · intro hsame
    by_contra hne
    obtain ⟨future, hdiffer⟩ := TrailingState.exists_outputs_ne (sound_trailingState entry)
      (sound_trailingState entry') hne
    exact hdiffer (by simpa only [trailingDecisions_eq] using hsame future)
  · intro heq future
    rw [trailingDecisions_eq, trailingDecisions_eq, heq]

/-! ## The step of the monitor and the restart -/

def LifeEvent.isRestart {p : Platform} : LifeEvent p → Bool
  | .restart _ _ => true
  | .step _ | .unsaved _ => false

namespace Bot

variable {p : Platform} {s s' : Bot p}

theorem reason_of_mem_levelOrders {r : Rounding} {cfg : Settings} {mint : Mint} {h : Holding}
    {price : ℚ} {o : SellOrder} (ho : o ∈ levelOrders r cfg mint h price) (drop : ℚ) :
    o.reason ≠ .trailingStop drop := by
  simp only [levelOrders, List.mem_append, Option.mem_toList] at ho
  rcases ho with ho | ho <;>
  · obtain ⟨-, -, hreason, -⟩ := levelOrder_spec ho
    simp [hreason]

theorem tickPrice_trailingTick {cfg : ValidSettings p} {mint : Mint} {h : Holding}
    {rest : List (Mint × Holding)} {reading : PriceReading} {now : Int}
    (hmon : s.monitor = .ticking cfg ((mint, h) :: rest))
    (hlook : s.positions.lookup mint = some h)
    (hstep : s.step (.tickPrice reading now) = some s') :
    let decided := h.trailingTick p.rounding ⟨cfg.val.trailingStopBps, reading⟩
    s'.positions.lookup mint = some decided.2 ∧
      (decided.1 = true ↔ ∃ order drop, s'.monitor = .sending cfg order [] rest ∧
        order.reason = .trailingStop drop) := by
  intro decided
  have hproceed (order : SellOrder) :
      (Monitor.proceed cfg rest : Monitor p) ≠ .sending cfg order [] rest := by
    cases rest <;> simp [Monitor.proceed]
  simp only [step, tickPrice, hmon] at hstep
  cases reading with
  | error text =>
      cases hstep
      refine ⟨?_, by simp [decided, Holding.trailingTick, hproceed]⟩
      by_cases hsignals : signalsMigration text = true <;>
        simp [decided, Holding.trailingTick, hsignals, hlook, Positions.markMigrated,
          Store.lookup_update_self]
  | price price =>
      dsimp only at hstep
      by_cases hprice : price ≤ 0
      · rw [if_pos hprice] at hstep
        cases hstep
        simp [decided, Holding.trailingTick, hprice, hlook, Positions.markMigrated,
          Store.lookup_update_self, hproceed]
      · rw [if_neg hprice] at hstep
        by_cases hbuy : h.buyPrice ≤ 0
        · rw [if_pos hbuy] at hstep
          cases hstep
          simp [decided, Holding.trailingTick, hprice, hbuy, hlook, hproceed]
        · rw [if_neg hbuy] at hstep
          have hentry : decided = (trailingStopTriggered p.rounding (h.watermarkAt price)
              h.buyPrice price cfg.val.trailingStopBps,
              { h with highWatermark := some (h.watermarkAt price) }) := by
            simp [decided, Holding.trailingTick, hprice, hbuy]
          have hwritten : (s.positions.setHighWatermark mint (h.watermarkAt price)).lookup mint =
              some { h with highWatermark := some (h.watermarkAt price) } := by
            rw [Positions.setHighWatermark, Store.lookup_update_self, hlook]
            rfl
          rw [hentry]
          dsimp only
          by_cases htrigger : trailingStopTriggered p.rounding (h.watermarkAt price)
              h.buyPrice price cfg.val.trailingStopBps = true
          · simp only [trailingStopOrder, htrigger, if_true] at hstep
            cases hstep
            exact ⟨hwritten, iff_of_true htrigger ⟨_, _, rfl, rfl⟩⟩
          · have hnone : trailingStopOrder p.rounding cfg.val mint h price = none := by
              simp [trailingStopOrder, htrigger]
            simp only [hnone] at hstep
            split at hstep
            · cases hstep
              exact ⟨hwritten, iff_of_false htrigger (by simp)⟩
            · cases hstep
              refine ⟨hwritten, iff_of_false htrigger ?_⟩
              rintro ⟨order, drop, hemit, hreason⟩
              cases horders : levelOrders p.rounding cfg.val mint h price with
              | nil =>
                  simp only [horders, Monitor.emit] at hemit
                  exact hproceed order hemit
              | cons first later =>
                  simp only [horders, Monitor.emit, Monitor.sending.injEq] at hemit
                  have hmem : order ∈ levelOrders p.rounding cfg.val mint h price := by
                    rw [horders, ← hemit.2.1]
                    exact List.mem_cons_self
                  exact reason_of_mem_levelOrders hmem drop hreason

/-- A crash in this state and a restart change no decision, whatever the prices are. -/
def TrailingSurvives (s : Bot p) : Prop :=
  ∀ (settings : ValidSettings p) (hasPayer : Bool) (mint : Mint),
    s.positions.pending mint = false → ∀ future,
      trailingDecisions p.rounding ((s.restart settings hasPayer).positions.lookup mint) future =
        trailingDecisions p.rounding (s.positions.lookup mint) future

/-- The file gives every position without a sell in flight the state it has in memory. -/
def TrailingSaved (s : Bot p) : Prop :=
  ∀ mint, s.positions.pending mint = false →
    trailingState (s.disk.lookup mint) = trailingState (s.positions.lookup mint)

theorem trailingSaved_iff_keys : s.TrailingSaved ↔
    ∀ mint ∈ s.disk.keys ++ s.positions.keys, s.positions.pending mint = false →
      trailingState (s.disk.lookup mint) = trailingState (s.positions.lookup mint) := by
  refine ⟨fun hsaved mint _ => hsaved mint, fun hkeys mint hpending => ?_⟩
  by_cases hmem : mint ∈ s.disk.keys ++ s.positions.keys
  · exact hkeys mint hmem hpending
  · simp only [List.mem_append, not_or] at hmem
    rw [AList.lookup_eq_none.mpr hmem.1, AList.lookup_eq_none.mpr hmem.2]

instance (s : Bot p) : Decidable s.TrailingSaved :=
  decidable_of_iff _ trailingSaved_iff_keys.symm

theorem TrailingSaved.survives (hsaved : s.TrailingSaved) : s.TrailingSurvives := by
  intro settings hasPayer mint hpending future
  rw [trailingDecisions_eq, trailingDecisions_eq]
  exact congrArg (fun state => outputs _ state future) (hsaved mint hpending)

private theorem trailingSurvives_iff (hexact : p.rounding = .exact) :
    s.TrailingSurvives ↔ s.TrailingSaved := by
  refine ⟨fun hsurvives mint hpending => ?_, TrailingSaved.survives⟩
  refine trailingDecisions_eq_iff.mp fun future => ?_
  rw [← hexact]
  exact hsurvives s.settings s.hasPayer mint hpending future

/--
In every life whose restarts find the trailing state of every position in the
file, the restarts change no decision; in exact arithmetic only in these.
-/
theorem trailing_survives_restarts (settings : ValidSettings p) (hasPayer : Bool)
    (loaded : Positions) (life : List (LifeEvent p)) :
    (Along lifeStep (fun s e _ => e.isRestart → s.TrailingSaved)
        (start settings hasPayer loaded) life →
      Along lifeStep (fun s e _ => e.isRestart → s.TrailingSurvives)
        (start settings hasPayer loaded) life) ∧
      (p.rounding = .exact →
        Along lifeStep (fun s e _ => e.isRestart → s.TrailingSurvives)
          (start settings hasPayer loaded) life →
        Along lifeStep (fun s e _ => e.isRestart → s.TrailingSaved)
          (start settings hasPayer loaded) life) := by
  constructor
  · exact Along.imp fun _ _ _ hsaved hrestart => (hsaved hrestart).survives
  · intro hexact
    exact Along.imp fun _ _ _ hsurvives hrestart =>
      (trailingSurvives_iff hexact).mp (hsurvives hrestart)

def risenSaved : List (LifeEvent .plain) :=
  ([.tickStart ["mint"], .tickPrice (.price (5 / 4)) 0, .detectBuy otherBuy 0, .buyConfigure 0,
    .buyAcquire 0, .buyLook 0, .buyCount 0, .buyResult 0 (.bought .plain), .buyRegister 0,
    .buyPersist 0] : List (Event .plain)).map .step ++ [.restart .plain false]

theorem trailing_survives_risenSaved :
    Along lifeStep (fun s e _ => e.isRestart → s.TrailingSurvives) plain risenSaved ∧
      Along lifeStep (fun s e _ => e.isRestart → s.TrailingSaved) plain risenSaved :=
  have hsaved : Along lifeStep (fun s e _ => e.isRestart → s.TrailingSaved) plain
      risenSaved := by
    decide +kernel
  have hsurvives := (trailing_survives_restarts .plain false .single risenSaved).1 hsaved
  ⟨hsurvives, (trailing_survives_restarts .plain false .single risenSaved).2 rfl hsurvives⟩

def risen : List (LifeEvent .plain) :=
  [.step (.tickStart ["mint"]), .step (.tickPrice (.price (5 / 4)) 0)]

def fallBack : List PriceTick := [⟨1000, .price (11 / 10)⟩]

theorem watermark_lost :
    ∃ t, Run lifeStep (fun _ _ => True) plain risen t ∧
      t.positions.pending "mint" = false ∧
      trailingDecisions .exact (t.positions.lookup "mint") fallBack = [true] ∧
      trailingDecisions .exact ((t.restart .plain false).positions.lookup "mint") fallBack =
        [false] := by
  have hexec : (exec lifeStep (fun _ _ => True) plain risen).map (fun t =>
      t.positions.pending "mint" == false &&
        trailingDecisions .exact (t.positions.lookup "mint") fallBack == [true] &&
        trailingDecisions .exact ((t.restart .plain false).positions.lookup "mint") fallBack ==
          [false]) = some true := by
    decide +kernel
  obtain ⟨t, hrun, hcheck⟩ := exists_run_of_exec hexec
  simp only [Bool.and_eq_true, beq_iff_eq] at hcheck
  exact ⟨t, hrun, hcheck.1.1, hcheck.1.2, hcheck.2⟩

end Bot

end Girasol
