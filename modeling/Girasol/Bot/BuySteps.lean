import Girasol.Bot.Frame

/-!
# Steps of the buy tasks

`BuyStep` lists what a buy task can do next, with the checks it passed.  Steps
of the other tasks leave the buy tasks and their slots alone and open nothing.
-/

namespace Girasol

open Foundation

variable {p : Platform}

/-- The buy task that takes the step, if one does. -/
def Event.task : Event p → Option Nat
  | .buyConfigure task | .buyAcquire task | .buyLook task | .buyCount task
  | .buyResult task _ | .buyRegister task | .buyPersist task | .buyRelease task => some task
  | .reload _ | .listenerSell _ | .detectBuy _ _ | .mirrorRecv | .mirrorCheck
  | .mirrorLoad | .mirrorSend | .tickStart _ | .tickPrice _ _ | .tickCurve _
  | .tickSend | .tickMark | .revalidateStart _ | .revalidateCheck _ | .revalidateEnd
  | .validateStart _ | .validateCheck _ | .validateEnd | .execRecv | .execCheck
  | .execFinish _ => none

def Event.saves : Event p → Bool
  | .buyRegister _ | .buyPersist _ | .revalidateEnd | .validateEnd
  | .execFinish .executed => true
  | _ => false

def Event.edits : Event p → Bool
  | .buyRegister _ | .tickPrice _ _ | .tickCurve _ | .tickMark | .revalidateCheck _
  | .validateCheck _ | .execFinish _ => true
  | _ => false

namespace Positions

theorem KeepsTrade.hasPosition {positions positions' : Positions}
    (hkeeps : positions.KeepsTrade positions') (mint : Mint)
    (hopen : positions'.hasPosition mint = true) : positions.hasPosition mint = true := by
  obtain ⟨h', hlook'⟩ := Option.isSome_iff_exists.mp hopen
  obtain ⟨h, hlook, -⟩ := hkeeps mint h' hlook'
  exact Option.isSome_iff_exists.mpr ⟨h, hlook⟩

theorem hasPosition_of_update {mint mint' : Mint} {f : Holding → Option Holding}
    {positions : Positions}
    (hopen : hasPosition mint' (Store.update mint f positions) = true) :
    positions.hasPosition mint' = true := by
  simp only [hasPosition, Store.lookup_update] at hopen ⊢
  split at hopen
  · obtain ⟨h', heq⟩ := Option.isSome_iff_exists.mp hopen
    obtain ⟨h, hlook, -⟩ := Option.bind_eq_some_iff.mp heq
    exact Option.isSome_iff_exists.mpr ⟨h, hlook⟩
  · exact hopen

theorem hasPosition_of_settle {order : SellOrder} {outcome : SellOutcome} {mint : Mint}
    {positions : Positions}
    (hopen : (positions.settle order outcome).hasPosition mint = true) :
    positions.hasPosition mint = true := by
  cases outcome with
  | executed => exact hasPosition_of_update hopen
  | failed => exact hasPosition_of_update hopen
  | skipped => exact hopen

end Positions

namespace Bot

/-- `BuyStep s i detected e phase phase' s'`: task `i` goes from one phase to the next. -/
inductive BuyStep (s : Bot p) (i : Nat) (detected : DetectedBuy) :
    Event p → BuyPhase p → BuyPhase p → Bot p → Prop
  | configure : BuyStep s i detected (.buyConfigure i) .spawned (.configured s.settings)
      (s.setPhase i (.configured s.settings))
  | refused (cfg : ValidSettings p) : BuyStep s i detected (.buyAcquire i) (.configured cfg)
      (.done false) (s.setPhase i (.done false))
  | acquired (cfg : ValidSettings p) (hfree : detected.mint ∉ s.pendingBuys) :
      BuyStep s i detected (.buyAcquire i) (.configured cfg) (.acquired cfg)
        { s.setPhase i (.acquired cfg) with pendingBuys := detected.mint :: s.pendingBuys }
  | seen (cfg : ValidSettings p) (hopen : s.positions.hasPosition detected.mint = true) :
      BuyStep s i detected (.buyLook i) (.acquired cfg) (.buying true)
        (s.setPhase i (.buying true))
  | unseen (cfg : ValidSettings p) (hclosed : s.positions.hasPosition detected.mint = false) :
      BuyStep s i detected (.buyLook i) (.acquired cfg) (.counting cfg)
        (s.setPhase i (.counting cfg))
  | full (cfg : ValidSettings p) : BuyStep s i detected (.buyCount i) (.counting cfg)
      (.releasing false) (s.setPhase i (.releasing false))
  | room (cfg : ValidSettings p) (hroom : s.positions.keys.length < cfg.val.maxHoldedCoins) :
      BuyStep s i detected (.buyCount i) (.counting cfg) (.buying false)
        (s.setPhase i (.buying false))
  | gaveUp (held : Bool) (outcome : BuyOutcome) : BuyStep s i detected (.buyResult i outcome)
      (.buying held) (.releasing false) (s.setPhase i (.releasing false))
  | bought (held : Bool) (result : Bought) :
      BuyStep s i detected (.buyResult i (.bought result)) (.buying held)
        (.registering held result) (s.setPhase i (.registering held result))
  | accumulated (result : Bought) :
      BuyStep s i detected (.buyRegister i) (.registering true result) (.releasing true)
        { s.setPhase i (.releasing true) with
          positions := s.positions.accumulatePosition p.rounding detected.mint
            result.holding.amount result.holding.buyPrice result.holding.buyCostSol
          disk := s.positions.accumulatePosition p.rounding detected.mint
            result.holding.amount result.holding.buyPrice result.holding.buyCostSol
          log := .accumulated detected.mint :: s.log }
  | opened (result : Bought) :
      BuyStep s i detected (.buyRegister i) (.registering false result) .persisting
        { s.setPhase i .persisting with
          positions := s.positions.addPosition detected.mint (registered detected result)
          log := .opened detected.mint :: s.log }
  | persisted : BuyStep s i detected (.buyPersist i) .persisting (.releasing true)
      { s.setPhase i (.releasing true) with disk := s.positions }
  | released (registered : Bool) : BuyStep s i detected (.buyRelease i)
      (.releasing registered) (.done registered)
      { s.setPhase i (.done registered) with
        pendingBuys := s.pendingBuys.erase detected.mint }

theorem getElem?_setPhase (s : Bot p) (i j : Nat) (phase : BuyPhase p) :
    (s.setPhase i phase).buys[j]? =
      if i = j then (s.buys[j]?).map fun task => { task with phase := phase }
      else s.buys[j]? := by
  simp only [setPhase, List.getElem?_modify]
  split <;> simp

theorem step_task {s s' : Bot p} {e : Event p} {i : Nat} (hstep : s.step e = some s')
    (htask : e.task = some i) :
    ∃ task phase, s.buys[i]? = some task ∧
      BuyStep s i task.detected e task.phase phase s' := by
  cases e with
  | buyConfigure j =>
      cases htask
      simp only [step, buyConfigure] at hstep
      split at hstep <;> cases hstep
      case h_1 hbuy => exact ⟨_, _, hbuy, .configure⟩
  | buyAcquire j =>
      cases htask
      simp only [step, buyAcquire] at hstep
      split at hstep
      case h_2 => cases hstep
      case h_1 detected cfg hbuy =>
        split at hstep
        · cases hstep
          exact ⟨_, _, hbuy, .refused cfg⟩
        · split at hstep
          · cases hstep
            exact ⟨_, _, hbuy, .refused cfg⟩
          case isFalse hfree =>
            cases hstep
            exact ⟨_, _, hbuy, .acquired cfg (by simpa using hfree)⟩
  | buyLook j =>
      cases htask
      simp only [step, buyLook] at hstep
      split at hstep
      case h_2 => cases hstep
      case h_1 detected cfg hbuy =>
        split at hstep <;> cases hstep
        case isTrue hopen => exact ⟨_, _, hbuy, .seen cfg hopen⟩
        case isFalse hclosed => exact ⟨_, _, hbuy, .unseen cfg (by simpa using hclosed)⟩
  | buyCount j =>
      cases htask
      simp only [step, buyCount] at hstep
      split at hstep
      case h_2 => cases hstep
      case h_1 detected cfg hbuy =>
        split at hstep <;> cases hstep
        case isTrue => exact ⟨_, _, hbuy, .full cfg⟩
        case isFalse hroom => exact ⟨_, _, hbuy, .room cfg (not_le.mp hroom)⟩
  | buyResult j outcome =>
      cases htask
      simp only [step, buyResult] at hstep
      split at hstep
      case h_2 => cases hstep
      case h_1 detected held hbuy =>
        cases outcome <;> cases hstep
        case bought result => exact ⟨_, _, hbuy, .bought held result⟩
        all_goals exact ⟨_, _, hbuy, .gaveUp held _⟩
  | buyRegister j =>
      cases htask
      obtain ⟨detected, result, ⟨hbuy, rfl⟩ | ⟨hbuy, rfl⟩⟩ := buyRegister_inv hstep
      · exact ⟨_, _, hbuy, .accumulated result⟩
      · exact ⟨_, _, hbuy, .opened result⟩
  | buyPersist j =>
      cases htask
      simp only [step, buyPersist] at hstep
      split at hstep <;> cases hstep
      case h_1 hbuy => exact ⟨_, _, hbuy, .persisted⟩
  | buyRelease j =>
      cases htask
      simp only [step, buyRelease] at hstep
      split at hstep <;> cases hstep
      case h_1 registered hbuy => exact ⟨_, _, hbuy, .released registered⟩
  | _ => cases htask

theorem BuyStep.buys {s s' : Bot p} {i : Nat} {detected : DetectedBuy} {e : Event p}
    {phase phase' : BuyPhase p} (hmove : BuyStep s i detected e phase phase' s') :
    s'.buys = (s.setPhase i phase').buys := by
  cases hmove <;> rfl

theorem BuyStep.settings {s s' : Bot p} {i : Nat} {detected : DetectedBuy} {e : Event p}
    {phase phase' : BuyPhase p} (hmove : BuyStep s i detected e phase phase' s') :
    s'.settings = s.settings := by
  cases hmove <;> rfl

theorem BuyStep.disk {s s' : Bot p} {i : Nat} {detected : DetectedBuy} {e : Event p}
    {phase phase' : BuyPhase p} (hmove : BuyStep s i detected e phase phase' s')
    (hsaves : e.saves = false) : s'.disk = s.disk := by
  cases hmove <;> first | rfl | cases hsaves

/-! ## Steps outside the buy tasks -/

/--
Outside the buy tasks no position is opened, few steps touch the positions, and
only the dispatch adds a task.
-/
structure Outside (s : Bot p) (e : Event p) (s' : Bot p) : Prop where
  settings : s'.settings = s.settings ∨ e = .reload s'.settings
  disk : e.saves = false → s'.disk = s.disk
  buys : s'.buys = s.buys ∨ ∃ detected, s'.buys = s.buys ++ [⟨detected, .spawned⟩]
  pendingBuys : s'.pendingBuys = s.pendingBuys
  positions : ∀ mint, s'.positions.hasPosition mint = true →
    s.positions.hasPosition mint = true
  untouched : e.edits = false → s'.positions = s.positions

theorem Outside.getElem? {s s' : Bot p} {e : Event p} (hout : s.Outside e s') (j : Nat) :
    s'.buys[j]? = s.buys[j]? ∨
      s.buys[j]? = none ∧ ∃ detected, s'.buys[j]? = some ⟨detected, .spawned⟩ := by
  rcases hout.buys with hbuys | ⟨detected, hbuys⟩
  · exact .inl (by rw [hbuys])
  · rw [hbuys, List.getElem?_append]
    split
    case isTrue => exact .inl rfl
    case isFalse hlength =>
      have hnone : s.buys[j]? = none := List.getElem?_eq_none (not_lt.mp hlength)
      cases j - s.buys.length with
      | zero => exact .inr ⟨hnone, detected, rfl⟩
      | succ k => exact .inl hnone.symm

theorem Outside.of_eq {s s' : Bot p} {e : Event p} (hsettings : s'.settings = s.settings)
    (hdisk : s'.disk = s.disk) (hbuys : s'.buys = s.buys)
    (hpending : s'.pendingBuys = s.pendingBuys) (hpos : s'.positions = s.positions) :
    s.Outside e s' :=
  ⟨.inl hsettings, fun _ => hdisk, .inl hbuys, hpending, fun _ hopen => hpos ▸ hopen,
    fun _ => hpos⟩

theorem tickPrice_local {s s' : Bot p} {reading : PriceReading} {now : Int}
    (hstep : s.tickPrice reading now = some s') :
    ∃ mint positions monitor, s' = { s with positions := positions, monitor := monitor } ∧
      (positions = s.positions ∨ positions = s.positions.markMigrated mint ∨
        ∃ watermark, positions = s.positions.setHighWatermark mint watermark) := by
  simp only [tickPrice] at hstep
  split at hstep
  case h_2 => cases hstep
  case h_1 cfg mint h rest hmon =>
    refine ⟨mint, ?_⟩
    cases reading with
    | error text =>
        cases hstep
        refine ⟨_, _, rfl, ?_⟩
        split
        · exact .inr (.inl rfl)
        · exact .inl rfl
    | price price =>
        simp only at hstep
        split at hstep
        · cases hstep
          exact ⟨_, _, rfl, .inr (.inl rfl)⟩
        · split at hstep
          · cases hstep
            exact ⟨s.positions, _, rfl, .inl rfl⟩
          · split at hstep
            · cases hstep
              exact ⟨_, _, rfl, .inr (.inr ⟨_, rfl⟩)⟩
            · split at hstep <;> cases hstep <;> exact ⟨_, _, rfl, .inr (.inr ⟨_, rfl⟩)⟩

theorem tickCurve_local {s s' : Bot p} {liquidity : Option ℚ}
    (hstep : s.tickCurve liquidity = some s') :
    ∃ mint h monitor, s' =
      { s with positions := s.positions.noteLiquidity mint h liquidity, monitor := monitor } := by
  simp only [tickCurve] at hstep
  split at hstep
  case h_2 => cases hstep
  case h_1 => split at hstep <;> cases hstep <;> exact ⟨_, _, _, rfl⟩

theorem step_outside {s s' : Bot p} {e : Event p} (hstep : s.step e = some s')
    (htask : e.task = none) : s.Outside e s' := by
  cases e with
  | reload cfg =>
      cases hstep
      exact ⟨.inr rfl, fun _ => rfl, .inl rfl, rfl, fun _ => id, fun _ => rfl⟩
  | listenerSell sell =>
      simp only [step, listenerSell, Option.ite_none_right_eq_some] at hstep
      cases hstep.2
      exact .of_eq rfl rfl rfl rfl rfl
  | detectBuy detected now =>
      simp only [step, detectBuy] at hstep
      split at hstep
      case h_1 =>
        split at hstep <;> cases hstep
        · exact .of_eq rfl rfl rfl rfl rfl
        · exact ⟨.inl rfl, fun _ => rfl, .inr ⟨detected, rfl⟩, rfl, fun _ => id, fun _ => rfl⟩
      case h_2 => cases hstep
  | mirrorRecv =>
      simp only [step, mirrorRecv] at hstep
      split at hstep <;> cases hstep
      exact .of_eq rfl rfl rfl rfl rfl
  | mirrorCheck =>
      simp only [step, mirrorCheck] at hstep
      split at hstep
      case h_1 => split at hstep <;> cases hstep <;> exact .of_eq rfl rfl rfl rfl rfl
      case h_2 => cases hstep
  | mirrorLoad =>
      obtain ⟨mirror, -, ⟨h, -, rfl⟩ | ⟨-, rfl⟩⟩ := mirrorLoad_inv hstep
      · exact .of_eq rfl rfl rfl rfl rfl
      · exact .of_eq rfl rfl rfl rfl rfl
  | mirrorSend =>
      obtain ⟨mirror, order, -, rfl⟩ := mirrorSend_inv hstep
      exact .of_eq rfl rfl rfl rfl rfl
  | tickStart order =>
      obtain ⟨-, -, rfl⟩ := tickStart_inv hstep
      exact .of_eq rfl rfl rfl rfl rfl
  | tickPrice reading now =>
      obtain ⟨mint, h, rest, heval⟩ := tickPrice_inv hstep
      obtain ⟨_, positions, monitor, rfl, _⟩ := tickPrice_local hstep
      exact ⟨.inl rfl, fun _ => rfl, .inl rfl, rfl, heval.positions.hasPosition,
        by simp [Event.edits]⟩
  | tickCurve liquidity =>
      obtain ⟨mint, h, rest, heval⟩ := tickCurve_inv hstep
      obtain ⟨_, _, monitor, rfl⟩ := tickCurve_local hstep
      exact ⟨.inl rfl, fun _ => rfl, .inl rfl, rfl, heval.positions.hasPosition,
        by simp [Event.edits]⟩
  | tickSend =>
      obtain ⟨cfg, order, later, rest, -, rfl⟩ := tickSend_inv hstep
      exact .of_eq rfl rfl rfl rfl rfl
  | tickMark =>
      obtain ⟨cfg, mint, later, rest, -, rfl⟩ := tickMark_inv hstep
      exact ⟨.inl rfl, fun _ => rfl, .inl rfl, rfl, fun _ => Positions.hasPosition_of_update,
        by simp [Event.edits]⟩
  | revalidateStart order =>
      simp only [step, revalidateStart] at hstep
      split at hstep
      case h_1 =>
        simp only [Option.ite_none_right_eq_some] at hstep
        obtain ⟨-, hstep⟩ := hstep
        split at hstep <;> cases hstep <;> exact .of_eq rfl rfl rfl rfl rfl
      case h_2 => cases hstep
  | revalidateCheck check =>
      have hquiet := step_quiet hstep rfl
      simp only [step, revalidateCheck] at hstep
      split at hstep <;> cases hstep
      exact ⟨.inl rfl, fun _ => rfl, .inl rfl, rfl, hquiet.positions.hasPosition,
        by simp [Event.edits]⟩
  | revalidateEnd =>
      simp only [step, revalidateEnd] at hstep
      split at hstep <;> cases hstep
      exact ⟨.inl rfl, by simp [Event.saves], .inl rfl, rfl, fun _ => id, fun _ => rfl⟩
  | validateStart order =>
      simp only [step, validateStart] at hstep
      split at hstep
      case h_1 =>
        simp only [Option.ite_none_right_eq_some] at hstep
        cases hstep.2
        exact .of_eq rfl rfl rfl rfl rfl
      case h_2 => cases hstep
  | validateCheck check =>
      have hquiet := step_quiet hstep rfl
      simp only [step, validateCheck] at hstep
      split at hstep <;> cases hstep
      exact ⟨.inl rfl, fun _ => rfl, .inl rfl, rfl, hquiet.positions.hasPosition,
        by simp [Event.edits]⟩
  | validateEnd =>
      simp only [step, validateEnd] at hstep
      split at hstep <;> cases hstep
      exact ⟨.inl rfl, by simp [Event.saves], .inl rfl, rfl, fun _ => id, fun _ => rfl⟩
  | execRecv =>
      obtain ⟨queued, rest, -, -, rfl⟩ := execRecv_inv hstep
      exact .of_eq rfl rfl rfl rfl rfl
  | execCheck =>
      obtain ⟨queued, -, ⟨-, rfl⟩ | ⟨-, rfl⟩⟩ := execCheck_inv hstep
      · exact .of_eq rfl rfl rfl rfl rfl
      · exact .of_eq rfl rfl rfl rfl rfl
  | execFinish outcome =>
      obtain ⟨queued, -, rfl⟩ := execFinish_inv hstep
      refine ⟨.inl rfl, fun hsaves => ?_, .inl rfl, rfl,
        fun _ => Positions.hasPosition_of_settle, by simp [Event.edits]⟩
      have hnot : outcome ≠ .executed := by
        rintro rfl
        cases hsaves
      exact if_neg hnot
  | _ => cases htask

theorem positions_eq_of_not_edits {s s' : Bot p} {e : Event p} (hstep : s.step e = some s')
    (hedits : e.edits = false) : s'.positions = s.positions := by
  cases htask : e.task with
  | none => exact (step_outside hstep htask).untouched hedits
  | some i =>
      obtain ⟨⟨detected, before⟩, phase, -, hmove⟩ := step_task hstep htask
      cases hmove <;> first | rfl | cases hedits

end Bot

end Girasol
