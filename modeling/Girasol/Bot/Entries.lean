import Girasol.Bot.BuySteps
import Girasol.Bot.Decisions

/-!
# What a step does to one position

Every step leaves the entry of a mint as it is or changes it in one of a few
ways.  What a position satisfies in every state follows by cases on these.
-/

namespace Girasol

open Foundation

variable {p : Platform}

def Monitor.upcoming : Monitor p → List (Mint × Holding)
  | .ticking _ rest | .probing _ _ _ _ rest | .sending _ _ _ rest | .marking _ _ _ rest => rest
  | .idle | .revalidating _ _ => []

namespace Monitor

@[simp]
theorem upcoming_proceed (cfg : ValidSettings p) (rest : List (Mint × Holding)) :
    (proceed cfg rest).upcoming = rest := by
  cases rest <;> rfl

@[simp]
theorem upcoming_emit (cfg : ValidSettings p) (rest : List (Mint × Holding))
    (orders : List SellOrder) : (emit cfg rest orders).upcoming = rest := by
  cases orders with
  | nil => exact upcoming_proceed cfg rest
  | cons order later => rfl

@[simp] theorem upcoming_atRest {m : Monitor p} (h : m.atRest) : m.upcoming = [] := by
  cases m <;> first | rfl | cases h

end Monitor

def Event.ticks : Event p → Bool
  | .tickStart _ | .tickPrice _ _ | .tickCurve _ | .tickSend | .tickMark => true
  | _ => false

namespace Bot

/-- What a step makes of the entry of a mint. -/
inductive EntryStep (s : Bot p) (mint : Mint) (entry : Option Holding) :
    Event p → Option Holding → Prop
  | kept (e : Event p) : EntryStep s mint entry e entry
  | removed (e : Event p) : EntryStep s mint entry e none
  | noted (e : Event p) (h : Holding) (migrated pendingSell : Bool) (liquidity : Option ℚ) :
      entry = some h →
      EntryStep s mint entry e (some { h with
        migrated := migrated
        pendingSell := pendingSell
        entryLiquiditySol := liquidity })
  | evaluated (h seen : Holding) (cfg : ValidSettings p) (rest : List (Mint × Holding))
      (price : ℚ) (now : Int) :
      entry = some h → s.monitor = .ticking cfg ((mint, seen) :: rest) → 0 < price →
      0 < seen.buyPrice →
      EntryStep s mint entry (.tickPrice (.price price) now)
        (some { h with highWatermark := some (seen.watermarkAt price) })
  | sold (h : Holding) (queued : QueuedOrder) :
      entry = some h → s.executor = .selling queued → queued.order.mint = mint →
      EntryStep s mint entry (.execFinish .executed)
        (h.afterSell queued.order.amount queued.order.reason queued.order.levelIndex)
  | accumulated (h : Holding) (task : Nat) (detected : DetectedBuy) (result : Bought) :
      entry = some h → s.buys[task]? = some ⟨detected, .registering true result⟩ →
      detected.mint = mint →
      EntryStep s mint entry (.buyRegister task)
        (some (h.accumulated p.rounding result.holding.amount result.holding.buyPrice
          result.holding.buyCostSol))
  | opened (task : Nat) (detected : DetectedBuy) (result : Bought) :
      s.buys[task]? = some ⟨detected, .registering false result⟩ → detected.mint = mint →
      EntryStep s mint entry (.buyRegister task) (some (registered detected result))

variable {s s' : Bot p}

theorem EntryStep.update {mint other : Mint} {e : Event p} {f : Holding → Option Holding}
    {positions : Positions}
    (hf : mint = other → ∀ h, positions.lookup mint = some h →
      EntryStep s mint (positions.lookup mint) e (f h)) :
    EntryStep s mint (positions.lookup mint) e ((Store.update other f positions).lookup mint) := by
  rw [Store.lookup_update]
  split
  case isFalse => exact .kept e
  case isTrue heq =>
    cases hlook : positions.lookup mint with
    | none => exact .kept e
    | some h =>
        have hstep := hf heq h hlook
        rw [hlook] at hstep
        exact hstep

theorem EntryStep.erase {mint other : Mint} {e : Event p} (positions : Positions) :
    EntryStep s mint (positions.lookup mint) e ((positions.erase other).lookup mint) := by
  rw [Store.lookup_erase_eq]
  split
  · exact .removed e
  · exact .kept e

theorem tickPrice_ticking {reading : PriceReading} {now : Int}
    (hstep : s.tickPrice reading now = some s') :
    ∃ cfg mint seen rest, s.monitor = .ticking cfg ((mint, seen) :: rest) := by
  simp only [tickPrice] at hstep
  split at hstep
  case h_1 cfg mint seen rest hticking => exact ⟨cfg, mint, seen, rest, hticking⟩
  case h_2 => cases hstep

theorem evaluated_or_skipped (reading : PriceReading) (seen : Holding) :
    (∃ price, reading = .price price ∧ 0 < price ∧ 0 < seen.buyPrice) ∨
      ∀ price, reading = .price price → price ≤ 0 ∨ seen.buyPrice ≤ 0 := by
  by_cases heval : ∃ price, reading = .price price ∧ 0 < price ∧ 0 < seen.buyPrice
  · exact .inl heval
  · right
    intro price hreading
    by_contra hboth
    rw [not_or, not_le, not_le] at hboth
    exact heval ⟨price, hreading, hboth⟩

theorem upcoming_tickPrice {cfg : ValidSettings p} {mint : Mint} {seen : Holding}
    {rest : List (Mint × Holding)} {reading : PriceReading} {now : Int}
    (hticking : s.monitor = .ticking cfg ((mint, seen) :: rest))
    (hstep : s.tickPrice reading now = some s') : s'.monitor.upcoming = rest := by
  obtain ⟨price, rfl, hprice, hbuy⟩ | hskip := evaluated_or_skipped reading seen
  · obtain ⟨monitor, rfl, ⟨rfl, -⟩ | hemit⟩ := tickPrice_evaluates hticking hprice hbuy hstep
    · rfl
    · rw [hemit none]
      exact Monitor.upcoming_emit cfg rest _
  · obtain ⟨positions, -, rfl⟩ := tickPrice_passes hticking hskip hstep
    exact Monitor.upcoming_proceed cfg rest

private theorem entry_tickPrice {reading : PriceReading} {now : Int} (mint : Mint)
    (hstep : s.tickPrice reading now = some s') :
    EntryStep s mint (s.positions.lookup mint) (.tickPrice reading now)
      (s'.positions.lookup mint) := by
  obtain ⟨cfg, other, seen, rest, hticking⟩ := tickPrice_ticking hstep
  obtain ⟨price, rfl, hprice, hbuy⟩ | hskip := evaluated_or_skipped reading seen
  · obtain ⟨monitor, rfl, -⟩ := tickPrice_evaluates hticking hprice hbuy hstep
    apply EntryStep.update
    rintro rfl h hlook
    exact .evaluated h seen cfg rest price now hlook hticking hprice hbuy
  · obtain ⟨positions, rfl | rfl, rfl⟩ := tickPrice_passes hticking hskip hstep
    · exact .kept _
    · apply EntryStep.update
      intro _ h hlook
      exact .noted _ h true h.pendingSell h.entryLiquiditySol hlook

theorem step_entry {e : Event p} (hstep : s.step e = some s') (mint : Mint) :
    EntryStep s mint (s.positions.lookup mint) e (s'.positions.lookup mint) := by
  cases hedits : e.edits with
  | false =>
      rw [positions_eq_of_not_edits hstep hedits]
      exact .kept e
  | true =>
      cases e with
      | tickPrice reading now => exact entry_tickPrice mint hstep
      | tickCurve liquidity =>
          obtain ⟨other, seen, monitor, rfl⟩ := tickCurve_local hstep
          simp only [Positions.noteLiquidity]
          split
          · apply EntryStep.update
            intro _ h hlook
            exact .noted _ h h.migrated h.pendingSell _ hlook
          · exact .kept _
      | tickMark =>
          obtain ⟨cfg, other, later, rest, -, rfl⟩ := tickMark_inv hstep
          apply EntryStep.update
          intro _ h hlook
          exact .noted _ h h.migrated true h.entryLiquiditySol hlook
      | revalidateCheck check =>
          simp only [step, revalidateCheck] at hstep
          split at hstep <;> cases hstep
          simp only [applyCheck]
          split
          · exact .erase s.positions
          · exact .kept _
      | validateCheck check =>
          simp only [step, validateCheck] at hstep
          split at hstep <;> cases hstep
          simp only [applyCheck]
          split
          · exact .erase s.positions
          · exact .kept _
      | execFinish outcome =>
          obtain ⟨queued, hexec, rfl⟩ := execFinish_inv hstep
          cases outcome with
          | executed =>
              apply EntryStep.update
              intro hmint h hlook
              exact .sold h queued hlook hexec hmint.symm
          | failed =>
              apply EntryStep.update
              intro _ h hlook
              exact .noted _ h h.migrated false h.entryLiquiditySol hlook
          | skipped => exact .kept _
      | buyRegister task =>
          obtain ⟨detected, result, ⟨hbuy, rfl⟩ | ⟨hbuy, rfl⟩⟩ := buyRegister_inv hstep
          · apply EntryStep.update
            intro hmint h hlook
            exact .accumulated h task detected result hlook hbuy hmint.symm
          · simp only [Positions.addPosition, Store.lookup_insert_eq]
            split
            case isTrue hmint => exact .opened task detected result hbuy hmint.symm
            case isFalse => exact .kept _
      | _ => cases hedits

theorem upcoming_tickStart {order : List Mint} (hstep : s.tickStart order = some s') :
    s'.positions = s.positions ∧ (s'.monitor.upcoming.map Prod.fst).Nodup ∧
      ∀ mint h, (mint, h) ∈ s'.monitor.upcoming → s.positions.lookup mint = some h := by
  obtain ⟨-, hperm, rfl⟩ := tickStart_inv hstep
  have hsub := List.filter_sublist (p := fun x : Mint × Holding =>
    !x.2.migrated && !x.2.pendingSell) (l := s.positions.snapshot order)
  rw [Monitor.upcoming_proceed]
  refine ⟨rfl, (Positions.snapshot_nodup hperm).sublist (hsub.map Prod.fst), ?_⟩
  intro mint h hmem
  exact Positions.mem_snapshot (hsub.subset hmem)

theorem monitor_of_not_ticks {e : Event p} (hstep : s.step e = some s')
    (hticks : e.ticks = false) : s'.monitor = s.monitor ∨ s'.monitor.atRest := by
  cases hquiet : e.quiet with
  | true => exact (step_quiet hstep hquiet).monitor.imp_right And.right
  | false =>
      left
      cases e with
      | mirrorLoad =>
          obtain ⟨mirror, -, ⟨h, -, rfl⟩ | ⟨-, rfl⟩⟩ := mirrorLoad_inv hstep
          · rfl
          · rfl
      | mirrorSend =>
          obtain ⟨mirror, order, -, rfl⟩ := mirrorSend_inv hstep
          rfl
      | buyRegister task =>
          obtain ⟨detected, result, ⟨-, rfl⟩ | ⟨-, rfl⟩⟩ := buyRegister_inv hstep
          · rfl
          · rfl
      | execRecv =>
          obtain ⟨queued, rest, -, -, rfl⟩ := execRecv_inv hstep
          rfl
      | execCheck =>
          obtain ⟨queued, -, ⟨-, rfl⟩ | ⟨-, rfl⟩⟩ := execCheck_inv hstep
          · rfl
          · rfl
      | execFinish outcome =>
          obtain ⟨queued, -, rfl⟩ := execFinish_inv hstep
          rfl
      | tickStart | tickPrice | tickCurve | tickSend | tickMark => cases hticks
      | _ => cases hquiet

theorem upcoming_suffix {e : Event p} (hstep : s.step e = some s')
    (hstart : ∀ order, e ≠ .tickStart order) : s'.monitor.upcoming <:+ s.monitor.upcoming := by
  cases hticks : e.ticks with
  | false =>
      obtain heq | hrest := monitor_of_not_ticks hstep hticks
      · rw [heq]
      · rw [Monitor.upcoming_atRest hrest]
        exact List.nil_suffix
  | true =>
      cases e with
      | tickStart order => exact absurd rfl (hstart order)
      | tickPrice reading now =>
          obtain ⟨cfg, other, seen, rest, hticking⟩ := tickPrice_ticking hstep
          rw [upcoming_tickPrice hticking hstep, hticking]
          exact List.suffix_cons _ _
      | tickCurve liquidity =>
          obtain ⟨cfg, other, seen, price, rest, orders, hprobing, rfl, -⟩ :=
            tickCurve_emits hstep
          rw [hprobing, Monitor.upcoming_emit]
          exact List.suffix_rfl
      | tickSend =>
          obtain ⟨cfg, order, later, rest, hsending, rfl⟩ := tickSend_inv hstep
          rw [hsending]
          exact List.suffix_rfl
      | tickMark =>
          obtain ⟨cfg, other, later, rest, hmarking, rfl⟩ := tickMark_inv hstep
          rw [hmarking, Monitor.upcoming_emit]
          exact List.suffix_rfl
      | _ => cases hticks

end Bot

end Girasol
