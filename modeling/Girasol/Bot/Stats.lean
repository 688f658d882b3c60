import Girasol.Bot.MirrorTiming
import Girasol.Foundation.Counting
import Girasol.Foundation.Precise
import Girasol.Foundation.Runs

/-!
# The session statistics

The counters that the main loop, the buy tasks and the sell executor share, over
whole runs of the bot.  Every dispatched detection and every order the executor
started is in exactly one counter, is still under way, or took one of the error
paths that count nothing.
-/

namespace Girasol

open Foundation

variable {p : Platform}

structure Stats where
  totalDetections : Nat := 0
  totalBuys : Nat := 0
  totalSkipped : Nat := 0
  totalSells : Nat := 0
  totalBuyFailures : Nat := 0
  totalSellFailures : Nat := 0
  totalPnlNano : Int := 0
  deriving DecidableEq

namespace Stats

def addDetection (stats : Stats) : Stats :=
  { stats with totalDetections := stats.totalDetections + 1 }

def addBuy (stats : Stats) : Stats := { stats with totalBuys := stats.totalBuys + 1 }

def addSkipped (stats : Stats) : Stats := { stats with totalSkipped := stats.totalSkipped + 1 }

def addSell (stats : Stats) : Stats := { stats with totalSells := stats.totalSells + 1 }

def addBuyFailure (stats : Stats) : Stats :=
  { stats with totalBuyFailures := stats.totalBuyFailures + 1 }

def addSellFailure (stats : Stats) : Stats :=
  { stats with totalSellFailures := stats.totalSellFailures + 1 }

/-- The sum wraps around as an atomic `i64` does. -/
def addPnlSol (r : Rounding) (stats : Stats) (sol : ℚ) : Stats :=
  let nanos := asI64OfF64 (roundHalfAway (r.mul sol 1000000000))
  { stats with totalPnlNano := (stats.totalPnlNano + nanos).bmod (2 ^ 64) }

end Stats

/-! ## What each step counts -/

/--
A step of the bot with what its booking depends on: whether an error leaves
without a count, and the SOL change that an executed sale reports.
-/
structure NotedEvent (p : Platform) where
  event : Event p
  uncounted : Bool := false
  solBalanceChange : Option ℚ := none

namespace Bot

def phaseOf (s : Bot p) (task : Nat) : Option (BuyPhase p) := (s.buys[task]?).map BuyTask.phase

/-- The counters after a step from `s` to `s'`. -/
def count (s s' : Bot p) (noted : NotedEvent p) (stats : Stats) : Stats :=
  match noted.event with
  | .detectBuy detected _ =>
      if (s.seenSigs.lookup detected.signature).isSome then stats else stats.addDetection
  | .buyAcquire task =>
      match s'.phaseOf task with
      | some (.done _) => stats.addSkipped
      | _ => stats
  | .buyCount task =>
      match s'.phaseOf task with
      | some (.releasing _) => stats.addSkipped
      | _ => stats
  | .buyResult _ .skipped => stats.addSkipped
  -- the `?` of the AMM routes leaves the task before its result is matched
  | .buyResult _ .failed => if noted.uncounted then stats else stats.addBuyFailure
  | .buyResult _ (.bought _) => stats.addBuy
  | .execFinish .executed =>
      match noted.solBalanceChange with
      | some sol => stats.addSell.addPnlSol p.rounding sol
      | none => stats.addSell
  | .execFinish .failed => stats.addSellFailure
  -- an order without its accounts or a key is counted, one that was not sent is not
  | .execFinish .skipped => if noted.uncounted then stats else stats.addSellFailure
  | _ => stats

end Bot

structure Session (p : Platform) where
  bot : Bot p
  stats : Stats

namespace Session

def start (settings : ValidSettings p) (hasPayer : Bool) (loaded : Positions) : Session p :=
  ⟨.start settings hasPayer loaded, {}⟩

def step (s : Session p) (noted : NotedEvent p) : Option (Session p) :=
  (s.bot.step noted.event).map fun bot => ⟨bot, s.bot.count bot noted s.stats⟩

end Session

/-! ## Where a detection and an order stand -/

namespace BuyPhase

/-- A buy is counted before it is registered. -/
def isBought : BuyPhase p → Bool
  | .registering _ _ => true
  | phase => phase.succeeded

def underWay : BuyPhase p → Bool
  | .registering _ _ => false
  | phase => phase.inFlight

end BuyPhase

namespace Bot

def buysWith (s : Bot p) (check : BuyPhase p → Bool) : Nat :=
  s.buys.countP fun task => check task.phase

end Bot

namespace LogEntry

def isSold : LogEntry → Bool
  | .finished _ .executed => true
  | _ => false

def isUnsold : LogEntry → Bool
  | .finished _ .failed | .finished _ .skipped => true
  | _ => false

end LogEntry

namespace NotedEvent

/-- A buy that failed on a path that counts nothing. -/
def losesBuy (noted : NotedEvent p) : Bool :=
  match noted.event with
  | .buyResult _ .failed => noted.uncounted
  | _ => false

/-- An order that was dropped on a path that counts nothing. -/
def losesSale (noted : NotedEvent p) : Bool :=
  match noted.event with
  | .execFinish .skipped => noted.uncounted
  | _ => false

end NotedEvent

structure Session.Balanced (s : Session p) (lostBuys lostSales : Nat) : Prop where
  detections : s.stats.totalDetections = s.bot.buys.length
  buys : s.stats.totalBuys = s.bot.buysWith BuyPhase.isBought
  gaveUp : s.stats.totalSkipped + s.stats.totalBuyFailures + lostBuys =
    s.bot.buysWith BuyPhase.gaveUp
  sells : s.stats.totalSells = s.bot.log.countP LogEntry.isSold
  unsold : s.stats.totalSellFailures + lostSales = s.bot.log.countP LogEntry.isUnsold

/-! ## One step -/

namespace BuyPhase

private theorem progress_eq_one (phase : BuyPhase p) :
    phase.underWay.toNat + phase.isBought.toNat + phase.gaveUp.toNat = 1 := by
  cases phase with
  | releasing registered => cases registered <;> rfl
  | done registered => cases registered <;> rfl
  | _ => rfl

end BuyPhase

namespace Bot

variable {s s' : Bot p}

theorem buysWith_move {i : Nat} {task : BuyTask p} {phase : BuyPhase p}
    (hbuy : s.buys[i]? = some task) (hbuys : s'.buys = (s.setPhase i phase).buys)
    (check : BuyPhase p → Bool) :
    s'.buysWith check + (check task.phase).toNat =
      s.buysWith check + (check phase).toNat := by
  have hmodify := countP_modify (fun t : BuyTask p => check t.phase)
    (fun t => { t with phase := phase }) hbuy
  rw [buysWith, hbuys]
  exact hmodify

theorem phaseOf_move {i : Nat} {task : BuyTask p} {phase : BuyPhase p}
    (hbuy : s.buys[i]? = some task) (hbuys : s'.buys = (s.setPhase i phase).buys) :
    s'.phaseOf i = some phase := by
  rw [phaseOf, hbuys, getElem?_setPhase, if_pos rfl, hbuy]
  rfl

theorem buysWith_progress (s : Bot p) :
    s.buysWith BuyPhase.underWay + s.buysWith BuyPhase.isBought + s.buysWith BuyPhase.gaveUp =
      s.buys.length := by
  simp only [buysWith]
  induction s.buys with
  | nil => rfl
  | cons task rest ih =>
      have hone := task.phase.progress_eq_one
      simp only [countP_cons_toNat, List.length_cons]
      omega

theorem detectBuy_buys {detected : DetectedBuy} {now : Nat}
    (hstep : s.detectBuy detected now = some s') :
    s'.log = s.log ∧
      s'.buys =
        if (s.seenSigs.lookup detected.signature).isSome then s.buys
        else s.buys ++ [⟨detected, .spawned⟩] := by
  simp only [detectBuy] at hstep
  split at hstep
  case h_1 =>
    split at hstep <;> cases hstep
    case isTrue hseen => exact ⟨rfl, (if_pos hseen).symm⟩
    case isFalse hnew => exact ⟨rfl, (if_neg hnew).symm⟩
  case h_2 => cases hstep

def SameSales (log log' : List LogEntry) : Prop :=
  log'.countP LogEntry.isSold = log.countP LogEntry.isSold ∧
    log'.countP LogEntry.isUnsold = log.countP LogEntry.isUnsold

theorem SameSales.refl (log : List LogEntry) : SameSales log log := ⟨rfl, rfl⟩

theorem SameSales.cons {entry : LogEntry} (hsold : entry.isSold = false)
    (hunsold : entry.isUnsold = false) (log : List LogEntry) : SameSales log (entry :: log) := by
  simp only [SameSales, countP_cons_toNat, hsold, hunsold, Bool.toNat_false, Nat.zero_add,
    and_self]

private theorem sameSales_of_quiet (hquiet : s.Quiet s') : SameSales s.log s'.log := by
  rcases hquiet.log with heq | ⟨mirror, heq⟩
  · rw [heq]
    exact .refl s.log
  · rw [heq]
    exact .cons rfl rfl s.log

theorem sameSales_step {e : Event p} (hstep : s.step e = some s')
    (hfinish : ∀ outcome, e ≠ .execFinish outcome) : SameSales s.log s'.log := by
  cases hquiet : e.quiet with
  | true => exact sameSales_of_quiet (step_quiet hstep hquiet)
  | false =>
      cases e with
      | mirrorLoad =>
          obtain ⟨mirror, -, ⟨h, -, rfl⟩ | ⟨-, rfl⟩⟩ := mirrorLoad_inv hstep
          · exact .refl s.log
          · exact .cons rfl rfl s.log
      | mirrorSend =>
          obtain ⟨mirror, order, -, rfl⟩ := mirrorSend_inv hstep
          exact .cons rfl rfl s.log
      | buyRegister task =>
          obtain ⟨detected, result, ⟨-, rfl⟩ | ⟨-, rfl⟩⟩ := buyRegister_inv hstep
          · exact .cons rfl rfl s.log
          · exact .cons rfl rfl s.log
      | tickStart order =>
          obtain ⟨-, -, rfl⟩ := tickStart_inv hstep
          exact .refl s.log
      | tickPrice reading now =>
          obtain ⟨mint, h, rest, heval⟩ := tickPrice_inv hstep
          rw [heval.log]
          exact .refl s.log
      | tickCurve liquidity =>
          obtain ⟨mint, h, rest, heval⟩ := tickCurve_inv hstep
          rw [heval.log]
          exact .refl s.log
      | tickSend =>
          obtain ⟨cfg, order, later, rest, -, rfl⟩ := tickSend_inv hstep
          exact .refl s.log
      | tickMark =>
          obtain ⟨cfg, mint, later, rest, -, rfl⟩ := tickMark_inv hstep
          exact .refl s.log
      | execRecv =>
          obtain ⟨queued, rest, -, -, rfl⟩ := execRecv_inv hstep
          exact .refl s.log
      | execCheck =>
          obtain ⟨queued, -, ⟨-, rfl⟩ | ⟨-, rfl⟩⟩ := execCheck_inv hstep
          · exact .cons rfl rfl s.log
          · exact .refl s.log
      | execFinish outcome => exact absurd rfl (hfinish outcome)
      | _ => cases hquiet

theorem buys_step {e : Event p} (hstep : s.step e = some s') (htask : e.task = none)
    (hdetect : ∀ detected now, e ≠ .detectBuy detected now) : s'.buys = s.buys := by
  cases e with
  | reload cfg =>
      cases hstep
      rfl
  | listenerSell sell =>
      simp only [step, listenerSell, Option.ite_none_right_eq_some] at hstep
      cases hstep.2
      rfl
  | detectBuy detected now => exact absurd rfl (hdetect detected now)
  | mirrorRecv =>
      simp only [step, mirrorRecv] at hstep
      split at hstep <;> cases hstep
      rfl
  | mirrorCheck =>
      simp only [step, mirrorCheck] at hstep
      split at hstep
      case h_1 => split at hstep <;> cases hstep <;> rfl
      case h_2 => cases hstep
  | mirrorLoad =>
      obtain ⟨mirror, -, ⟨h, -, rfl⟩ | ⟨-, rfl⟩⟩ := mirrorLoad_inv hstep <;> rfl
  | mirrorSend =>
      obtain ⟨mirror, order, -, rfl⟩ := mirrorSend_inv hstep
      rfl
  | tickStart order =>
      obtain ⟨-, -, rfl⟩ := tickStart_inv hstep
      rfl
  | tickPrice reading now =>
      obtain ⟨_, positions, monitor, rfl, _⟩ := tickPrice_local hstep
      rfl
  | tickCurve liquidity =>
      obtain ⟨_, _, monitor, rfl⟩ := tickCurve_local hstep
      rfl
  | tickSend =>
      obtain ⟨cfg, order, later, rest, -, rfl⟩ := tickSend_inv hstep
      rfl
  | tickMark =>
      obtain ⟨cfg, mint, later, rest, -, rfl⟩ := tickMark_inv hstep
      rfl
  | revalidateStart order =>
      simp only [step, revalidateStart] at hstep
      split at hstep
      case h_1 =>
        simp only [Option.ite_none_right_eq_some] at hstep
        obtain ⟨-, hstep⟩ := hstep
        split at hstep <;> cases hstep <;> rfl
      case h_2 => cases hstep
  | revalidateCheck check =>
      simp only [step, revalidateCheck] at hstep
      split at hstep <;> cases hstep
      rfl
  | revalidateEnd =>
      simp only [step, revalidateEnd] at hstep
      split at hstep <;> cases hstep
      rfl
  | validateStart order =>
      simp only [step, validateStart] at hstep
      split at hstep
      case h_1 =>
        simp only [Option.ite_none_right_eq_some] at hstep
        cases hstep.2
        rfl
      case h_2 => cases hstep
  | validateCheck check =>
      simp only [step, validateCheck] at hstep
      split at hstep <;> cases hstep
      rfl
  | validateEnd =>
      simp only [step, validateEnd] at hstep
      split at hstep <;> cases hstep
      rfl
  | execRecv =>
      obtain ⟨queued, rest, -, -, rfl⟩ := execRecv_inv hstep
      rfl
  | execCheck =>
      obtain ⟨queued, -, ⟨-, rfl⟩ | ⟨-, rfl⟩⟩ := execCheck_inv hstep <;> rfl
  | execFinish outcome =>
      obtain ⟨queued, -, rfl⟩ := execFinish_inv hstep
      rfl
  | _ => cases htask

end Bot

/-! ## All runs -/

namespace Session

variable {s s' : Session p}

theorem exists_of_step {noted : NotedEvent p} (hstep : s.step noted = some s') :
    s.bot.step noted.event = some s'.bot ∧ s'.stats = s.bot.count s'.bot noted s.stats := by
  obtain ⟨bot, hbot, rfl⟩ := Option.map_eq_some_iff.mp hstep
  exact ⟨hbot, rfl⟩

private theorem not_bought_of_gaveUp {bot : Bot p} {i : Nat} {result : Bought}
    (hstep : bot.step (.buyResult i (.bought result)) = some (bot.setPhase i (.releasing false)))
    {task : BuyTask p} (hbuy : bot.buys[i]? = some task) : False := by
  simp only [Bot.step, Bot.buyResult] at hstep
  split at hstep
  case h_1 detected held _ =>
    have hphase : (bot.setPhase i (.registering held result)).phaseOf i =
        (bot.setPhase i (.releasing false)).phaseOf i :=
      congrArg (fun b => Bot.phaseOf b i) (Option.some.inj hstep)
    rw [Bot.phaseOf_move hbuy rfl, Bot.phaseOf_move hbuy rfl] at hphase
    cases hphase
  case h_2 => cases hstep

private theorem count_task {bot bot' : Bot p} {event : Event p} (uncounted : Bool)
    (change : Option ℚ)
    {i : Nat} {task : BuyTask p} {after : BuyPhase p} (hstep : bot.step event = some bot')
    (hbuy : bot.buys[i]? = some task)
    (hmove : bot.BuyStep i task.detected event task.phase after bot') {stats stats' : Stats}
    (hstats : stats' = bot.count bot' ⟨event, uncounted, change⟩ stats) :
    (stats'.totalDetections = stats.totalDetections ∧ stats'.totalSells = stats.totalSells ∧
      stats'.totalSellFailures = stats.totalSellFailures) ∧
    stats'.totalBuys + task.phase.isBought.toNat = stats.totalBuys + after.isBought.toNat ∧
    stats'.totalSkipped + stats'.totalBuyFailures +
        (NotedEvent.losesBuy (p := p) ⟨event, uncounted, change⟩).toNat +
          task.phase.gaveUp.toNat =
      stats.totalSkipped + stats.totalBuyFailures + after.gaveUp.toNat := by
  obtain ⟨detected, before⟩ := task
  have hphase := Bot.phaseOf_move hbuy hmove.buys
  cases hmove with
  | configure => exact hstats ▸ ⟨⟨rfl, rfl, rfl⟩, rfl, rfl⟩
  | refused cfg =>
      simp only [Bot.count, hphase] at hstats
      subst hstats
      refine ⟨⟨rfl, rfl, rfl⟩, rfl, ?_⟩
      change stats.totalSkipped + 1 + stats.totalBuyFailures + 0 + 0 =
        stats.totalSkipped + stats.totalBuyFailures + 1
      omega
  | acquired cfg hfree =>
      simp only [Bot.count, hphase] at hstats
      exact hstats ▸ ⟨⟨rfl, rfl, rfl⟩, rfl, rfl⟩
  | seen cfg hopen => exact hstats ▸ ⟨⟨rfl, rfl, rfl⟩, rfl, rfl⟩
  | unseen cfg hclosed => exact hstats ▸ ⟨⟨rfl, rfl, rfl⟩, rfl, rfl⟩
  | full cfg =>
      simp only [Bot.count, hphase] at hstats
      subst hstats
      refine ⟨⟨rfl, rfl, rfl⟩, rfl, ?_⟩
      change stats.totalSkipped + 1 + stats.totalBuyFailures + 0 + 0 =
        stats.totalSkipped + stats.totalBuyFailures + 1
      omega
  | room cfg hroom =>
      simp only [Bot.count, hphase] at hstats
      exact hstats ▸ ⟨⟨rfl, rfl, rfl⟩, rfl, rfl⟩
  | gaveUp held outcome =>
      subst hstats
      cases outcome with
      | skipped =>
          refine ⟨⟨rfl, rfl, rfl⟩, rfl, ?_⟩
          change stats.totalSkipped + 1 + stats.totalBuyFailures + 0 + 0 =
            stats.totalSkipped + stats.totalBuyFailures + 1
          omega
      | failed => cases uncounted <;> exact ⟨⟨rfl, rfl, rfl⟩, rfl, rfl⟩
      | bought result => exact (not_bought_of_gaveUp hstep hbuy).elim
  | bought held result => exact hstats ▸ ⟨⟨rfl, rfl, rfl⟩, rfl, rfl⟩
  | accumulated result => exact hstats ▸ ⟨⟨rfl, rfl, rfl⟩, rfl, rfl⟩
  | opened result => exact hstats ▸ ⟨⟨rfl, rfl, rfl⟩, rfl, rfl⟩
  | persisted => exact hstats ▸ ⟨⟨rfl, rfl, rfl⟩, rfl, rfl⟩
  | released registered => cases registered <;> exact hstats ▸ ⟨⟨rfl, rfl, rfl⟩, rfl, rfl⟩

theorem Balanced.task {lostBuys lostSales : Nat} (hs : s.Balanced lostBuys lostSales)
    {noted : NotedEvent p} {i : Nat} (hstep : s.step noted = some s')
    (htask : noted.event.task = some i) :
    s'.Balanced (lostBuys + noted.losesBuy.toNat) (lostSales + noted.losesSale.toNat) := by
  obtain ⟨hbot, hstats⟩ := exists_of_step hstep
  obtain ⟨task, phase, hbuy, hmove⟩ := Bot.step_task hbot htask
  obtain ⟨hdetections, hbuys, hgaveUp, hsells, hunsold⟩ := hs
  have hsales : Bot.SameSales s.bot.log s'.bot.log := by
    refine Bot.sameSales_step hbot fun outcome heq => ?_
    rw [heq] at htask
    cases htask
  have hlost : noted.losesSale = false := by
    unfold NotedEvent.losesSale
    split
    case h_1 heq =>
      rw [heq] at htask
      cases htask
    case h_2 => rfl
  have hbought := Bot.buysWith_move hbuy hmove.buys BuyPhase.isBought
  have hgave := Bot.buysWith_move hbuy hmove.buys BuyPhase.gaveUp
  have hlength : s'.bot.buys.length = s.bot.buys.length := by
    rw [hmove.buys, Bot.setPhase, List.length_modify]
  obtain ⟨⟨hdet, hsold, hfail⟩, hbuy', hgave'⟩ :=
    count_task noted.uncounted noted.solBalanceChange hbot hbuy hmove hstats
  refine ⟨by rw [hdet, hdetections, hlength], by omega, ?_, by rw [hsold, hsells, hsales.1], ?_⟩
  · change _ + noted.losesBuy.toNat + _ = _ at hgave'
    omega
  · rw [hfail, hlost, hsales.2, ← hunsold]
    rfl

private theorem count_finish (s s' : Bot p) (queued : QueuedOrder) (outcome : SellOutcome)
    (uncounted : Bool) (change : Option ℚ) {stats stats' : Stats}
    (hstats : stats' = s.count s' ⟨.execFinish outcome, uncounted, change⟩ stats) :
    (stats'.totalDetections = stats.totalDetections ∧ stats'.totalBuys = stats.totalBuys ∧
      stats'.totalSkipped = stats.totalSkipped ∧
      stats'.totalBuyFailures = stats.totalBuyFailures) ∧
    stats'.totalSells =
      stats.totalSells + (LogEntry.finished queued outcome).isSold.toNat ∧
    stats'.totalSellFailures +
        (NotedEvent.losesSale (p := p) ⟨.execFinish outcome, uncounted, change⟩).toNat =
      stats.totalSellFailures + (LogEntry.finished queued outcome).isUnsold.toNat := by
  subst hstats
  cases outcome with
  | executed => cases change <;> exact ⟨⟨rfl, rfl, rfl, rfl⟩, rfl, rfl⟩
  | failed => exact ⟨⟨rfl, rfl, rfl, rfl⟩, rfl, rfl⟩
  | skipped => cases uncounted <;> exact ⟨⟨rfl, rfl, rfl, rfl⟩, rfl, rfl⟩

private theorem count_other (s s' : Bot p) {event : Event p} (uncounted : Bool) (change : Option ℚ)
    (htask : event.task = none) (hdetect : ∀ detected now, event ≠ .detectBuy detected now)
    (hfinish : ∀ outcome, event ≠ .execFinish outcome) (stats : Stats) :
    s.count s' ⟨event, uncounted, change⟩ stats = stats ∧
      NotedEvent.losesBuy (p := p) ⟨event, uncounted, change⟩ = false ∧
      NotedEvent.losesSale (p := p) ⟨event, uncounted, change⟩ = false := by
  cases event with
  | detectBuy detected now => exact absurd rfl (hdetect detected now)
  | execFinish outcome => exact absurd rfl (hfinish outcome)
  | buyConfigure | buyAcquire | buyLook | buyCount | buyResult | buyRegister | buyPersist
  | buyRelease => cases htask
  | _ => exact ⟨rfl, rfl, rfl⟩

theorem Balanced.rest {lostBuys lostSales : Nat} (hs : s.Balanced lostBuys lostSales)
    {noted : NotedEvent p} (hstep : s.step noted = some s') (htask : noted.event.task = none) :
    s'.Balanced (lostBuys + noted.losesBuy.toNat) (lostSales + noted.losesSale.toNat) := by
  obtain ⟨hbot, hstats⟩ := exists_of_step hstep
  obtain ⟨hdetections, hbuys, hgaveUp, hsells, hunsold⟩ := hs
  obtain ⟨event, uncounted, change⟩ := noted
  dsimp only at hbot htask
  by_cases hdetect : ∃ detected now, event = .detectBuy detected now
  · obtain ⟨detected, now, rfl⟩ := hdetect
    obtain ⟨hlog, hnew⟩ := Bot.detectBuy_buys hbot
    cases hseen : (s.bot.seenSigs.lookup detected.signature).isSome with
    | true =>
        rw [if_pos hseen] at hnew
        have hsame : s'.stats = s.stats := by
          rw [hstats]
          exact if_pos hseen
        refine ⟨?_, ?_, ?_, ?_, ?_⟩
        · rw [hsame, hnew, hdetections]
        · rw [hsame, Bot.buysWith, hnew, hbuys, Bot.buysWith]
        · rw [hsame, Bot.buysWith, hnew]
          exact hgaveUp
        · rw [hsame, hlog, hsells]
        · rw [hsame, hlog]
          exact hunsold
    | false =>
        have hfalse : ¬ (s.bot.seenSigs.lookup detected.signature).isSome = true := by
          rw [hseen]
          decide
        rw [if_neg hfalse] at hnew
        have hadd : s'.stats = s.stats.addDetection := by
          rw [hstats]
          exact if_neg hfalse
        refine ⟨?_, ?_, ?_, ?_, ?_⟩
        · rw [hadd, hnew, List.length_append, ← hdetections]
          rfl
        · rw [hadd, Bot.buysWith, hnew, List.countP_append]
          exact hbuys
        · rw [hadd, Bot.buysWith, hnew, List.countP_append]
          exact hgaveUp
        · rw [hadd, hlog]
          exact hsells
        · rw [hadd, hlog]
          exact hunsold
  · have hsame : s'.bot.buys = s.bot.buys :=
      Bot.buys_step hbot htask fun detected now heq => hdetect ⟨detected, now, heq⟩
    by_cases hfinish : ∃ outcome, event = .execFinish outcome
    · obtain ⟨outcome, rfl⟩ := hfinish
      obtain ⟨queued, -, hbot'⟩ := Bot.execFinish_inv hbot
      have hlog : s'.bot.log = .finished queued outcome :: s.bot.log := by rw [hbot']
      obtain ⟨⟨hdet, hbuy, hskip, hfail⟩, hsold, hdropped⟩ :=
        count_finish s.bot s'.bot queued outcome uncounted change hstats
      refine ⟨by rw [hdet, hsame, hdetections], ?_, ?_, ?_, ?_⟩
      · rw [hbuy, Bot.buysWith, hsame, hbuys, Bot.buysWith]
      · rw [hskip, hfail, Bot.buysWith, hsame]
        exact hgaveUp
      · rw [hsold, hlog, countP_cons_toNat, hsells, Nat.add_comm]
      · rw [hlog, countP_cons_toNat, ← hunsold]
        omega
    · have hsales := Bot.sameSales_step hbot fun outcome heq => hfinish ⟨outcome, heq⟩
      obtain ⟨hcount, hlosesBuy, hlosesSale⟩ := count_other s.bot s'.bot uncounted
        change htask (fun detected now heq => hdetect ⟨detected, now, heq⟩)
        (fun outcome heq => hfinish ⟨outcome, heq⟩) s.stats
      rw [hcount] at hstats
      refine ⟨?_, ?_, ?_, ?_, ?_⟩
      · rw [hstats, hsame, hdetections]
      · rw [hstats, Bot.buysWith, hsame, hbuys, Bot.buysWith]
      · rw [hstats, hlosesBuy, Bot.buysWith, hsame]
        exact hgaveUp
      · rw [hstats, hsells, hsales.1]
      · rw [hstats, hlosesSale, hsales.2]
        exact hunsold

theorem Balanced.step {lostBuys lostSales : Nat} (hs : s.Balanced lostBuys lostSales)
    {noted : NotedEvent p} (hstep : s.step noted = some s') :
    s'.Balanced (lostBuys + noted.losesBuy.toNat) (lostSales + noted.losesSale.toNat) := by
  cases htask : noted.event.task with
  | none => exact hs.rest hstep htask
  | some i => exact hs.task hstep htask

theorem Balanced.run {lostBuys lostSales : Nat} {events : List (NotedEvent p)}
    (hrun : Run Session.step (fun _ _ => True) s events s') (hs : s.Balanced lostBuys lostSales) :
    s'.Balanced (lostBuys + events.countP NotedEvent.losesBuy)
      (lostSales + events.countP NotedEvent.losesSale) := by
  induction hrun generalizing lostBuys lostSales with
  | nil => exact hs
  | cons _ hnext _ ih =>
      have hrest := ih (hs.step hnext)
      rwa [Nat.add_assoc, Nat.add_assoc, ← countP_cons_toNat, ← countP_cons_toNat] at hrest

/--
In every run each detection the loop dispatched is bought, skipped, failed, lost
on an uncounted path or under way, and each finished order is sold, failed or lost.
-/
theorem statistics_balance (settings : ValidSettings p) (hasPayer : Bool) (loaded : Positions)
    (events : List (NotedEvent p)) (t : Session p)
    (hrun : Run step (fun _ _ => True) (start settings hasPayer loaded) events t) :
    t.stats.totalDetections =
        t.stats.totalBuys + t.stats.totalSkipped + t.stats.totalBuyFailures +
          events.countP NotedEvent.losesBuy + t.bot.buysWith BuyPhase.underWay ∧
      t.stats.totalBuys = t.bot.buysWith BuyPhase.isBought ∧
      t.stats.totalSells = t.bot.log.countP LogEntry.isSold ∧
      t.stats.totalSellFailures + events.countP NotedEvent.losesSale =
        t.bot.log.countP LogEntry.isUnsold := by
  have hbalanced : t.Balanced (0 + events.countP NotedEvent.losesBuy)
      (0 + events.countP NotedEvent.losesSale) :=
    Balanced.run hrun ⟨rfl, rfl, rfl, rfl, rfl⟩
  obtain ⟨hdetections, hbuys, hgaveUp, hsells, hunsold⟩ := hbalanced
  have hprogress := t.bot.buysWith_progress
  exact ⟨by omega, hbuys, hsells, by omega⟩

def noted (event : Event .plain) : NotedEvent .plain := { event := event }

def lostBuyAndSale : List (NotedEvent .plain) :=
  [noted (.detectBuy { DetectedBuy.plain with mint := "other" } 0),
    noted (.detectBuy { DetectedBuy.plain with signature := "again" } 0),
    noted (.buyConfigure 0), noted (.buyConfigure 1), noted (.buyAcquire 0),
    noted (.buyAcquire 1), noted (.buyLook 0), noted (.buyCount 0),
    { event := .buyResult 0 .failed, uncounted := true }] ++
  (Bot.mirrorSell "sale" 1).map noted ++
  [noted .execRecv, noted .execCheck,
    { event := .execFinish .executed, solBalanceChange := some 2 }]

theorem statistics_balance_lostBuyAndSale :
    ∃ t, Run step (fun _ _ => True) (start .plain false .single) lostBuyAndSale t ∧
      t.stats.totalDetections =
        t.stats.totalBuys + t.stats.totalSkipped + t.stats.totalBuyFailures +
          lostBuyAndSale.countP NotedEvent.losesBuy + t.bot.buysWith BuyPhase.underWay ∧
      t.stats.totalBuys = t.bot.buysWith BuyPhase.isBought ∧
      t.stats.totalSells = t.bot.log.countP LogEntry.isSold ∧
      t.stats.totalSellFailures + lostBuyAndSale.countP NotedEvent.losesSale =
        t.bot.log.countP LogEntry.isUnsold := by
  have hexec : (exec step (fun _ _ => True) (start .plain false .single) lostBuyAndSale).map
      (fun t => t.stats == ⟨2, 0, 1, 1, 0, 0, 2000000000⟩) = some true := by
    decide +kernel
  obtain ⟨t, hrun, -⟩ := exists_run_of_exec hexec
  exact ⟨t, hrun, statistics_balance .plain false .single lostBuyAndSale t hrun⟩

end Session

end Girasol
