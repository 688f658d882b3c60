import Girasol.Bot.Tradable
import Girasol.Screen.PreBuy

/-!
# Screened buys

Runs of the bot in real mode whose buy tasks screen the mint as the source does.
What is on the blacklist is never bought, and every transaction that a buy task
submits has passed all the checks.
-/

namespace Girasol

open Foundation

variable {p : Platform}

/-- What sales and marks can make of a position. -/
def Holding.SoldDown (before after : Holding) : Prop :=
  after.amount ≤ before.amount ∧ after.buyPrice = before.buyPrice

theorem Holding.SoldDown.afterSell {before h h' : Holding} {sold : Nat} {reason : SellReason}
    {i : Nat} (hdown : before.SoldDown h) (heq : h.afterSell sold reason i = some h') :
    before.SoldDown h' := by
  constructor
  · rw [Holding.afterSell_amount heq]
    exact le_trans (Nat.sub_le _ _) hdown.1
  · rw [Holding.afterSell_buyPrice heq]
    exact hdown.2

namespace LiveBuy

def under (b : LiveBuy p) (cfg : ValidSettings p) : LiveBuy p := { b with cfg := cfg }

def guarded (b : LiveBuy p) (guard : BuyGuard) (inputs : ScreenInputs) (mint : Mint) :
    LiveBuy p :=
  { b with env := { b.env with screen := screenBuy p guard b.cfg.val inputs mint } }

def submissions (b : LiveBuy p) (detected : DetectedBuy) : List Submission :=
  (routeBuy p b.cfg.val b.swqosSender (some b.keypair) detected b.env).trace

/-- All that a detected trade and the accounts on chain have passed when a buy is submitted. -/
structure Passed (b : LiveBuy p) (guard : BuyGuard) (inputs : ScreenInputs)
    (detected : DetectedBuy) : Prop where
  screened : Screened p guard b.cfg.val inputs detected.mint
    (solToSpend p.rounding b.cfg.val detected) (detected.tokenAmount.getD 0)
    (entryPrice p.rounding detected)
  supported : detected.dex.isExecutionSupported = true

variable {b : LiveBuy p} {guard : BuyGuard} {inputs : ScreenInputs} {detected : DetectedBuy}

theorem passed_of_submits
    (hsubmits : (b.guarded guard inputs detected.mint).submissions detected ≠ []) :
    b.Passed guard inputs detected := by
  obtain ⟨hscreen, hsupported⟩ := routeBuy_screened hsubmits
  exact ⟨screenBuy_ok_iff.mp hscreen, hsupported⟩

theorem allowed_of_bought {result : Bought}
    (hbought : (b.guarded guard inputs detected.mint).outcome detected = .bought result) :
    detected.mint ∉ guard.blacklist := by
  have hok := outcome_eq_bought hbought
  simp only [routeBuy, Traced.bind_result_eq_ok] at hok
  obtain ⟨⟨⟩, hscreen, -⟩ := hok
  exact (screenBuy_ok_iff.mp (mapError_eq_ok.mp hscreen)).allowed

end LiveBuy

inductive GuardedEvent (p : Platform) where
  | other (e : LiveEvent p)
  | buy (task : Nat) (b : LiveBuy p) (inputs : ScreenInputs)

/-- The bot with the settings that each buy task has loaded. -/
structure Screening (p : Platform) where
  bot : Bot p
  loaded : Nat → Option (ValidSettings p)

namespace Screening

def start (settings : ValidSettings p) (positions : Positions) : Screening p :=
  ⟨.start settings true positions, fun _ => none⟩

section

variable (guard : BuyGuard)

/-- A buy is screened and made under what its task loaded as it started. -/
def step (s : Screening p) : GuardedEvent p → Option (Screening p)
  | .other (.buy _ _) => none
  | .other (.other (.buyConfigure i)) => (s.bot.buyConfigure i).map fun bot =>
      ⟨bot, fun j => if j = i then some s.bot.settings else s.loaded j⟩
  | .other e => (s.bot.liveStep e).map fun bot => { s with bot := bot }
  | .buy i b inputs => s.bot.buys[i]?.bind fun task => (s.loaded i).bind fun cfg =>
      (s.bot.liveStep (.buy i ((b.under cfg).guarded guard inputs task.detected.mint))).map
        fun bot => { s with bot := bot }

/-- The buy whose transaction a step submits, with the accounts it was screened on. -/
def submittedBuy (s : Screening p) : GuardedEvent p → Screening p →
    List (DetectedBuy × LiveBuy p × ScreenInputs)
  | .buy i b inputs, _ =>
      match s.bot.buys[i]?, s.loaded i with
      | some task, some cfg =>
          if (((b.under cfg).guarded guard inputs task.detected.mint).submissions
            task.detected).isEmpty
          then [] else [(task.detected, b.under cfg, inputs)]
      | _, _ => []
  | .other _, _ => []

end

end Screening

namespace Bot

section

variable (guard : BuyGuard)

structure ScreenInv (loaded : Positions) (s : Bot p) : Prop where
  positions : ∀ mint ∈ guard.blacklist, ∀ h, s.positions.lookup mint = some h →
    ∃ before, loaded.lookup mint = some before ∧ before.SoldDown h
  results : ∀ (i : Nat) (detected : DetectedBuy) (held : Bool) (result : Bought),
    s.buys[i]? = some ⟨detected, .registering held result⟩ → detected.mint ∉ guard.blacklist

end

variable {guard : BuyGuard} {loaded : Positions} {s s' : Bot p}

namespace ScreenInv

theorem step {e : Event p} (hs : s.ScreenInv guard loaded) (hstep : s.step e = some s')
    (hbought : ∀ i result, e = .buyResult i (.bought result) →
      ∀ task, s.buys[i]? = some task → task.detected.mint ∉ guard.blacklist) :
    s'.ScreenInv guard loaded := by
  refine ⟨fun mint hmint h' hlook' => ?_, fun j detected held result hbuy => ?_⟩
  · have hentry := step_entry hstep mint
    rw [hlook'] at hentry
    generalize hlook : s.positions.lookup mint = entry at hentry
    generalize hafter : some h' = after at hentry
    cases hentry with
    | kept => exact hs.positions mint hmint h' (hlook.trans hafter.symm)
    | removed => cases hafter
    | noted e h migrated pendingSell liquidity hopen =>
        cases hafter
        exact hs.positions mint hmint h (hlook.trans hopen)
    | evaluated h seen cfg rest price now hopen =>
        cases hafter
        exact hs.positions mint hmint h (hlook.trans hopen)
    | sold h queued hopen =>
        obtain ⟨before, hbefore, hdown⟩ := hs.positions mint hmint h (hlook.trans hopen)
        exact ⟨before, hbefore, hdown.afterSell hafter.symm⟩
    | accumulated h task detected result hopen hbuy heq =>
        exact absurd (heq ▸ hmint) (hs.results task detected true result hbuy)
    | opened task detected result hbuy heq =>
        exact absurd (heq ▸ hmint) (hs.results task detected false result hbuy)
  · cases htask : e.task with
    | none =>
        rcases (step_outside hstep htask).getElem? j with heq | ⟨-, other, hspawned⟩
        · exact hs.results j detected held result (heq ▸ hbuy)
        · rw [hspawned] at hbuy
          cases hbuy
    | some i =>
        obtain ⟨task, phase, hold, hmove⟩ := step_task hstep htask
        rw [hmove.buys, getElem?_setPhase] at hbuy
        split at hbuy
        case isFalse => exact hs.results j detected held result hbuy
        case isTrue hij =>
          subst hij
          rw [hold, Option.map_some, Option.some.injEq] at hbuy
          generalize hbefore : task.phase = before at hmove
          cases hmove with
          | bought =>
              cases hbuy
              exact hbought i _ rfl task hold
          | _ => cases hbuy

private theorem liveStep {e : LiveEvent p} (hs : s.ScreenInv guard loaded)
    (hbuy : ∀ i b, e ≠ .buy i b) (hstep : s.liveStep e = some s') :
    s'.ScreenInv guard loaded := by
  cases e with
  | buy i b => exact absurd rfl (hbuy i b)
  | other e =>
      refine hs.step (step_of_liveStep hstep) fun i result heq => ?_
      subst heq
      cases hstep

private theorem guardedBuy {i : Nat} {b : LiveBuy p} {inputs : ScreenInputs} {task : BuyTask p}
    (hs : s.ScreenInv guard loaded) (htask : s.buys[i]? = some task)
    (hstep : s.liveStep (.buy i (b.guarded guard inputs task.detected.mint)) = some s') :
    s'.ScreenInv guard loaded := by
  obtain ⟨task', htask', hnext⟩ := Option.bind_eq_some_iff.mp hstep
  cases htask.symm.trans htask'
  refine hs.step hnext fun j result heq task' htask' => ?_
  injection heq with hij houtcome
  subst hij
  cases htask.symm.trans htask'
  exact LiveBuy.allowed_of_bought houtcome

end ScreenInv

end Bot

namespace Screening

variable {guard : BuyGuard} {loaded : Positions} {s s' : Screening p} {e : GuardedEvent p}

private theorem submittedBuy_passed :
    ∀ buy ∈ s.submittedBuy guard e s', buy.2.1.Passed guard buy.2.2 buy.1 := by
  intro buy hbuy
  cases e with
  | other e => simp [submittedBuy] at hbuy
  | buy i b inputs =>
      simp only [submittedBuy] at hbuy
      split at hbuy
      case h_2 => simp at hbuy
      case h_1 task cfg htask hcfg =>
        split at hbuy
        case isTrue => simp at hbuy
        case isFalse hsubmits =>
          cases List.mem_singleton.mp hbuy
          exact LiveBuy.passed_of_submits (by simpa [List.isEmpty_iff] using hsubmits)

theorem screenInv_step (hs : s.bot.ScreenInv guard loaded)
    (hstep : s.step guard e = some s') : s'.bot.ScreenInv guard loaded := by
  unfold step at hstep
  split at hstep
  case h_1 => cases hstep
  case h_2 i =>
    obtain ⟨bot, hbot, rfl⟩ := Option.map_eq_some_iff.mp hstep
    exact hs.step (e := .buyConfigure i) hbot (by simp)
  case h_3 e hbuy _ =>
    obtain ⟨bot, hbot, rfl⟩ := Option.map_eq_some_iff.mp hstep
    exact hs.liveStep hbuy hbot
  case h_4 i b inputs =>
    obtain ⟨task, htask, hstep⟩ := Option.bind_eq_some_iff.mp hstep
    obtain ⟨cfg, -, hstep⟩ := Option.bind_eq_some_iff.mp hstep
    obtain ⟨bot, hbot, rfl⟩ := Option.map_eq_some_iff.mp hstep
    exact hs.guardedBuy htask hbot

end Screening

namespace Bot

def renouncedInputs : ScreenInputs where
  gates := { enableSaferSniping := true, minTokensThreshold := 100, maxSolPerToken := 0 }
  mintInfo := .ok
    { result := some (.object [("value", .object [
        ("data", .array [.string (String.ofList (List.replicate 110 'A' ++ "==".toList)),
          .string "base64"]),
        ("owner", .string "TokenkegQfeZyiNwAJbNbGKPFXCWuBvf9Ss623VQ5DA")])])
      error := none }
  metadataInfo := .error .allFailed
  curveAccount := none

def tokenBuy : DetectedBuy := { DetectedBuy.plain with mint := token2022ProgramId }

/-- The mint that `Positions.single` holds. -/
def mintListed : BuyGuard := .loadFromFile (fun _ => "") (.ok ["mint"])

def screenedBuy : List (GuardedEvent .plain) :=
  [.other (.other (.detectBuy tokenBuy 0)), .other (.other (.buyConfigure 0)),
    .other (.other (.buyAcquire 0)), .other (.other (.buyLook 0)),
    .other (.other (.buyCount 0)), .buy 0 acceptedBuy renouncedInputs,
    .other (.other (.buyRegister 0))]

/-- The buy is submitted, so it is one of those that passed. -/
example : (gather (Screening.step mintListed) (Screening.submittedBuy mintListed)
    (.start live .single) screenedBuy).length = 1 := by
  decide +kernel

end Bot

end Girasol
