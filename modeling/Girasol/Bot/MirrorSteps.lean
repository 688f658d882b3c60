import Girasol.Bot.BuySteps

/-!
# Steps of the mirror-sell arm

`MirrorStep` lists what the listeners and the main loop do with the mirror-sell
channel.  The other tasks leave the channel, the loop and the mirror orders
alone.
-/

namespace Girasol

variable {p : Platform}

def Event.onMirror : Event p → Bool
  | .listenerSell _ | .detectBuy _ _ | .mirrorRecv | .mirrorCheck | .mirrorLoad
  | .mirrorSend => true
  | _ => false

def MainLoop.handling : MainLoop → Option MirrorSell
  | .selecting _ => none
  | .gotSell mirror | .holdsMint mirror | .sendingOrder mirror _ => some mirror

def LogEntry.mirrored : LogEntry → Option (MirrorSell × Bool)
  | .mirrorHandled mirror queued => some (mirror, queued)
  | .opened _ | .accumulated _ | .started _ | .finished _ _ => none

namespace Bot

/-- The sells that the arm is through with, oldest first, and whether it queued an order. -/
def mirrorsHandled (s : Bot p) : List (MirrorSell × Bool) :=
  (s.log.filterMap LogEntry.mirrored).reverse

/-- The mirror orders that a step puts into the order channel. -/
def mirrorOrders (s : Bot p) (_ : Event p) (s' : Bot p) : List QueuedOrder :=
  (s'.orders.drop s.orders.length).filter fun queued => queued.signature.isSome

variable {s s' : Bot p}

@[simp]
theorem mirrorsHandled_mirrorDone (mirror : MirrorSell) (queued : Bool) :
    (s.mirrorDone mirror queued).mirrorsHandled = s.mirrorsHandled ++ [(mirror, queued)] := by
  simp [mirrorsHandled, mirrorDone, LogEntry.mirrored]

structure SameChannel (s s' : Bot p) : Prop where
  mirrorOpen : s'.mirrorOpen = s.mirrorOpen
  mirrorSells : s'.mirrorSells = s.mirrorSells

structure Unmirrored (s : Bot p) (e : Event p) (s' : Bot p) : Prop
    extends SameChannel s s' where
  main : s'.main = s.main
  handled : s'.mirrorsHandled = s.mirrorsHandled
  orders : s.mirrorOrders e s' = []

theorem Unmirrored.of_orders {e : Event p} (hopen : s'.mirrorOpen = s.mirrorOpen)
    (hsells : s'.mirrorSells = s.mirrorSells) (hmain : s'.main = s.main)
    (hhandled : s'.mirrorsHandled = s.mirrorsHandled) (horders : s'.orders = s.orders) :
    s.Unmirrored e s' :=
  ⟨⟨hopen, hsells⟩, hmain, hhandled, by simp [mirrorOrders, horders]⟩

theorem mirror_untouched {e : Event p} (hstep : s.step e = some s') (he : e.onMirror = false) :
    s.Unmirrored e s' := by
  cases htask : e.task with
  | some i =>
      obtain ⟨⟨detected, before⟩, phase, -, hmove⟩ := step_task hstep htask
      cases hmove <;> exact .of_orders rfl rfl rfl rfl rfl
  | none =>
      cases e with
      | reload cfg =>
          cases hstep
          exact .of_orders rfl rfl rfl rfl rfl
      | tickStart order =>
          obtain ⟨-, -, rfl⟩ := tickStart_inv hstep
          exact .of_orders rfl rfl rfl rfl rfl
      | tickPrice reading now =>
          obtain ⟨_, _, _, rfl, -⟩ := tickPrice_local hstep
          exact .of_orders rfl rfl rfl rfl rfl
      | tickCurve liquidity =>
          obtain ⟨_, _, _, rfl⟩ := tickCurve_local hstep
          exact .of_orders rfl rfl rfl rfl rfl
      | tickSend =>
          obtain ⟨_, _, _, _, -, rfl⟩ := tickSend_inv hstep
          exact ⟨⟨rfl, rfl⟩, rfl, rfl, by simp [mirrorOrders]⟩
      | tickMark =>
          obtain ⟨_, _, _, _, -, rfl⟩ := tickMark_inv hstep
          exact .of_orders rfl rfl rfl rfl rfl
      | revalidateStart order =>
          simp only [step, revalidateStart] at hstep
          split at hstep
          case h_1 =>
            simp only [Option.ite_none_right_eq_some] at hstep
            obtain ⟨-, hstep⟩ := hstep
            split at hstep <;> cases hstep <;> exact .of_orders rfl rfl rfl rfl rfl
          case h_2 => cases hstep
      | revalidateCheck check =>
          simp only [step, revalidateCheck] at hstep
          split at hstep <;> cases hstep
          exact .of_orders rfl rfl rfl rfl rfl
      | revalidateEnd =>
          simp only [step, revalidateEnd] at hstep
          split at hstep <;> cases hstep
          exact .of_orders rfl rfl rfl rfl rfl
      | validateStart order =>
          simp only [step, validateStart] at hstep
          split at hstep
          case h_1 =>
            simp only [Option.ite_none_right_eq_some] at hstep
            cases hstep.2
            exact .of_orders rfl rfl rfl rfl rfl
          case h_2 => cases hstep
      | validateCheck check =>
          simp only [step, validateCheck] at hstep
          split at hstep <;> cases hstep
          exact .of_orders rfl rfl rfl rfl rfl
      | validateEnd =>
          simp only [step, validateEnd] at hstep
          split at hstep <;> cases hstep
          exact .of_orders rfl rfl rfl rfl rfl
      | execRecv =>
          obtain ⟨_, _, -, horders, rfl⟩ := execRecv_inv hstep
          exact ⟨⟨rfl, rfl⟩, rfl, rfl, by
            rw [mirrorOrders, horders, List.drop_eq_nil_of_le (by simp)]
            rfl⟩
      | execCheck =>
          obtain ⟨_, -, ⟨-, rfl⟩ | ⟨-, rfl⟩⟩ := execCheck_inv hstep <;>
            exact .of_orders rfl rfl rfl rfl rfl
      | execFinish outcome =>
          obtain ⟨_, -, rfl⟩ := execFinish_inv hstep
          exact .of_orders rfl rfl rfl rfl rfl
      | listenerSell _ | detectBuy _ _ | mirrorRecv | mirrorCheck | mirrorLoad | mirrorSend =>
          cases he
      | _ => cases htask

/-- `MirrorStep s e s'`: what the listeners and the main loop can do next. -/
inductive MirrorStep (s : Bot p) : Event p → Bot p → Prop
  | detected (sell : DetectedSell) (hopen : s.mirrorOpen = true) :
      MirrorStep s (.listenerSell sell)
        { s with mirrorSells := s.mirrorSells ++ [⟨sell, s.buys.length⟩] }
  | entered (detected : DetectedBuy) (now : Nat) (armed : Bool) (s' : Bot p)
      (hmain : s.main = .selecting armed)
      (hmain' : s'.main = .selecting s.settings.val.mirrorSells)
      (hchannel : s.SameChannel s') (hlog : s'.log = s.log) (horders : s'.orders = s.orders) :
      MirrorStep s (.detectBuy detected now) s'
  | received (mirror : MirrorSell) (rest : List MirrorSell) (hmain : s.main = .selecting true)
      (hchannel : s.mirrorSells = mirror :: rest) :
      MirrorStep s .mirrorRecv { s with mirrorSells := rest, main := .gotSell mirror }
  | found (mirror : MirrorSell) (hmain : s.main = .gotSell mirror)
      (hopen : s.positions.hasPosition mirror.sell.mint = true) :
      MirrorStep s .mirrorCheck { s with main := .holdsMint mirror }
  | missed (mirror : MirrorSell) (hmain : s.main = .gotSell mirror)
      (hclosed : s.positions.hasPosition mirror.sell.mint = false) :
      MirrorStep s .mirrorCheck (s.mirrorDone mirror false)
  | loaded (mirror : MirrorSell) (h : Holding) (hmain : s.main = .holdsMint mirror)
      (hopen : s.positions.lookup mirror.sell.mint = some h) :
      MirrorStep s .mirrorLoad
        { s with main := .sendingOrder mirror (mirrorOrder p.rounding mirror.sell h) }
  | vanished (mirror : MirrorSell) (hmain : s.main = .holdsMint mirror)
      (hclosed : s.positions.hasPosition mirror.sell.mint = false) :
      MirrorStep s .mirrorLoad (s.mirrorDone mirror false)
  | sent (mirror : MirrorSell) (order : SellOrder) (hmain : s.main = .sendingOrder mirror order) :
      MirrorStep s .mirrorSend
        (({ s with
          orders := s.orders ++ [⟨order, some mirror.sell.signature⟩] }
            : Bot p).mirrorDone mirror true)

theorem step_mirror {e : Event p} (hstep : s.step e = some s') (he : e.onMirror = true) :
    s.MirrorStep e s' := by
  cases e with
  | listenerSell sell =>
      simp only [step, listenerSell, Option.ite_none_right_eq_some] at hstep
      obtain ⟨hroom, hstep⟩ := hstep
      cases hstep
      exact .detected sell hroom.1
  | detectBuy detected now =>
      simp only [step, detectBuy] at hstep
      split at hstep
      case h_2 => cases hstep
      case h_1 armed hmain =>
        split at hstep <;> cases hstep <;>
          exact .entered detected now armed _ hmain rfl ⟨rfl, rfl⟩ rfl rfl
  | mirrorRecv =>
      simp only [step, mirrorRecv] at hstep
      split at hstep <;> cases hstep
      case h_1 mirror rest hmain hchannel => exact .received mirror rest hmain hchannel
  | mirrorCheck =>
      simp only [step, mirrorCheck] at hstep
      split at hstep
      case h_2 => cases hstep
      case h_1 mirror hmain =>
        split at hstep <;> cases hstep
        case isTrue hopen => exact .found mirror hmain hopen
        case isFalse hclosed => exact .missed mirror hmain (by simpa using hclosed)
  | mirrorLoad =>
      obtain ⟨mirror, hmain, ⟨h, hopen, rfl⟩ | ⟨hclosed, rfl⟩⟩ := mirrorLoad_inv hstep
      · exact .loaded mirror h hmain hopen
      · exact .vanished mirror hmain (by simp [Positions.hasPosition, hclosed])
  | mirrorSend =>
      obtain ⟨mirror, order, hmain, rfl⟩ := mirrorSend_inv hstep
      exact .sent mirror order hmain
  | _ => cases he

end Bot

end Girasol
