import Girasol.Bot.Frame
import Girasol.Foundation.Runs

/-!
# Mirrored sells

What the mirror-sell arm makes of the target's sells: how often one signature
reduces a position, and which sells find the position registered.
-/

namespace Girasol

open Foundation

variable {p : Platform}

/-! ## One reduction per signature -/

def QueuedOrder.answers (signature : String) (mint : Mint) (queued : QueuedOrder) : Bool :=
  queued.signature == some signature && queued.order.mint == mint

namespace LogEntry

def mirrors (signature : String) (mint : Mint) : LogEntry → Bool
  | .mirrorHandled mirror true =>
      mirror.sell.signature == signature && mirror.sell.mint == mint
  | .mirrorHandled _ false | .opened _ | .accumulated _ | .started _
  | .finished _ _ => false

def reduces (signature : String) (mint : Mint) : LogEntry → Bool
  | .finished queued .executed => queued.answers signature mint
  | .finished _ .failed | .finished _ .skipped | .opened _ | .accumulated _
  | .mirrorHandled _ _ | .started _ => false

end LogEntry

def mirroredCount (signature : String) (mint : Mint) (log : List LogEntry) : Nat :=
  log.countP (LogEntry.mirrors signature mint)

def reducedCount (signature : String) (mint : Mint) (log : List LogEntry) : Nat :=
  log.countP (LogEntry.reduces signature mint)

namespace Bot

def underWay (s : Bot p) (signature : String) (mint : Mint) : Nat :=
  (s.executor.held ++ s.orders).countP (QueuedOrder.answers signature mint)

def aboutToMirror (s : Bot p) (signature : String) (mint : Mint) : Nat :=
  match s.main with
  | .sendingOrder mirror _ =>
      (mirror.sell.signature == signature && mirror.sell.mint == mint).toNat
  | .selecting _ | .gotSell _ | .holdsMint _ => 0

/-- The arm builds no second order for a signature and an open position. -/
def MirrorsOnce (s : Bot p) : Event p → Prop
  | .mirrorLoad =>
      match s.main with
      | .holdsMint mirror =>
          s.positions.hasPosition mirror.sell.mint = true →
            mirroredCount mirror.sell.signature mirror.sell.mint s.log = 0
      | _ => True
  | _ => True

instance (s : Bot p) (e : Event p) : Decidable (MirrorsOnce s e) := by
  unfold MirrorsOnce
  generalize s.main = main
  induction e using Event.casesOn with
  | mirrorLoad =>
      induction main using MainLoop.casesOn with
      | holdsMint mirror => infer_instance
      | _ => exact isTrue trivial
  | _ => exact isTrue trivial

structure MirrorInv (signature : String) (mint : Mint) (s : Bot p) : Prop where
  order_mint : ∀ mirror order, s.main = .sendingOrder mirror order →
    order.mint = mirror.sell.mint
  queued_le : mirroredCount signature mint s.log + s.aboutToMirror signature mint ≤ 1
  reduced_le : reducedCount signature mint s.log + s.underWay signature mint ≤
    mirroredCount signature mint s.log

namespace MirrorInv

variable {signature : String} {mint : Mint} {s s' : Bot p}

theorem mono (hs : s.MirrorInv signature mint)
    (hmain : s'.main = s.main ∨ s'.main.unsent = [])
    (hunder : s'.underWay signature mint ≤ s.underWay signature mint)
    (hmirrored : mirroredCount signature mint s'.log = mirroredCount signature mint s.log)
    (hreduced : reducedCount signature mint s'.log = reducedCount signature mint s.log) :
    s'.MirrorInv signature mint := by
  have habout : s'.aboutToMirror signature mint ≤ s.aboutToMirror signature mint := by
    rcases hmain with heq | hnone
    · simp only [aboutToMirror, heq, le_refl]
    · cases hm : s'.main <;> simp_all [aboutToMirror, MainLoop.unsent]
  refine ⟨?_, ?_, ?_⟩
  · intro mirror order hsending
    rcases hmain with heq | hnone
    · exact hs.order_mint mirror order (heq ▸ hsending)
    · rw [hsending] at hnone
      cases hnone
  · have hle := hs.queued_le
    omega
  · have hle := hs.reduced_le
    omega

theorem underWay_congr (hexec : s'.executor.held = s.executor.held)
    (horders : s'.orders = s.orders) :
    s'.underWay signature mint = s.underWay signature mint := by
  rw [underWay, underWay, hexec, horders]

theorem quiet (hs : s.MirrorInv signature mint) (hquiet : s.Quiet s') :
    s'.MirrorInv signature mint := by
  have hmain := hquiet.main.imp_right And.right
  have hunder : s'.underWay signature mint = s.underWay signature mint :=
    underWay_congr (by rw [hquiet.executor]) hquiet.orders
  rcases hquiet.log with hlog | ⟨mirror, hlog⟩
  · exact hs.mono hmain hunder.le (by rw [hlog]) (by rw [hlog])
  · refine hs.mono hmain hunder.le ?_ ?_
    · simp [hlog, mirroredCount, LogEntry.mirrors]
    · simp [hlog, reducedCount, LogEntry.reduces]

theorem mirrorLoad (hs : s.MirrorInv signature mint) (hallowed : MirrorsOnce s .mirrorLoad)
    (hstep : s.mirrorLoad = some s') : s'.MirrorInv signature mint := by
  obtain ⟨mirror, hmain, ⟨h, hopen, rfl⟩ | ⟨hclosed, rfl⟩⟩ := mirrorLoad_inv hstep
  · refine ⟨?_, ?_, hs.reduced_le⟩
    · rintro _ _ ⟨⟩
      rfl
    · have hnone : mirroredCount mirror.sell.signature mirror.sell.mint s.log = 0 := by
        simp only [MirrorsOnce, hmain] at hallowed
        exact hallowed (by simp [Positions.hasPosition, hopen])
      have hle := hs.queued_le
      simp only [aboutToMirror, hmain] at hle ⊢
      cases hsame : (mirror.sell.signature == signature && mirror.sell.mint == mint) with
      | false => simpa using hle
      | true =>
          simp only [Bool.and_eq_true, beq_iff_eq] at hsame
          rw [hsame.1, hsame.2] at hnone
          simp [hnone]
  · refine hs.mono (.inr rfl) (le_refl _) ?_ ?_
    · simp [mirrorDone, mirroredCount, LogEntry.mirrors]
    · simp [mirrorDone, reducedCount, LogEntry.reduces]

private theorem mirrorSend (hs : s.MirrorInv signature mint) (hstep : s.mirrorSend = some s') :
    s'.MirrorInv signature mint := by
  obtain ⟨mirror, order, hmain, rfl⟩ := mirrorSend_inv hstep
  have hmint := hs.order_mint mirror order hmain
  have hqueued := hs.queued_le
  have hreduced := hs.reduced_le
  cases hsame : (mirror.sell.signature == signature && mirror.sell.mint == mint) with
  | true =>
      refine ⟨by simp [mirrorDone], ?_, ?_⟩
      · simp only [aboutToMirror, hmain, hsame, Bool.toNat_true] at hqueued
        simpa [mirrorDone, mirroredCount, LogEntry.mirrors, hsame, aboutToMirror]
          using hqueued
      · have hanswers : QueuedOrder.answers signature mint
            ⟨order, some mirror.sell.signature⟩ = true := by
          simpa [QueuedOrder.answers, hmint] using hsame
        simp only [underWay, mirrorDone, mirroredCount, reducedCount,
          List.countP_cons, List.countP_append, List.countP_nil, LogEntry.mirrors,
          LogEntry.reduces, hsame, hanswers] at hreduced ⊢
        simp only [if_true, Bool.false_eq_true, if_false]
        omega
  | false =>
      have hanswers : QueuedOrder.answers signature mint
          ⟨order, some mirror.sell.signature⟩ = false := by
        simpa [QueuedOrder.answers, hmint] using hsame
      refine hs.mono (.inr rfl) ?_ ?_ ?_
      · simp [underWay, mirrorDone, hanswers]
      · simp [mirrorDone, mirroredCount, LogEntry.mirrors, hsame]
      · simp [mirrorDone, reducedCount, LogEntry.reduces]

private theorem tickSend (hs : s.MirrorInv signature mint) (hstep : s.tickSend = some s') :
    s'.MirrorInv signature mint := by
  obtain ⟨cfg, order, later, rest, hmon, rfl⟩ := tickSend_inv hstep
  refine hs.mono (.inl rfl) ?_ rfl rfl
  simp [underWay, QueuedOrder.answers]

private theorem execFinish {outcome : SellOutcome} (hs : s.MirrorInv signature mint)
    (hstep : s.execFinish outcome = some s') : s'.MirrorInv signature mint := by
  obtain ⟨queued, hexec, rfl⟩ := execFinish_inv hstep
  have hreduced := hs.reduced_le
  refine ⟨hs.order_mint, ?_, ?_⟩
  · have hqueued := hs.queued_le
    simpa [mirroredCount, LogEntry.mirrors, aboutToMirror] using hqueued
  · cases hanswers : QueuedOrder.answers signature mint queued <;> cases outcome <;>
      simp [underWay, hexec, Executor.held, mirroredCount, reducedCount,
        LogEntry.mirrors, LogEntry.reduces, hanswers] at hreduced ⊢ <;>
      omega

private theorem step {e : Event p} (hallowed : MirrorsOnce s e) (hstep : s.step e = some s')
    (hs : s.MirrorInv signature mint) : s'.MirrorInv signature mint := by
  cases e with
  | mirrorLoad => exact hs.mirrorLoad hallowed hstep
  | mirrorSend => exact hs.mirrorSend hstep
  | tickSend => exact hs.tickSend hstep
  | execFinish outcome => exact hs.execFinish hstep
  | buyRegister task =>
      obtain ⟨detected, result, ⟨-, rfl⟩ | ⟨-, rfl⟩⟩ := buyRegister_inv hstep
      all_goals
        exact hs.mono (.inl rfl) (le_refl _)
          (by simp [mirroredCount, LogEntry.mirrors])
          (by simp [reducedCount, LogEntry.reduces])
  | tickStart order =>
      obtain ⟨-, -, rfl⟩ := tickStart_inv hstep
      exact hs.mono (.inl rfl) (le_refl _) rfl rfl
  | tickPrice reading now =>
      obtain ⟨m, h, rest, heval⟩ := tickPrice_inv hstep
      exact hs.mono (.inl heval.main)
        (underWay_congr (by rw [heval.executor]) heval.orders).le
        (by rw [heval.log]) (by rw [heval.log])
  | tickCurve liquidity =>
      obtain ⟨m, h, rest, heval⟩ := tickCurve_inv hstep
      exact hs.mono (.inl heval.main)
        (underWay_congr (by rw [heval.executor]) heval.orders).le
        (by rw [heval.log]) (by rw [heval.log])
  | tickMark =>
      obtain ⟨cfg, m, later, rest, -, rfl⟩ := tickMark_inv hstep
      exact hs.mono (.inl rfl) (le_refl _) rfl rfl
  | execRecv =>
      obtain ⟨queued, rest, hidle, horders, rfl⟩ := execRecv_inv hstep
      refine hs.mono (.inl rfl) ?_ rfl rfl
      simp [underWay, hidle, horders, Executor.held, List.countP_cons]
  | execCheck =>
      obtain ⟨queued, hexec, ⟨-, rfl⟩ | ⟨-, rfl⟩⟩ := execCheck_inv hstep
      · refine hs.mono (.inl rfl) ?_ ?_ ?_
        · simp [underWay, hexec, Executor.held]
        · simp [mirroredCount, LogEntry.mirrors]
        · simp [reducedCount, LogEntry.reduces]
      · refine hs.mono (.inl rfl) ?_ rfl rfl
        simp [underWay, hexec, Executor.held, List.countP_cons]
  | reload | listenerSell | detectBuy | mirrorRecv | mirrorCheck | buyConfigure
  | buyAcquire | buyLook | buyCount | buyResult | buyPersist | buyRelease
  | revalidateStart | revalidateCheck | revalidateEnd | validateStart
  | validateCheck | validateEnd =>
      exact hs.quiet (step_quiet hstep rfl)

end MirrorInv

theorem mirrorInv_start (signature : String) (mint : Mint) (settings : ValidSettings p)
    (hasPayer : Bool) (loaded : Positions) :
    (start settings hasPayer loaded).MirrorInv signature mint where
  order_mint := by simp [start]
  queued_le := by simp [start, mirroredCount, aboutToMirror]
  reduced_le := by simp [start, reducedCount, mirroredCount, underWay, Executor.held]

/--
In every run in which the arm builds no second order for a signature, each
signature reduces a position by at most one mirror order.
-/
theorem signature_reduces_once (settings : ValidSettings p) (hasPayer : Bool)
    (loaded : Positions) (es : List (Event p)) (t : Bot p)
    (hrun : Run Bot.step MirrorsOnce (start settings hasPayer loaded) es t)
    (signature : String) (mint : Mint) : reducedCount signature mint t.log ≤ 1 := by
  have hinv : t.MirrorInv signature mint :=
    hrun.invariant (fun _ _ _ => MirrorInv.step)
      (mirrorInv_start signature mint settings hasPayer loaded)
  have hqueued := hinv.queued_le
  have hreduced := hinv.reduced_le
  omega

theorem signature_reduces_once_plain :
    ∃ t, Run Bot.step MirrorsOnce plain (mirrorSell "sig" 50 ++ executeOne) t ∧
      reducedCount "sig" "mint" t.log = 1 ∧ reducedCount "sig" "mint" t.log ≤ 1 := by
  have hexec : (exec Bot.step MirrorsOnce plain (mirrorSell "sig" 50 ++ executeOne)).map
      (fun t => reducedCount "sig" "mint" t.log == 1) = some true := by
    decide +kernel
  obtain ⟨t, hrun, hcount⟩ := exists_run_of_exec hexec
  exact ⟨t, hrun, by simpa using hcount,
    signature_reduces_once .plain false .single _ t hrun "sig" "mint"⟩

theorem signature_reduces_twice :
    ∃ t, Run Bot.step (fun _ _ => True) plain
        (mirrorSell "sig" 50 ++ executeOne ++ mirrorSell "sig" 50 ++ executeOne) t ∧
      reducedCount "sig" "mint" t.log = 2 := by
  have hexec : (exec Bot.step (fun _ _ => True) plain
      (mirrorSell "sig" 50 ++ executeOne ++ mirrorSell "sig" 50 ++ executeOne)).map
      (fun t => reducedCount "sig" "mint" t.log == 2) = some true := by
    decide +kernel
  obtain ⟨t, hrun, hcount⟩ := exists_run_of_exec hexec
  exact ⟨t, hrun, by simpa using hcount⟩

end Bot

end Girasol
