import Girasol.Bot.Slots

/-!
# Registering a buy

A buy task decides whether to open or to accumulate before it buys, and counts
the open positions before it buys; it acts on both when the buy is through.
-/

namespace Girasol

open Foundation

variable {p : Platform}

structure Registration where
  detected : DetectedBuy
  alreadyHolding : Bool
  result : Bought

def Positions.tracked (mint : Mint) (positions : Positions) : Nat :=
  ((positions.lookup mint).map Holding.amount).getD 0

namespace Bot

def registration (s : Bot p) : Event p → Option Registration
  | .buyRegister i =>
      match s.buys[i]? with
      | some ⟨detected, .registering alreadyHolding result⟩ =>
          some ⟨detected, alreadyHolding, result⟩
      | _ => none
  | _ => none

/-- The position is there after the registration, with the bought amount on top. -/
def TracksBuy (s : Bot p) (e : Event p) (s' : Bot p) : Prop :=
  ∀ r ∈ s.registration e, (s'.positions.lookup r.detected.mint).map Holding.amount =
    some (s.positions.tracked r.detected.mint + r.result.holding.amount)

/-- The position that a task saw before it bought is still open, and the sum fits a `u64`. -/
def StillHolding (s : Bot p) (e : Event p) : Prop :=
  ∀ r ∈ s.registration e, r.alreadyHolding = true →
    ∃ h ∈ s.positions.lookup r.detected.mint, h.amount + r.result.holding.amount < 2 ^ 64

instance (s : Bot p) (e : Event p) (s' : Bot p) : Decidable (TracksBuy s e s') :=
  inferInstanceAs (Decidable (∀ r ∈ s.registration e, _))

private theorem registration_eq_some {s : Bot p} {e : Event p} {r : Registration}
    (hreg : s.registration e = some r) :
    ∃ i, e = .buyRegister i ∧
      s.buys[i]? = some ⟨r.detected, .registering r.alreadyHolding r.result⟩ := by
  cases e with
  | buyRegister i =>
      simp only [registration] at hreg
      split at hreg
      case h_1 hbuy =>
        cases hreg
        exact ⟨i, rfl, hbuy⟩
      case h_2 => cases hreg
  | _ => cases hreg

private theorem tracksBuy_iff {s s' : Bot p} {e : Event p} (hs : s.SlotInv)
    (hstep : s.step e = some s') : TracksBuy s e s' ↔ StillHolding s e := by
  unfold TracksBuy StillHolding
  cases hreg : s.registration e with
  | none => simp
  | some r =>
      obtain ⟨i, rfl, hbuy⟩ := registration_eq_some hreg
      simp only [Option.mem_some, forall_eq']
      obtain ⟨detected, alreadyHolding, result⟩ := r
      cases alreadyHolding with
      | false =>
          have hclosed := hs.unseen i detected.mint
            (by simp [opens, hbuy, BuyTask.opens, BuyPhase.foundNothing])
          have hnone : s.positions.lookup detected.mint = none := by
            simpa [Positions.hasPosition] using hclosed
          simp only [step, buyRegister, hbuy, Option.some.injEq] at hstep
          subst hstep
          simp [Positions.addPosition, registered, Positions.tracked, hnone]
      | true =>
          simp only [step, buyRegister, hbuy, Option.some.injEq] at hstep
          subst hstep
          simp only [Positions.accumulatePosition, Store.lookup_update_self, Positions.tracked]
          cases hlook : s.positions.lookup detected.mint with
          | none => simp
          | some h =>
              simp only [Option.bind_some, Option.map_some, Option.getD_some, Holding.accumulated,
                Option.some.injEq, Option.mem_some, exists_eq_left', forall_const, u64Add]
              exact Nat.mod_eq_iff_lt (by decide)

/--
In every run, every registered buy is tracked exactly when every task that saw
a position before it bought still finds it.
-/
theorem buys_tracked_iff (settings : ValidSettings p) (hasPayer : Bool) (loaded : Positions)
    (es : List (Event p)) :
    Along Bot.step TracksBuy (start settings hasPayer loaded) es ↔
      Along Bot.step (fun s e _ => StillHolding s e) (start settings hasPayer loaded) es := by
  have hinv : ∀ (s : Bot p) e s', s.step e = some s' → s.SlotInv → s'.SlotInv :=
    fun _ _ _ hstep hs => hs.step hstep
  exact along_congr hinv (fun s e s' hs hstep => tracksBuy_iff hs hstep)
    (slotInv_start settings hasPayer loaded) es

theorem accumulating_valid :
    { Settings.plain with allowAccumulate := true }.validate .plain = .ok () :=
  Settings.plain_valid

def accumulating : ValidSettings .plain :=
  ⟨{ Settings.plain with allowAccumulate := true }, accumulating_valid⟩

def soldWhileBuying : List (Event .plain) :=
  [.detectBuy .plain 0, .buyConfigure 0, .buyAcquire 0, .buyLook 0] ++
    mirrorSell "sig" 100 ++ executeOne ++ [.buyResult 0 (.bought .plain), .buyRegister 0]

theorem bought_tokens_lost :
    ¬ Along Bot.step TracksBuy (start accumulating false .single) soldWhileBuying := by
  decide +kernel

/-! ## The limit on open positions -/

end Bot

namespace BuyPhase

def countPassed : BuyPhase p → Bool
  | .buying alreadyHolding | .registering alreadyHolding _ => !alreadyHolding
  | .spawned | .configured _ | .acquired _ | .counting _ | .persisting | .releasing _
  | .done _ => false

/-- The settings a task goes by until it has counted. -/
def config : BuyPhase p → Option (ValidSettings p)
  | .configured cfg | .acquired cfg | .counting cfg => some cfg
  | .spawned | .buying _ | .registering _ _ | .persisting | .releasing _ | .done _ => none

end BuyPhase

namespace Bot

def openCount (s : Bot p) : Nat := s.positions.keys.length

def inFlight (s : Bot p) : Nat := s.buys.countP fun task => task.phase.countPassed

/-- A reload keeps the limit. -/
def KeepsMax (n : Nat) : Event p → Prop
  | .reload cfg => cfg.val.maxHoldedCoins = n
  | _ => True

instance (n : Nat) (e : Event p) : Decidable (KeepsMax n e) := by
  induction e using Event.casesOn with
  | reload cfg => exact inferInstanceAs (Decidable (_ = _))
  | _ => exact isTrue trivial

/-- When a task counts and finds room, the buys in flight fit in as well. -/
def RoomForAll (n : Nat) (s : Bot p) : Event p → Prop
  | .buyCount _ => s.openCount < n → s.openCount + s.inFlight < n
  | _ => True

instance (n : Nat) (s : Bot p) (e : Event p) : Decidable (RoomForAll n s e) := by
  induction e using Event.casesOn with
  | buyCount i => exact inferInstanceAs (Decidable (_ → _))
  | _ => exact isTrue trivial

structure LimitInv (n : Nat) (s : Bot p) : Prop where
  settings : s.settings.val.maxHoldedCoins = n
  config : ∀ (i : Nat) (task : BuyTask p) (cfg : ValidSettings p), s.buys[i]? = some task →
    task.phase.config = some cfg → cfg.val.maxHoldedCoins = n
  room : s.inFlight = 0 ∨ s.openCount + s.inFlight ≤ n

theorem openCount_le {s s' : Bot p}
    (hsub : ∀ mint, s'.positions.hasPosition mint = true →
      s.positions.hasPosition mint = true) : s'.openCount ≤ s.openCount := by
  have hsubset : s'.positions.keys ⊆ s.positions.keys := by
    intro mint hmem
    have hopen := hsub mint (AList.lookup_isSome.mpr hmem)
    exact AList.lookup_isSome.mp hopen
  exact (s'.positions.keys_nodup.subperm hsubset).length_le

private theorem openCount_addPosition_le (mint : Mint) (h : Holding) (positions : Positions) :
    (positions.addPosition mint h).keys.length ≤ positions.keys.length + 1 := by
  rw [Positions.addPosition, AList.keys_insert, List.length_cons]
  exact Nat.succ_le_succ List.length_erase_le

theorem inFlight_step {s s' : Bot p} {i : Nat} {task : BuyTask p} {phase : BuyPhase p}
    (htask : s.buys[i]? = some task) (hbuys : s'.buys = (s.setPhase i phase).buys) :
    s'.inFlight + task.phase.countPassed.toNat = s.inFlight + phase.countPassed.toNat := by
  unfold inFlight
  rw [hbuys]
  exact countP_modify _ _ htask

theorem BuyStep.open_cases {s s' : Bot p} {i : Nat} {detected : DetectedBuy} {e : Event p}
    {phase phase' : BuyPhase p} (hmove : BuyStep s i detected e phase phase' s') :
    (∃ cfg, e = .buyCount i ∧ phase = .counting cfg ∧ phase' = .buying false ∧
        s'.openCount = s.openCount ∧ s.openCount < cfg.val.maxHoldedCoins) ∨
      s'.openCount + phase'.countPassed.toNat ≤ s.openCount + phase.countPassed.toNat ∧
        phase'.countPassed.toNat ≤ phase.countPassed.toNat := by
  cases hmove with
  | room cfg hcount => exact .inl ⟨cfg, rfl, rfl, rfl, rfl, hcount⟩
  | gaveUp held outcome => exact .inr ⟨Nat.add_le_add_left (Nat.zero_le _) _, Nat.zero_le _⟩
  | opened result =>
      exact .inr ⟨openCount_addPosition_le detected.mint (registered detected result)
        s.positions, Nat.zero_le _⟩
  | accumulated result =>
      have hle : openCount { s.setPhase i (.releasing true) with
          positions := s.positions.accumulatePosition p.rounding detected.mint
            result.holding.amount result.holding.buyPrice result.holding.buyCostSol
          disk := s.positions.accumulatePosition p.rounding detected.mint
            result.holding.amount result.holding.buyPrice result.holding.buyCostSol
          log := .accumulated detected.mint :: s.log } ≤ s.openCount :=
        openCount_le fun _ hopen => Positions.hasPosition_of_update hopen
      exact .inr ⟨hle, le_refl _⟩
  | _ => exact .inr ⟨le_refl _, le_refl _⟩

namespace LimitInv

variable {n : Nat} {s s' : Bot p}

private theorem outside {e : Event p} (hout : s.Outside e s') (hmax : KeepsMax n e)
    (hs : s.LimitInv n) : s'.LimitInv n := by
  constructor
  case settings =>
    rcases hout.settings with heq | rfl
    · rw [heq]
      exact hs.settings
    · exact hmax
  case config =>
    intro i task cfg htask hcfg
    rcases hout.getElem? i with heq | ⟨-, detected, hspawned⟩
    · exact hs.config i task cfg (heq ▸ htask) hcfg
    · rw [hspawned] at htask
      cases htask
      cases hcfg
  case room =>
    have hle := openCount_le hout.positions
    have hflight : s'.inFlight = s.inFlight := by
      unfold inFlight
      rcases hout.buys with heq | ⟨detected, heq⟩
      · rw [heq]
      · rw [heq, List.countP_append]
        rfl
    have hroom := hs.room
    omega

private theorem task {i : Nat} {task : BuyTask p} {e : Event p} {phase : BuyPhase p}
    (htask : s.buys[i]? = some task)
    (hmove : BuyStep s i task.detected e task.phase phase s') (hfits : RoomForAll n s e)
    (hs : s.LimitInv n) : s'.LimitInv n := by
  obtain ⟨detected, before⟩ := task
  have hflight := inFlight_step htask hmove.buys
  have hroom := hs.room
  constructor
  case settings =>
    rw [hmove.settings]
    exact hs.settings
  case config =>
    intro j t cfg ht hcfg
    rw [hmove.buys, getElem?_setPhase] at ht
    split at ht
    case isFalse => exact hs.config j t cfg ht hcfg
    case isTrue hij =>
      rw [← hij, htask] at ht
      cases ht
      have hbefore := hs.config i _ cfg htask
      cases hmove with
      | configure =>
          cases hcfg
          exact hs.settings
      | acquired _ _ | unseen _ _ =>
          cases hcfg
          exact hbefore rfl
      | _ => cases hcfg
  case room =>
    rcases hmove.open_cases with ⟨cfg, rfl, rfl, rfl, hopen, hcount⟩ | ⟨hle, hflag⟩
    · have hcfg := hs.config i _ cfg htask rfl
      have hsum := hfits (hcfg ▸ hcount)
      simp only [BuyPhase.countPassed, Bool.toNat_false, Bool.not_false, Bool.toNat_true]
        at hflight
      omega
    · omega

private theorem step {e : Event p} (hallowed : KeepsMax n e ∧ RoomForAll n s e)
    (hstep : s.step e = some s') (hs : s.LimitInv n) : s'.LimitInv n := by
  cases htask : e.task with
  | none => exact hs.outside (step_outside hstep htask) hallowed.1
  | some i =>
      obtain ⟨task, phase, hbuy, hmove⟩ := step_task hstep htask
      exact hs.task hbuy hmove hallowed.2

private theorem openCount_register {i : Nat} (hs : s.LimitInv n)
    (hregister : s.buyRegister i = some s') :
    s'.openCount ≤ n ∨ s'.openCount ≤ s.openCount := by
  obtain ⟨⟨detected, before⟩, phase, hbuy, hmove⟩ :=
    step_task (e := .buyRegister i) hregister rfl
  have hflight := inFlight_step hbuy hmove.buys
  have hroom := hs.room
  rcases hmove.open_cases with ⟨cfg, heq, -⟩ | ⟨hle, -⟩
  · cases heq
  · have hafter : phase.countPassed = false := by
      cases hmove <;> rfl
    have hbound := Bool.toNat_le before.countPassed
    rw [hafter, Bool.toNat_false] at hflight hle
    omega

end LimitInv

/--
With a fixed limit, if a task that finds room counts the buys in flight as
well, no registration takes the open positions over the limit.
-/
theorem open_positions_le (settings : ValidSettings p) (hasPayer : Bool) (loaded : Positions)
    (es : List (Event p)) (t : Bot p)
    (hrun : Run Bot.step (fun s e => KeepsMax settings.val.maxHoldedCoins e ∧
      RoomForAll settings.val.maxHoldedCoins s e) (start settings hasPayer loaded) es t)
    (i : Nat) (t' : Bot p) (hregister : t.buyRegister i = some t') :
    t'.openCount ≤ settings.val.maxHoldedCoins ∨ t'.openCount ≤ t.openCount := by
  have hstart : (start settings hasPayer loaded).LimitInv settings.val.maxHoldedCoins :=
    ⟨rfl, by simp [start], .inl rfl⟩
  exact (hrun.invariant (fun _ _ _ => LimitInv.step) hstart).openCount_register hregister

theorem oneCoin_valid :
    { Settings.plain with maxHoldedCoins := 1 }.validate .plain = .ok () :=
  Settings.plain_valid

def oneCoin : ValidSettings .plain := ⟨{ Settings.plain with maxHoldedCoins := 1 }, oneCoin_valid⟩

def otherBuy : DetectedBuy := { DetectedBuy.plain with signature := "other", mint := "other" }

def oneBuy : List (Event .plain) :=
  [.detectBuy .plain 0, .buyConfigure 0, .buyAcquire 0, .buyLook 0, .buyCount 0,
    .buyResult 0 (.bought .plain)]

theorem open_positions_le_oneBuy :
    ∃ t t', Run Bot.step (fun s e => KeepsMax 1 e ∧ RoomForAll 1 s e)
        (start oneCoin false ∅) oneBuy t ∧ t.buyRegister 0 = some t' ∧
      (t'.openCount ≤ 1 ∨ t'.openCount ≤ t.openCount) := by
  have hexec : (exec Bot.step (fun s e => KeepsMax 1 e ∧ RoomForAll 1 s e)
      (start oneCoin false ∅) oneBuy).map (fun t => (t.buyRegister 0).isSome) = some true := by
    decide +kernel
  obtain ⟨t, hrun, hcheck⟩ := exists_run_of_exec hexec
  obtain ⟨t', ht'⟩ := Option.isSome_iff_exists.mp hcheck
  exact ⟨t, t', hrun, ht', open_positions_le oneCoin false ∅ oneBuy t hrun 0 t' ht'⟩

def countedTogether : List (Event .plain) :=
  [.detectBuy .plain 0, .detectBuy otherBuy 0, .buyConfigure 0, .buyConfigure 1,
    .buyAcquire 0, .buyAcquire 1, .buyLook 0, .buyLook 1, .buyCount 0, .buyCount 1,
    .buyResult 0 (.bought .plain), .buyResult 1 (.bought .plain), .buyRegister 0,
    .buyPersist 0, .buyRelease 0]

theorem open_positions_exceeded :
    ∃ t t', Run Bot.step (fun _ e => KeepsMax 1 e) (start oneCoin false ∅) countedTogether t ∧
      t.buyRegister 1 = some t' ∧ t.openCount = 1 ∧ t'.openCount = 2 := by
  have hexec : (exec Bot.step (fun _ e => KeepsMax 1 e) (start oneCoin false ∅)
      countedTogether).map (fun t => t.openCount == 1 &&
        (t.buyRegister 1).map openCount == some 2) = some true := by
    decide +kernel
  obtain ⟨t, hrun, hcheck⟩ := exists_run_of_exec hexec
  simp only [Bool.and_eq_true, beq_iff_eq] at hcheck
  obtain ⟨t', ht', hcount⟩ := Option.map_eq_some_iff.mp hcheck.2
  exact ⟨t, t', hrun, ht', hcheck.1, hcount⟩

end Bot

end Girasol
