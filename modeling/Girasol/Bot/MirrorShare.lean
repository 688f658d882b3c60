import Girasol.Bot.OrderSizes
import Mathlib.Tactic.Linarith

/-!
# Mirrored sells, one after another

Each mirrored sell takes the target's share of its own buy from what is left of
our position.  A later sell is therefore smaller than the target's, unless it is
for everything.
-/

namespace Girasol

open Foundation

variable {p : Platform} {r : Rounding}

def mirrorOne (r : Rounding) (sell : DetectedSell) (h : Holding) : Option Holding :=
  let order := mirrorOrder r sell h
  h.afterSell order.amount order.reason order.levelIndex

def shortfall (r : Rounding) (sell : DetectedSell) (h : Holding) : ℚ :=
  match sell.tokenAmount, h.targetBuyTokens with
  | some targetSold, some targetBought =>
      max 0 (h.amount * min (targetSold / targetBought : ℚ) 1 - mirrorAmount r sell h)
  | _, _ => 0

/-- The position, with what the target has sold and what rounding has kept back so far. -/
structure Mirroring where
  held : Option Holding
  sold : Nat
  rounding : ℚ

namespace Mirroring

def opened (h : Holding) : Mirroring := ⟨some h, 0, 0⟩

def step (r : Rounding) (m : Mirroring) (sell : DetectedSell) : Option Mirroring :=
  some {
    held := m.held.bind (mirrorOne r sell)
    sold := m.sold + sell.tokenAmount.getD 0
    rounding := m.rounding + (m.held.map (shortfall r sell)).getD 0 }

/--
A sell of a part is the target's first, or of nothing; a sell of everything
finds an amount that an `f64` represents.
-/
def FirstOrAll (r : Rounding) (m : Mirroring) (sell : DetectedSell) : Prop :=
  ∀ h ∈ m.held, ∀ targetSold ∈ sell.tokenAmount, ∀ targetBought ∈ h.targetBuyTokens,
    (targetSold < targetBought → targetSold = 0 ∨ m.sold = 0) ∧
      (targetBought ≤ targetSold → r.ofU64 h.amount = h.amount)

instance (m : Mirroring) (sell : DetectedSell) : Decidable (FirstOrAll r m sell) :=
  inferInstanceAs (Decidable (∀ h ∈ m.held, _))

/-- What is left is in proportion to what the target has left, up to rounding. -/
structure InStep (amount targetBought : Nat) (m : Mirroring) : Prop where
  exit : targetBought ≤ m.sold → m.held = none
  share : ∀ h ∈ m.held, (h.amount * targetBought : ℚ) ≤
    amount * (targetBought - m.sold) + targetBought * m.rounding

end Mirroring

/-! ## One sell -/

theorem mirrorOne_fields {sell : DetectedSell} {h h' : Holding}
    (hleft : mirrorOne r sell h = some h') :
    h'.amount = h.amount - mirrorAmount r sell h ∧ h'.targetBuyTokens = h.targetBuyTokens :=
  ⟨Holding.afterSell_amount hleft, Holding.afterSell_targetBuyTokens hleft⟩

theorem mirrorOne_eq_none {sell : DetectedSell} {h : Holding} :
    mirrorOne r sell h = none ↔ mirrorAmount r sell h = h.amount := by
  have hle := mirrorAmount_le r sell h
  have hiff : mirrorOne r sell h = none ↔ h.amount ≤ mirrorAmount r sell h :=
    Holding.afterSell_eq_none
  rw [hiff]
  omega

theorem mirrorAmount_all (hmono : Monotone r.round) (hone : r.round 1 = 1)
    {sell : DetectedSell} {h : Holding} {targetSold targetBought : Nat}
    (hsold : sell.tokenAmount = some targetSold) (hbought : h.targetBuyTokens = some targetBought)
    (hpos : 0 < targetBought) (hall : targetBought ≤ targetSold)
    (hexact : r.ofU64 h.amount = h.amount) (hfits : h.amount < 2 ^ 64) :
    mirrorAmount r sell h = h.amount := by
  have hbase : 1 ≤ r.ofU64 targetBought := by
    rw [← hone]
    exact hmono (by exact_mod_cast hpos)
  have hle : r.ofU64 targetBought ≤ r.ofU64 targetSold := hmono (by exact_mod_cast hall)
  have hratio : 1 ≤ r.div (r.ofU64 targetSold) (r.ofU64 targetBought) := by
    have hquot : 1 ≤ r.ofU64 targetSold / r.ofU64 targetBought :=
      (one_le_div (by linarith)).mpr hle
    calc (1 : ℚ) = r.round 1 := hone.symm
      _ ≤ r.round (r.ofU64 targetSold / r.ofU64 targetBought) := hmono hquot
  have hamount : r.mul (r.ofU64 h.amount) 1 = h.amount := by
    rw [hexact, Rounding.mul, mul_one]
    exact hexact
  simp only [mirrorAmount, hsold, hbought, if_pos hpos, min_eq_right hratio, hamount,
    asU64_natCast (Nat.le_pred_of_lt hfits)]
  omega

theorem shortfall_nonneg (r : Rounding) (sell : DetectedSell) (h : Holding) :
    0 ≤ shortfall r sell h := by
  unfold shortfall
  split
  · exact le_max_left _ _
  · exact le_refl _

theorem share_le_sold {sell : DetectedSell} {h : Holding} {targetSold targetBought : Nat}
    (hsold : sell.tokenAmount = some targetSold) (hbought : h.targetBuyTokens = some targetBought) :
    h.amount * min (targetSold / targetBought : ℚ) 1 ≤
      mirrorAmount r sell h + shortfall r sell h := by
  have hle : h.amount * min (targetSold / targetBought : ℚ) 1 - mirrorAmount r sell h ≤
      shortfall r sell h := by
    simp only [shortfall, hsold, hbought]
    exact le_max_right _ _
  linarith

namespace Mirroring

variable {m m' : Mirroring} {amount targetBought : Nat}

structure ShareInv (amount targetBought : Nat) (m : Mirroring) : Prop where
  inStep : m.InStep amount targetBought
  held : ∀ h ∈ m.held, h.targetBuyTokens = some targetBought ∧ h.amount < 2 ^ 64
  nonneg : 0 ≤ m.rounding

private theorem step_closed {sell : DetectedSell} (hclosed : m.held = none)
    (hs : m.ShareInv amount targetBought)
    (hstep : m.step r sell = some m') : m'.ShareInv amount targetBought := by
  cases hstep
  refine ⟨⟨fun _ => by simp [hclosed], by simp [hclosed]⟩, by simp [hclosed], ?_⟩
  simpa [hclosed] using hs.nonneg

private theorem step_all {sell : DetectedSell} {h : Holding} (hopen : m.held = some h)
    (hall : mirrorAmount r sell h = h.amount) (hs : m.ShareInv amount targetBought)
    (hstep : m.step r sell = some m') : m'.ShareInv amount targetBought := by
  have hnone : mirrorOne r sell h = none := mirrorOne_eq_none.mpr hall
  cases hstep
  refine ⟨⟨fun _ => by simp [hopen, hnone], by simp [hopen, hnone]⟩, by simp [hopen, hnone], ?_⟩
  have hnonneg := shortfall_nonneg r sell h
  have hbefore := hs.nonneg
  simp only [hopen, Option.map_some, Option.getD_some]
  linarith

private theorem step_part {sell : DetectedSell} {h : Holding} {targetSold : Nat}
    (hopen : m.held = some h) (hsold : sell.tokenAmount = some targetSold)
    (hpart : targetSold < targetBought) (hfirst : targetSold = 0 ∨ m.sold = 0)
    (hs : m.ShareInv amount targetBought) (hstep : m.step r sell = some m') :
    m'.ShareInv amount targetBought := by
  obtain ⟨hbought, hfits⟩ := hs.held h hopen
  have hnonneg := shortfall_nonneg r sell h
  have hbefore := hs.nonneg
  have hbelow : m.sold < targetBought := by
    by_contra hge
    have hnone := hs.inStep.exit (not_lt.mp hge)
    rw [hopen] at hnone
    cases hnone
  cases hstep
  simp only [hopen, hsold, Option.bind_some, Option.map_some, Option.getD_some]
  refine ⟨⟨fun hexit => ?_, fun h' hleft => ?_⟩, fun h' hleft => ?_, by linarith⟩
  · simp only at hexit
    omega
  · have hafter : (h'.amount : ℚ) = h.amount - mirrorAmount r sell h := by
      rw [(mirrorOne_fields hleft).1, Nat.cast_sub (mirrorAmount_le r sell h)]
    have hshare := hs.inStep.share h hopen
    have hleast := share_le_sold (r := r) hsold hbought
    have hpart' : (targetSold : ℚ) < targetBought := by exact_mod_cast hpart
    have hpos : (0 : ℚ) < targetBought := lt_of_le_of_lt (Nat.cast_nonneg targetSold) hpart'
    rw [min_eq_left ((div_le_one hpos).mpr hpart'.le), ← mul_div_assoc, div_le_iff₀ hpos]
      at hleast
    rw [hafter]
    push_cast
    rcases hfirst with rfl | hzero
    · simp only [Nat.cast_zero, mul_zero, add_zero] at hleast ⊢
      linarith
    · simp only [hzero, Nat.cast_zero, sub_zero, zero_add] at hshare ⊢
      have hwhole : (h.amount : ℚ) ≤ amount + m.rounding := by
        have hscaled : (h.amount : ℚ) * targetBought ≤
            (amount + m.rounding) * targetBought := by linarith
        exact le_of_mul_le_mul_right hscaled hpos
      have hrest : (h.amount : ℚ) * (targetBought - targetSold) ≤
          (amount + m.rounding) * (targetBought - targetSold) :=
        mul_le_mul_of_nonneg_right hwhole (by linarith)
      have hkept : 0 ≤ m.rounding * targetSold :=
        mul_nonneg hbefore (Nat.cast_nonneg targetSold)
      linarith
  · obtain ⟨hafter, htarget⟩ := mirrorOne_fields hleft
    exact ⟨htarget.trans hbought, by omega⟩

theorem ShareInv.step (hmono : Monotone r.round) (hone : r.round 1 = 1)
    (hpos : 0 < targetBought) {sell : DetectedSell} (hallowed : FirstOrAll r m sell)
    (hstep : m.step r sell = some m') (hs : m.ShareInv amount targetBought) :
    m'.ShareInv amount targetBought := by
  cases hopen : m.held with
  | none => exact step_closed hopen hs hstep
  | some h =>
      obtain ⟨hbought, hfits⟩ := hs.held h hopen
      cases hsold : sell.tokenAmount with
      | none => exact step_all hopen (by simp [mirrorAmount, hsold]) hs hstep
      | some targetSold =>
          obtain ⟨hfirst, hexact⟩ := hallowed h hopen targetSold hsold targetBought hbought
          rcases lt_or_ge targetSold targetBought with hpart | hall
          · exact step_part hopen hsold hpart (hfirst hpart) hs hstep
          · exact step_all hopen
              (mirrorAmount_all hmono hone hsold hbought hpos hall (hexact hall) hfits) hs hstep

theorem sold_of_run {sells : List DetectedSell}
    (hrun : Run (step r) (FirstOrAll r) m sells m') :
    m'.sold = m.sold + (sells.map fun sell => sell.tokenAmount.getD 0).sum := by
  induction hrun with
  | nil => simp
  | cons _ hnext _ ih =>
      cases hnext
      simp only [ih, List.map_cons, List.sum_cons]
      omega

/-! ## Exact arithmetic -/

private theorem asU64_floor {x : ℚ} {n : Nat} (hle : x ≤ n) (hn : n < 2 ^ 64) :
    x < asU64 x + 1 ∧ asU64 x ≤ n := by
  have hfloor : ⌊x⌋₊ ≤ n := Nat.floor_le_of_le hle
  have hmax : ⌊x⌋₊ ≤ u64Max := hfloor.trans (Nat.le_pred_of_lt hn)
  have heq : asU64 x = ⌊x⌋₊ := by
    rw [asU64, Int.floor_toNat, min_eq_left hmax]
  rw [heq]
  exact ⟨Nat.lt_floor_add_one x, hfloor⟩

private theorem shortfall_exact_le {sell : DetectedSell} {h : Holding} (hfits : h.amount < 2 ^ 64) :
    shortfall .exact sell h ≤ 1 := by
  unfold shortfall
  split
  case h_2 => exact zero_le_one
  case h_1 targetSold targetBought hsold hbought =>
    refine max_le zero_le_one ?_
    rcases Nat.eq_zero_or_pos targetBought with rfl | hpos
    · have hnonneg : (0 : ℚ) ≤ mirrorAmount .exact sell h := Nat.cast_nonneg _
      simp only [Nat.cast_zero, div_zero, min_eq_left zero_le_one, mul_zero]
      linarith
    · have hle : h.amount * min (targetSold / targetBought : ℚ) 1 ≤ h.amount :=
        mul_le_of_le_one_right (Nat.cast_nonneg _) (min_le_right _ _)
      obtain ⟨hlt, hfloor⟩ := asU64_floor hle hfits
      have hsells : asU64 (h.amount * min (targetSold / targetBought : ℚ) 1) ≤
          mirrorAmount .exact sell h := by
        simp only [mirrorAmount, hsold, hbought, if_pos hpos]
        exact le_min (le_max_left _ _) hfloor
      have hcast : (asU64 (h.amount * min (targetSold / targetBought : ℚ) 1) : ℚ) ≤
          mirrorAmount .exact sell h := by exact_mod_cast hsells
      linarith

private theorem rounding_le_length {sells : List DetectedSell}
    (hfits : ∀ h ∈ m.held, h.amount < 2 ^ 64)
    (hrun : Run (step .exact) (FirstOrAll .exact) m sells m') :
    m'.rounding ≤ m.rounding + sells.length := by
  induction hrun with
  | nil => simp
  | @cons m₀ m₁ _ sell sells _ hnext _ ih =>
      cases hnext
      have hkept : (m₀.held.map (shortfall .exact sell)).getD 0 ≤ 1 := by
        cases hopen : m₀.held with
        | none => simp
        | some h => exact shortfall_exact_le (hfits h hopen)
      have hrest := ih (by
        intro h' hleft
        obtain ⟨h, hopen, hone⟩ := Option.bind_eq_some_iff.mp hleft
        have hle := (mirrorOne_fields hone).1
        have hbound := hfits h hopen
        omega)
      simp only [List.length_cons, Nat.cast_add, Nat.cast_one] at hrest ⊢
      linarith

/--
If only the target's first sell is for a part, the position is gone once the
target has sold what it bought, and what is left of it on the way is in
proportion, up to the rounding of the mirrored sells.  In exact arithmetic this
is at most one token for each sell.
-/
theorem mirrored_in_step (r : Rounding) (hmono : Monotone r.round) (hone : r.round 1 = 1)
    (h : Holding) (targetBought : Nat) (hbought : h.targetBuyTokens = some targetBought)
    (hpos : 0 < targetBought) (hfits : h.amount < 2 ^ 64) (sells : List DetectedSell)
    (m : Mirroring) (hrun : Run (step r) (FirstOrAll r) (opened h) sells m) :
    m.sold = (sells.map fun sell => sell.tokenAmount.getD 0).sum ∧
      m.InStep h.amount targetBought ∧ (r = .exact → m.rounding ≤ sells.length) := by
  have hstart : (opened h).ShareInv h.amount targetBought := by
    refine ⟨⟨fun hle => absurd hle (not_le.mpr hpos), ?_⟩, ?_, le_refl _⟩
    · rintro h' ⟨⟩
      simp [opened]
    · rintro h' ⟨⟩
      exact ⟨hbought, hfits⟩
  refine ⟨?_, ?_, ?_⟩
  · simpa [opened] using sold_of_run hrun
  · exact (hrun.invariant (fun _ _ _ => ShareInv.step hmono hone hpos) hstart).inStep
  · rintro rfl
    have hkept := rounding_le_length (by simpa [opened] using hfits) hrun
    simpa [opened] using hkept

end Mirroring

/-! ## The same sells in the running bot -/

namespace Bot

structure ReadyToMirror (s : Bot p) : Prop where
  settings : s.settings.val.mirrorSells = true
  mirrorOpen : s.mirrorOpen = true
  main : s.main = .selecting true
  channel : s.mirrorSells = []
  orders : s.orders = []
  executor : s.executor = .idle

def mirrorRound (sell : DetectedSell) (held : Bool) : List (Event p) :=
  [.listenerSell sell, .mirrorRecv, .mirrorCheck] ++
    if held then [.mirrorLoad, .mirrorSend, .execRecv, .execCheck, .execFinish .executed]
    else []

theorem mirrorRound_run {s : Bot p} (hready : s.ReadyToMirror) (sell : DetectedSell) :
    ∃ t, Run Bot.step (fun _ _ => True) s
        (mirrorRound sell (s.positions.hasPosition sell.mint)) t ∧
      t.ReadyToMirror ∧
      t.positions.lookup sell.mint =
        (s.positions.lookup sell.mint).bind (mirrorOne p.rounding sell) := by
  let mirror : MirrorSell := ⟨sell, s.buys.length⟩
  have hgot (rest : List (Event p)) : exec Bot.step (fun _ _ => True) s
      (.listenerSell sell :: .mirrorRecv :: rest) =
        exec Bot.step (fun _ _ => True) { s with main := .gotSell mirror } rest := by
    simp [exec, Bot.step, listenerSell, mirrorRecv, hready.mirrorOpen, hready.channel,
      hready.main, channelCapacity, mirror]
  cases hlook : s.positions.lookup sell.mint with
  | none =>
      have hclosed : s.positions.hasPosition sell.mint = false := by
        simp [Positions.hasPosition, hlook]
      refine ⟨{ s with log := .mirrorHandled mirror false :: s.log }, run_of_exec ?_, ?_, ?_⟩
      · rw [hclosed, mirrorRound]
        rw [List.cons_append, List.cons_append, hgot]
        simp [exec, Bot.step, mirrorCheck, mirrorDone, hclosed, mirror, hready.settings,
          hready.main]
      · exact ⟨hready.settings, hready.mirrorOpen, hready.main, hready.channel, hready.orders,
          hready.executor⟩
      · rw [hlook]
        rfl
  | some h =>
      have hopen : s.positions.hasPosition sell.mint = true := by
        simp [Positions.hasPosition, hlook]
      let queued : QueuedOrder := ⟨mirrorOrder p.rounding sell h, some sell.signature⟩
      let sold := s.positions.settle queued.order .executed
      refine ⟨{ s with
        positions := sold
        disk := sold
        log := .finished queued .executed :: .started queued ::
          .mirrorHandled mirror true :: s.log }, run_of_exec ?_, ?_, ?_⟩
      · rw [hopen, mirrorRound]
        rw [List.cons_append, List.cons_append, hgot]
        simp [exec, Bot.step, mirrorCheck, mirrorLoad, mirrorSend, mirrorDone, execRecv,
          execCheck, execFinish, channelCapacity, hopen, hlook, mirror, sold, queued,
          hready.settings, hready.main, hready.orders, hready.executor, mirrorOrder,
          SellOrder.ofHolding]
      · exact ⟨hready.settings, hready.mirrorOpen, hready.main, hready.channel, hready.orders,
          hready.executor⟩
      · have hsettled : sold.lookup sell.mint =
            (s.positions.lookup sell.mint).bind (Holding.afterSell queued.order.amount
              queued.order.reason queued.order.levelIndex) :=
          Store.lookup_update_self _ _ _
        rw [hlook] at hsettled
        exact hsettled

theorem mirroring_run {mint : Mint} {allowed : Mirroring → DetectedSell → Prop}
    {m m' : Mirroring} {sells : List DetectedSell}
    (hrun : Run (Mirroring.step p.rounding) allowed m sells m')
    (hmint : ∀ sell ∈ sells, sell.mint = mint) {s : Bot p} (hready : s.ReadyToMirror)
    (hheld : s.positions.lookup mint = m.held) :
    ∃ es t, Run Bot.step (fun _ _ => True) s es t ∧ t.ReadyToMirror ∧
      t.positions.lookup mint = m'.held := by
  induction hrun generalizing s with
  | nil => exact ⟨[], s, .nil s, hready, hheld⟩
  | @cons m₀ m₁ _ sell sells _ hnext _ ih =>
      cases hnext
      obtain ⟨u, hround, hready', hlook⟩ := mirrorRound_run hready sell
      rw [hmint sell List.mem_cons_self, hheld] at hlook
      obtain ⟨es, t, hrest, hready'', hlook'⟩ :=
        ih (fun sell' h => hmint sell' (List.mem_cons_of_mem _ h)) hready' hlook
      exact ⟨_, t, hround.append hrest, hready'', hlook'⟩

end Bot

/-! ## A target that sells in two halves -/

namespace Mirroring

def halves : List DetectedSell := [.plain "first" 50, .plain "second" 50]

theorem halves_leave_quarter :
    ∃ m, Run (step .exact) (fun _ _ => True) (opened .plain) halves m ∧
      Holding.plain.targetBuyTokens = some 100 ∧ m.sold = 100 ∧
      m.held.map Holding.amount = some 25 := by
  refine ⟨_, .cons trivial rfl (.cons trivial rfl (.nil _)), rfl, rfl, ?_⟩
  decide +kernel

theorem mirrored_in_step_halfThenAll :
    ∃ m, Run (step .exact) (FirstOrAll .exact) (opened .plain)
        [.plain "first" 50, .plain "second" 100] m ∧ m.InStep 100 100 ∧ m.rounding ≤ 2 := by
  have hrun : Run (step .exact) (FirstOrAll .exact) (opened .plain)
      [.plain "first" 50, .plain "second" 100] _ :=
    .cons (by decide +kernel) rfl (.cons (by decide +kernel) rfl (.nil _))
  obtain ⟨-, hshare, hkept⟩ :=
    mirrored_in_step .exact monotone_id rfl .plain 100 rfl (by decide) (by decide) _ _ hrun
  exact ⟨_, hrun, hshare, hkept rfl⟩

end Mirroring

end Girasol
