import Girasol.Bot.Stats
import Girasol.Sell.Booking

/-!
# The realised profit and loss

What the sell executor adds to the session's statistics for each order.  The
change of the balance passes through SOL as a floating-point number; the sum of
the session is still exact to the lamport.
-/

namespace Girasol

open Foundation

/-- An order as the executor handles it, with the positions it finds then. -/
structure HandledOrder where
  positions : Positions
  cfg : Settings
  order : SellOrder
  env : SaleEnv

section

variable (p : Platform) (mode : BotMode) (h : HandledOrder)

def HandledOrder.result : Except SellFailure SellResult :=
  (handleOrder p h.cfg mode h.order h.env).result

def HandledOrder.uncounted : Bool := h.order.hasPoolAccounts && mode.keypair.isSome

def HandledOrder.noted : NotedEvent p where
  event := .execFinish (.ofResult (h.result p mode))
  uncounted := h.uncounted mode
  solBalanceChange := (h.result p mode).toOption.bind SellResult.solBalanceChange

/-- The counters after one iteration of the executor's loop. -/
def Stats.afterOrder (stats : Stats) : Stats :=
  if h.positions.hasPosition h.order.mint then
    match h.result p mode with
    | .ok result =>
        match result.solBalanceChange with
        | some sol => stats.addSell.addPnlSol p.rounding sol
        | none => stats.addSell
    | .error (.failed _) => stats.addSellFailure
    | .error .skipped => if h.uncounted mode then stats else stats.addSellFailure
  else stats

/-- The counters after the executor has handled some orders. -/
def sessionStats (orders : List HandledOrder) (stats : Stats) : Stats :=
  orders.foldl (fun stats h => stats.afterOrder p mode h) stats

/-- The lamports the wallet gained while the order was sold on the bonding curve. -/
def HandledOrder.lamportChange : Int :=
  if h.positions.hasPosition h.order.mint && (h.result p mode).isOk && mode.isReal &&
      h.order.route == .pumpFun && preSellBalance p h.env != 0 then
    match h.env.preBalance, h.env.postBalance with
    | .ok preSol, .ok postSol => (postSol : Int) - preSol
    | _, _ => 0
  else 0

end

theorem count_noted {p : Platform} (mode : BotMode) (h : HandledOrder) (s s' : Bot p)
    (hopen : h.positions.hasPosition h.order.mint = true) (stats : Stats) :
    s.count s' (h.noted p mode) stats = stats.afterOrder p mode h := by
  unfold Stats.afterOrder HandledOrder.noted Bot.count
  rw [if_pos hopen]
  cases h.result p mode with
  | ok result =>
      cases hchange : result.solBalanceChange <;>
        simp [SellOutcome.ofResult, hchange, Except.toOption]
  | error e => cases e <;> rfl

/-! ## What a handled order reports -/

section

variable {p : Platform} {cfg : Settings} {mode : BotMode} {order : SellOrder} {env : SaleEnv}
  {result : SellResult}

private theorem sellOnAmm_ok (hok : (sellOnAmm p cfg mode order env).result = .ok result) :
    result.solBalanceChange = none := by
  simp only [sellOnAmm, Traced.bind_result_eq_ok] at hok
  obtain ⟨-, -, payer, -, ixs, -, hsend⟩ := hok
  split at hsend
  case isTrue =>
    obtain ⟨tx, -, hsent⟩ := Traced.bind_result_eq_ok.mp hsend
    unfold sendAmmSale at hsent
    split at hsent
    case isTrue =>
      dsimp only at hsent
      split at hsent <;> cases hsent
      rfl
    case isFalse =>
      rw [Traced.emit_bind, Traced.after_result] at hsent
      split at hsent <;> cases hsent
      rfl
  case isFalse =>
    cases hsend
    rfl

private theorem sellAndAccount_ok {swqosSender : Bool} {ixs : List Instruction} {payer : Keypair}
    (hok : (sellAndAccount p cfg swqosSender ixs payer env).result = .ok result) :
    preSellBalance p env = 0 ∧ result.solBalanceChange = some 0 ∨
      preSellBalance p env ≠ 0 ∧ ∃ preSol postSol : Nat,
        env.preBalance = .ok preSol ∧ env.postBalance = .ok postSol ∧
        result.solBalanceChange =
          some (p.rounding.div (p.rounding.round ((postSol : Int) - preSol : Int)) 1000000000) := by
  unfold sellAndAccount at hok
  split at hok
  case isTrue hzero =>
    cases hok
    exact .inl ⟨hzero, rfl⟩
  case isFalse hsome =>
    simp only [Traced.bind_result_eq_ok, Traced.lift_result, mapError_eq_ok] at hok
    obtain ⟨preSol, hpre, signature, -, postSol, hpost, hresult⟩ := hok
    cases hresult
    exact .inr ⟨hsome, preSol, postSol, hpre, hpost, rfl⟩

private theorem sellToken_ok (hok : (sellToken p cfg mode order env).result = .ok result) :
    mode.isReal = false ∧ result.solBalanceChange = none ∨
      mode.isReal = true ∧ ∃ payer ixs,
        (sellAndAccount p cfg mode.swqosSender ixs payer env).result = .ok result := by
  cases hreal : mode.isReal with
  | false =>
      simp only [sellToken, hreal, Bool.false_eq_true, if_false, Traced.bind_result_eq_ok] at hok
      obtain ⟨_, -, _, -, hresult⟩ := hok
      cases hresult
      exact .inl ⟨rfl, rfl⟩
  | true =>
      cases hsale : curveSale p cfg mode order env with
      | none =>
          have hnot := (sellToken_of_no_sale hreal hsale).2
          rw [hok] at hnot
          cases hnot
      | some sale =>
          rw [sellToken_of_sale hreal hsale] at hok
          exact .inr ⟨rfl, sale.1, sale.2, hok⟩

private theorem handleOrder_ok (hok : (handleOrder p cfg mode order env).result = .ok result) :
    (mode.isReal = false ∨ order.route ≠ .pumpFun) ∧ result.solBalanceChange = none ∨
      mode.isReal = true ∧ order.route = .pumpFun ∧
        (preSellBalance p env = 0 ∧ result.solBalanceChange = some 0 ∨
          preSellBalance p env ≠ 0 ∧ ∃ preSol postSol : Nat,
            env.preBalance = .ok preSol ∧ env.postBalance = .ok postSol ∧
            result.solBalanceChange = some (p.rounding.div
              (p.rounding.round ((postSol : Int) - preSol : Int)) 1000000000)) := by
  unfold handleOrder at hok
  cases hroute : order.route with
  | raydium =>
      rw [hroute] at hok
      exact .inl ⟨.inr (by decide), sellOnAmm_ok hok⟩
  | pumpswap =>
      rw [hroute] at hok
      exact .inl ⟨.inr (by decide), sellOnAmm_ok hok⟩
  | pumpFun =>
      rw [hroute] at hok
      rcases sellToken_ok (mapError_eq_ok.mp hok) with ⟨hdry, hnone⟩ | ⟨hreal, payer, ixs, hsale⟩
      · exact .inl ⟨.inl hdry, hnone⟩
      · exact .inr ⟨hreal, rfl, sellAndAccount_ok hsale⟩

end

/-! ## The sum of a session -/

section

variable {p : Platform} {mode : BotMode}

theorem addPnlSol_lamports (hprecise : p.rounding.Precise) {d : Int} (hd : |d| ≤ 2 ^ 49)
    (stats : Stats) :
    (stats.addPnlSol p.rounding
        (p.rounding.div (p.rounding.round (d : Int)) 1000000000)).totalPnlNano =
      (stats.totalPnlNano + d).bmod (2 ^ 64) := by
  have hlt : |d| < 2 ^ 63 := hd.trans_lt (by norm_num)
  simp only [Stats.addPnlSol]
  rw [hprecise.scaled_round_trip hd, asI64OfF64_intCast hlt]

private theorem addPnlSol_zero (hprecise : p.rounding.Precise) (stats : Stats) :
    (stats.addPnlSol p.rounding 0).totalPnlNano = (stats.totalPnlNano + 0).bmod (2 ^ 64) := by
  have hzero : (0 : ℚ) = p.rounding.div (p.rounding.round (0 : Int)) 1000000000 := by
    rw [Int.cast_zero, hprecise.zero, Rounding.div, zero_div, hprecise.zero]
  rw [hzero]
  exact addPnlSol_lamports hprecise (by norm_num) stats

private theorem totalPnlNano_afterOrder (hprecise : p.rounding.Precise) (h : HandledOrder)
    (hsmall : ∀ preSol postSol : Nat, h.env.preBalance = .ok preSol →
      h.env.postBalance = .ok postSol → |(postSol : Int) - preSol| ≤ 2 ^ 49) {stats : Stats}
    (hstats : stats.totalPnlNano.bmod (2 ^ 64) = stats.totalPnlNano) :
    (stats.afterOrder p mode h).totalPnlNano =
      (stats.totalPnlNano + h.lamportChange p mode).bmod (2 ^ 64) := by
  have hkept : stats.totalPnlNano = (stats.totalPnlNano + 0).bmod (2 ^ 64) := by
    rw [add_zero, hstats]
  unfold Stats.afterOrder HandledOrder.lamportChange
  cases hopen : h.positions.hasPosition h.order.mint with
  | false => exact hkept
  | true =>
      cases hresult : h.result p mode with
      | error e =>
          have hnone : (Except.error e : Except SellFailure SellResult).isOk = false := rfl
          simp only [hnone, Bool.and_false, Bool.false_and, Bool.false_eq_true, if_false, if_true]
          cases e with
          | skipped =>
              dsimp only
              split <;> exact hkept
          | failed error => exact hkept
      | ok result =>
          have hsome : (Except.ok result : Except SellFailure SellResult).isOk = true := rfl
          simp only [hsome, Bool.true_and, if_true]
          rcases handleOrder_ok hresult with ⟨hdry, hnone⟩ | ⟨hreal, hroute, hsale⟩
          · have hskip : ¬ (mode.isReal && h.order.route == .pumpFun &&
                preSellBalance p h.env != 0) = true := by
              rcases hdry with hdry | hroute
              · simp [hdry]
              · simp [hroute]
            rw [hnone, if_neg hskip]
            exact hkept
          · rcases hsale with ⟨hzero, hchange⟩ | ⟨hne, preSol, postSol, hpre, hpost, hchange⟩
            · rw [hchange, if_neg (by simp [hzero])]
              exact addPnlSol_zero hprecise stats.addSell
            · rw [hchange, if_pos (by simp [hne, hreal, hroute]), hpre, hpost]
              exact addPnlSol_lamports hprecise (hsmall preSol postSol hpre hpost) stats.addSell

private theorem sum_sessionStats (hprecise : p.rounding.Precise) (orders : List HandledOrder)
    (hsmall : ∀ h ∈ orders, ∀ preSol postSol : Nat, h.env.preBalance = .ok preSol →
      h.env.postBalance = .ok postSol → |(postSol : Int) - preSol| ≤ 2 ^ 49) {stats : Stats}
    (hstats : stats.totalPnlNano.bmod (2 ^ 64) = stats.totalPnlNano) :
    (sessionStats p mode orders stats).totalPnlNano =
      (stats.totalPnlNano + (orders.map (HandledOrder.lamportChange p mode)).sum).bmod
        (2 ^ 64) := by
  induction orders generalizing stats with
  | nil =>
      rw [List.map_nil, List.sum_nil, add_zero, hstats]
      rfl
  | cons h rest ih =>
      have hstep : (stats.afterOrder p mode h).totalPnlNano = _ :=
        totalPnlNano_afterOrder hprecise h (hsmall h List.mem_cons_self) hstats
      have hbounded : (stats.afterOrder p mode h).totalPnlNano.bmod (2 ^ 64) =
          (stats.afterOrder p mode h).totalPnlNano := by rw [hstep, Int.bmod_bmod]
      have hrest := ih (fun h' hh' => hsmall h' (List.mem_cons_of_mem h hh')) hbounded
      rw [List.map_cons, List.sum_cons, ← add_assoc, ← Int.bmod_add_bmod, ← hstep]
      exact hrest

/--
The profit and loss of a session is the exact sum of the lamports its sales on
the bonding curve brought in, whatever happened to the orders between them.
-/
theorem totalPnlNano_eq_sum (hprecise : p.rounding.Precise) (orders : List HandledOrder)
    (hsmall : ∀ h ∈ orders, ∀ preSol postSol : Nat, h.env.preBalance = .ok preSol →
      h.env.postBalance = .ok postSol → |(postSol : Int) - preSol| ≤ 2 ^ 49) :
    (sessionStats p mode orders {}).totalPnlNano =
      ((orders.map (HandledOrder.lamportChange p mode)).sum).bmod (2 ^ 64) := by
  have hsum : (sessionStats p mode orders {}).totalPnlNano = _ :=
    sum_sessionStats hprecise orders hsmall rfl
  rwa [zero_add] at hsum

/-- A sale that brings in 5000 lamports, and one whose transaction is not sent. -/
def SaleEnv.sold : SaleEnv :=
  { SaleEnv.balanceLost with postBalance := .ok 1000005000 }

def soldAndLost : List HandledOrder :=
  [⟨.curve, .plain, .plain, .sold⟩, ⟨.curve, .plain, .plain, .balanceLost⟩]

theorem totalPnlNano_soldAndLost :
    (sessionStats .plain .real soldAndLost {}).totalPnlNano =
      ((soldAndLost.map (HandledOrder.lamportChange .plain .real)).sum).bmod (2 ^ 64) ∧
    (soldAndLost.map (HandledOrder.lamportChange .plain .real)).sum = 5000 := by
  refine ⟨totalPnlNano_eq_sum Rounding.exact_precise soldAndLost ?_, by decide +kernel⟩
  intro h hh preSol postSol hpre hpost
  simp only [soldAndLost, List.mem_cons, List.not_mem_nil, or_false] at hh
  rcases hh with rfl | rfl
  · cases hpre
    cases hpost
    norm_num
  · cases hpost

end

end Girasol
