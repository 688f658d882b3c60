import Girasol.Bot.Frame
import Girasol.Sell.Sale

/-!
# Booked sales and executed sales

The executor books an order when it hears of no error.  That is neither implied
by the execution of a submitted sale nor implies it.
-/

namespace Girasol

open Foundation

variable {p : Platform} {cfg : Settings} {mode : BotMode} {order : SellOrder} {env : SaleEnv}
  {positions : Positions} {h : Holding}

@[simp] theorem ofResult_eq_executed {r : Except SellFailure SellResult} :
    SellOutcome.ofResult r = .executed ↔ r.isOk = true := by
  rcases r with (_ | _) | _ <;> simp [SellOutcome.ofResult, Except.isOk, Except.toBool]

theorem afterOrder_of_open (hopen : positions.lookup order.mint = some h) :
    positions.afterOrder p cfg mode order env =
      positions.settle order (.ofResult (handleOrder p cfg mode order env).result) := by
  simp [Positions.afterOrder, Positions.hasPosition, hopen]

theorem Bot.positions_of_executor {s s' : Bot p} {queued : QueuedOrder}
    (hexec : s.executor = .checking queued) (hcheck : s.execCheck = some s') :
    (s'.executor = .idle ∧
        s'.positions = s.positions.afterOrder p cfg mode queued.order env) ∨
      (s'.executor = .selling queued ∧
        ∀ t, s'.execFinish (.ofResult (handleOrder p cfg mode queued.order env).result) = some t →
          t.positions = s.positions.afterOrder p cfg mode queued.order env) := by
  obtain ⟨queued', hexec', hbranch⟩ := Bot.execCheck_inv hcheck
  obtain rfl : queued' = queued := by simpa [hexec] using hexec'.symm
  rcases hbranch with ⟨⟨h, hopen⟩, rfl⟩ | ⟨hclosed, rfl⟩
  · refine .inr ⟨rfl, fun t hfinish => ?_⟩
    obtain ⟨queued'', hselling, rfl⟩ := Bot.execFinish_inv hfinish
    obtain rfl : queued'' = queued' := by simpa using hselling.symm
    exact (afterOrder_of_open hopen).symm
  · exact .inl ⟨rfl, by simp [Positions.afterOrder, Positions.hasPosition, hclosed]⟩

/-! ## Executed sales -/

section

variable (p cfg mode order env positions)

/-- The order counts as executed, and the position is reduced and its level marked. -/
def Booked : Prop :=
  SellOutcome.ofResult (handleOrder p cfg mode order env).result = .executed ∧
    (positions.afterOrder p cfg mode order env).lookup order.mint =
      (positions.lookup order.mint).bind
        (Holding.afterSell order.amount order.reason order.levelIndex)

instance : Decidable (Booked p cfg mode order env positions) :=
  inferInstanceAs (Decidable (_ ∧ _))

end

private theorem booked_iff (hopen : positions.lookup order.mint = some h) :
    Booked p cfg mode order env positions ↔
      (handleOrder p cfg mode order env).result.isOk = true := by
  unfold Booked
  rw [ofResult_eq_executed]
  constructor
  · exact fun hbooked => hbooked.1
  · intro hok
    refine ⟨hok, ?_⟩
    rw [afterOrder_of_open hopen, ofResult_eq_executed.mpr hok]
    exact Store.lookup_update_self _ _ _

private theorem isOk_iff_acknowledged {tx : VersionedTransaction}
    (htaken : Taken p cfg mode order env tx) :
    (handleOrder p cfg mode order env).result.isOk = true ↔
      Acknowledged p cfg mode order env := by
  obtain ⟨hreal, hroute⟩ := htaken
  rw [handleOrder_isOk hreal]
  unfold Acknowledged
  cases horder : order.route with
  | raydium => simp_all
  | pumpswap => simp_all
  | pumpFun =>
      simp only [horder] at hroute
      obtain ⟨payer, ixs, hsale, hready, -⟩ := hroute
      have hpositive : preSellBalance p env ≠ 0 := by
        simp only [readyToSend, Bool.and_eq_true, bne_iff_ne] at hready
        exact hready.1
      simp [hsale, hready, hpositive]

/--
An executed sale is booked exactly when every submitted transaction that
executes is acknowledged, and on the bonding curve the balance query after it
succeeds.
-/
theorem executed_sale_booked_iff (p : Platform) (cfg : Settings) (mode : BotMode)
    (order : SellOrder) (env : SaleEnv) (positions : Positions) (h : Holding)
    (hopen : positions.lookup order.mint = some h) (executes : VersionedTransaction → Bool) :
    (∀ s ∈ (handleOrder p cfg mode order env).trace, executes s.transaction = true →
      Booked p cfg mode order env positions) ↔
      ∀ tx, Taken p cfg mode order env tx → executes tx = true →
        Acknowledged p cfg mode order env := by
  constructor
  · intro hbooked tx htaken hexecutes
    obtain ⟨s, hs, rfl⟩ := mem_handleOrder_trace.mpr htaken
    exact (isOk_iff_acknowledged htaken).mp ((booked_iff hopen).mp (hbooked s hs hexecutes))
  · intro hack s hs hexecutes
    have htaken := mem_handleOrder_trace.mp ⟨s, hs, rfl⟩
    exact (booked_iff hopen).mpr
      ((isOk_iff_acknowledged htaken).mpr (hack s.transaction htaken hexecutes))

/-! ## Sales that did not take place -/

section

variable (p cfg mode order env)

def KnownEmpty : Prop :=
  order.route = .pumpFun ∧ balanceKnown p env = true ∧ preSellBalance p env = 0

def Refused : Prop :=
  mode.isReal ∧
    if order.route = .pumpFun then
      ∃ payer ixs, curveSale p cfg mode order env = some (payer, ixs) ∧
        readyToSend p env ∧ saleAcknowledged p cfg mode.swqosSender ixs payer env = false
    else
      (ammSale p cfg mode order env).isSome ∧
        if mode.swqosSender then env.swqos.acknowledged cfg env.leaderKnown = false
        else ∃ json, env.http.reply = .ok json ∧ (json.get? "error").isSome

/--
The sale was never submitted although the wallet is not known to be empty, was
answered with an error, or failed on chain.
-/
def Unsold (fails : VersionedTransaction → Bool) : Prop :=
  let trace := (handleOrder p cfg mode order env).trace
  (mode.isReal ∧ trace = [] ∧ ¬ KnownEmpty p order env) ∨ Refused p cfg mode order env ∨
    (trace ≠ [] ∧ ∀ s ∈ trace, fails s.transaction = true)

/--
Where a sale that did not take place is booked: the balance before it could not
be looked up, the posted transaction is answered without being taken or with an
error, or an acknowledged transaction fails on chain.
-/
def FailureUnnoticed (fails : VersionedTransaction → Bool) : Prop :=
  mode.isReal ∧
    if order.route = .pumpFun then
      ∃ payer ixs, curveSale p cfg mode order env = some (payer, ixs) ∧
        (balanceKnown p env = false ∨
          (readyToSend p env ∧ saleAcknowledged p cfg mode.swqosSender ixs payer env ∧
            env.postBalance.isOk ∧
              ∀ tx, SaleTaken p cfg mode.swqosSender ixs payer env tx → fails tx = true))
    else
      ∃ tx, ammSale p cfg mode order env = some tx ∧
        if mode.swqosSender then
          env.swqos.acknowledged cfg env.leaderKnown ∧ fails tx = true
        else ∃ json, env.http.reply = .ok json ∧
          ((json.get? "error").isSome ∨ env.http.takes = false ∨ fails tx = true)

end

def Holding.tally (h : Holding) : Nat × List Nat × List Nat :=
  (h.amount, h.triggeredTpLevels, h.triggeredSlLevels)

def Positions.KeepsTally (mint : Mint) (before after : Positions) : Prop :=
  (after.lookup mint).map Holding.tally = (before.lookup mint).map Holding.tally

instance (mint : Mint) (before after : Positions) : Decidable (before.KeepsTally mint after) :=
  inferInstanceAs (Decidable (_ = _))

/-- Booking the order changes nothing: it sells nothing for a level already marked. -/
def SellOrder.ChangesNothing (order : SellOrder) (h : Holding) : Prop :=
  order.amount = 0 ∧ 0 < h.amount ∧ ∀ l, order.level = some l → h.marked l

private theorem pushLevel_eq_self {i : Nat} {levels : List Nat} :
    pushLevel i levels = levels ↔ i ∈ levels := by
  unfold pushLevel
  split <;> simp_all

theorem SellOrder.tally_afterSell (order : SellOrder) (h : Holding) :
    (h.afterSell order.amount order.reason order.levelIndex).map Holding.tally =
      some h.tally ↔ order.ChangesNothing h := by
  unfold SellOrder.ChangesNothing Holding.afterSell
  by_cases hzero : h.amount - order.amount = 0
  · simp [hzero]
    omega
  · have hpos : 0 < h.amount := by omega
    have hsame : h.amount - order.amount = h.amount ↔ order.amount = 0 := by omega
    cases hr : order.reason <;>
      simp [Holding.markLevel, Holding.tally, SellOrder.level, Holding.marked, hr, hzero,
        pushLevel_eq_self, hpos, hsame]

theorem keepsTally_afterOrder (hopen : positions.lookup order.mint = some h) :
    positions.KeepsTally order.mint (positions.afterOrder p cfg mode order env) ↔
      (handleOrder p cfg mode order env).result.isOk = false ∨ order.ChangesNothing h := by
  rw [afterOrder_of_open hopen]
  unfold Positions.KeepsTally
  rcases hresult : (handleOrder p cfg mode order env).result with (_ | _) | _
  · simp [SellOutcome.ofResult, Positions.settle, Except.isOk, Except.toBool]
  · simp only [SellOutcome.ofResult, Positions.settle, Positions.clearPendingSell,
      Store.lookup_update_self, hopen, Except.isOk, Except.toBool]
    simp [Holding.tally]
  · simp only [SellOutcome.ofResult, Positions.settle, Positions.updateAfterSell,
      Store.lookup_update_self, hopen, Option.bind_some, Option.map_some]
    rw [SellOrder.tally_afterSell]
    simp [Except.isOk, Except.toBool]

theorem trace_eq_nil_iff :
    (handleOrder p cfg mode order env).trace = [] ↔ ∀ tx, ¬ Taken p cfg mode order env tx := by
  simp only [← mem_handleOrder_trace, List.eq_nil_iff_forall_not_mem]
  constructor
  · rintro hnone tx ⟨s, hs, -⟩
    exact hnone s hs
  · exact fun hnone s hs => hnone s.transaction ⟨s, hs, rfl⟩

theorem forall_trace_iff {fails : VersionedTransaction → Bool} :
    (∀ s ∈ (handleOrder p cfg mode order env).trace, fails s.transaction = true) ↔
      ∀ tx, Taken p cfg mode order env tx → fails tx = true := by
  simp only [← mem_handleOrder_trace]
  constructor
  · rintro hfails tx ⟨s, hs, rfl⟩
    exact hfails s hs
  · exact fun hfails s hs => hfails s.transaction ⟨s, hs, rfl⟩

private theorem unsold_booked_iff_curve (hreal : mode.isReal = true)
    (hroute : order.route = .pumpFun) {fails : VersionedTransaction → Bool} :
    Unsold p cfg mode order env fails ∧
        (handleOrder p cfg mode order env).result.isOk = true ↔
      FailureUnnoticed p cfg mode order env fails := by
  rw [handleOrder_isOk hreal]
  simp only [Unsold, ne_eq, trace_eq_nil_iff, forall_trace_iff]
  simp only [Refused, FailureUnnoticed, KnownEmpty, Taken, hroute, if_true, hreal, true_and]
  cases hsale : curveSale p cfg mode order env with
  | none => simp
  | some sale =>
      obtain ⟨payer, ixs⟩ := sale
      simp only [Option.some.injEq, Prod.mk.injEq, exists_and_left, exists_eq_left', and_assoc]
      by_cases hzero : preSellBalance p env = 0
      · have hidle : readyToSend p env = false := by simp [readyToSend, hzero]
        simp [hzero, hidle]
      · have hknown : balanceKnown p env = true := by
          by_contra hunknown
          exact hzero (preSellBalance_of_unknown (Bool.eq_false_iff.mpr hunknown))
        cases hack : saleAcknowledged p cfg mode.swqosSender ixs payer env with
        | false => simp [hzero, hknown]
        | true =>
            obtain ⟨tx, htx⟩ := taken_of_saleAcknowledged hack
            cases readyToSend p env with
            | false => simp [hzero, hknown]
            | true =>
                have hsome : ¬ ∀ tx, ¬ SaleTaken p cfg mode.swqosSender ixs payer env tx :=
                  fun hnone => hnone tx htx
                simp only [hzero, hknown, hsome, true_and, false_and, and_false, not_false_eq_true,
                  false_or, Bool.true_eq_false]
                tauto

private theorem unsold_booked_iff_amm (hreal : mode.isReal = true) (hroute : order.route ≠ .pumpFun)
    {fails : VersionedTransaction → Bool} :
    Unsold p cfg mode order env fails ∧
        (handleOrder p cfg mode order env).result.isOk = true ↔
      FailureUnnoticed p cfg mode order env fails := by
  rw [handleOrder_isOk hreal]
  simp only [Unsold, ne_eq, trace_eq_nil_iff, forall_trace_iff]
  simp only [Refused, FailureUnnoticed, KnownEmpty, Taken, hroute, hreal, true_and,
    false_and, not_false_eq_true, and_true]
  cases hsale : ammSale p cfg mode order env with
  | none => simp
  | some tx =>
      simp only [Option.some.injEq, exists_eq_left', Option.isSome_some, true_and]
      cases mode.swqosSender with
      | true =>
          cases hack : env.swqos.acknowledged cfg env.leaderKnown with
          | false => simp
          | true =>
              simp [SwqosEnv.taken_of_acknowledged hack]
      | false =>
          cases hreply : env.http.reply with
          | error e => simp [Except.isOk, Except.toBool]
          | ok json => cases env.http.takes <;> simp [Except.isOk, Except.toBool]

private theorem not_unsold_of_not_real (hreal : mode.isReal = false)
    {fails : VersionedTransaction → Bool} : ¬ Unsold p cfg mode order env fails := by
  simp [Unsold, Refused, handleOrder_trace_of_not_real hreal, hreal]

/--
A sale that did not take place leaves the amount and the levels alone exactly
when its failure is noticed, or when the booking changes nothing.
-/
theorem unsold_order_kept_iff (p : Platform) (cfg : Settings) (mode : BotMode)
    (order : SellOrder) (env : SaleEnv) (positions : Positions) (h : Holding)
    (hopen : positions.lookup order.mint = some h) (fails : VersionedTransaction → Bool) :
    (Unsold p cfg mode order env fails →
      positions.KeepsTally order.mint (positions.afterOrder p cfg mode order env)) ↔
      ¬ FailureUnnoticed p cfg mode order env fails ∨ order.ChangesNothing h := by
  rw [keepsTally_afterOrder hopen]
  cases hreal : mode.isReal with
  | false => simp [not_unsold_of_not_real hreal, FailureUnnoticed, hreal]
  | true =>
      have hbooked : Unsold p cfg mode order env fails ∧
          (handleOrder p cfg mode order env).result.isOk = true ↔
            FailureUnnoticed p cfg mode order env fails := by
        by_cases hroute : order.route = .pumpFun
        · exact unsold_booked_iff_curve hreal hroute
        · exact unsold_booked_iff_amm hreal hroute
      rw [← hbooked]
      cases (handleOrder p cfg mode order env).result.isOk <;> (simp; try tauto)

/-! ## A position reduced without a sale, and a sale without a booking -/

def SellOrder.plain : SellOrder :=
  .ofHolding "So11111111111111111111111111111111111111112" .plain 50 2 (.takeProfit 100) 0
    false

def SaleEnv.unreachable : SaleEnv where
  feeRecipient := .ok (List.replicate 32 2)
  creator := some (List.replicate 32 3)
  tokenProgram := List.replicate 32 4
  ata := List.replicate 32 5
  sellAccounts := []
  createAta := .transfer (List.replicate 32 7) (List.replicate 32 5) 0
  ataInfo := .error .allFailed
  ataBalance := .error "connection refused"
  token2022 := .error .allFailed
  legacy := .error .allFailed
  accountBalance := fun _ => .error "connection refused"
  preBalance := .error "connection refused"
  attempt := .unreachable
  swqos := ⟨[], ⟨false, .error "connection refused"⟩⟩
  helius := .unreachable
  latestBlockhash := .error "connection refused"
  rpcSend := ⟨false, .error "connection refused"⟩
  postBalance := .error "connection refused"
  dryRunBuild := .error "connection refused"
  dexInstructions := .error "connection refused"
  ownLeader := false
  leaderKnown := false
  http := ⟨false, .error "connection refused"⟩

def SaleEnv.balanceLost : SaleEnv :=
  { SaleEnv.unreachable with
    ataBalance := .ok "100"
    preBalance := .ok 1000000000
    latestBlockhash := .ok (List.replicate 32 1)
    rpcSend := ⟨true, .ok "signature"⟩ }

def BotMode.real : BotMode := ⟨true, some .plain, false⟩

def Positions.curve : Positions := Positions.addPosition SellOrder.plain.mint ∅ .plain

theorem unsold_order_kept_iff_unreachable :
    (Unsold .plain .plain .real .plain .unreachable (fun _ => true) →
      Positions.curve.KeepsTally SellOrder.plain.mint
        (Positions.curve.afterOrder .plain .plain .real .plain .unreachable)) ↔
      ¬ FailureUnnoticed .plain .plain .real .plain .unreachable (fun _ => true) ∨
        SellOrder.plain.ChangesNothing .plain :=
  unsold_order_kept_iff .plain .plain .real .plain .unreachable .curve .plain (by decide)
    fun _ => true

theorem unsold_order_booked :
    ¬ (Unsold .plain .plain .real .plain .unreachable (fun _ => true) →
      Positions.curve.KeepsTally SellOrder.plain.mint
        (Positions.curve.afterOrder .plain .plain .real .plain .unreachable)) := by
  intro hkept
  have hunsold : Unsold .plain .plain .real .plain .unreachable (fun _ => true) := by
    have hunknown : balanceKnown .plain .unreachable = false := by decide +kernel
    exact .inl ⟨rfl, by decide +kernel, fun hempty => by simp [hunknown, KnownEmpty] at hempty⟩
  have hchanged : ¬ Positions.curve.KeepsTally SellOrder.plain.mint
      (Positions.curve.afterOrder .plain .plain .real .plain .unreachable) := by
    decide +kernel
  exact hchanged (hkept hunsold)

theorem executed_sale_booked_iff_lost :
    (∀ s ∈ (handleOrder .plain .plain .real .plain .balanceLost).trace,
      (fun _ => true) s.transaction = true →
        Booked .plain .plain .real .plain .balanceLost .curve) ↔
      ∀ tx, Taken .plain .plain .real .plain .balanceLost tx → (fun _ => true) tx = true →
        Acknowledged .plain .plain .real .plain .balanceLost :=
  executed_sale_booked_iff .plain .plain .real .plain .balanceLost .curve .plain (by decide)
    fun _ => true

theorem executed_sale_lost :
    ¬ ∀ s ∈ (handleOrder .plain .plain .real .plain .balanceLost).trace,
      (fun _ => true) s.transaction = true →
        Booked .plain .plain .real .plain .balanceLost .curve := by
  decide +kernel

end Girasol
