import Girasol.Sell.Executor

/-!
# What an order submits, and what the executor hears of it

Which transactions some endpoint takes, and whether the order counts as sold,
told from the network's part alone.
-/

namespace Girasol

open Foundation

/-! ## The three ways of sending a bonding-curve sale -/

section

variable (p : Platform) (cfg : Settings) (swqosSender : Bool) (ixs : List Instruction)
  (payer : Keypair) (env : SaleEnv)

def rpcTransaction (blockhash : Hash) : VersionedTransaction :=
  ⟨.new ixs payer.pubkey blockhash, [payer.signMessage (.new ixs payer.pubkey blockhash)]⟩

def saleAttempts : List Attempt :=
  match lastValidBlockHeight none env.helius.initialHeight with
  | .ok lastValid =>
      madeAttempts p cfg ixs payer none lastValid ((List.range 3).map env.helius.attempt)
  | .error _ => []

def SaleTaken (tx : VersionedTransaction) : Prop :=
  if swqosSender then
    buildSignedTransaction p cfg ixs payer none false env.attempt = .ok tx ∧
      env.swqos.taken cfg false
  else if cfg.heliusSenderEnabled then
    ∃ a ∈ saleAttempts p cfg ixs payer env,
      ∃ d ∈ a.carried p cfg ixs payer none, d.transaction cfg ixs payer = tx
  else
    ∃ blockhash, env.latestBlockhash = .ok blockhash ∧
      tx = rpcTransaction ixs payer blockhash ∧ env.rpcSend.takes

def saleAcknowledged : Bool :=
  if swqosSender then
    (buildSignedTransaction p cfg ixs payer none false env.attempt).isOk &&
      env.swqos.acknowledged cfg false
  else if cfg.heliusSenderEnabled then
    (saleAttempts p cfg ixs payer env).any (Attempt.confirmed p cfg ixs payer none)
  else env.latestBlockhash.isOk && env.rpcSend.reply.isOk

end

section

variable {p : Platform} {cfg : Settings} {swqosSender : Bool} {ixs : List Instruction}
  {payer : Keypair} {env : SaleEnv}

theorem mem_sendSale_trace {tx : VersionedTransaction} :
    (∃ s ∈ (sendSale p cfg swqosSender ixs payer env).trace, s.transaction = tx) ↔
      SaleTaken p cfg swqosSender ixs payer env tx := by
  unfold sendSale SaleTaken
  split
  · cases buildSignedTransaction p cfg ixs payer none false env.attempt with
    | error e => simp [Except.mapError]
    | ok built =>
        simp only [Except.mapError, Traced.lift_ok_bind, mem_sendConcurrent_trace,
          Except.ok.injEq]
        tauto
  · split
    · unfold sendTransactionWithRetry saleAttempts
      cases lastValidBlockHeight none env.helius.initialHeight with
      | error e => simp [Except.mapError]
      | ok lastValid => exact mem_sendAttempts_trace none
    · cases env.latestBlockhash with
      | error e => simp [Except.mapError]
      | ok blockhash =>
          cases htakes : env.rpcSend.takes <;>
            simp [Except.mapError, rpcTransaction, eq_comm]

theorem sendSale_isOk :
    (sendSale p cfg swqosSender ixs payer env).result.isOk =
      saleAcknowledged p cfg swqosSender ixs payer env := by
  unfold sendSale saleAcknowledged
  split
  · cases buildSignedTransaction p cfg ixs payer none false env.attempt with
    | error e => rfl
    | ok built => exact sendConcurrent_isOk
  · split
    · unfold sendTransactionWithRetry saleAttempts
      cases lastValidBlockHeight none env.helius.initialHeight with
      | error e => rfl
      | ok lastValid => exact sendAttempts_isOk none
    · cases env.latestBlockhash with
      | error e => rfl
      | ok blockhash => cases env.rpcSend.reply <;> simp [Except.mapError] <;> rfl

theorem taken_of_saleAcknowledged
    (h : saleAcknowledged p cfg swqosSender ixs payer env = true) :
    ∃ tx, SaleTaken p cfg swqosSender ixs payer env tx := by
  unfold saleAcknowledged at h
  unfold SaleTaken
  split at h
  case isTrue hswqos =>
    rw [Bool.and_eq_true, isOk_iff] at h
    obtain ⟨⟨tx, htx⟩, hack⟩ := h
    exact ⟨tx, by simp [hswqos, htx, SwqosEnv.taken_of_acknowledged hack]⟩
  case isFalse hswqos =>
    split at h
    case isTrue hhelius =>
      obtain ⟨a, ha, hconfirmed⟩ := List.any_eq_true.mp h
      obtain ⟨d, hd⟩ := carried_of_confirmed hconfirmed
      exact ⟨d.transaction cfg ixs payer, by
        simp only [hswqos, hhelius, Bool.false_eq_true, if_false, if_true]
        exact ⟨a, ha, d, hd, rfl⟩⟩
    case isFalse hhelius =>
      rw [Bool.and_eq_true, isOk_iff] at h
      obtain ⟨⟨blockhash, hhash⟩, hreply⟩ := h
      exact ⟨rpcTransaction ixs payer blockhash, by
        simp [hswqos, hhelius, hhash, SendReply.takes, hreply]⟩

end

/-! ## A whole order -/

section

variable (p : Platform) (cfg : Settings) (mode : BotMode) (order : SellOrder) (env : SaleEnv)

def curveSale : Option (Keypair × List Instruction) := do
  let _ ← env.feeRecipient.toOption
  let (payer, pumpProgram) ← (prepareSale p cfg mode order env).toOption
  return (payer, saleInstructions p cfg order env pumpProgram payer.pubkey)

def ammSale : Option VersionedTransaction := do
  let payer ← mode.keypair
  let ixs ← if order.hasPoolAccounts then env.dexInstructions.toOption else none
  (buildSignedTransaction p cfg ixs payer none (env.leaderKnown && env.ownLeader)
    env.attempt).toOption

def readyToSend : Bool := preSellBalance p env != 0 && env.preBalance.isOk

/-- Some endpoint takes this transaction while the order is handled. -/
def Taken (tx : VersionedTransaction) : Prop :=
  mode.isReal ∧
    if order.route = .pumpFun then
      ∃ payer ixs, curveSale p cfg mode order env = some (payer, ixs) ∧
        readyToSend p env ∧ SaleTaken p cfg mode.swqosSender ixs payer env tx
    else
      ammSale p cfg mode order env = some tx ∧
        if mode.swqosSender then env.swqos.taken cfg env.leaderKnown else env.http.takes

/--
What the executor hears after the submission lets it book the order: on the
bonding curve a signature and the SOL balance, on an AMM a provider's signature
or any readable answer of the endpoint.
-/
def Acknowledged : Prop :=
  if order.route = .pumpFun then
    (∃ payer ixs, curveSale p cfg mode order env = some (payer, ixs) ∧
      saleAcknowledged p cfg mode.swqosSender ixs payer env) ∧
      env.postBalance.isOk
  else if mode.swqosSender then env.swqos.acknowledged cfg env.leaderKnown
  else env.http.reply.isOk

end

section

variable {p : Platform} {cfg : Settings} {mode : BotMode} {order : SellOrder} {env : SaleEnv}

theorem sellToken_of_no_sale (hreal : mode.isReal = true)
    (hnone : curveSale p cfg mode order env = none) :
    (sellToken p cfg mode order env).trace = [] ∧
      (sellToken p cfg mode order env).result.isOk = false := by
  unfold sellToken
  unfold curveSale at hnone
  cases hfee : env.feeRecipient with
  | error e => exact ⟨rfl, rfl⟩
  | ok fee =>
      cases hprepare : prepareSale p cfg mode order env with
      | error e => simp [Except.mapError, hreal, Except.isOk, Except.toBool]
      | ok prepared => simp [hfee, hprepare, Except.toOption] at hnone

theorem sellToken_of_sale (hreal : mode.isReal = true) {payer : Keypair}
    {ixs : List Instruction} (hsale : curveSale p cfg mode order env = some (payer, ixs)) :
    sellToken p cfg mode order env =
      sellAndAccount p cfg mode.swqosSender ixs payer env := by
  unfold sellToken
  unfold curveSale at hsale
  cases hfee : env.feeRecipient with
  | error e => simp [hfee, Except.toOption] at hsale
  | ok fee =>
      cases hprepare : prepareSale p cfg mode order env with
      | error e => simp [hfee, hprepare, Except.toOption] at hsale
      | ok prepared =>
          simp only [hfee, hprepare, Except.toOption, Option.bind_eq_bind, Option.bind_some,
            Option.pure_def, Option.some.injEq, Prod.mk.injEq] at hsale
          obtain ⟨rfl, rfl⟩ := hsale
          simp only [Except.mapError, Traced.lift_ok_bind, hreal, if_true]

theorem mem_sellAndAccount_trace {payer : Keypair} {ixs : List Instruction}
    {swqosSender : Bool} {tx : VersionedTransaction} :
    (∃ s ∈ (sellAndAccount p cfg swqosSender ixs payer env).trace, s.transaction = tx) ↔
      readyToSend p env = true ∧ SaleTaken p cfg swqosSender ixs payer env tx := by
  unfold sellAndAccount readyToSend
  rw [← mem_sendSale_trace]
  by_cases hzero : preSellBalance p env = 0
  · simp [hzero]
  · cases env.preBalance with
    | error e => simp [hzero, Except.mapError, Except.isOk, Except.toBool]
    | ok preSol =>
        simp only [hzero, if_false, Except.mapError, Traced.bind_eq]
        cases (sendSale p cfg swqosSender ixs payer env).result with
        | error e => simp [hzero, Except.isOk, Except.toBool]
        | ok sig => cases env.postBalance <;> simp [hzero, Except.isOk, Except.toBool]

theorem sellAndAccount_isOk {payer : Keypair} {ixs : List Instruction} {swqosSender : Bool} :
    (sellAndAccount p cfg swqosSender ixs payer env).result.isOk = true ↔
      preSellBalance p env = 0 ∨ (readyToSend p env = true ∧
        saleAcknowledged p cfg swqosSender ixs payer env = true ∧
          env.postBalance.isOk = true) := by
  unfold sellAndAccount readyToSend
  rw [← sendSale_isOk]
  by_cases hzero : preSellBalance p env = 0
  · simp [hzero, Except.isOk, Except.toBool]
  · cases env.preBalance with
    | error e => simp [hzero, Except.mapError, Except.isOk, Except.toBool]
    | ok preSol =>
        simp only [hzero, if_false, Except.mapError, Traced.bind_eq]
        cases (sendSale p cfg swqosSender ixs payer env).result with
        | error e => simp [Except.isOk, Except.toBool]
        | ok sig => cases env.postBalance <;> simp [hzero, Except.isOk, Except.toBool]

/-! ## Sales on an AMM -/

theorem mem_sendAmmSale_trace {tx tx' : VersionedTransaction} :
    (∃ s ∈ (sendAmmSale cfg mode env tx).trace, s.transaction = tx') ↔
      (if mode.swqosSender then env.swqos.taken cfg env.leaderKnown else env.http.takes) =
        true ∧ tx' = tx := by
  unfold sendAmmSale
  cases mode.swqosSender with
  | true => exact mem_sendConcurrent_trace
  | false =>
      cases htakes : env.http.takes <;> cases env.http.reply <;> simp [eq_comm]

theorem sendAmmSale_isOk {tx : VersionedTransaction} :
    (sendAmmSale cfg mode env tx).result.isOk =
      if mode.swqosSender then env.swqos.acknowledged cfg env.leaderKnown
      else env.http.reply.isOk := by
  unfold sendAmmSale
  cases mode.swqosSender with
  | true =>
      simp only [if_true]
      rw [← sendConcurrent_isOk]
      cases (sendConcurrent cfg env.leaderKnown env.swqos tx).result <;> rfl
  | false => cases env.http.reply <;> rfl

theorem sellOnAmm_real (hreal : mode.isReal = true) :
    match ammSale p cfg mode order env with
    | some tx => sellOnAmm p cfg mode order env = sendAmmSale cfg mode env tx
    | none => (sellOnAmm p cfg mode order env).trace = [] ∧
        (sellOnAmm p cfg mode order env).result.isOk = false := by
  unfold ammSale sellOnAmm
  cases order.hasPoolAccounts with
  | false => cases mode.keypair <;> exact ⟨rfl, rfl⟩
  | true =>
      cases mode.keypair with
      | none => exact ⟨rfl, rfl⟩
      | some payer =>
          cases env.dexInstructions with
          | error e => exact ⟨rfl, rfl⟩
          | ok ixs =>
              simp only [if_true, Traced.lift_ok_bind, Except.mapError, hreal, Except.toOption,
                Option.bind_eq_bind, Option.bind_some]
              cases buildSignedTransaction p cfg ixs payer none
                (env.leaderKnown && env.ownLeader) env.attempt with
              | error e => exact ⟨rfl, rfl⟩
              | ok tx => rfl

theorem handleOrder_trace_of_not_real (hreal : mode.isReal = false) :
    (handleOrder p cfg mode order env).trace = [] := by
  have hcurve : (sellToken p cfg mode order env).trace = [] := by
    unfold sellToken
    cases env.feeRecipient with
    | error e => rfl
    | ok fee => cases env.dryRunBuild <;> simp [Except.mapError, hreal]
  have hamm : (sellOnAmm p cfg mode order env).trace = [] := by
    unfold sellOnAmm
    cases order.hasPoolAccounts with
    | false => rfl
    | true =>
        cases mode.keypair with
        | none => rfl
        | some payer => cases env.dexInstructions <;> simp [Except.mapError, hreal]
  unfold handleOrder
  cases order.route with
  | pumpFun => exact hcurve
  | raydium => exact hamm
  | pumpswap => exact hamm

theorem mem_handleOrder_trace {tx : VersionedTransaction} :
    (∃ s ∈ (handleOrder p cfg mode order env).trace, s.transaction = tx) ↔
      Taken p cfg mode order env tx := by
  cases hreal : mode.isReal with
  | false => simp [handleOrder_trace_of_not_real hreal, Taken, hreal]
  | true =>
      have hamm : (∃ s ∈ (sellOnAmm p cfg mode order env).trace, s.transaction = tx) ↔
          ammSale p cfg mode order env = some tx ∧
            (if mode.swqosSender then env.swqos.taken cfg env.leaderKnown
              else env.http.takes) = true := by
        have hspec := @sellOnAmm_real p cfg mode order env hreal
        cases hsale : ammSale p cfg mode order env with
        | none =>
            simp only [hsale] at hspec
            simp [hspec.1]
        | some built =>
            simp only [hsale] at hspec
            rw [hspec, mem_sendAmmSale_trace, Option.some.injEq, eq_comm]
            tauto
      unfold handleOrder Taken
      cases order.route with
      | raydium => simpa [hreal] using hamm
      | pumpswap => simpa [hreal] using hamm
      | pumpFun =>
          simp only [hreal, true_and]
          cases hsale : curveSale p cfg mode order env with
          | none => simp [(sellToken_of_no_sale hreal hsale).1]
          | some sale =>
              obtain ⟨payer, ixs⟩ := sale
              rw [sellToken_of_sale hreal hsale, mem_sellAndAccount_trace]
              simp

theorem handleOrder_isOk (hreal : mode.isReal = true) :
    (handleOrder p cfg mode order env).result.isOk = true ↔
      if order.route = .pumpFun then
        ∃ payer ixs, curveSale p cfg mode order env = some (payer, ixs) ∧
          (preSellBalance p env = 0 ∨ (readyToSend p env = true ∧
            saleAcknowledged p cfg mode.swqosSender ixs payer env = true ∧
              env.postBalance.isOk = true))
      else
        (ammSale p cfg mode order env).isSome = true ∧
          (if mode.swqosSender then env.swqos.acknowledged cfg env.leaderKnown
            else env.http.reply.isOk) = true := by
  have hamm : (sellOnAmm p cfg mode order env).result.isOk = true ↔
      (ammSale p cfg mode order env).isSome = true ∧
        (if mode.swqosSender then env.swqos.acknowledged cfg env.leaderKnown
          else env.http.reply.isOk) = true := by
    have hspec := @sellOnAmm_real p cfg mode order env hreal
    cases hsale : ammSale p cfg mode order env with
    | none =>
        simp only [hsale] at hspec
        simp [hspec.2]
    | some tx =>
        simp only [hsale] at hspec
        simp [hspec, sendAmmSale_isOk]
  unfold handleOrder
  cases order.route with
  | raydium => exact hamm
  | pumpswap => exact hamm
  | pumpFun =>
      have hmap : ((sellToken p cfg mode order env).result.mapError SellFailure.failed).isOk =
          (sellToken p cfg mode order env).result.isOk := by
        cases (sellToken p cfg mode order env).result <;> rfl
      simp only [hmap]
      cases hsale : curveSale p cfg mode order env with
      | none => simp [(sellToken_of_no_sale hreal hsale).2]
      | some sale =>
          obtain ⟨payer, ixs⟩ := sale
          rw [sellToken_of_sale hreal hsale, sellAndAccount_isOk]
          simp

end

end Girasol
