import Girasol.Buy.Routes
import Girasol.Sell.Booking
import Girasol.Send.Privileges

/-!
# What the bot submits

Every transaction that some endpoint takes, for a buy or for a sale, runs the
instructions of the trade between a compute budget and a tip.  The wallet alone
signs it.
-/

namespace Girasol

open Foundation

/-! ## What is paid besides the trade -/

section

variable (p : Platform) (cfg : Settings)

structure Paid (d : Draw) : Prop where
  tipAccount : ∃ choice, getRandomTipAccount p choice = .ok d.tipAccount
  tipLamports : tipLamports p cfg.getEffectiveMinTipSol ≤ d.tipLamports
  computeUnits : 200000 ≤ d.computeUnits
  stakedRecipient : ∃ choice, stakedRecipient p cfg choice = d.stakedRecipient

end

section

variable {p : Platform} {cfg : Settings} {ixs : List Instruction} {payer : Keypair}
  {cachedBlockhash : Option Hash} {attempt : Attempt}

theorem tipLamports_mono (hmono : Monotone p.rounding.round) {x y : ℚ} (hxy : x ≤ y) :
    tipLamports p x ≤ tipLamports p y := by
  have hmul : p.rounding.mul x 1000000000 ≤ p.rounding.mul y 1000000000 :=
    hmono (mul_le_mul_of_nonneg_right hxy (by norm_num))
  have hle := asU64_mono hmul
  have hmax := asU64_le_max (p.rounding.mul y 1000000000)
  simp only [u64Max] at hmax
  rw [UInt64.le_iff_toNat_le]
  simp only [tipLamports, Nat.toUInt64, UInt64.toNat_ofNat']
  rw [Nat.mod_eq_of_lt (by omega), Nat.mod_eq_of_lt (by omega)]
  exact hle

theorem minTip_le_dynamicTip (reply : Except String Json) :
    cfg.getEffectiveMinTipSol ≤ getDynamicTipAmount p cfg reply := by
  unfold getDynamicTipAmount
  split
  · exact le_rfl
  · split
    · exact le_max_right _ _
    · exact le_rfl

theorem minTip_le_multiplied {tip : ℚ} (htip : cfg.getEffectiveMinTipSol ≤ tip) (fee : UInt64)
    (isOwnLeader : Bool) :
    cfg.getEffectiveMinTipSol ≤ (applyOwnLeaderMultipliers p cfg tip fee isOwnLeader).1 := by
  unfold applyOwnLeaderMultipliers
  split
  · exact htip
  · exact le_max_right _ _

private theorem le_unitsWithMargin (units : Option Nat) : 200000 ≤ unitsWithMargin p units := by
  cases units with
  | none => exact UInt32.le_refl 200000
  | some units =>
      have hmax :
          asU32 ⌈p.rounding.mul (p.rounding.ofU64 units) (p.rounding.round (6 / 5))⌉ ≤ 2 ^ 32 - 1 :=
        min_le_right _ _
      rw [UInt32.le_iff_toNat_le]
      simp only [unitsWithMargin, Nat.toUInt32, UInt32.toNat_ofNat']
      rw [Nat.mod_eq_of_lt (by omega)]
      exact le_max_right _ _

theorem le_computeBudget {tip : Instruction} {budget : UInt32 × UInt64}
    (hbudget : computeBudget p cfg ixs payer tip attempt = .ok budget) : 200000 ≤ budget.1 := by
  unfold computeBudget at hbudget
  split at hbudget
  · cases hbudget
    exact (by decide : (200000 : UInt32) ≤ 250000)
  · simp only [bind_eq_ok] at hbudget
    obtain ⟨-, -, units, -, fee, -, hbudget⟩ := hbudget
    cases hbudget
    exact le_unitsWithMargin units

theorem paid_of_draw (hmono : Monotone p.rounding.round) {d : Draw}
    (hdraw : attempt.draw p cfg ixs payer cachedBlockhash = .ok d) : Paid p cfg d := by
  simp only [Attempt.draw, bind_eq_ok] at hdraw
  obtain ⟨tipAccount, htip, budget, hbudget, hdraw⟩ := hdraw
  have heq : ∃ blockhash, d = ⟨tipAccount,
      tipLamports p (getDynamicTipAmount p cfg attempt.jitoTipFloor), budget.1, budget.2,
      stakedRecipient p cfg attempt.stakedChoice, blockhash⟩ := by
    cases cachedBlockhash with
    | some blockhash =>
        cases hdraw
        exact ⟨blockhash, rfl⟩
    | none =>
        obtain ⟨blockhash, -, hdraw⟩ := bind_eq_ok.mp hdraw
        cases hdraw
        exact ⟨blockhash, rfl⟩
  obtain ⟨blockhash, rfl⟩ := heq
  exact ⟨⟨attempt.tipChoice, htip⟩, tipLamports_mono hmono (minTip_le_dynamicTip _),
    le_computeBudget hbudget, ⟨attempt.stakedChoice, rfl⟩⟩

private theorem resign_new (placeholder blockhash : Hash) :
    (⟨.new ixs payer.pubkey placeholder, [payer.signMessage (.new ixs payer.pubkey placeholder)]⟩ :
      VersionedTransaction).resign payer blockhash =
    ⟨.new ixs payer.pubkey blockhash, [payer.signMessage (.new ixs payer.pubkey blockhash)]⟩ := rfl

private theorem signFinal_eq_ok {tipAccount : Pubkey} {lamports priorityFee : UInt64}
    {computeUnits : UInt32} {tx : VersionedTransaction}
    (hsigned : signFinal p cfg ixs payer cachedBlockhash tipAccount lamports computeUnits
      priorityFee attempt = .ok tx) :
    ∃ blockhash, tx = (⟨tipAccount, lamports, computeUnits, priorityFee,
      stakedRecipient p cfg attempt.stakedChoice, blockhash⟩ : Draw).transaction cfg ixs payer := by
  simp only [signFinal, VersionedTransaction.tryNew, numRequiredSignatures_sanitized, if_true,
    bind_eq_ok] at hsigned
  obtain ⟨unsigned, hunsigned, hsigned⟩ := hsigned
  have hresigned : ∃ blockhash, unsigned.resign payer blockhash = tx := by
    cases cachedBlockhash with
    | some blockhash => exact ⟨blockhash, Except.ok.inj hsigned⟩
    | none =>
        obtain ⟨blockhash, -, hsigned⟩ := bind_eq_ok.mp hsigned
        exact ⟨blockhash, Except.ok.inj hsigned⟩
  obtain ⟨blockhash, rfl⟩ := hresigned
  rw [← Except.ok.inj hunsigned, resign_new]
  exact ⟨blockhash, rfl⟩

theorem exists_draw_of_build (hmono : Monotone p.rounding.round) {isOwnLeader : Bool}
    {tx : VersionedTransaction}
    (hbuild : buildSignedTransaction p cfg ixs payer cachedBlockhash isOwnLeader attempt =
      .ok tx) : ∃ d : Draw, Paid p cfg d ∧ tx = d.transaction cfg ixs payer := by
  simp only [buildSignedTransaction, bind_eq_ok] at hbuild
  obtain ⟨tipAccount, htip, budget, hbudget, hsigned⟩ := hbuild
  obtain ⟨blockhash, rfl⟩ := signFinal_eq_ok hsigned
  refine ⟨_, ⟨⟨attempt.tipChoice, htip⟩, ?_, le_computeBudget hbudget,
    ⟨attempt.stakedChoice, rfl⟩⟩, rfl⟩
  exact tipLamports_mono hmono (minTip_le_multiplied (minTip_le_dynamicTip _) _ _)

end

/-! ## What the network runs -/

structure VersionedTransaction.Runs (tx : VersionedTransaction) (payer : Keypair)
    (ixs : List Instruction) : Prop where
  signatures : tx.signatures = [payer.signMessage tx.message]
  feePayer : tx.message.accountKeys.head? = some payer.pubkey
  executed : tx.message.executed = ixs.map (Message.grantedTo ixs payer.pubkey)

section

variable (p : Platform) (cfg : Settings) (payer : Keypair) (ixs : List Instruction)

/-- The trade runs between budget and tip, where no other account is a signer. -/
structure Wraps (d : Draw) (tx : VersionedTransaction) : Prop where
  paid : Paid p cfg d
  runs : tx.Runs payer (sanitizeInstructions (d.instructions cfg ixs payer) payer.pubkey)
  signer : ∀ ix ∈ tx.message.executed, ∀ am ∈ ix.accounts, am.isSigner = true →
    am.pubkey = payer.pubkey

/-- Without a sender a trade on the bonding curve, and no other, goes out as it is. -/
def Carries (onCurve swqosSender : Bool) (tx : VersionedTransaction) : Prop :=
  if onCurve && !swqosSender && !cfg.heliusSenderEnabled then tx.Runs payer ixs
  else ∃ d : Draw, Wraps p cfg payer ixs d tx

end

section

variable {p : Platform} {cfg : Settings} {ixs : List Instruction} {payer : Keypair}
  {cachedBlockhash : Option Hash} {tx : VersionedTransaction}

theorem runs_new (ixs : List Instruction) (payer : Keypair) (blockhash : Hash) :
    (⟨.new ixs payer.pubkey blockhash, [payer.signMessage (.new ixs payer.pubkey blockhash)]⟩ :
      VersionedTransaction).Runs payer ixs :=
  ⟨rfl, rfl, Message.executed_new⟩

private theorem runs_transaction (d : Draw) : (d.transaction cfg ixs payer).Runs payer
    (sanitizeInstructions (d.instructions cfg ixs payer) payer.pubkey) :=
  runs_new _ payer d.blockhash

private theorem eq_payer_of_marks {key payer : Pubkey}
    (hmarks : Message.marks (sanitizeInstructions ixs payer) AccountMeta.isSigner key = true) :
    key = payer := by
  simp only [Message.marks, sanitizeInstructions, List.any_map, List.any_eq_true,
    Function.comp_apply, Bool.and_eq_true, beq_iff_eq] at hmarks
  obtain ⟨ix, -, am, -, hkey, hsigner⟩ := hmarks
  by_contra hne
  split at hkey
  case isTrue hother => simp [hother] at hsigner
  case isFalse hother =>
    rw [if_neg hother] at hsigner
    simp [hsigner, hkey, hne] at hother

theorem wraps_transaction {d : Draw} (hpaid : Paid p cfg d) :
    Wraps p cfg payer ixs d (d.transaction cfg ixs payer) where
  paid := hpaid
  runs := runs_transaction d
  signer := by
    intro ix hix am ham hsigner
    rw [(runs_transaction d).executed, List.mem_map] at hix
    obtain ⟨asked, -, rfl⟩ := hix
    obtain ⟨entry, -, rfl⟩ := List.mem_map.mp ham
    simp only [Message.granted, Bool.or_eq_true, beq_iff_eq] at hsigner ⊢
    exact hsigner.elim id eq_payer_of_marks

theorem exists_wraps_of_build (hmono : Monotone p.rounding.round) {isOwnLeader : Bool}
    {attempt : Attempt}
    (hbuild : buildSignedTransaction p cfg ixs payer cachedBlockhash isOwnLeader attempt =
      .ok tx) : ∃ d : Draw, Wraps p cfg payer ixs d tx := by
  obtain ⟨d, hpaid, rfl⟩ := exists_draw_of_build hmono hbuild
  exact ⟨d, wraps_transaction hpaid⟩

theorem wraps_of_carried (hmono : Monotone p.rounding.round) {attempt : Attempt} {d : Draw}
    (hcarried : d ∈ attempt.carried p cfg ixs payer cachedBlockhash) :
    Wraps p cfg payer ixs d (d.transaction cfg ixs payer) := by
  unfold Attempt.carried at hcarried
  split at hcarried
  case isFalse => cases hcarried
  case isTrue =>
    cases hdraw : attempt.draw p cfg ixs payer cachedBlockhash with
    | error e =>
        rw [hdraw] at hcarried
        cases hcarried
    | ok drawn =>
        rw [hdraw] at hcarried
        cases hcarried
        exact wraps_transaction (paid_of_draw hmono hdraw)

theorem exists_wraps_of_retry (hmono : Monotone p.rounding.round) {maxRetries : Nat}
    {env : SendEnv} {s : Submission}
    (hs : s ∈ (sendTransactionWithRetry p cfg ixs payer cachedBlockhash maxRetries env).trace) :
    ∃ d : Draw, Wraps p cfg payer ixs d s.transaction := by
  simp only [sendTransactionWithRetry, Traced.mem_bind_trace, Traced.lift_trace,
    List.not_mem_nil, false_or] at hs
  obtain ⟨lastValid, -, hs⟩ := hs
  obtain ⟨a, -, d, hd, htx⟩ := (mem_sendAttempts_trace none).mp ⟨s, hs, rfl⟩
  rw [← htx]
  exact ⟨d, wraps_of_carried hmono hd⟩

theorem transaction_of_sendConcurrent {leaderKnown : Bool} {env : SwqosEnv} {s : Submission}
    (hs : s ∈ (sendConcurrent cfg leaderKnown env tx).trace) : s.transaction = tx :=
  (mem_sendConcurrent_trace.mp ⟨s, hs, rfl⟩).2

end

/-! ## Trades -/

section

variable (p : Platform) (cfg : Settings) (payer : Keypair)

/-- The instructions that a sale consists of. -/
def SellsBy (order : SellOrder) (env : SaleEnv) (ixs : List Instruction) : Prop :=
  if order.route = .pumpFun then
    ∃ pumpProgram, p.parsePubkey cfg.pumpFunProgram = .ok pumpProgram ∧
      ixs = saleInstructions p cfg order env pumpProgram payer.pubkey
  else env.dexInstructions = .ok ixs

def pumpswapRequest (detected : DetectedBuy) (accts : List String) : PumpSwapAccounts where
  accounts := accts
  pool := detected.ammPool.getD (accts.getD 0 "")
  baseMint := accts.getD 3 ""
  quoteMint := accts.getD 4 ""
  tokenAmount := (pumpswapSize p.rounding cfg detected).2
  solAmount := (pumpswapSize p.rounding cfg detected).1

/-- The instructions that a buy on the exchange of the detected trade consists of. -/
def BuysBy (detected : DetectedBuy) (env : RouteEnv) (ixs : List Instruction) : Prop :=
  match detected.dex with
  | .raydiumV4 | .raydiumCpmm => ∃ pool, detected.ammPool = some pool ∧
      env.raydiumInstructions detected.dex pool (solToSpend p.rounding cfg detected)
        payer.pubkey = .ok ixs
  | .pumpFunAmm => ∃ accts, detected.targetPumpAccounts = some accts ∧ 17 ≤ accts.length ∧
      env.pumpswapInstructions (pumpswapRequest p cfg detected accts) payer.pubkey = .ok ixs
  | .pumpFun | .jupiter | .unknown _ => ∃ quote,
      quoteBuy p (buyRequest p cfg detected) env.curve = .ok quote ∧
        env.instructions quote.1 = .ok ixs

end

section

variable {p : Platform} {cfg : Settings} {payer : Keypair} {swqosSender : Bool}
  {keypair : Option Keypair} {detected : DetectedBuy} {env : RouteEnv} {s : Submission}

theorem carries_of_sendAmmBuy (hmono : Monotone p.rounding.round) {ixs : List Instruction}
    (hs : s ∈ (sendAmmBuy p cfg swqosSender env ixs payer).trace) :
    Carries p cfg payer ixs false swqosSender s.transaction := by
  simp only [sendAmmBuy, Traced.mem_bind_trace, Traced.lift_trace, List.not_mem_nil, false_or,
    Traced.lift_result, mapError_eq_ok] at hs
  obtain ⟨tx, hbuild, hs⟩ := hs
  have htx : s.transaction = tx := by
    split at hs
    · exact transaction_of_sendConcurrent hs
    · simp only [Traced.mem_bind_trace, Traced.emit_trace, Traced.lift_trace, Traced.pure_trace,
        List.not_mem_nil, and_false, exists_false, or_false] at hs
      split at hs
      · cases List.mem_singleton.mp hs
        rfl
      · cases hs
  rw [htx]
  exact exists_wraps_of_build hmono hbuild

theorem carries_of_sendBuy (hmono : Monotone p.rounding.round) {env : BuyEnv}
    {ixs : List Instruction} {blockhash : Hash}
    (hs : s ∈ (sendBuy p cfg swqosSender payer env ixs blockhash).trace) :
    Carries p cfg payer ixs true swqosSender s.transaction := by
  unfold sendBuy at hs
  unfold Carries
  split at hs
  case isTrue hswqos =>
    simp only [Traced.mem_bind_trace, Traced.lift_trace, List.not_mem_nil, false_or,
      Traced.lift_result, mapError_eq_ok, Traced.pure_trace, and_false, exists_false,
      or_false] at hs
    obtain ⟨tx, hbuild, hs⟩ := hs
    rw [if_neg (by simp [hswqos]), transaction_of_sendConcurrent hs]
    exact exists_wraps_of_build hmono hbuild
  case isFalse hswqos =>
    split at hs
    case isTrue hhelius =>
      rw [if_neg (by simp [hhelius])]
      rw [Traced.mem_bind_trace] at hs
      rcases hs with hs | ⟨signature, -, hs⟩
      · exact exists_wraps_of_retry hmono hs
      · split at hs <;> simp [Traced.mem_bind_trace] at hs
    case isFalse hhelius =>
      simp only [Traced.mem_bind_trace, Traced.lift_trace, List.not_mem_nil, Traced.emit_trace,
        Traced.pure_trace, and_false, exists_false, or_false] at hs
      split at hs
      · cases List.mem_singleton.mp hs
        rw [if_pos (by simp [hswqos, hhelius])]
        exact runs_new ixs payer _
      · cases hs

theorem eq_some_of_requireKeypair (hpayer : requireKeypair keypair = .ok payer) :
    keypair = some payer := by
  cases keypair with
  | none => cases hpayer
  | some found =>
      cases hpayer
      rfl

private theorem carries_of_buyOnRaydium (hmono : Monotone p.rounding.round)
    (hdex : detected.dex = .raydiumV4 ∨ detected.dex = .raydiumCpmm)
    (hs : s ∈ (buyOnRaydium p cfg swqosSender keypair detected env).trace) :
    ∃ payer ixs, keypair = some payer ∧ BuysBy p cfg payer detected env ixs ∧
      Carries p cfg payer ixs false swqosSender s.transaction := by
  simp only [buyOnRaydium, Traced.mem_bind_trace, Traced.lift_trace, List.not_mem_nil, false_or,
    Traced.lift_result, mapError_eq_ok, Traced.mapError_trace, Traced.pure_trace, and_false,
    exists_false, or_false] at hs
  obtain ⟨pool, hpool, payer, hpayer, ixs, hixs, hs⟩ := hs
  refine ⟨payer, ixs, eq_some_of_requireKeypair hpayer, ?_, carries_of_sendAmmBuy hmono hs⟩
  have hsome : detected.ammPool = some pool := by
    cases hfound : detected.ammPool <;> rw [hfound] at hpool <;> cases hpool
    rfl
  rcases hdex with hdex | hdex
  · simp only [BuysBy, hdex] at hixs ⊢
    exact ⟨pool, hsome, hixs⟩
  · simp only [BuysBy, hdex] at hixs ⊢
    exact ⟨pool, hsome, hixs⟩

private theorem carries_of_buyOnPumpswap (hmono : Monotone p.rounding.round)
    (hdex : detected.dex = .pumpFunAmm)
    (hs : s ∈ (buyOnPumpswap p cfg swqosSender keypair detected env).trace) :
    ∃ payer ixs, keypair = some payer ∧ BuysBy p cfg payer detected env ixs ∧
      Carries p cfg payer ixs false swqosSender s.transaction := by
  simp only [buyOnPumpswap, Traced.mem_bind_trace, Traced.lift_trace, List.not_mem_nil, false_or,
    Traced.lift_result, mapError_eq_ok, Traced.mapError_trace, Traced.pure_trace, and_false,
    exists_false, or_false] at hs
  obtain ⟨accts, haccts, payer, hpayer, ixs, hixs, hs⟩ := hs
  refine ⟨payer, ixs, eq_some_of_requireKeypair hpayer, ?_, carries_of_sendAmmBuy hmono hs⟩
  obtain ⟨hsome, hlength⟩ : detected.targetPumpAccounts = some accts ∧ 17 ≤ accts.length := by
    split at haccts
    case h_2 => cases haccts
    case h_1 found hfound =>
      split at haccts <;> cases haccts
      case isTrue hlength => exact ⟨hfound, hlength⟩
  simp only [BuysBy, hdex]
  exact ⟨accts, hsome, hlength, hixs⟩

private theorem carries_of_buyOnCurve (hmono : Monotone p.rounding.round)
    (hdex : detected.dex = .pumpFun)
    (hs : s ∈ (buyOnCurve p cfg swqosSender keypair detected env).trace) :
    ∃ payer ixs, keypair = some payer ∧ BuysBy p cfg payer detected env ixs ∧
      Carries p cfg payer ixs true swqosSender s.transaction := by
  simp only [buyOnCurve, Traced.mem_bind_trace, Traced.lift_trace, List.not_mem_nil, false_or,
    Traced.lift_result, Traced.mapError_trace] at hs
  obtain ⟨payer, hpayer, hs⟩ := hs
  have hsome : keypair = some payer := by
    cases keypair <;> cases hpayer
    rfl
  simp only [buyToken, Traced.mem_bind_trace, Traced.lift_trace, List.not_mem_nil, false_or,
    Traced.lift_result, mapError_eq_ok] at hs
  obtain ⟨quote, hquote, blockhash, -, ixs, hixs, preSol, -, hs⟩ := hs
  have hsent : s ∈ (sendBuy p cfg swqosSender payer env.curveEnv ixs blockhash).trace := by
    rcases hs with hs | ⟨sent, -, hs⟩
    · exact hs
    · split at hs <;> simp [Traced.mem_bind_trace] at hs
  refine ⟨payer, ixs, hsome, ?_, carries_of_sendBuy hmono hsent⟩
  simp only [BuysBy, hdex]
  exact ⟨quote, hquote, hixs⟩

theorem carries_of_routeBuy (hmono : Monotone p.rounding.round)
    (hs : s ∈ (routeBuy p cfg swqosSender keypair detected env).trace) :
    ∃ payer ixs, keypair = some payer ∧ BuysBy p cfg payer detected env ixs ∧
      Carries p cfg payer ixs (detected.dex == .pumpFun) swqosSender s.transaction := by
  simp only [routeBuy, Traced.mem_bind_trace, Traced.lift_trace, List.not_mem_nil, false_or,
    Traced.lift_result] at hs
  obtain ⟨_, -, _, hsupported, hs⟩ := hs
  cases hdex : detected.dex with
  | raydiumV4 =>
      rw [hdex] at hs
      exact carries_of_buyOnRaydium hmono (.inl hdex) hs
  | raydiumCpmm =>
      rw [hdex] at hs
      exact carries_of_buyOnRaydium hmono (.inr hdex) hs
  | pumpFunAmm =>
      rw [hdex] at hs
      exact carries_of_buyOnPumpswap hmono hdex hs
  | pumpFun =>
      rw [hdex] at hs
      exact carries_of_buyOnCurve hmono hdex hs
  | jupiter | unknown id => simp [hdex, DexType.isExecutionSupported] at hsupported

end

section

variable {p : Platform} {cfg : Settings} {mode : BotMode} {order : SellOrder} {env : SaleEnv}
  {s : Submission}

theorem carries_of_saleTaken (hmono : Monotone p.rounding.round) {swqosSender : Bool}
    {ixs : List Instruction} {payer : Keypair} {tx : VersionedTransaction}
    (htaken : SaleTaken p cfg swqosSender ixs payer env tx) :
    Carries p cfg payer ixs true swqosSender tx := by
  unfold SaleTaken at htaken
  unfold Carries
  split at htaken
  case isTrue hswqos =>
    rw [if_neg (by simp [hswqos])]
    exact exists_wraps_of_build hmono htaken.1
  case isFalse hswqos =>
    split at htaken
    case isTrue hhelius =>
      obtain ⟨a, -, d, hd, rfl⟩ := htaken
      rw [if_neg (by simp [hhelius])]
      exact ⟨d, wraps_of_carried hmono hd⟩
    case isFalse hhelius =>
      obtain ⟨blockhash, -, rfl, -⟩ := htaken
      rw [if_pos (by simp [hswqos, hhelius])]
      exact runs_new ixs payer blockhash

private theorem prepareSale_eq_ok {payer : Keypair} {pumpProgram : Pubkey}
    (hprepare : prepareSale p cfg mode order env = .ok (payer, pumpProgram)) :
    mode.keypair = some payer ∧ p.parsePubkey cfg.pumpFunProgram = .ok pumpProgram := by
  unfold prepareSale at hprepare
  cases hkeypair : mode.keypair with
  | none =>
      rw [hkeypair] at hprepare
      cases hprepare
  | some signer =>
      cases hcreator : env.creator with
      | none =>
          simp only [hkeypair, hcreator, bind_eq_ok] at hprepare
          obtain ⟨_, -, _, -, _, -, _, hcreator, -⟩ := hprepare
          cases hcreator
      | some creator =>
          simp only [hkeypair, hcreator, bind_eq_ok] at hprepare
          obtain ⟨_, hsigner, _, -, program, hprogram, _, -, hrest⟩ := hprepare
          cases hsigner
          cases hrest
          exact ⟨rfl, hprogram⟩

private theorem exists_of_curveSale {payer : Keypair} {ixs : List Instruction}
    (hsale : curveSale p cfg mode order env = some (payer, ixs)) :
    ∃ pumpProgram, mode.keypair = some payer ∧
      p.parsePubkey cfg.pumpFunProgram = .ok pumpProgram ∧
      ixs = saleInstructions p cfg order env pumpProgram payer.pubkey := by
  simp only [curveSale, Option.bind_eq_bind, Option.bind_eq_some_iff] at hsale
  obtain ⟨_, -, ⟨signer, pumpProgram⟩, hprepare, hsale⟩ := hsale
  cases hsale
  obtain ⟨hkeypair, hprogram⟩ := prepareSale_eq_ok (toOption_eq_some.mp hprepare)
  exact ⟨pumpProgram, hkeypair, hprogram, rfl⟩

private theorem exists_of_ammSale {tx : VersionedTransaction}
    (hsale : ammSale p cfg mode order env = some tx) :
    ∃ payer ixs, mode.keypair = some payer ∧ env.dexInstructions = .ok ixs ∧
      buildSignedTransaction p cfg ixs payer none (env.leaderKnown && env.ownLeader)
        env.attempt = .ok tx := by
  unfold ammSale at hsale
  obtain ⟨payer, hkeypair, hsale⟩ := Option.bind_eq_some_iff.mp hsale
  split at hsale
  case isFalse => cases hsale
  case isTrue =>
    obtain ⟨ixs, hixs, hbuild⟩ := Option.bind_eq_some_iff.mp hsale
    exact ⟨payer, ixs, hkeypair, toOption_eq_some.mp hixs, toOption_eq_some.mp hbuild⟩

private theorem carries_of_handleOrder (hmono : Monotone p.rounding.round)
    (hs : s ∈ (handleOrder p cfg mode order env).trace) :
    ∃ payer ixs, mode.isReal = true ∧ mode.keypair = some payer ∧
      SellsBy p cfg payer order env ixs ∧
      Carries p cfg payer ixs (order.route == .pumpFun) mode.swqosSender s.transaction := by
  obtain ⟨hreal, htaken⟩ := mem_handleOrder_trace.mp ⟨s, hs, rfl⟩
  split at htaken
  case isTrue hroute =>
    obtain ⟨payer, ixs, hsale, -, htaken⟩ := htaken
    obtain ⟨pumpProgram, hkeypair, hprogram, hixs⟩ := exists_of_curveSale hsale
    refine ⟨payer, ixs, hreal, hkeypair, ?_, ?_⟩
    · rw [SellsBy, if_pos hroute]
      exact ⟨pumpProgram, hprogram, hixs⟩
    · rw [hroute]
      exact carries_of_saleTaken hmono htaken
  case isFalse hroute =>
    obtain ⟨payer, ixs, hkeypair, hixs, hbuild⟩ := exists_of_ammSale htaken.1
    refine ⟨payer, ixs, hreal, hkeypair, ?_, ?_⟩
    · rw [SellsBy, if_neg hroute]
      exact hixs
    · rw [beq_false_of_ne hroute]
      exact exists_wraps_of_build hmono hbuild

end

def SaleEnv.resent : SaleEnv :=
  { SaleEnv.balanceLost with
    helius := { SendEnv.replyLost with
      attempt := fun n =>
        { SendEnv.replyLost.attempt n with latestBlockhash := .ok (List.replicate 32 1) } } }

end Girasol
