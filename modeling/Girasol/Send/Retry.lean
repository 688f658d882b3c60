import Girasol.Send.Helius

/-!
# Which transactions a retried send submits

Every attempt draws its tip, its compute budget and its blockhash anew, so two
attempts submit the same signed transaction exactly when they draw the same.
-/

namespace Girasol

open Foundation

structure Draw where
  tipAccount : Pubkey
  tipLamports : UInt64
  computeUnits : UInt32
  priorityFee : UInt64
  stakedRecipient : Option Pubkey
  blockhash : Hash
  deriving DecidableEq

section

variable (p : Platform) (cfg : Settings) (ixs : List Instruction) (payer : Keypair)
  (cachedBlockhash : Option Hash)

def Attempt.draw (attempt : Attempt) : Except String Draw := do
  let lamports := tipLamports p (getDynamicTipAmount p cfg attempt.jitoTipFloor)
  let tipAccount ← getRandomTipAccount p attempt.tipChoice
  let (computeUnits, priorityFee) ← computeBudget p cfg ixs payer
    (.transfer payer.pubkey tipAccount lamports) attempt
  let blockhash ← match cachedBlockhash with
    | some bh => pure bh
    | none => attempt.latestBlockhash
  return ⟨tipAccount, lamports, computeUnits, priorityFee,
    stakedRecipient p cfg attempt.stakedChoice, blockhash⟩

namespace Draw

variable (d : Draw)

def instructions : List Instruction :=
  [.setComputeUnitLimit d.computeUnits, .setComputeUnitPrice d.priorityFee] ++ ixs ++
    [.transfer payer.pubkey d.tipAccount d.tipLamports] ++
      d.stakedRecipient.toList.map (stakedTransfer cfg payer.pubkey)

def message : Message :=
  .new (sanitizeInstructions (d.instructions cfg ixs payer) payer.pubkey) payer.pubkey
    d.blockhash

def transaction : VersionedTransaction :=
  ⟨d.message cfg ixs payer, [payer.signMessage (d.message cfg ixs payer)]⟩

end Draw

end

/-! ## A transaction determines what was drawn for it -/

theorem Instruction.bare_setComputeUnitLimit_inj {u v : UInt32}
    (h : (setComputeUnitLimit u).bare = (setComputeUnitLimit v).bare) : u = v := by
  simp only [setComputeUnitLimit, bare, Prod.mk.injEq, List.cons.injEq, true_and] at h
  exact UInt32.toNat_inj.mp (leBytes_inj u.toNat_lt v.toNat_lt h)

theorem Instruction.bare_setComputeUnitPrice_inj {u v : UInt64}
    (h : (setComputeUnitPrice u).bare = (setComputeUnitPrice v).bare) : u = v := by
  simp only [setComputeUnitPrice, bare, Prod.mk.injEq, List.cons.injEq, true_and] at h
  exact UInt64.toNat_inj.mp (leBytes_inj u.toNat_lt v.toNat_lt h)

theorem Instruction.bare_transfer_inj {k a b : Pubkey} {m n : UInt64}
    (h : (transfer k a m).bare = (transfer k b n).bare) : a = b ∧ m = n := by
  simp only [transfer, bare, Prod.mk.injEq, List.map_cons, List.map_nil, List.cons.injEq,
    true_and, and_true, List.append_cancel_left_eq] at h
  exact ⟨h.1, UInt64.toNat_inj.mp (leBytes_inj m.toNat_lt n.toNat_lt h.2)⟩

private theorem map_bare_sanitizeInstructions (ixs : List Instruction) (payer : Pubkey) :
    (sanitizeInstructions ixs payer).map Instruction.bare = ixs.map Instruction.bare := by
  rw [sanitizeInstructions, List.map_map]
  apply List.map_congr_left
  intro ix _
  have hkey (am : AccountMeta) : AccountMeta.pubkey
      (if am.isSigner && am.pubkey != payer then { am with isSigner := false } else am) =
        am.pubkey := by
    split <;> rfl
  simp only [Function.comp_apply, Instruction.bare, List.map_map, Prod.mk.injEq, true_and,
    and_true]
  exact List.map_congr_left fun am _ => hkey am

namespace Draw

variable {cfg : Settings} {ixs : List Instruction} {payer : Keypair}

private theorem resolved_message (d : Draw) :
    (d.message cfg ixs payer).resolved = (d.instructions cfg ixs payer).map Instruction.bare := by
  rw [message, Message.resolved_new, map_bare_sanitizeInstructions]

theorem transaction_inj {d d' : Draw}
    (h : d.transaction cfg ixs payer = d'.transaction cfg ixs payer) : d = d' := by
  have hmessage : d.message cfg ixs payer = d'.message cfg ixs payer :=
    congrArg VersionedTransaction.message h
  have hhash : d.blockhash = d'.blockhash := congrArg Message.recentBlockhash hmessage
  have hixs := congrArg Message.resolved hmessage
  simp only [resolved_message, instructions, List.map_append, List.map_cons,
    List.cons_append, List.nil_append, List.append_assoc, List.cons.injEq,
    List.append_cancel_left_eq] at hixs
  obtain ⟨hunits, hfee, htip, hstaked⟩ := hixs
  have htip' := Instruction.bare_transfer_inj htip
  have hrecipient : d.stakedRecipient = d'.stakedRecipient := by
    cases hd : d.stakedRecipient with
    | none => cases hd' : d'.stakedRecipient <;> simp_all
    | some a =>
        cases hd' : d'.stakedRecipient with
        | none => simp [hd, hd'] at hstaked
        | some b =>
            simp only [hd, hd', Option.toList_some, List.map_cons, List.map_nil,
              List.cons.injEq, and_true] at hstaked
            exact congrArg some (Instruction.bare_transfer_inj hstaked).1
  cases d
  cases d'
  simp only [mk.injEq]
  exact ⟨htip'.1, htip'.2, Instruction.bare_setComputeUnitLimit_inj hunits,
    Instruction.bare_setComputeUnitPrice_inj hfee, hrecipient, hhash⟩

end Draw

/-! ## What an attempt submits -/

@[simp] theorem numRequiredSignatures_sanitized (ixs : List Instruction) (payer : Pubkey)
    (blockhash : Hash) :
    (Message.new (sanitizeInstructions ixs payer) payer blockhash).numRequiredSignatures = 1 := by
  have hnone (writable : Bool) :
      Message.keysWith (sanitizeInstructions ixs payer) payer true writable = [] := by
    rw [Message.keysWith, List.filter_eq_nil_iff]
    intro key hkey
    have hne : key ≠ payer := by
      simp only [Message.otherKeys, List.mem_filter, bne_iff_ne] at hkey
      exact hkey.2
    have hunmarked : Message.marks (sanitizeInstructions ixs payer) AccountMeta.isSigner key =
        false := by
      simp only [Message.marks, sanitizeInstructions, List.any_map, List.any_eq_false,
        Function.comp_apply]
      intro ix _ hany
      simp only [List.any_eq_true, Function.comp_apply, Bool.and_eq_true, beq_iff_eq] at hany
      obtain ⟨am, -, hpub, hsigner⟩ := hany
      split at hpub <;> simp_all
    simp [hunmarked]
  simp [Message.new, hnone]

section

variable {p : Platform} {cfg : Settings} {ixs : List Instruction} {payer : Keypair}
  {cachedBlockhash : Option Hash}

theorem buildTransaction_eq (attempt : Attempt) :
    buildTransaction p cfg ixs payer cachedBlockhash attempt =
      (attempt.draw p cfg ixs payer cachedBlockhash).map (Draw.transaction cfg ixs payer) := by
  simp only [buildTransaction, signFinal, Attempt.draw]
  cases getRandomTipAccount p attempt.tipChoice with
  | error e => rfl
  | ok tipAccount =>
      simp only [bind, Except.bind]
      cases computeBudget p cfg ixs payer (.transfer payer.pubkey tipAccount
          (tipLamports p (getDynamicTipAmount p cfg attempt.jitoTipFloor))) attempt with
      | error e => rfl
      | ok budget =>
          simp only [VersionedTransaction.tryNew, numRequiredSignatures_sanitized]
          cases cachedBlockhash with
          | some bh => rfl
          | none => cases attempt.latestBlockhash <;> rfl

end

/-! ## What a call submits -/

section

variable (p : Platform) (cfg : Settings) (ixs : List Instruction) (payer : Keypair)
  (cachedBlockhash : Option Hash)

def Attempt.carried (attempt : Attempt) : Option Draw :=
  if cfg.heliusSenderEnabled && (endpoints cfg).any (attempt.takes cfg) then
    (attempt.draw p cfg ixs payer cachedBlockhash).toOption
  else none

def Attempt.confirmed (attempt : Attempt) : Bool :=
  cfg.heliusSenderEnabled && (attempt.draw p cfg ixs payer cachedBlockhash).isOk &&
    (primarySignature attempt.primaryReply).isOk

def Attempt.expired (lastValid : Nat) (attempt : Attempt) : Bool :=
  match isBlockhashValid lastValid attempt with
  | .ok valid => !valid
  | .error _ => false

def madeAttempts (lastValid : Nat) : List Attempt → List Attempt
  | [] => []
  | attempt :: rest =>
      if attempt.expired lastValid then []
      else if attempt.confirmed p cfg ixs payer cachedBlockhash then [attempt]
      else attempt :: madeAttempts lastValid rest

/-- All attempts that are made and whose transaction some endpoint takes draw the same. -/
def DrawsAgree (maxRetries : Nat) (env : SendEnv) : Prop :=
  ∀ lastValid, lastValidBlockHeight cachedBlockhash env.initialHeight = .ok lastValid →
    let made := madeAttempts p cfg ixs payer cachedBlockhash lastValid
      ((List.range maxRetries).map env.attempt)
    ∀ a ∈ made, ∀ b ∈ made, ∀ d ∈ a.carried p cfg ixs payer cachedBlockhash,
      ∀ d' ∈ b.carried p cfg ixs payer cachedBlockhash, d = d'

def SameTransaction (submissions : List Submission) : Prop :=
  ∀ s ∈ submissions, ∀ s' ∈ submissions, s.transaction = s'.transaction

end

section

variable {p : Platform} {cfg : Settings} {ixs : List Instruction} {payer : Keypair}
  {cachedBlockhash : Option Hash}

private theorem mem_attempt_trace {attempt : Attempt} {tx : VersionedTransaction} :
    (∃ s ∈ (sendTransactionViaHelius p cfg ixs payer cachedBlockhash attempt).trace,
        s.transaction = tx) ↔
      ∃ d ∈ attempt.carried p cfg ixs payer cachedBlockhash,
        d.transaction cfg ixs payer = tx := by
  unfold sendTransactionViaHelius Attempt.carried
  cases cfg.heliusSenderEnabled with
  | false => simp
  | true =>
      rw [buildTransaction_eq]
      cases attempt.draw p cfg ixs payer cachedBlockhash with
      | error e => simp [Except.map, Except.mapError, Except.toOption]
      | ok d =>
          by_cases hany : (endpoints cfg).any (attempt.takes cfg) = true
          · obtain ⟨ep, hep, htakes⟩ := List.any_eq_true.mp hany
            simp only [Except.map, Except.mapError, Except.toOption, hany]
            simp
            grind
          · simp only [Except.map, Except.mapError, hany]
            simp
            grind

theorem attempt_result_isOk (attempt : Attempt) :
    (sendTransactionViaHelius p cfg ixs payer cachedBlockhash attempt).result.isOk =
      attempt.confirmed p cfg ixs payer cachedBlockhash := by
  unfold sendTransactionViaHelius Attempt.confirmed
  cases cfg.heliusSenderEnabled with
  | false => rfl
  | true =>
      rw [buildTransaction_eq]
      cases attempt.draw p cfg ixs payer cachedBlockhash with
      | error e => rfl
      | ok d => rfl

theorem sendAttempts_cons (lastValid : Nat) (lastError : Option SendError)
    (attempt : Attempt) (rest : List Attempt) :
    sendAttempts p cfg ixs payer cachedBlockhash lastValid lastError (attempt :: rest) =
      let sent := sendTransactionViaHelius p cfg ixs payer cachedBlockhash attempt
      if attempt.expired lastValid then
        .lift (.error (.failed "Blockhash expired before send attempt"))
      else match sent.result with
        | .ok _ => sent
        | .error e =>
            (sendAttempts p cfg ixs payer cachedBlockhash lastValid (some e) rest).after
              sent.trace := by
  rw [sendAttempts, Attempt.expired]
  cases isBlockhashValid lastValid attempt with
  | error e => rfl
  | ok valid => cases valid <;> rfl

theorem mem_sendAttempts_trace {lastValid : Nat} {attempts : List Attempt}
    (lastError : Option SendError) {tx : VersionedTransaction} :
    (∃ s ∈ (sendAttempts p cfg ixs payer cachedBlockhash lastValid lastError attempts).trace,
        s.transaction = tx) ↔
      ∃ a ∈ madeAttempts p cfg ixs payer cachedBlockhash lastValid attempts,
        ∃ d ∈ a.carried p cfg ixs payer cachedBlockhash, d.transaction cfg ixs payer = tx := by
  induction attempts generalizing lastError with
  | nil => simp [sendAttempts, madeAttempts]
  | cons attempt rest ih =>
      have hone := @mem_attempt_trace p cfg ixs payer cachedBlockhash attempt tx
      rw [sendAttempts_cons, madeAttempts, ← attempt_result_isOk]
      cases hexpired : attempt.expired lastValid with
      | true => simp
      | false =>
          cases hresult : (sendTransactionViaHelius p cfg ixs payer cachedBlockhash
              attempt).result with
          | ok sig => simpa [Except.isOk, Except.toBool, hresult] using hone
          | error e =>
              simp only [hresult, Bool.false_eq_true, if_false, Traced.after_trace,
                List.mem_append, or_and_right, exists_or]
              rw [hone, ih (some e)]
              simp [Except.isOk, Except.toBool]

theorem sendAttempts_isOk {lastValid : Nat} {attempts : List Attempt}
    (lastError : Option SendError) :
    (sendAttempts p cfg ixs payer cachedBlockhash lastValid lastError attempts).result.isOk =
      (madeAttempts p cfg ixs payer cachedBlockhash lastValid attempts).any
        (Attempt.confirmed p cfg ixs payer cachedBlockhash) := by
  induction attempts generalizing lastError with
  | nil => rfl
  | cons attempt rest ih =>
      have hone := @attempt_result_isOk p cfg ixs payer cachedBlockhash attempt
      rw [sendAttempts_cons, madeAttempts]
      cases hexpired : attempt.expired lastValid with
      | true => rfl
      | false =>
          cases hresult : (sendTransactionViaHelius p cfg ixs payer cachedBlockhash
              attempt).result with
          | ok sig =>
              have hconfirmed : attempt.confirmed p cfg ixs payer cachedBlockhash = true := by
                simpa [hresult, Except.isOk, Except.toBool] using hone.symm
              simp [hresult, hconfirmed, Except.isOk, Except.toBool]
          | error e =>
              have hunconfirmed : attempt.confirmed p cfg ixs payer cachedBlockhash = false := by
                simpa [hresult, Except.isOk, Except.toBool] using hone.symm
              simp [hresult, hunconfirmed, ih (some e)]

theorem carried_of_confirmed {attempt : Attempt}
    (h : attempt.confirmed p cfg ixs payer cachedBlockhash = true) :
    ∃ d, d ∈ attempt.carried p cfg ixs payer cachedBlockhash := by
  simp only [Attempt.confirmed, Bool.and_eq_true] at h
  obtain ⟨⟨henabled, hdraw⟩, hreply⟩ := h
  have hany : (endpoints cfg).any (attempt.takes cfg) = true := by
    simp [endpoints, Attempt.takes, hreply]
  cases hd : attempt.draw p cfg ixs payer cachedBlockhash with
  | error e => simp [hd, Except.isOk, Except.toBool] at hdraw
  | ok d => exact ⟨d, by simp [Attempt.carried, henabled, hany, hd, Except.toOption]⟩

end

/--
A call submits the same signed transaction every time exactly when all its
attempts whose transaction some endpoint takes draw the same.
-/
theorem send_submits_same_iff (p : Platform) (cfg : Settings) (ixs : List Instruction)
    (payer : Keypair) (cachedBlockhash : Option Hash) (maxRetries : Nat) (env : SendEnv) :
    SameTransaction
        (sendTransactionWithRetry p cfg ixs payer cachedBlockhash maxRetries env).trace ↔
      DrawsAgree p cfg ixs payer cachedBlockhash maxRetries env := by
  unfold sendTransactionWithRetry DrawsAgree
  cases lastValidBlockHeight cachedBlockhash env.initialHeight with
  | error e => simp [SameTransaction, Except.mapError]
  | ok lastValid =>
      have hmem (tx : VersionedTransaction) :=
        @mem_sendAttempts_trace p cfg ixs payer cachedBlockhash lastValid
          ((List.range maxRetries).map env.attempt) none tx
      simp only [Except.mapError, Traced.lift_ok_bind, Except.ok.injEq, forall_eq']
      constructor
      · intro hsame a ha b hb d hd d' hd'
        obtain ⟨s, hs, htx⟩ := (hmem _).mpr ⟨a, ha, d, hd, rfl⟩
        obtain ⟨s', hs', htx'⟩ := (hmem _).mpr ⟨b, hb, d', hd', rfl⟩
        have hsame_tx : d.transaction cfg ixs payer = d'.transaction cfg ixs payer := by
          rw [← htx, ← htx']
          exact hsame s hs s' hs'
        exact Draw.transaction_inj hsame_tx
      · intro hagree s hs s' hs'
        obtain ⟨a, ha, d, hd, htx⟩ := (hmem _).mp ⟨s, hs, rfl⟩
        obtain ⟨b, hb, d', hd', htx'⟩ := (hmem _).mp ⟨s', hs', rfl⟩
        rw [← htx, ← htx', hagree a ha b hb d hd d' hd']

/-! ## A second transaction after a lost reply -/

def Settings.nozomi : Settings :=
  { Settings.plain with
    dryRun := false
    heliusSenderEnabled := true
    heliusUseDynamicTips := false
    nozomiApiKey := some "key" }

def Attempt.toNozomi (tipChoice : Fin tipAccounts.length) (primaryReply : Except String Json) :
    Attempt :=
  { Attempt.unreachable with
    blockHeight := .ok 1000
    tipChoice := tipChoice
    accepts := fun ep => ep == "https://fra2.nozomi.temporal.xyz/?c=key"
    primaryReply := primaryReply }

def SendEnv.replyLost : SendEnv where
  initialHeight := .ok 1000
  attempt
    | 0 =>
        .toNozomi Attempt.unreachable.tipChoice
          (.error "connection closed before message completed")
    | _ => .toNozomi ⟨1, by decide⟩ (.ok (.object [("result", .string "signature")]))

theorem send_submits_two :
    ¬ SameTransaction (sendTransactionWithRetry .plain .nozomi [] .plain
      (some (List.replicate 32 1)) 3 .replyLost).trace := by
  unfold SameTransaction
  decide +kernel

end Girasol
